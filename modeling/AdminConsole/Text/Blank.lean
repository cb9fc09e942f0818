/-!
# White space

The characters that count as white space are those with the Unicode property `White_Space`. Core's
`Char.isWhitespace` knows only four of them, all of which are in the table.
-/

set_option autoImplicit false

namespace AdminConsole.Text

/-- The ranges of code points with the property `White_Space`. -/
def blankRanges : List (Nat × Nat) :=
  [(0x9, 0xd), (0x20, 0x20), (0x85, 0x85), (0xa0, 0xa0), (0x1680, 0x1680), (0x2000, 0x200a),
    (0x2028, 0x2029), (0x202f, 0x202f), (0x205f, 0x205f), (0x3000, 0x3000)]

/-- Whether a character is white space. -/
def isBlank (c : Char) : Bool :=
  blankRanges.any fun r => r.1 ≤ c.toNat && c.toNat ≤ r.2

/-- The text without white space at its two ends. -/
def trim (text : List Char) : List Char :=
  ((text.dropWhile isBlank).reverse.dropWhile isBlank).reverse

/-- Whether a text has nothing but white space. -/
def isBlankText (text : List Char) : Bool :=
  text.all isBlank

end AdminConsole.Text
