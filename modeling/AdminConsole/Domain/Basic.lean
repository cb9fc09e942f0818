import AdminConsole.Domain.Direction
import AdminConsole.Domain.Joiner
import AdminConsole.Domain.Mapping
import AdminConsole.Domain.Punycode

/-!
# Domain names

A domain name is compared in one spelling and written in ASCII. First each character is replaced by those it
counts as, and letters with marks are put together. Then each label between dots is checked. Labels with
other characters than ASCII are written in Punycode behind `xn--`; a label that already is must
stand for one that would be written like that.
-/

set_option autoImplicit false

namespace AdminConsole.Domain

/-- The mark of labels in Punycode. -/
def punycodeMark : List Char := "xn--".toList

/-- The most characters of a label that is written in Punycode. -/
def maxLabel : Nat := 1000

/-- The most characters after the mark of a label that is read as Punycode. -/
def maxPunycode : Nat := 2000

/-- Whether an ASCII character cannot stand in a domain name: controls, the blank, and signs that divide
the parts of a URL. -/
def isForbidden (c : Char) : Bool :=
  c.toNat ≤ 32 || c.toNat = 127 || "%#/:<>?@[\\]^|".toList.contains c

/-- Whether a character has only ASCII's seven bits. -/
def isAscii (c : Char) : Bool := c.toNat < 128

/-- A label in its two forms, which are the same if it has ASCII characters only. -/
structure Label where
  /-- As people read it. -/
  shown : List Char
  /-- In ASCII. -/
  ascii : List Char
  deriving DecidableEq, Repr

namespace Label

/-- Whether characters beyond ASCII form a label: it does not begin with a mark, and its joiners stand
where they may. -/
def isWellFormed (shown : List Char) : Bool :=
  !(shown.head?.any Text.isMark) && joinersFit [] shown && shown.length ≤ maxLabel

/-- The label that stands behind the mark of Punycode. It has a character beyond ASCII, and all its
characters are settled and put together. -/
def ofPunycode? (code : List Char) : Option Label :=
  if maxPunycode < code.length then none
  else do
    let shown ← Punycode.decode code
    if shown.all isAscii || !shown.all isSettled || compose shown != shown || !isWellFormed shown then
      none
    else some ⟨shown, punycodeMark ++ code⟩

/-- The label of settled characters. -/
def ofSettled? (text : List Char) : Option Label :=
  if text.all isAscii then
    match Text.after? punycodeMark text with
    | some code => ofPunycode? code
    | none => some ⟨text, text⟩
  else if (Text.after? punycodeMark text).isSome || !isWellFormed text then none
  else some ⟨text, punycodeMark ++ Punycode.encode text⟩

end Label

/-- The characters that a name counts as; none if one of its characters can stand in no name. -/
def settle? (name : List Char) : Option (List Char) :=
  (name.mapM mapChar).map fun parts => compose parts.flatten

/-- The labels of a domain name; none if it is no domain name. -/
def labels? (name : List Char) : Option (List Label) := do
  let labels ← (Text.pieces '.' (← settle? name)).mapM Label.ofSettled?
  let isMixedName := labels.any fun l => isMixed l.shown
  if labels.any (·.shown.any isForbidden) || (isMixedName && !labels.all (isDirected ·.shown)) then none
  else some labels

/-- A domain name in its one spelling and in ASCII; none if it is no domain name. -/
def toAscii (name : List Char) : Option (List Char) :=
  (labels? name).map fun labels => ['.'].intercalate (labels.map (·.ascii))

end AdminConsole.Domain
