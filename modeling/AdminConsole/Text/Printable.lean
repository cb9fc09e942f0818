import AdminConsole.Text.Mark

/-!
# Printable characters

A character is printable when it has a shape of its own on the page: it is assigned, is no control,
format or private character, is no mark that is drawn together with the character before it, and is no white
space but the plain blank.
-/

set_option autoImplicit false

namespace AdminConsole.Text

/-- The ranges beyond ASCII of controls, format characters, white space and private characters. -/
def shapelessRanges : CodeRanges :=
  [(0x80, 0xa0), (0xad, 0xad), (0x600, 0x605), (0x61c, 0x61c), (0x6dd, 0x6dd), (0x70f, 0x70f),
    (0x890, 0x891), (0x8e2, 0x8e2), (0x1680, 0x1680), (0x180e, 0x180e), (0x2000, 0x200f),
    (0x2028, 0x202f), (0x205f, 0x206f), (0x3000, 0x3000), (0xe000, 0xf8ff), (0xfeff, 0xfeff),
    (0xfff9, 0xfffb), (0x110bd, 0x110bd), (0x110cd, 0x110cd), (0x13430, 0x1343f),
    (0x1bca0, 0x1bca3), (0x1d173, 0x1d17a), (0xe0001, 0xe007f), (0xf0000, 0x10fffd)]

/-- The ranges of marks that take space, but only together with the character before them. -/
def attachedMarkRanges : CodeRanges :=
  [(0x9be, 0x9be), (0x9d7, 0x9d7), (0xb3e, 0xb3e), (0xb57, 0xb57), (0xbbe, 0xbbe), (0xbd7, 0xbd7),
    (0xcc0, 0xcc0), (0xcc2, 0xcc2), (0xcc7, 0xcd6), (0xd3e, 0xd3e), (0xd57, 0xd57), (0xdcf, 0xdcf),
    (0xddf, 0xddf), (0x1715, 0x1715), (0x1734, 0x1734), (0x1b35, 0x1b3d), (0x1b43, 0x1b44),
    (0x1baa, 0x1baa), (0x1bf2, 0x1bf3), (0x302e, 0x302f), (0xa953, 0xa953), (0xa9c0, 0xa9c0),
    (0x111c0, 0x111c0), (0x11235, 0x11235), (0x1133e, 0x1133e), (0x1134d, 0x1134d),
    (0x11357, 0x11357), (0x113b8, 0x113b8), (0x113c2, 0x113c9), (0x113cf, 0x113cf),
    (0x114b0, 0x114b0), (0x114bd, 0x114bd), (0x115af, 0x115af), (0x116b6, 0x116b6),
    (0x11930, 0x11930), (0x1193d, 0x1193d), (0x11f41, 0x11f41), (0x16ff0, 0x16ff1),
    (0x1d165, 0x1d166), (0x1d16d, 0x1d172)]

/-- Whether a character is printable. -/
def isPrintable (c : Char) : Bool :=
  if c.toNat < 128 then 32 ≤ c.toNat && c.toNat < 127
  else
    isAssigned c && !isSlimMark c && !isIn attachedMarkRanges c && !isIn shapelessRanges c

end AdminConsole.Text
