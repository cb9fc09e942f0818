import AdminConsole.Dictionary
import AdminConsole.Pattern.Capture
import AdminConsole.Text.Percent

/-!
# Matching paths and writing them

The texts that a pattern's parameters capture from a path are percent-decoded; if one of them is not
UTF-8 the path does not match. Writing a path goes the other way and encodes the values.
-/

set_option autoImplicit false

namespace AdminConsole

namespace Pattern

/-- The decoded values of captured texts; none if one of them is not UTF-8. -/
def decodeAll : List (List Char) → Option (List String)
  | [] => some []
  | text :: more => do
      let value ← Percent.decodeChars text
      let values ← decodeAll more
      return value :: values

/-- The values of the path's parameters, if the path matches. -/
def match? (p : Pattern) (path : String) : Option (Dictionary String) := do
  let texts ← captureByTable p.pieces path.toList
  let values ← decodeAll texts
  return Dictionary.ofList (p.paramNames.zip values)

/-- Whether the path matches. -/
def isMatch (p : Pattern) (path : String) : Bool :=
  (p.match? path).isSome

/-- The characters of a path with these pieces and values; none if a parameter has no value. -/
def fill (values : Dictionary String) : List Piece → Option (List Char)
  | [] => some []
  | .literal text :: pieces => (fill values pieces).map (text ++ ·)
  | .param _ name :: pieces => do
      let value ← values.get? name
      let rest ← fill values pieces
      return Percent.encodeChars value.toList ++ rest

/-- The path with these values; none if a parameter has no value. -/
def reverse (p : Pattern) (values : Dictionary String) : Option String :=
  (fill values p.pieces).map String.ofList

end Pattern

end AdminConsole
