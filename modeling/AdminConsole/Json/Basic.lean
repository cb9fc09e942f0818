/-!
# JSON values

Settings files, app constants and custom settings hold JSON values. A number is an integer when it is
written as one and fits in 64 bits, and a float otherwise. An object lists its members in the order in
which they are written out.
-/

set_option autoImplicit false

namespace AdminConsole

/-- A JSON value. -/
inductive Json where
  | null
  | bool (value : Bool)
  | integer (value : Int)
  | float (value : Float)
  | string (value : String)
  | array (items : List Json)
  | object (members : List (String × Json))
  deriving Inhabited, Repr

namespace Json

/-- The characters that have an escape of one letter, each with its letter. -/
def shortEscapes : List (Char × Char) :=
  [('"', '"'), ('\\', '\\'), ('\n', 'n'), ('\r', 'r'), ('\t', 't'), ('\x08', 'b'), ('\x0c', 'f')]

/-- The text, if the value is one. -/
def asString? : Json → Option String
  | .string value => some value
  | _ => none

/-- The truth value, if the value is one. -/
def asBool? : Json → Option Bool
  | .bool value => some value
  | _ => none

/-- The integer, if the value is one between `low` and `high`. -/
def asInteger? (low high : Int) : Json → Option Int
  | .integer value => if low ≤ value ∧ value ≤ high then some value else none
  | _ => none

/-- The texts, if the value is an array of texts. -/
def asStrings? : Json → Option (List String)
  | .array items => items.mapM asString?
  | _ => none

/-- An object with texts for values. -/
def ofTexts (members : List (String × String)) : Json :=
  .object (members.map fun member => (member.1, .string member.2))

/-- An array of texts. -/
def ofStrings (texts : List String) : Json :=
  .array (texts.map .string)

/-- The text, or `null`. -/
def ofOption (value : Option String) : Json :=
  (value.map Json.string).getD .null

end Json

end AdminConsole
