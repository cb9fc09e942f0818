import AdminConsole.Number.Decimal
import AdminConsole.Number.Integer
import AdminConsole.Route.Params

/-!
# Typed access to parameters

Parameter values are texts. A page that needs a number, a truth value or a single character reads it
here, with an error that names the parameter, its text and the type.
-/

set_option autoImplicit false

namespace AdminConsole

/-- The types a parameter can be read as. -/
inductive ParamType where
  | signed (bits : Nat)
  | unsigned (bits : Nat)
  | bool
  | char
  | float
  deriving DecidableEq, Repr

/-- A parameter's value of some type. -/
inductive ParamValue where
  | integer (value : Int)
  | bool (value : Bool)
  | char (value : Char)
  /-- The bits of a double-precision float. -/
  | float (bits : UInt64)
  deriving DecidableEq, Repr

/-- Why a parameter has no value of a type. -/
inductive ParamError where
  | missing (name : String)
  | unreadable (name : String) (type : ParamType) (text reason : String)
  deriving DecidableEq, Repr

namespace ParamType

/-- The type as it is shown. -/
def label : ParamType → String
  | .signed bits => s!"i{bits}"
  | .unsigned bits => s!"u{bits}"
  | .bool => "bool"
  | .char => "char"
  | .float => "f64"

/-- Reads a whole text as a value of the type; otherwise the reason. -/
def read (type : ParamType) (text : List Char) : Except String ParamValue :=
  match type with
  | .signed bits =>
      (((IntegerRange.signed bits).read text).map .integer).mapError IntegerError.message
  | .unsigned bits =>
      (((IntegerRange.unsigned bits).read text).map .integer).mapError IntegerError.message
  | .bool =>
      if text = "true".toList then .ok (.bool true)
      else if text = "false".toList then .ok (.bool false)
      else .error "provided string was not `true` or `false`"
  | .char =>
      match text with
      | [] => .error "cannot parse char from empty string"
      | [c] => .ok (.char c)
      | _ => .error "too many characters in string"
  | .float => ((Decimal.read text).map .float).mapError Decimal.Error.message

end ParamType

namespace ParamError

/-- The error as it is shown. -/
def message : ParamError → String
  | .missing name => s!"Missing parameter: {name}"
  | .unreadable name type text reason =>
      let label := type.label
      s!"Failed to parse parameter '{name}' value '{text}' as {label}: {reason}"

end ParamError

/-- The value of a parameter as a type. -/
def readParam (params : RouteParams) (name : String) (type : ParamType) :
    Except ParamError ParamValue :=
  match params.get? name with
  | none => .error (.missing name)
  | some text => (type.read text.toList).mapError (.unreadable name type text)

end AdminConsole
