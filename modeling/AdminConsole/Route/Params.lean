import AdminConsole.Dictionary

/-!
# Route parameters

A route knows its parameters from its URL and from descriptors. A descriptor may give a default value,
and may ask that the default is left out of URLs. Materializing gives each known parameter the value
from the path, else the supplied one, else the default; a parameter without any of them is absent.
-/

set_option autoImplicit false

namespace AdminConsole

/-- The values of a route's parameters. -/
abbrev RouteParams := Dictionary String

/-- What a route declares about a parameter. -/
structure ParamDescriptor where
  default? : Option String
  /-- Whether the default value is left out of URLs. -/
  squash : Bool
  deriving DecidableEq, Repr

namespace ParamDescriptor

/-- The descriptor of a parameter with a default value, which is written in URLs. -/
def value (text : String) : ParamDescriptor := ⟨some text, false⟩

/-- The descriptor of a parameter without a default value. -/
def absent : ParamDescriptor := ⟨none, false⟩

/-- The descriptor with the default left out of URLs. -/
def squashed (d : ParamDescriptor) : ParamDescriptor := { d with squash := true }

/-- Whether a value is left out of URLs. -/
def isSquashed (d : ParamDescriptor) (value : Option String) : Bool :=
  d.squash && value == d.default?

end ParamDescriptor

/-- Declarations in order, where a later one of the same name replaces the descriptor in its place. -/
def declareParam (name : String) (descriptor : ParamDescriptor) :
    List (String × ParamDescriptor) → List (String × ParamDescriptor)
  | [] => [(name, descriptor)]
  | entry :: rest =>
      if entry.1 = name then (name, descriptor) :: rest
      else entry :: declareParam name descriptor rest

/-- The parameters a route knows, in the order of their declaration, with their descriptors. -/
structure ParamSchema where
  entries : List (String × Option ParamDescriptor)
  deriving DecidableEq, Repr

namespace ParamSchema

/-- The schema without parameters. -/
def empty : ParamSchema := ⟨[]⟩

/-- The names in the order of their declaration. -/
def names (s : ParamSchema) : List String := s.entries.map (·.1)

/-- The descriptor of a parameter, if it has one. -/
def descriptor? (s : ParamSchema) (name : String) : Option ParamDescriptor :=
  (s.entries.lookup name).join

/-- The schema with a parameter of this name. -/
def declare (s : ParamSchema) (name : String) : ParamSchema :=
  if s.names.contains name then s else ⟨s.entries ++ [(name, none)]⟩

/-- Sets the descriptor of a name, at the end if the name is new. -/
def setDescriptor (name : String) (descriptor : ParamDescriptor) :
    List (String × Option ParamDescriptor) → List (String × Option ParamDescriptor)
  | [] => [(name, some descriptor)]
  | entry :: rest =>
      if entry.1 = name then (name, some descriptor) :: rest
      else entry :: setDescriptor name descriptor rest

/-- The schema with this descriptor of a parameter. -/
def describe (s : ParamSchema) (name : String) (descriptor : ParamDescriptor) : ParamSchema :=
  ⟨setDescriptor name descriptor s.entries⟩

/-- The value of one known parameter. An empty value from the path counts as none when the parameter's
default is left out of URLs. -/
def valueOf? (captured supplied : Dictionary String) (entry : String × Option ParamDescriptor) :
    Option String :=
  let squash := entry.2.any (·.squash)
  let fromPath := (captured.get? entry.1).filter fun value => !(value.isEmpty && squash)
  (fromPath.or (supplied.get? entry.1)).or (entry.2.bind (·.default?))

/-- The values of the known parameters. -/
def materialize (s : ParamSchema) (captured supplied : Dictionary String) : RouteParams :=
  Dictionary.ofList <| s.entries.filterMap fun entry =>
    (valueOf? captured supplied entry).map fun value => (entry.1, value)

end ParamSchema

end AdminConsole
