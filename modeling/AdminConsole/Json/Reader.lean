import AdminConsole.Dictionary
import AdminConsole.Json.Token

/-!
# Reading JSON

Tokens are read from left to right with the containers that are still open on a stack, so the depth of
the text is no limit here. The answer is the tree as it was written: repeated members, numbers of any
size and strings with half a surrogate pair are still in it. A value is made from the part that is
kept, with a limit on how deeply its containers are nested.
-/

set_option autoImplicit false

namespace AdminConsole.Json

/-- A value as it was written. -/
inductive Raw where
  | null
  | bool (value : Bool)
  | number (value : Numeral)
  /-- A string; none if it has half of a surrogate pair. -/
  | string (value : Option String)
  | array (items : List Raw)
  | object (members : List (Option String × Raw))
  deriving Inhabited, Repr

namespace Raw

/-- A container that is still open. -/
inductive Frame where
  /-- An array with its items so far, the last one first. -/
  | array (items : List Raw)
  /-- An object with its members so far, the last one first, and the name of the one being read. -/
  | object (members : List (Option String × Raw)) (name : Option String)
  deriving Repr

/-- What may come next. -/
inductive Place where
  /-- A value. -/
  | value
  /-- The first item of an array, or its end. -/
  | firstItem
  /-- The first name in an object, or its end. -/
  | firstName
  /-- A name in an object. -/
  | name
  /-- The colon after a name. -/
  | colon
  /-- A comma or the end of the innermost container. -/
  | separator
  /-- The end of the text, after this value. -/
  | finish (value : Raw)
  deriving Repr

/-- The open containers, the innermost first, and what may come next. -/
structure State where
  frames : List Frame
  place : Place
  deriving Repr

/-- Takes a complete value into the innermost open container. -/
def complete (value : Raw) : List Frame → State
  | [] => ⟨[], .finish value⟩
  | .array items :: outer => ⟨.array (value :: items) :: outer, .separator⟩
  | .object members name :: outer => ⟨.object ((name, value) :: members) none :: outer, .separator⟩

/-- Takes a token where a value may stand. -/
def takeValue (frames : List Frame) : Token → Option State
  | .openBrace => some ⟨.object [] none :: frames, .firstName⟩
  | .openBracket => some ⟨.array [] :: frames, .firstItem⟩
  | .null => some (complete .null frames)
  | .bool value => some (complete (.bool value) frames)
  | .number value => some (complete (.number value) frames)
  | .string value => some (complete (.string value) frames)
  | _ => none

/-- Takes a token where a name may stand. -/
def takeName : List Frame → Token → Option State
  | .object members _ :: outer, .string name => some ⟨.object members name :: outer, .colon⟩
  | _, _ => none

/-- Closes the innermost container with its closing bracket. -/
def close : List Frame → Token → Option State
  | .array items :: outer, .closeBracket => some (complete (.array items.reverse) outer)
  | .object members _ :: outer, .closeBrace => some (complete (.object members.reverse) outer)
  | _, _ => none

/-- Takes the next token. -/
def step (state : State) (token : Token) : Option State :=
  match state.place with
  | .value => takeValue state.frames token
  | .firstItem => (close state.frames token).or (takeValue state.frames token)
  | .firstName => (close state.frames token).or (takeName state.frames token)
  | .name => takeName state.frames token
  | .colon => if token = .colon then some ⟨state.frames, .value⟩ else none
  | .separator =>
      if token = .comma then
        match state.frames with
        | .array _ :: _ => some ⟨state.frames, .value⟩
        | .object _ _ :: _ => some ⟨state.frames, .name⟩
        | [] => none
      else close state.frames token
  | .finish _ => none

/-- Reads a whole text. -/
def read (text : List Char) : Option Raw := do
  let tokens ← Token.read text
  let state ← tokens.foldlM step ⟨[], .value⟩
  match state.place with
  | .finish value => some value
  | _ => none

mutual

/-- The value that was written, if it is one that is kept: its numbers are finite, its strings are texts
and its containers are nested at most `depth` deep. Of repeated members the last counts. -/
def toJson? (depth : Nat) : Raw → Option Json
  | .null => some .null
  | .bool value => some (.bool value)
  | .number value => value.value?
  | .string value => value.map .string
  | .array items =>
      match depth with
      | 0 => none
      | inner + 1 => (itemsToJson? inner items).map .array
  | .object members =>
      match depth with
      | 0 => none
      | inner + 1 => (membersToJson? inner [] members).map .object

/-- The values of the items. -/
def itemsToJson? (depth : Nat) : List Raw → Option (List Json)
  | [] => some []
  | item :: more => do
      let value ← toJson? depth item
      let values ← itemsToJson? depth more
      return value :: values

/-- The values of the members after those in `done`, by name. -/
def membersToJson? (depth : Nat) (done : List (String × Json)) :
    List (Option String × Raw) → Option (List (String × Json))
  | [] => some done
  | (name, item) :: more => do
      let key ← name
      let value ← toJson? depth item
      membersToJson? depth (Dictionary.place key value done) more

end

end Raw

/-- How deeply the containers of a value may be nested. -/
def maxDepth : Nat := 127

end AdminConsole.Json
