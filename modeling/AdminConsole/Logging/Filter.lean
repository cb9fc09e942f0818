import AdminConsole.Logging.ValuePattern
import AdminConsole.Number.Integer
import AdminConsole.Text.Blank
import AdminConsole.Text.Cut
import AdminConsole.Text.Letter

/-!
# Log filters

A filter is a list of directives between commas. A directive is a level, or it selects a target, a span in
brackets, or both, and may give a level after an equals sign. A span may name fields in braces, each
perhaps with a value.

White space at the ends of a directive counts for nothing, but shifts it: what the directive says is
found by its places without that white space and read from the text with it. So a level after an equals
sign is only understood in a directive without white space at its ends.
-/

set_option autoImplicit false

namespace AdminConsole.Logging

/-- The names of the levels. -/
def levelNames : List String := ["trace", "debug", "info", "warn", "error", "off"]

/-- The number of the level with the most detail; levels have numbers from zero. -/
def maxLevel : Int := 5

/-- Whether a text is a level: its name in any case, its number, or nothing, which stands for one of
them too. -/
def isLevel (text : List Char) : Bool :=
  text.isEmpty || levelNames.contains (String.ofList (text.map Char.toLower))
    || match (IntegerRange.unsigned 64).read text with
      | .ok number => number ≤ maxLevel
      | .error _ => false

/-- Whether a character can begin the name of a target. -/
def isTargetStart (c : Char) : Bool :=
  c == '-' || c == ':' || c == '_' || Text.isLetter c

/-- A directive by its places: the characters that decide what it says, each with the one that is
read at its place. -/
abbrev Places := List (Char × Char)

/-- The places before and after the first of these characters, which comes with the places after it. -/
def cutAt (marks : List Char) (text : Places) : Places × Option (Char × Places) :=
  (text.takeWhile fun p => !marks.contains p.1,
    match text.dropWhile fun p => !marks.contains p.1 with
    | [] => none
    | (mark, _) :: rest => some (mark, rest))

/-- Whether a text is a field, perhaps with a value. -/
def isField (text : List Char) : Bool :=
  !text.isEmpty &&
    match Text.pieces '=' text with
    | _ :: value :: _ => isValue value
    | _ => true

/-- The places after a span, after its opening bracket. -/
def afterSpan? (text : Places) : Option Places :=
  match (cutAt [']', '\x7b'] text).2 with
  | none => none
  | some (']', rest) => some rest
  | some (_, fields) =>
      match cutAt ['\x7d'] fields with
      | (field, some (_, (']', _) :: rest)) => if isField (field.map (·.2)) then some rest else none
      | _ => none

/-- Whether a directive may end like this after what it selects. `bare` tells whether it has no white
space at its ends. -/
def isEnding (bare : Bool) : Places → Bool
  | [] => true
  | ('=', _) :: level => bare && isLevel (level.map (·.1))
  | _ => false

/-- Whether a text is a directive. -/
def isDirective (text : List Char) : Bool :=
  let trimmed := Text.trim text
  let bare := trimmed == text
  match trimmed.zip text with
  | [] => false
  | ('[', _) :: span => (afterSpan? span).any (isEnding bare)
  | (c, _) :: rest =>
      isTargetStart c &&
        match (cutAt ['=', '['] rest).2 with
        | none => true
        | some ('[', span) => (afterSpan? span).any (isEnding bare)
        | some (_, level) => isEnding bare (('=', '=') :: level)

/-- Whether a text is a filter. Empty directives count for nothing. -/
def isFilter (text : String) : Bool :=
  (Text.pieces ',' text.toList).all fun directive => directive.isEmpty || isDirective directive

end AdminConsole.Logging
