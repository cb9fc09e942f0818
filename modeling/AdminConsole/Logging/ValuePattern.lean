import AdminConsole.Number.Decimal
import AdminConsole.Text.Blank
import AdminConsole.Text.Cut
import AdminConsole.Text.Hex
import AdminConsole.Text.Letter

/-!
# Values of fields in log filters

The value of a field is a number, or a regular expression for what is shown of it. Only whether a text is
a regular expression is told here. It stands between braces, so it has no closing brace, and with it none
of the forms that need one, such as repetitions by count. It is searched without looking back, so it can
have no boundary of words in the sense of Unicode either.
-/

set_option autoImplicit false

namespace AdminConsole.Logging

/-! ## Escapes -/

/-- What an escape stands for. -/
inductive Escape where
  | literal (c : Char)
  | characterClass
  | assertion
  deriving DecidableEq, Repr

/-- The modes of a regular expression that decide what it may hold. -/
structure PatternMode where
  /-- Whether it matches characters rather than bytes. -/
  unicode : Bool
  /-- Whether blanks and comments count for nothing. -/
  spaced : Bool
  deriving DecidableEq, Repr

/-- The character with a code point in so many hexadecimal digits, and the text after them. -/
def hexLiteral? (mode : PatternMode) (count : Nat) (text : List Char) : Option (Escape × List Char) := do
  let digits := text.take count
  let value ← Hex.number? digits
  if digits.length < count || (0xd800 ≤ value && value < 0xe000) || 0x110000 ≤ value
      || (!mode.unicode && count = 2 && 0x80 ≤ value) then
    none
  else some (.literal (Char.ofNat value), text.drop count)

/-- The control characters that have letters. -/
def controlLetters : List (Char × Char) :=
  [('a', '\x07'), ('f', '\x0c'), ('t', '\t'), ('n', '\n'), ('r', '\r'), ('v', '\x0b')]

/-- What an escape stands for, after its backslash, and the text after it. -/
def escape? (mode : PatternMode) : List Char → Option (Escape × List Char)
  | [] => none
  | c :: rest =>
      if c = 'x' then hexLiteral? mode 2 rest
      else if c = 'u' then hexLiteral? mode 4 rest
      else if c = 'U' then hexLiteral? mode 8 rest
      else if c = 'p' || c = 'P' then
        match rest with
        | kind :: tail =>
            if mode.unicode && "clmnpsz".toList.contains kind.toLower then some (.characterClass, tail)
            else none
        | [] => none
      else if "dsw".toList.contains c then some (.characterClass, rest)
      else if "DSW".toList.contains c then
        if mode.unicode then some (.characterClass, rest) else none
      else if c = 'A' || c = 'z' then some (.assertion, rest)
      else if "bB<>".toList.contains c then
        if mode.unicode then none else some (.assertion, rest)
      else
        match controlLetters.lookup c with
        | some control => some (.literal control, rest)
        | none => if c.isAlphanum || 128 ≤ c.toNat then none else some (.literal c, rest)

/-! ## Classes in brackets -/

/-- The names of ASCII's classes, which stand between `[:` and `:]`. -/
def asciiClasses : List String :=
  ["alnum", "alpha", "ascii", "blank", "cntrl", "digit", "graph", "lower", "print", "punct", "space",
    "upper", "word", "xdigit"]

/-- The text after a class of ASCII, after its opening bracket. -/
def afterAsciiClass? (text : List Char) : Option (List Char) := do
  let name ← Text.after? [':'] text
  let name := if name.head? = some '^' then name.drop 1 else name
  let letters := name.takeWhile Char.isAlpha
  if asciiClasses.contains (String.ofList letters) then
    Text.after? [':', ']'] (name.drop letters.length)
  else none

/-- The text after what can only stand at the beginning of a class: a sign that negates it, hyphens, and
a closing bracket that stands for itself. -/
def afterOpening? (mode : PatternMode) (text : List Char) : Option (List Char) :=
  let negated := text.head? = some '^'
  let rest := if negated then text.drop 1 else text
  let items := rest.dropWhile (· == '-')
  if negated && !mode.unicode then none
  else if items.length = rest.length && items.head? = some ']' then some (items.drop 1)
  else some items

/-- An item of a class that is no class of its own, and the text after it. -/
def classItem? (mode : PatternMode) : List Char → Option (Escape × List Char)
  | [] => none
  | '\\' :: rest => (escape? mode rest).filter fun found => found.1 != .assertion
  | c :: rest => if mode.unicode || c.toNat < 128 then some (.literal c, rest) else none

/-- The text after a range of characters or a single item of a class. -/
def afterRange? (mode : PatternMode) (text : List Char) : Option (List Char) := do
  let (first, rest) ← classItem? mode text
  match rest with
  | '-' :: more =>
      if more.head? = some ']' || more.head? = some '-' then return rest
      let (last, tail) ← classItem? mode more
      match first, last with
      | .literal low, .literal high => if low ≤ high then return tail else none
      | _, _ => none
  | _ => return rest

/-- The text after a class, inside so many others, after its opening. Each step takes a character. -/
def afterClass? (mode : PatternMode) : (steps depth : Nat) → List Char → Option (List Char)
  | 0, _, _ => none
  | steps + 1, depth, text =>
      match text with
      | [] => none
      | ']' :: rest => if depth = 0 then some rest else afterClass? mode steps (depth - 1) rest
      | '[' :: rest =>
          match afterAsciiClass? rest with
          | some tail => afterClass? mode steps depth tail
          | none => (afterOpening? mode rest).bind (afterClass? mode steps (depth + 1))
      | '&' :: '&' :: rest => afterClass? mode steps depth rest
      | '-' :: '-' :: rest => afterClass? mode steps depth rest
      | '~' :: '~' :: rest => afterClass? mode steps depth rest
      | _ => (afterRange? mode text).bind (afterClass? mode steps depth)

/-! ## Groups -/

/-- How a group begins. -/
inductive Opening where
  | capture (name : Option (List Char))
  /-- A group in which these modes hold. -/
  | within (mode : PatternMode)
  /-- No group, but modes for the rest of the one around. -/
  | onwards (mode : PatternMode)
  deriving DecidableEq, Repr

/-- Whether a text is the name of a group. -/
def isGroupName : List Char → Bool
  | [] => false
  | c :: rest =>
      let isLetter := fun (d : Char) => Text.isLetter d || d == '_'
      (isLetter c && !c.isDigit) && rest.all fun d => isLetter d || ".[]".toList.contains d

/-- The modes after flags, in which `on` tells whether they are switched on. -/
def applyFlags (on : Bool) (mode : PatternMode) : List Char → PatternMode
  | [] => mode
  | '-' :: rest => applyFlags false mode rest
  | 'u' :: rest => applyFlags on { mode with unicode := on } rest
  | 'x' :: rest => applyFlags on { mode with spaced := on } rest
  | _ :: rest => applyFlags on mode rest

/-- Whether a text is a list of flags: no letter and no hyphen twice, and no hyphen at the end. -/
def areFlags (flags : List Char) : Bool :=
  flags.all (fun c => "imsUuxR-".toList.contains c) && decide flags.Nodup
    && flags.getLast? != some '-'

/-- How a group begins after its parenthesis, and the text after that. -/
def opening? (mode : PatternMode) (text : List Char) : Option (Opening × List Char) :=
  match text with
  | '?' :: rest =>
      match (Text.after? "P<".toList rest).or (Text.after? ['<'] rest) with
      | some named =>
          (Text.cutFirst '>' named).bind fun (name, tail) =>
            if isGroupName name then some (.capture (some name), tail) else none
      | none =>
          let flags := rest.takeWhile fun c => c != ':' && c != ')'
          let modes := applyFlags true mode flags
          if !areFlags flags then none
          else
            match rest.drop flags.length with
            | ':' :: tail => some (.within modes, tail)
            | _ :: tail => if flags.isEmpty then none else some (.onwards modes, tail)
            | [] => none
  | _ => some (.capture none, text)

/-! ## Regular expressions -/

/-- What was read of a regular expression. -/
structure PatternReading where
  mode : PatternMode
  /-- The modes around each group that is open, the innermost first. -/
  around : List PatternMode
  /-- The names of groups. -/
  names : List (List Char)
  /-- Whether something stands before that can be repeated. -/
  repeatable : Bool

/-- The reading after something that can be repeated or not. -/
def PatternReading.after (r : PatternReading) (repeatable : Bool) : PatternReading :=
  { r with repeatable }

/-- The reading after the beginning of a group. -/
def PatternReading.enter (r : PatternReading) : Opening → Option PatternReading
  | .capture none => some { r with around := r.mode :: r.around, repeatable := false }
  | .capture (some name) =>
      if r.names.contains name then none
      else some { r with around := r.mode :: r.around, names := name :: r.names, repeatable := false }
  | .within mode => some { r with mode, around := r.mode :: r.around, repeatable := false }
  | .onwards mode => some { r with mode, repeatable := false }

/-- One step of a reading, and the text after it. -/
def PatternReading.step (r : PatternReading) (c : Char) (rest : List Char) :
    Option (PatternReading × List Char) :=
  if r.mode.spaced && Text.isBlank c then some (r, rest)
  else if r.mode.spaced && c = '#' then some (r, rest.dropWhile (· != '\n'))
  else if c = '(' then do
    let (opening, tail) ← opening? r.mode rest
    return (← r.enter opening, tail)
  else if c = ')' then
    match r.around with
    | [] => none
    | mode :: around => some ({ r with mode, around, repeatable := true }, rest)
  else if c = '|' then some (r.after false, rest)
  else if c = '[' then do
    let first ← afterOpening? r.mode rest
    return (r.after true, ← afterClass? r.mode (first.length + 1) 0 first)
  else if c = '*' || c = '+' || c = '?' then
    if r.repeatable then some (r, if rest.head? = some '?' then rest.drop 1 else rest) else none
  else if c = '\x7b' then none
  else if c = '\\' then (escape? r.mode rest).map fun found => (r.after true, found.2)
  else if c = '.' && !r.mode.unicode then none
  else some (r.after true, rest)

/-- Whether the rest of a regular expression can be read. Each step takes a character. -/
def readsOn : (steps : Nat) → PatternReading → List Char → Bool
  | _, r, [] => r.around.isEmpty
  | 0, _, _ :: _ => false
  | steps + 1, r, c :: rest =>
      match r.step c rest with
      | some (r, tail) => readsOn steps r tail
      | none => false

/-- Whether a text is a regular expression. -/
def isPattern (text : List Char) : Bool :=
  readsOn text.length ⟨⟨true, false⟩, [], [], false⟩ text

/-- Whether a text is a number. -/
def isNumber (text : List Char) : Bool :=
  match Decimal.read text with
  | .ok _ => true
  | .error _ => false

/-- Whether a text is the value of a field. -/
def isValue (text : List Char) : Bool :=
  isNumber text || isPattern text

end AdminConsole.Logging
