import AdminConsole.Text.Cut
import AdminConsole.Text.Hex

/-!
# Network addresses

A host may be an address instead of a name. An IPv4 address has up to four numbers in decimal, octal or
hexadecimal digits, the last of which fills all bytes that are left; it is shown as four decimal bytes. An
IPv6 address has eight groups of hexadecimal digits, of which one run of zeros may be left out; it is
shown with its longest run left out.
-/

set_option autoImplicit false

namespace AdminConsole.Origin

/-! ## IPv4 -/

/-- The digits of a number without the mark of its base, and the base. -/
def numberBase : List Char → List Char × Nat
  | '0' :: 'x' :: rest => (rest, 16)
  | '0' :: 'X' :: rest => (rest, 16)
  | '0' :: c :: rest => (c :: rest, 8)
  | text => (text, 10)

/-- The value of a digit below the base. -/
def baseDigit? (base : Nat) (c : Char) : Option Nat :=
  (Hex.value? c).filter (· < base)

/-- A number of an IPv4 address. A mark without digits stands for zero. -/
def number? (text : List Char) : Option Nat :=
  if text.isEmpty then none
  else
    let (digits, base) := numberBase text
    digits.foldlM (fun n c => (baseDigit? base c).map (base * n + ·)) 0

/-- The parts of a host name between its dots, without the empty one after a last dot. -/
def parts (host : List Char) : List (List Char) :=
  let all := Text.pieces '.' host
  if all.getLast? = some [] then all.dropLast else all

/-- Whether a host name has to be an IPv4 address because its last part is a number. -/
def endsInNumber (host : List Char) : Bool :=
  match (parts host).getLast? with
  | none => false
  | some part => (!part.isEmpty && part.all Char.isDigit) || (number? part).isSome

/-- The value of the numbers of an address: one byte for each but the last, which takes the rest. -/
def addressValue? (numbers : List Nat) : Option Nat :=
  match numbers.reverse with
  | [] => none
  | last :: front =>
      let bytes := front.reverse
      if bytes.any (255 < ·) || Nat.pow 256 (4 - bytes.length) ≤ last then none
      else some (bytes.foldl (256 * · + ·) 0 * Nat.pow 256 (4 - bytes.length) + last)

/-- The address that a host name is. -/
def ipv4? (host : List Char) : Option Nat :=
  let all := parts host
  if all.length > 4 then none else (all.mapM number?).bind addressValue?

/-- The byte of an address at a position. -/
def byteAt (address position : Nat) : Nat :=
  address / Nat.pow 256 (3 - position) % 256

/-- An IPv4 address as it is shown. -/
def ipv4Text (address : Nat) : String :=
  Text.join "." ((List.range 4).map fun k => toString (byteAt address k))

/-! ## IPv6 -/

/-- A part of an IPv6 address: a group, or the run of zeros that is left out. -/
inductive Group where
  | value (n : Nat)
  | gap
  deriving DecidableEq, Repr

/-- A byte in decimal digits without needless zeros, and what follows it. -/
def decimalByte? (text : List Char) : Option (Nat × List Char) :=
  let digits := text.takeWhile Char.isDigit
  let value := digits.foldl (fun n c => 10 * n + (c.toNat - 48)) 0
  if digits.isEmpty || 255 < value || (digits.length > 1 && digits.head? = some '0') then none
  else some (value, text.dropWhile Char.isDigit)

/-- Bytes with dots between them that make up the whole text. -/
def decimalBytes? : (count : Nat) → List Char → Option (List Nat)
  | 0, _ => none
  | 1, text => do
      let (byte, rest) ← decimalByte? text
      if rest.isEmpty then some [byte] else none
  | count + 2, text => do
      let (byte, rest) ← decimalByte? text
      match rest with
      | '.' :: more => return byte :: (← decimalBytes? (count + 1) more)
      | _ => none

/-- The two groups of an IPv4 address at the end of an IPv6 address. -/
def embedded? (text : List Char) : Option (List Group) :=
  match decimalBytes? 4 text with
  | some [a, b, c, d] => some [.value (256 * a + b), .value (256 * c + d)]
  | _ => none

/-- Reads the groups of an address of which `count` were read. A group takes at least one character, so
as many steps as there are characters are enough. -/
def groups? : (steps : Nat) → (count : Nat) → (gapSeen : Bool) → List Char → Option (List Group)
  | _, _, _, [] => some []
  | 0, _, _, _ :: _ => none
  | steps + 1, count, gapSeen, c :: rest =>
      if count = 8 then none
      else if c = ':' then
        if gapSeen then none else (groups? steps (count + 1) true rest).map (.gap :: ·)
      else
        let text := c :: rest
        let digits := (text.take 4).takeWhile fun d => (Hex.value? d).isSome
        match Hex.number? digits, text.drop digits.length with
        | some value, [] => some [.value value]
        | some value, ':' :: more =>
            if more.isEmpty || digits.isEmpty then none
            else (groups? steps (count + 1) gapSeen more).map (.value value :: ·)
        | some _, '.' :: _ => if digits.isEmpty || 6 < count then none else embedded? text
        | _, _ => none

/-- The eight values of groups, with zeros in the place of a gap. -/
def fillGap (groups : List Group) : Option (List Nat) :=
  let values := fun (part : List Group) => part.filterMap fun g =>
    match g with
    | .value n => some n
    | .gap => none
  let front := values (groups.takeWhile (· != .gap))
  let back := values (groups.dropWhile (· != .gap))
  if groups.contains .gap then
    some (front ++ List.replicate (8 - front.length - back.length) 0 ++ back)
  else if front.length = 8 then some front
  else none

/-- The address between the brackets of a host. -/
def ipv6? (text : List Char) : Option (List Nat) :=
  if text.length < 2 then none
  else
    match text with
    | ':' :: ':' :: rest => (groups? rest.length 1 true rest).bind fun groups => fillGap (.gap :: groups)
    | ':' :: _ => none
    | _ => (groups? text.length 0 false text).bind fillGap

/-- The length of the run of zeros at the beginning. -/
def zeroRun (values : List Nat) : Nat := (values.takeWhile (· == 0)).length

/-- The first of the longest runs of zeros, by start and length. -/
def longestRun (values : List Nat) : Nat × Nat :=
  (List.range values.length).foldl
    (fun best start =>
      let length := zeroRun (values.drop start)
      if best.2 < length then (start, length) else best)
    (0, 0)

/-- Groups between colons. -/
def groupText (values : List Nat) : String :=
  Text.join ":" (values.map fun n => String.ofList (Hex.ofNat n))

/-- An IPv6 address as it is shown, in brackets. -/
def ipv6Text (values : List Nat) : String :=
  let (start, length) := longestRun values
  if length < 2 then "[" ++ groupText values ++ "]"
  else
    "[" ++ groupText (values.take start) ++ "::" ++ groupText (values.drop (start + length)) ++ "]"

end AdminConsole.Origin
