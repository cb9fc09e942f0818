import AdminConsole.Origin.Address
import AdminConsole.Domain.Basic
import AdminConsole.Text.Percent

/-!
# Origins

The part of a URL that says where it comes from: its scheme, and the host if it has one. Reading follows
the rules by which browsers read URLs. Tabs and line breaks count for nothing, and neither do blanks and
controls at the ends. The schemes of the web have a host in any case, also with a backslash in place of
a slash or with too few or too many slashes; other schemes have one only after two slashes.
-/

set_option autoImplicit false

namespace AdminConsole

/-- The part of a URL that says where it comes from. -/
structure Origin where
  /-- The scheme in lower case. -/
  scheme : String
  host : Option String
  deriving DecidableEq, Repr

/-- Why a text is no URL. -/
inductive OriginError where
  /-- There is no scheme, and nothing to which the URL could be relative. -/
  | relative
  | emptyHost
  | badPort
  | badIpv6
  | badIpv4
  | badDomain
  /-- The host of a scheme of no special kind has a character that cannot stand there. -/
  | badCharacter
  deriving DecidableEq, Repr

namespace OriginError

/-- The error as it is shown. -/
def message : OriginError → String
  | .relative => "relative URL without a base"
  | .emptyHost => "empty host"
  | .badPort => "invalid port number"
  | .badIpv6 => "invalid IPv6 address"
  | .badIpv4 => "invalid IPv4 address"
  | .badDomain => "invalid international domain name"
  | .badCharacter => "invalid domain character"

end OriginError

namespace Origin

/-- The kinds of schemes: local files, the schemes of the web, and all others. -/
inductive SchemeKind where
  | file
  | web
  | other
  deriving DecidableEq, Repr

/-- The kind of a scheme. -/
def schemeKind (scheme : List Char) : SchemeKind :=
  if scheme = "file".toList then .file
  else if ["http", "https", "ws", "wss", "ftp"].contains (String.ofList scheme) then .web
  else .other

/-- Whether a character can stand in a scheme. -/
def isSchemeChar (c : Char) : Bool :=
  c.isAlphanum || c == '+' || c == '-' || c == '.'

/-- The text without what counts for nothing. -/
def clean (text : List Char) : List Char :=
  let isEdge := fun (c : Char) => decide (c.toNat ≤ 32)
  let trimmed := ((text.dropWhile isEdge).reverse.dropWhile isEdge).reverse
  trimmed.filter fun c => c != '\t' && c != '\n' && c != '\r'

/-- The scheme in lower case, and what follows its colon. -/
def scheme? (text : List Char) : Option (List Char × List Char) :=
  match Text.cutFirst ':' text with
  | some (scheme, rest) =>
      if (scheme.head?.any Char.isAlpha) && scheme.all isSchemeChar then
        some (scheme.map Char.toLower, rest)
      else none
  | none => none

/-- Whether a character is a slash for this kind of scheme. -/
def isSlash (kind : SchemeKind) (c : Char) : Bool :=
  c == '/' || (c == '\\' && kind != .other)

/-- Whether a character ends host and port. -/
def endsAuthority (kind : SchemeKind) (c : Char) : Bool :=
  isSlash kind c || c == '?' || c == '#'

/-! ## Hosts -/

/-- The address in a host that begins with a bracket. -/
def bracketed (rest : List Char) : Except OriginError String :=
  if rest.getLast? = some ']' then
    match ipv6? rest.dropLast with
    | some values => .ok (ipv6Text values)
    | none => .error .badIpv6
  else .error .badIpv6

/-- The host of a scheme of the web or of files. -/
def webHost (host : List Char) : Except OriginError String :=
  match host with
  | '[' :: rest => bracketed rest
  | _ =>
      match (Percent.decodeChars host).bind fun name => Domain.toAscii name.toList with
      | none => .error .badDomain
      | some [] => .error .emptyHost
      | some name =>
          if endsInNumber name then
            match ipv4? name with
            | some address => .ok (ipv4Text address)
            | none => .error .badIpv4
          else .ok (String.ofList name)

/-- Whether a character cannot stand in a host of another scheme. -/
def isForbiddenInOther (c : Char) : Bool :=
  "\x00\t\n\r #/:<>?@[\\]^|".toList.contains c

/-- The host of another scheme, which stays as it is written as far as it is ASCII. -/
def otherHost (host : List Char) : Except OriginError String :=
  match host with
  | '[' :: rest => bracketed rest
  | _ =>
      if host.any isForbiddenInOther then .error .badCharacter
      else
        .ok <| String.ofList <| host.flatMap fun c =>
          if c.toNat < 32 || 127 ≤ c.toNat then
            (String.utf8EncodeChar c).flatMap Percent.encodeByte
          else [c]

/-- The host at the beginning of a text, up to the first colon outside brackets, and what follows it. -/
def splitHost (inBrackets : Bool) : List Char → List Char × List Char
  | [] => ([], [])
  | c :: rest =>
      if c = ':' && !inBrackets then ([], c :: rest)
      else
        let inside := if c = '[' then true else if c = ']' then false else inBrackets
        let (host, tail) := splitHost inside rest
        (c :: host, tail)

/-- Whether a text is a port. -/
def isPort (text : List Char) : Bool :=
  text.all Char.isDigit && text.foldl (fun n c => 10 * n + (c.toNat - 48)) 0 < 65536

/-- Whether user and password leave a trace in the URL. -/
def keepsUser (user : List Char) : Bool :=
  !(user.isEmpty || user == [':'])

/-- User with password, and host with port, of the text before the first slash. -/
def splitUser (authority : List Char) : Option (List Char) × List Char :=
  match Text.cutLast '@' authority with
  | some (user, rest) => (some user, rest)
  | none => (none, authority)

/-- The host of a URL, given what follows the slashes. -/
def authorityHost (kind : SchemeKind) (text : List Char) : Except OriginError (Option String) := do
  let authority := text.takeWhile fun c => !endsAuthority kind c
  let rest := text.dropWhile fun c => !endsAuthority kind c
  let (user, hostAndPort) := splitUser authority
  if user = some [] && hostAndPort.isEmpty && !rest.isEmpty then
    throw .emptyHost
  let (host, port) := splitHost false hostAndPort
  let text ← if kind = .other then otherHost host
    else if host.isEmpty then .error .emptyHost else webHost host
  if text.isEmpty && !port.isEmpty then
    throw .emptyHost
  let digits := (port.drop 1).takeWhile (· != '\\')
  if !isPort digits then
    throw .badPort
  if text.isEmpty then
    if user.any keepsUser then throw .emptyHost else return none
  return some text

/-! ## Files -/

/-- Whether a part of a path names a drive. -/
def isDrive : List Char → Bool
  | [letter, mark] => letter.isAlpha && (mark == ':' || mark == '|')
  | _ => false

/-- Whether the first part of a path that remains names a drive, after so many parts before it. -/
def beginsWithDrive : (depth : Nat) → List (List Char) → Bool
  | _, [] => false
  | depth, part :: more =>
      if part = ['.'] then beginsWithDrive depth more
      else if part = ['.', '.'] then beginsWithDrive (depth - 1) more
      else if depth = 0 && isDrive part then true
      else beginsWithDrive (depth + 1) more

/-- A text with the dots that are written as bytes. -/
def plainDots : List Char → List Char
  | '%' :: '2' :: 'e' :: rest => '.' :: plainDots rest
  | '%' :: '2' :: 'E' :: rest => '.' :: plainDots rest
  | c :: rest => c :: plainDots rest
  | [] => []

/-- The parts of a path after its first slash. -/
def pathParts (text : List Char) : List (List Char) :=
  let path := text.takeWhile fun c => c != '?' && c != '#'
  Text.pieces '/' (plainDots ((path.map fun c => if c = '\\' then '/' else c).drop 1))

/-- The host of a local file: none for the machine itself, and none where a drive is named. -/
def fileHost (text : List Char) : Except OriginError (Option String) :=
  match text with
  | a :: b :: rest =>
      if isSlash .file a && isSlash .file b then
        let host := rest.takeWhile fun c => !endsAuthority .file c
        let path := rest.dropWhile fun c => !endsAuthority .file c
        if host.isEmpty || isDrive host then .ok none
        else
          (webHost host).map fun name =>
            if name = "localhost" || beginsWithDrive 0 (pathParts path) then none else some name
      else .ok none
  | _ => .ok none

/-! ## URLs -/

/-- Reads the origin of a URL. -/
def parse (text : String) : Except OriginError Origin :=
  match scheme? (clean text.toList) with
  | none => .error .relative
  | some (scheme, rest) =>
      let host := match schemeKind scheme with
        | .file => fileHost rest
        | .web => authorityHost .web (rest.dropWhile (isSlash .web))
        | .other =>
            match rest with
            | '/' :: '/' :: authority => authorityHost .other authority
            | _ => .ok none
      host.map fun host => ⟨String.ofList scheme, host⟩

/-- Whether a URL is served over an encrypted connection. -/
def isSecureScheme (scheme : String) : Bool :=
  String.ofList (scheme.toList.map Char.toLower) == "https"

end Origin

end AdminConsole
