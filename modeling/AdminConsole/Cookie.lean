import AdminConsole.Origin.Basic

/-!
# Cookies

The console's cookies carry the same attributes everywhere. They are secure exactly when the console is
served over `https`, and unless told otherwise they are sent to the console's own site only.
-/

set_option autoImplicit false

namespace AdminConsole

/-- To which sites a cookie is sent. -/
inductive SameSite where
  | strict
  | lax
  | none
  deriving DecidableEq, Repr

namespace SameSite

/-- The policy as it is written. -/
def label : SameSite → String
  | .strict => "Strict"
  | .lax => "Lax"
  | .none => "None"

end SameSite

/-- The attributes of all cookies of the console. -/
structure CookieDefaults where
  secure : Bool
  sameSite : SameSite
  path : Option String
  deriving DecidableEq, Repr

namespace CookieDefaults

/-- The attributes where nothing is known of the console's origin. -/
def unsecured : CookieDefaults := ⟨false, .strict, none⟩

/-- The attributes of a console served under this scheme. -/
def ofScheme (scheme : String) : CookieDefaults :=
  { unsecured with secure := Origin.isSecureScheme scheme }

/-- The attributes of a console served from this URL. -/
def ofOrigin (url : String) : Except OriginError CookieDefaults :=
  (Origin.parse url).map fun origin => ofScheme origin.scheme

/-- The attributes of a console served from this URL, if it has one. -/
def ofOrigin? : Option String → Except OriginError CookieDefaults
  | some url => ofOrigin url
  | none => .ok unsecured

/-- The attributes as they follow a cookie's value. -/
def attributes (d : CookieDefaults) : String :=
  let path := (d.path.map fun path => "; Path=" ++ path).getD ""
  path ++ "; SameSite=" ++ d.sameSite.label ++ (if d.secure then "; Secure" else "")

/-- The header that sets a cookie. -/
def setCookie (d : CookieDefaults) (name value : String) : String :=
  name ++ "=" ++ value ++ d.attributes

end CookieDefaults

end AdminConsole
