import AdminConsole.Settings.Reader
import AdminConsole.Text.Percent

/-!
# Settings files

The ending of a file's name tells its format. The file is read before its name is looked at, so a file that
cannot be read is reported as such whatever its name.
-/

set_option autoImplicit false

namespace AdminConsole

/-- What is found under the path of a settings file: its bytes, or why there are none. -/
abbrev FileContent := Except FileFault (List UInt8)

namespace FileContent

/-- The text of a file. -/
def text (content : FileContent) : Except FileFault String := do
  match Percent.ofUtf8? (← content) with
  | some text => return text
  | none => throw .notText

end FileContent

namespace SettingsFormat

/-- The last name on a path. Parts that stay where they are, empty or one dot, are no names. -/
def fileName (path : String) : List Char :=
  (((Text.pieces '/' path.toList).filter fun part => !part.isEmpty && part != ['.']).getLast?).getD []

/-- What follows the last dot of a file's name, unless the name begins with that dot. -/
def ending? (name : List Char) : Option String :=
  match Text.cutLast '.' name with
  | some (stem, ending) => if stem.isEmpty then none else some (String.ofList ending)
  | none => none

/-- The format of a file by its name. -/
def ofPath? (path : String) : Option SettingsFormat :=
  match ending? (fileName path) with
  | some "toml" => some .toml
  | some "json" => some .json
  | _ => none

/-- The settings in a text of the format. -/
def read? (format : SettingsFormat) (text : String) : Option Settings :=
  match format with
  | .toml => (Toml.read? text.toList).bind fun members => Toml.view.settings? (.table .header members)
  | .json => (Json.Raw.read text.toList).bind Json.Raw.view.settings?

end SettingsFormat

namespace Settings

/-- The settings of a file. -/
def ofFile (path : String) (content : FileContent) : Except SettingsError Settings := do
  let text ← content.text.mapError (.unreadable path)
  match SettingsFormat.ofPath? path with
  | none => throw .unknownFormat
  | some format =>
      match format.read? text with
      | some settings => return settings
      | none => throw (.malformed format)

end Settings

end AdminConsole
