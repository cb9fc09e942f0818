import AdminConsole.Json.Reader
import AdminConsole.Settings.Basic
import AdminConsole.Toml.Reader

/-!
# Settings from a tree of values

A settings file is a tree of values in one of two formats. The fields of the settings are looked up in it by
name, and those that are missing have their standard values. A record may also be written as the list
of its fields in order, with the last ones left out. Unknown names are passed over, whatever stands
under them.
-/

set_option autoImplicit false

namespace AdminConsole

/-- How a format's trees are looked at. -/
structure TreeView (α : Type) where
  bool? : α → Option Bool
  /-- An integer of 64 bits with a sign. -/
  integer? : α → Option Int
  text? : α → Option String
  isNull : α → Bool
  items? : α → Option (List α)
  /-- The members of a record, if all their names are texts. -/
  members? : α → Option (List (String × α))
  /-- Whether the value says nothing more than the name it stands under. -/
  isUnit : α → Bool
  /-- The installation's own values, as a dictionary of JSON values. -/
  values? : α → Option (Dictionary Json)
  /-- Whether the list of a record's fields may have more items than the record has fields. -/
  allowsSurplus : Bool

namespace TreeView

variable {α β : Type}

/-- The values of a record's fields, where they are given. A field may be given once only. -/
def fields? (view : TreeView α) (names : List String) (tree : α) : Option (List (Option α)) :=
  match view.items? tree with
  | some items =>
      if items.length ≤ names.length || view.allowsSurplus then
        some ((List.range names.length).map fun k => items[k]?)
      else none
  | none => do
      let members ← view.members? tree
      let known := (members.map (·.1)).filter names.contains
      if decide known.Nodup then some (names.map fun name => members.lookup name) else none

/-- The value of a field, or the standard one where it is not given. -/
def field (read : α → Option β) (standard : β) : Option α → Option β
  | some tree => read tree
  | none => some standard

/-- A value that may be null. -/
def optional (view : TreeView α) (read : α → Option β) (tree : α) : Option (Option β) :=
  if view.isNull tree then some none else (read tree).map some

/-- A location mode, by its label or as a record whose only name is the label. -/
def locationMode? (view : TreeView α) (tree : α) : Option LocationMode :=
  match view.text? tree with
  | some label => LocationMode.ofLabel? label
  | none =>
      match view.items? tree, view.members? tree with
      | none, some [(label, content)] =>
          if view.isUnit content then LocationMode.ofLabel? label else none
      | _, _ => none

/-- The durations of the watchdog. -/
def idle? (view : TreeView α) (tree : α) : Option IdleSettings := do
  match ← view.fields? ["time", "timeout"] tree with
  | [time, timeout] =>
      let time ← field (view.optional view.integer?) none time
      let timeout ← field (view.optional view.integer?) none timeout
      return ⟨time, timeout⟩
  | _ => none

/-- How the console logs. -/
def logging? (view : TreeView α) (tree : α) : Option LoggingSettings := do
  match ← view.fields? ["level", "format"] tree with
  | [level, format] =>
      let level ← field view.text? LoggingSettings.standard.level level
      let format ← field view.text? LoggingSettings.standard.format format
      return ⟨level, format⟩
  | _ => none

/-- The names of the settings, in order. -/
def settingNames : List String :=
  ["debug", "idle", "location_mode", "server_path", "origin", "hostname", "logging", "custom"]

/-- The settings. -/
def settings? (view : TreeView α) (tree : α) : Option Settings := do
  match ← view.fields? settingNames tree with
  | [debug, idle, locationMode, serverPath, origin, hostname, logging, custom] =>
      let standard := Settings.standard
      let debug ← field view.bool? standard.debug debug
      let idle ← field view.idle? standard.idle idle
      let locationMode ← field view.locationMode? standard.locationMode locationMode
      let serverPath ← field view.text? standard.serverPath serverPath
      let origin ← field (view.optional view.text?) none origin
      let hostname ← field (view.optional view.text?) none hostname
      let logging ← field view.logging? standard.logging logging
      let custom ← field view.values? standard.custom custom
      return { debug, idle, locationMode, serverPath, origin, hostname, logging, custom }
  | _ => none

end TreeView

/-! ## JSON -/

namespace Json.Raw

/-- The name of a member, if it is a text. -/
def namedMember (member : Option String × Raw) : Option (String × Raw) :=
  member.1.map (·, member.2)

/-- How deeply the containers of the installation's own values may be nested, their dictionary
included. -/
def valuesDepth : Nat := maxDepth - 1

/-- JSON as a format of settings. -/
def view : TreeView Raw where
  bool?
    | .bool value => some value
    | _ => none
  integer?
    | .number value =>
        match value.value? with
        | some (.integer n) => if (IntegerRange.signed 64).holds n then some n else none
        | _ => none
    | _ => none
  text?
    | .string value => value
    | _ => none
  isNull
    | .null => true
    | _ => false
  items?
    | .array items => some items
    | _ => none
  members?
    | .object members => members.mapM namedMember
    | _ => none
  isUnit
    | .null => true
    | _ => false
  values? tree :=
    match tree.toJson? valuesDepth with
    | some (.object members) => some (Dictionary.ofList members)
    | _ => none
  allowsSurplus := false

end Json.Raw

/-! ## TOML -/

namespace Toml

/-- The name under which a moment stands in a JSON value. -/
def momentName : String := "$__toml_private_datetime"

mutual

/-- A value as a JSON value. Integers have 64 bits with or without a sign, and what is no number is
null. -/
def toJson? : Toml → Option Json
  | .string value => some (.string value)
  | .integer value =>
      if -(wordSize 63 : Int) ≤ value && value < wordSize 64 then some (.integer value) else none
  | .float value => some (if value.isFinite then .float value else .null)
  | .bool value => some (.bool value)
  | .moment value => some (.object [(momentName, .string value)])
  | .array items => (itemsToJson? items).map .array
  | .table _ members => (membersToJson? [] members).map .object
  | .tables entries => (entriesToJson? entries).map .array

/-- The values of items. -/
def itemsToJson? : List Toml → Option (List Json)
  | [] => some []
  | item :: more => do
      let value ← toJson? item
      let values ← itemsToJson? more
      return value :: values

/-- The values of members after those in `done`, by name. -/
def membersToJson? (done : List (String × Json)) : List (String × Toml) → Option (List (String × Json))
  | [] => some done
  | (name, item) :: more => do
      let value ← toJson? item
      membersToJson? (Dictionary.place name value done) more

/-- The values of tables with one header. -/
def entriesToJson? : List (List (String × Toml)) → Option (List Json)
  | [] => some []
  | entry :: more => do
      let members ← membersToJson? [] entry
      let values ← entriesToJson? more
      return .object members :: values

end

/-- The members of a table, and a moment as a table of its own kind. -/
def recordMembers? : Toml → Option Members
  | .table _ members => some members
  | .moment value => some [(momentName, .string value)]
  | _ => none

/-- TOML as a format of settings. -/
def view : TreeView Toml where
  bool?
    | .bool value => some value
    | _ => none
  integer?
    | .integer n => if (IntegerRange.signed 64).holds n then some n else none
    | _ => none
  text?
    | .string value => some value
    | _ => none
  isNull _ := false
  items?
    | .array items => some items
    | .tables entries => some (entries.map (.table .header))
    | _ => none
  members? := recordMembers?
  isUnit
    | .array [] => true
    | .table _ [] => true
    | _ => false
  values? tree :=
    match tree.recordMembers?, tree.toJson? with
    | some _, some (.object members) => some (Dictionary.ofList members)
    | _, _ => none
  allowsSurplus := true

end Toml

end AdminConsole
