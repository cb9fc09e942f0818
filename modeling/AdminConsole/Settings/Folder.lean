import AdminConsole.Settings.File

/-!
# A folder of files

What a program finds under a path, said of a working folder whose entries are known. A path is walked name
by name: one dot and an empty part stay, two dots go up, and a name goes down to what the folder holds. From
a file the walk goes nowhere, not even by a slash at the path's end. Of the folders around the working
folder it is known only that they are there, and of the root that it holds the system's own folders, one of
them with the device that reads as an empty file.
-/

set_option autoImplicit false

namespace AdminConsole

/-- What a name in a folder stands for. -/
inductive FolderEntry where
  | file (content : List UInt8)
  /-- A folder without entries. -/
  | folder
  deriving DecidableEq, Repr

/-- The working folder, by its entries. -/
abbrev Folder := Dictionary FolderEntry

namespace Folder

/-- Where a walk stands. -/
inductive Place where
  /-- A folder around the working folder, or one of the system's own. -/
  | around
  | root
  /-- The folder of the devices. -/
  | devices
  | working
  /-- A folder without entries in the working folder. -/
  | within
  | file (content : List UInt8)
  deriving DecidableEq, Repr

/-- The most bytes that a name may have. -/
def maxNameBytes : Nat := 255

/-- The most bytes that a path may have. -/
def maxPathBytes : Nat := 4095

/-- Where an entry leads. -/
def placeOf : FolderEntry → Place
  | .file content => .file content
  | .folder => .within

/-- The folders that every system has at its root, besides that of the devices. -/
def systemFolders : List String :=
  ["bin", "boot", "etc", "home", "lib", "media", "mnt", "opt", "proc", "root", "run", "sbin", "srv", "sys",
    "tmp", "usr", "var"]

/-- What a name stands for at a place. -/
def find? (folder : Folder) (place : Place) (name : String) : Option Place :=
  match place with
  | .working => (folder.get? name).map placeOf
  | .root =>
      if name = "dev" then some .devices
      else if systemFolders.contains name then some .around
      else none
  | .devices => if name = "null" then some (.file []) else none
  | _ => none

/-- Where two dots lead. -/
def above : Place → Place
  | .within => .working
  | .root | .devices => .root
  | _ => .around

/-- What a name leads to that is neither of the two dotted ones. -/
def enter (folder : Folder) (place : Place) (name : String) : Except FileFault Place :=
  if name.utf8ByteSize > maxNameBytes then .error .nameTooLong
  else (folder.find? place name).elim (.error .missing) .ok

/-- Walks one part of a path. -/
def step (folder : Folder) (place : Place) (part : List Char) : Except FileFault Place :=
  match place with
  | .file _ => .error .notDirectory
  | _ =>
      if part = [] ∨ part = ['.'] then .ok place
      else if part = ['.', '.'] then .ok (above place)
      else folder.enter place (String.ofList part)

/-- The parts of a path, and where its walk begins. A path that begins with a slash begins at the root. -/
def outset : List Char → Place × List (List Char)
  | '/' :: rest => (.root, Text.pieces '/' rest)
  | path => (.working, Text.pieces '/' path)

/-- What the folder holds under a path. -/
def read (folder : Folder) (path : String) : FileContent :=
  if path.toList.contains (Char.ofNat 0) then .error .nulInName
  else if path.isEmpty then .error .missing
  else if path.utf8ByteSize > maxPathBytes then .error .nameTooLong
  else do
    let (start, parts) := outset path.toList
    match ← parts.foldlM folder.step start with
    | .file content => return content
    | _ => throw .directory

/-- The folder that holds one entry under the last name of a path. -/
def single (path : String) (entry : FolderEntry) : Folder :=
  Dictionary.ofList [(String.ofList (SettingsFormat.fileName path), entry)]

end Folder

end AdminConsole
