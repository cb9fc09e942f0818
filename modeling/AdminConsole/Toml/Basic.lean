/-!
# TOML values and tables

A document is built by adding one value after another under its dotted key, below the table whose header
was read last. A table remembers how it came into being, because that decides who may add to it later:
nobody to one written in braces, headers to one that was merely passed through, dotted keys to one made by
dotted keys, and the lines below its header to one with a header. A path may pass through more tables than
it may end in.
-/

set_option autoImplicit false

namespace AdminConsole

/-- How a table came into being. -/
inductive TableOrigin where
  /-- By a header that passed through it. -/
  | passed
  /-- By a header of its own. -/
  | header
  /-- By a dotted key. -/
  | dotted
  /-- In braces. -/
  | braces
  deriving DecidableEq, Repr

/-- A TOML value. -/
inductive Toml where
  | string (value : String)
  | integer (value : Int)
  | float (value : Float)
  | bool (value : Bool)
  /-- A date, a time, or both. -/
  | moment (value : String)
  | array (items : List Toml)
  | table (origin : TableOrigin) (members : List (String × Toml))
  /-- Tables with one repeated header, in order. -/
  | tables (entries : List (List (String × Toml)))
  deriving Inhabited, Repr

namespace Toml

/-- The members of a table, in order. -/
abbrev Members := List (String × Toml)

/-- Puts a value in the place of the one with its key, or at the end. -/
def setMember (key : String) (value : Toml) : Members → Members
  | [] => [(key, value)]
  | member :: more =>
      if member.1 = key then (key, value) :: more else member :: setMember key value more

/-- Whether a path may pass through a table, or end there if it is `last`. A dotted key may not pass
where a header has been, and ends only where dotted keys have been. -/
def mayEnter (byDottedKey last : Bool) : TableOrigin → Bool
  | .passed => !(byDottedKey && last)
  | .dotted => true
  | .header => !byDottedKey
  | .braces => false

/-- Changes the table at a path, which passes through the last of several tables with one header.
Tables that are missing on the way are made. -/
def change (byDottedKey : Bool) (f : Members → Option Members) : List String → Members → Option Members
  | [], members => f members
  | key :: path, members =>
      match members.lookup key with
      | none => do
          let inner ← change byDottedKey f path []
          return setMember key (.table (if byDottedKey then .dotted else .passed) inner) members
      | some (.table origin inner) =>
          if mayEnter byDottedKey path.isEmpty origin then do
            let inner ← change byDottedKey f path inner
            return setMember key (.table origin inner) members
          else none
      | some (.tables entries) =>
          if byDottedKey && path.isEmpty then none
          else do
            let last ← entries.getLast?
            let inner ← change byDottedKey f path last
            return setMember key (.tables (entries.dropLast ++ [inner])) members
      | some _ => none

/-- Adds a value under a key that is not there yet. -/
def addValue (key : String) (value : Toml) (members : Members) : Option Members :=
  if (members.lookup key).isSome then none else some (members ++ [(key, value)])

/-- Opens a table by its header. -/
def openTable (key : String) (members : Members) : Option Members :=
  match members.lookup key with
  | none => some (members ++ [(key, .table .header [])])
  | some (.table .passed inner) => some (setMember key (.table .header inner) members)
  | some _ => none

/-- Opens one more table of those with one header. -/
def openEntry (key : String) (members : Members) : Option Members :=
  match members.lookup key with
  | none => some (members ++ [(key, .tables [[]])])
  | some (.tables entries) => some (setMember key (.tables (entries ++ [[]])) members)
  | some _ => none

/-- Adds a value under a dotted key, given by its front and its last part. -/
def addDotted (front : List String) (last : String) (value : Toml) (members : Members) :
    Option Members :=
  change true (addValue last value) front members

end Toml

end AdminConsole
