import Typeset.File.Error
import Typeset.File.Path

/-!
# Folders

A folder holds files and other folders.  What matters of it is which places hold
a file, and with which bytes, and which are folders; the places on the way to an
entry are folders too, and so are the places above the current folder.
-/

namespace Typeset

/-- An entry of a folder. -/
inductive Entry where
  | file (bytes : List UInt8)
  | folder

/-- The entries of a folder by their places. -/
structure Folder where
  entries : List (Place × Entry)

namespace Folder

/-- The entry at a place. -/
def find? (folder : Folder) (place : Place) : Option Entry :=
  match folder.entries.lookup place with
  | some entry => some entry
  | none =>
      if place.all leadsOut || folder.entries.any fun entry => place.isPrefixOf entry.1 then
        some .folder
      else
        none

/-- Check that places are folders, on the way to a path. -/
def checkAbove (folder : Folder) (path : FilePath) : List Place → Except FileError Unit
  | [] => .ok ()
  | place :: rest =>
      match folder.find? place with
      | some .folder => checkAbove folder path rest
      | some (.file _) => .error (.belowFile path.text)
      | none => .error (.missing path.text)

/-- The place that a path leads to; a path with a null character leads nowhere. -/
def locate (folder : Folder) (path : FilePath) : Except FileError Place := do
  if path.hasNull then throw .nullByte
  folder.checkAbove path path.trail.1
  return path.trail.2

/-- The bytes of a file. -/
def read (folder : Folder) (path : FilePath) : Except FileError (List UInt8) := do
  match folder.find? (← folder.locate path) with
  | some (.file bytes) => return bytes
  | some .folder => throw (.directory path.text)
  | none => throw (.missing path.text)

/-- Replace the entry at a place, or add it. -/
def put (folder : Folder) (place : Place) (entry : Entry) : Folder :=
  if (folder.entries.lookup place).isSome then
    ⟨folder.entries.map fun old => if old.1 == place then (place, entry) else old⟩
  else
    ⟨folder.entries ++ [(place, entry)]⟩

/-- Write a file. -/
def write (folder : Folder) (path : FilePath) (bytes : List UInt8) :
    Except FileError Folder := do
  let place ← folder.locate path
  match folder.find? place with
  | some .folder => throw (.directory path.text)
  | _ => return folder.put place (.file bytes)

/-- The files of a folder that another one does not hold with the same bytes. -/
def newFiles (folder before : Folder) : List (Place × List UInt8) :=
  folder.entries.filterMap fun (place, entry) =>
    match entry with
    | .folder => none
    | .file bytes =>
        match before.find? place with
        | some (.file old) => if old == bytes then none else some (place, bytes)
        | _ => some (place, bytes)

end Folder

end Typeset
