import Typeset.Text.Blank

/-!
# File names

A file name is cut into its parts at slashes.  Empty parts and single full stops
say nothing and are left out, also when the name is quoted in a message.

A place is where a name leads: the names of the folders on the way from the
current one, and of the entry.  Two full stops lead back to the folder above.
-/

namespace Typeset

/-- A file name without parts that say nothing. -/
structure FilePath where
  /-- The slashes before the first part: none, one or two. -/
  root : String
  parts : List String
  deriving DecidableEq

/-- The names on the way to an entry.  A place outside the current folder starts
with slashes or with two full stops. -/
abbrev Place := List String

/-- Whether a name leads out of the current folder. -/
def leadsOut (name : String) : Bool :=
  name == ".." || name == "/" || name == "//"

/-- Whether a place lies in the current folder. -/
def Place.isInside (place : Place) : Bool :=
  !place.head?.any leadsOut

/-- The place that one part of a name leads to. -/
def Place.enter (place : Place) (part : String) : Place :=
  match part, place.getLast? with
  | "..", some last =>
      if last == ".." then place ++ [part]
      else if last == "/" || last == "//" then place
      else place.dropLast
  | _, _ => place ++ [part]

/-- A place as it is written. -/
def Place.text : Place → String
  | [] => "."
  | first :: rest =>
      if first == "/" || first == "//" then first ++ "/".intercalate rest
      else "/".intercalate (first :: rest)

namespace FilePath

/-- Read a file name.  Two slashes at the start are kept apart from one; three
and more are one. -/
def ofString (name : String) : FilePath :=
  let chars := name.toList
  let slashes := (chars.takeWhile (· == '/')).length
  let parts := (Text.splitAt '/' chars).filter fun part => !part.isEmpty && part != ['.']
  ⟨if slashes = 0 then "" else if slashes = 2 then "//" else "/", parts.map String.ofList⟩

/-- The place from which the parts lead. -/
def start (path : FilePath) : Place :=
  if path.root.isEmpty then [] else [path.root]

/-- The name as it is quoted. -/
def text (path : FilePath) : String :=
  Place.text (path.start ++ path.parts)

/-- Whether a part of the name has a null character. -/
def hasNull (path : FilePath) : Bool :=
  path.parts.any fun part => part.toList.contains '\x00'

/-- The places on the way to an entry, which have to be folders, and the place of
the entry. -/
def trail (path : FilePath) : List Place × Place :=
  path.parts.foldl
    (fun (above, place) part => (above ++ [place], place.enter part))
    ([], path.start)

end FilePath

end Typeset
