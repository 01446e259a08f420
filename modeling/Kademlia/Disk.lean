import Kademlia.Error

/-!
# Files

Files and directories by their paths.  A path leads through the directories that its
slashes end, and there is something at it only if these are all there.  A state file is
replaced by way of a temporary one beside it.
-/

namespace Kademlia

/-- What there is at a path. -/
inductive DiskEntry
  | file (contents : Bytes)
  | directory
deriving DecidableEq

/-- Files and directories, by path.  The directory that paths start from, and the root, are
there without an entry. -/
structure Disk where
  entries : List (String × DiskEntry)
deriving DecidableEq

namespace Disk

/-- No entries. -/
def empty : Disk :=
  ⟨[]⟩

/-! ## Paths -/

/-- The directories that the rest of a path leads through, behind the letters `before` it,
the last one of which comes first. -/
def waysBehind (before : List Char) : List Char → List String
  | [] => []
  | letter :: rest =>
      (if letter = '/' ∧ before ≠ [] then [String.ofList before.reverse] else []) ++
        waysBehind (letter :: before) rest

/-- The directories that a path leads through, the outermost one first. -/
def ways (path : String) : List String :=
  waysBehind [] path.toList

/-- Whether a path leads into another directory. -/
def isNested (path : String) : Bool :=
  !(ways path).isEmpty

/-- Whether the directories that a path leads through are all there. -/
def reaches (disk : Disk) (path : String) : Bool :=
  (ways path).all fun way => disk.entries.lookup way = some .directory

/-- What there is at a path. -/
def entry? (disk : Disk) (path : String) : Option DiskEntry :=
  if disk.reaches path then disk.entries.lookup path else none

/-! ## Files -/

/-- A disk without what is at a path. -/
def erase (disk : Disk) (path : String) : Disk :=
  ⟨disk.entries.filter fun (other, _) => other ≠ path⟩

/-- A disk with an entry at a path, whatever was there. -/
def set (disk : Disk) (path : String) (entry : DiskEntry) : Disk :=
  ⟨(disk.erase path).entries ++ [(path, entry)]⟩

/-- Reads a file. -/
def read (disk : Disk) (path : String) : Except Error Bytes :=
  match disk.entry? path with
  | some (.file contents) => .ok contents
  | some .directory => .error (.system .isDirectory)
  | none => .error (.system .notFound)

/-- Writes a file in place, if its directory is there. -/
def write (disk : Disk) (path : String) (contents : Bytes) : Except Error Disk :=
  if disk.reaches path then
    match disk.entry? path with
    | some .directory => .error (.system .isDirectory)
    | _ => .ok (disk.set path (.file contents))
  else .error (.system .notFound)

/-- The path of the temporary file for a path. -/
def temporary (path : String) : String :=
  path ++ ".tmp"

/-- Replaces a file: writes the temporary one, and moves it to its place. -/
def replace (disk : Disk) (path : String) (contents : Bytes) : Except Error Unit × Disk :=
  match disk.write (temporary path) contents with
  | .error error => (.error error, disk)
  | .ok written =>
      match written.write path contents with
      | .error error => (.error error, written)
      | .ok moved => (.ok (), moved.erase (temporary path))

/-- Removes a file; says whether there was one. -/
def remove (disk : Disk) (path : String) : Bool × Disk :=
  match disk.entry? path with
  | some (.file _) => (true, disk.erase path)
  | _ => (false, disk)

/-- How many entries there are. -/
def count (disk : Disk) : Nat :=
  disk.entries.length

end Disk

end Kademlia
