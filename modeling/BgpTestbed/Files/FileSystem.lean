import BgpTestbed.Files.Path
import BgpTestbed.Lookup

/-!
# File systems

A file system has directories and regular files and no links.  A path is
followed name by name: every step needs a directory to start from, `..` leads
to the directory above, and a name must be there unless the path is about to
create it.
-/

namespace BgpTestbed.Files

inductive FileFault where
  | notFound
  | notDirectory
  | isDirectory
  | alreadyExists
  | nameTooLong
  | notText
  | nulInPath
  | other (description : String)
  deriving DecidableEq, Repr

def FileFault.message : FileFault → String
  | notFound => "No such file or directory (os error 2)"
  | notDirectory => "Not a directory (os error 20)"
  | isDirectory => "Is a directory (os error 21)"
  | alreadyExists => "File exists (os error 17)"
  | nameTooLong => "File name too long (os error 36)"
  | notText => "stream did not contain valid UTF-8"
  | nulInPath => "file name contained an unexpected NUL byte"
  | other description => description

/-- The names that lead from the root to an entry. -/
abbrev Location := List String

inductive Entry where
  | directory
  | file (content : ByteArray)

def Entry.isDirectory : Entry → Bool
  | .directory => true
  | .file _ => false

structure FileSystem where
  entries : List (Location × Entry)
  workingDirectory : Location

namespace FileSystem

/-- The entry at a location; the root is a directory. -/
def find? (files : FileSystem) (location : Location) : Option Entry :=
  if location.isEmpty then some .directory
  else files.entries.lookup location

def isDirectoryAt (files : FileSystem) (location : Location) : Bool :=
  (files.find? location).any Entry.isDirectory

def put (files : FileSystem) (location : Location) (entry : Entry) :
    FileSystem :=
  { files with entries :=
      (location, entry) ::
        files.entries.filter fun other => other.1 != location }

theorem find?_put (files : FileSystem) (location other : Location)
    (entry : Entry) (isNamed : location ≠ []) :
    (files.put location entry).find? other =
      if other = location then some entry else files.find? other := by
  by_cases same : other = location
  · subst same
    simp [find?, put, isNamed]
  · simp [find?, put, same, lookup_entry, lookup_filter_ne]

/-- The regular files with their contents. -/
def regularFiles (files : FileSystem) : List (Location × ByteArray) :=
  files.entries.filterMap fun (location, entry) =>
    match entry with
    | .file content => some (location, content)
    | .directory => none

/-- Names have at most 255 bytes. -/
def isTooLong (name : String) : Bool :=
  decide (255 < name.utf8ByteSize)

def step (files : FileSystem) (location : Location) (name : String) :
    Except FileFault Location :=
  if !files.isDirectoryAt location then .error .notDirectory
  else if name = "." then .ok location
  else if name = ".." then .ok location.dropLast
  else if isTooLong name then .error .nameTooLong
  else if (files.find? (location ++ [name])).isSome then
    .ok (location ++ [name])
  else .error .notFound

def walk (files : FileSystem) (start : Location) :
    List String → Except FileFault Location
  | [] => .ok start
  | name :: later =>
      match files.step start name with
      | .error fault => .error fault
      | .ok location => files.walk location later

def startOf (files : FileSystem) (path : String) : Location :=
  if isAbsolute path then [] else files.workingDirectory

def hasNul (path : String) : Bool :=
  path.toList.contains '\x00'

/-- Why a path cannot be followed at all: a path is neither empty nor longer
than 4095 bytes and has no NUL character. -/
def pathFault? (path : String) : Option FileFault :=
  if hasNul path then some .nulInPath
  else if path.isEmpty then some .notFound
  else if 4095 < path.utf8ByteSize then some .nameTooLong
  else none

/-- The location of what a path leads to. -/
def locate (files : FileSystem) (path : String) :
    Except FileFault Location :=
  match pathFault? path with
  | some fault => .error fault
  | none => files.walk (files.startOf path) (segments path)

/-- The location that a path leads to, where the last name need not exist, or
nothing if dots or no name at all come last. -/
def target? (files : FileSystem) (path : String) :
    Except FileFault (Option Location) :=
  match pathFault? path, (segments path).getLast? with
  | some fault, _ => .error fault
  | none, none => .ok none
  | none, some last =>
      match files.walk (files.startOf path) (segments path).dropLast with
      | .error fault => .error fault
      | .ok parent =>
          if !files.isDirectoryAt parent then .error .notDirectory
          else if last = "." ∨ last = ".." then .ok none
          else if isTooLong last then .error .nameTooLong
          else .ok (some (parent ++ [last]))

def isDirectory (files : FileSystem) (path : String) : Bool :=
  match files.locate path with
  | .ok location => files.isDirectoryAt location
  | .error _ => false

def createDirectory (files : FileSystem) (path : String) :
    Except FileFault FileSystem :=
  match files.target? path with
  | .error fault => .error fault
  | .ok none => .error .alreadyExists
  | .ok (some location) =>
      if (files.find? location).isSome then .error .alreadyExists
      else .ok (files.put location .directory)

/-- The location at which a path creates or replaces a regular file. -/
def writable (files : FileSystem) (path : String) :
    Except FileFault Location :=
  match files.target? path with
  | .error fault => .error fault
  | .ok none => .error .isDirectory
  | .ok (some location) =>
      if endsInSlash path || files.isDirectoryAt location then
        .error .isDirectory
      else .ok location

def write (files : FileSystem) (path : String) (content : ByteArray) :
    Except FileFault FileSystem :=
  (files.writable path).map fun location => files.put location (.file content)

def read (files : FileSystem) (path : String) :
    Except FileFault ByteArray :=
  match files.locate path with
  | .error fault => .error fault
  | .ok location =>
      match files.find? location with
      | none => .error .notFound
      | some .directory => .error .isDirectory
      | some (.file content) =>
          if endsInSlash path then .error .notDirectory else .ok content

end FileSystem

end BgpTestbed.Files
