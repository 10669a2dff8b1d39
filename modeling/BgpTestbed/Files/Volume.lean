import BgpTestbed.Files.Store

/-!
# Volumes and drives

A volume is a file system with links.  A file may stand at several locations,
and a link is followed wherever it stands in a path, so that a path may lead
to a file in another directory or to one that other paths lead to as well.

A drive is a volume together with what happens to the requests that are made
of it.  The system may refuse a request, whatever its reasons are, and it may
break off a write when the old content of the file is gone and only some of
the new bytes are there.
-/

namespace BgpTestbed.Files

/-- What stands at a location.  Files are told apart by their numbers. -/
inductive Item where
  | directory
  | file (number : Nat)
  | link (target : String)
  deriving DecidableEq

def Item.isDirectory : Item → Bool
  | .directory => true
  | .file _ | .link _ => false

/-- The files have their contents in the order of their numbers. -/
structure Volume where
  items : List (Location × Item)
  contents : List ByteArray
  workingDirectory : Location
  numbered : ∀ location number, (location, .file number) ∈ items →
    number < contents.length

namespace Volume

/-- The item at a location; the root is a directory. -/
def find? (volume : Volume) (location : Location) : Option Item :=
  if location.isEmpty then some .directory
  else volume.items.lookup location

def isDirectoryAt (volume : Volume) (location : Location) : Bool :=
  (volume.find? location).any Item.isDirectory

/-- The content of a file. -/
def content (volume : Volume) (number : Nat) : ByteArray :=
  volume.contents.getD number ByteArray.empty

def regularFile? (volume : Volume) :
    Location × Item → Option (Location × ByteArray)
  | (location, .file number) => some (location, volume.content number)
  | (_, .directory) | (_, .link _) => none

/-- The regular files with their contents. -/
def regularFiles (volume : Volume) : List (Location × ByteArray) :=
  volume.items.filterMap volume.regularFile?

def addDirectory (volume : Volume) (location : Location) : Volume where
  items := (location, .directory) :: volume.items
  contents := volume.contents
  workingDirectory := volume.workingDirectory
  numbered := by
    intro other number member
    rcases List.mem_cons.mp member with isNew | isOld
    · cases isNew
    · exact volume.numbered other number isOld

/-- A new file has the number behind all others. -/
def addFile (volume : Volume) (location : Location) (content : ByteArray) :
    Volume where
  items := (location, .file volume.contents.length) :: volume.items
  contents := volume.contents ++ [content]
  workingDirectory := volume.workingDirectory
  numbered := by
    intro other number member
    rw [List.length_append, List.length_singleton]
    rcases List.mem_cons.mp member with isNew | isOld
    · cases isNew
      exact Nat.lt_succ_self _
    · exact Nat.lt_succ_of_lt (volume.numbered other number isOld)

/-- Replaces the content of a file at all locations at which it stands. -/
def replace (volume : Volume) (number : Nat) (content : ByteArray) :
    Volume where
  items := volume.items
  contents := volume.contents.set number content
  workingDirectory := volume.workingDirectory
  numbered := by
    intro other held member
    rw [List.length_set]
    exact volume.numbered other held member

/-- How far names lead: to a location, of which nothing but the last name may
be missing, or to a link with names behind it. -/
inductive Passage where
  | arrived (location : Location)
  | stopped (location : Location) (target : String) (later : List String)
  deriving DecidableEq

/-- Goes along names up to the first link. -/
def pass (volume : Volume) : Location → List String → Except FileFault Passage
  | location, [] => .ok (.arrived location)
  | location, name :: later =>
      if !volume.isDirectoryAt location then .error .notDirectory
      else if name = "." then volume.pass location later
      else if name = ".." then volume.pass location.dropLast later
      else if FileSystem.isTooLong name then .error .nameTooLong
      else
        match volume.find? (location ++ [name]) with
        | none =>
            if later.isEmpty then .ok (.arrived (location ++ [name]))
            else .error .notFound
        | some (.link target) =>
            .ok (.stopped (location ++ [name]) target later)
        | some _ => volume.pass (location ++ [name]) later

/-- The names that a link stands for.  A slash at the end of a target needs a
directory there. -/
def targetNames (target : String) : List String :=
  segments target ++ if endsInSlash target then ["."] else []

/-- The location from which the target of a link is followed. -/
def linkStart (location : Location) (target : String) : Location :=
  if isAbsolute target then [] else location.dropLast

def tooManyLinks : FileFault :=
  .other "Too many levels of symbolic links (os error 40)"

/-- The location to which names lead through at most the given number of
links.  A link behind which there are no names may be left as it is. -/
def follow (volume : Volume) (toTheEnd : Bool) :
    Nat → Location → List String → Except FileFault Location
  | links, start, names =>
      match volume.pass start names with
      | .error fault => .error fault
      | .ok (.arrived location) => .ok location
      | .ok (.stopped location target later) =>
          if later.isEmpty && !toTheEnd then .ok location
          else
            match links with
            | 0 => .error tooManyLinks
            | links + 1 =>
                volume.follow toTheEnd links (linkStart location target)
                  (targetNames target ++ later)

/-- A path leads through at most this many links. -/
def maximalLinks : Nat := 40

/-- The location to which a path leads, where the last name may be missing. -/
def locate (volume : Volume) (toTheEnd : Bool) (path : String) :
    Except FileFault Location :=
  match FileSystem.pathFault? path with
  | some fault => .error fault
  | none =>
      let start := if isAbsolute path then [] else volume.workingDirectory
      volume.follow toTheEnd maximalLinks start (segments path)

/-- The number of the file to which a path leads. -/
def fileAt? (volume : Volume) (path : String) : Option Nat :=
  match volume.locate true path with
  | .error _ => none
  | .ok location =>
      match volume.find? location with
      | some (.file number) => some number
      | _ => none

def isDirectory (volume : Volume) (path : String) : Bool :=
  match volume.locate true path with
  | .ok location => volume.isDirectoryAt location
  | .error _ => false

/-- A link is in the way of a directory, wherever it leads. -/
def createDirectory (volume : Volume) (path : String) :
    Except FileFault Volume :=
  match volume.locate false path with
  | .error fault => .error fault
  | .ok location =>
      if (volume.find? location).isSome then .error .alreadyExists
      else .ok (volume.addDirectory location)

/-- Replaces the file to which a path leads, or creates it where a link or the
path itself leads to a free place. -/
def write (volume : Volume) (path : String) (content : ByteArray) :
    Except FileFault Volume :=
  match volume.locate true path with
  | .error fault => .error fault
  | .ok location =>
      if endsInSlash path then .error .isDirectory
      else
        match volume.find? location with
        | some (.file number) => .ok (volume.replace number content)
        | none => .ok (volume.addFile location content)
        | some _ => .error .isDirectory

def read (volume : Volume) (path : String) : Except FileFault ByteArray :=
  match volume.locate true path with
  | .error fault => .error fault
  | .ok location =>
      match volume.find? location with
      | some (.file number) =>
          if endsInSlash path then .error .notDirectory
          else .ok (volume.content number)
      | some .directory => .error .isDirectory
      | _ => .error .notFound

end Volume

instance : Store (StateM Volume) where
  isDirectory path volume := (volume.isDirectory path, volume)
  createDirectory path volume :=
    changed volume (volume.createDirectory path)
  write path content volume := changed volume (volume.write path content)
  read path volume := (volume.read path, volume)

/-- What happens to a request.  A write that is broken off has opened its file
and has written a number of bytes, but not all of them. -/
inductive Condition where
  | granted
  | refused (fault : FileFault)
  | brokenOff (written : Nat) (fault : FileFault)

/-- The conditions meet the requests one by one.  Requests behind the last
condition are granted. -/
structure Drive where
  volume : Volume
  conditions : List Condition

namespace Drive

def condition (drive : Drive) : Condition :=
  drive.conditions.headD .granted

/-- The drive after a request that has left a volume. -/
def leaving (drive : Drive) (volume : Volume) : Drive where
  volume
  conditions := drive.conditions.tail

/-- The fault of a request that is not granted.  Only a write can be broken
off and have an effect; other requests then have none. -/
def fault? (drive : Drive) : Option FileFault :=
  match drive.condition with
  | .granted => none
  | .refused fault | .brokenOff _ fault => some fault

def isDirectory (drive : Drive) (path : String) : Bool :=
  drive.fault?.isNone && drive.volume.isDirectory path

def createDirectory (drive : Drive) (path : String) :
    Except FileFault Volume :=
  match drive.fault? with
  | some fault => .error fault
  | none => drive.volume.createDirectory path

def read (drive : Drive) (path : String) : Except FileFault ByteArray :=
  match drive.fault? with
  | some fault => .error fault
  | none => drive.volume.read path

/-- The outcome of a write and the volume after it. -/
def write (drive : Drive) (path : String) (content : ByteArray) :
    Except FileFault Unit × Volume :=
  match drive.condition with
  | .granted => changed drive.volume (drive.volume.write path content)
  | .refused fault => (.error fault, drive.volume)
  | .brokenOff written fault =>
      if written < content.size then
        match changed drive.volume
            (drive.volume.write path (content.extract 0 written)) with
        | (.ok (), volume) => (.error fault, volume)
        | failed => failed
      else changed drive.volume (drive.volume.write path content)

end Drive

instance : Store (StateM Drive) where
  isDirectory path drive :=
    (drive.isDirectory path, drive.leaving drive.volume)
  createDirectory path drive :=
    let (outcome, volume) :=
      changed drive.volume (drive.createDirectory path)
    (outcome, drive.leaving volume)
  write path content drive :=
    let (outcome, volume) := drive.write path content
    (outcome, drive.leaving volume)
  read path drive := (drive.read path, drive.leaving drive.volume)

end BgpTestbed.Files
