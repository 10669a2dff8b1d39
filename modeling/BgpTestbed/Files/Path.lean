/-!
# Paths

A path is a text.  Joining paths leaves dots alone; what `..` means is decided
only by the directories through which a path leads.
-/

namespace BgpTestbed.Files

def isAbsolute (path : String) : Bool :=
  path.toList.head? == some '/'

def endsInSlash (path : String) : Bool :=
  path.toList.getLast? == some '/'

/-- An absolute path replaces the path that it is joined to. -/
def joinPath (base path : String) : String :=
  if isAbsolute path then path
  else if base.isEmpty || endsInSlash base then base ++ path
  else base ++ "/" ++ path

/-- The parts of a path between its slashes, of which some may be empty. -/
def slashParts : List Char → List (List Char)
  | [] => [[]]
  | character :: later =>
      if character = '/' then [] :: slashParts later
      else
        match slashParts later with
        | [] => [[character]]
        | part :: parts => (character :: part) :: parts

/-- The names in a path from left to right. -/
def segments (path : String) : List String :=
  ((slashParts path.toList).filter (!·.isEmpty)).map String.ofList

/-- Drops slashes and dots that stand as names of their own from the end of a
path, which is given in reverse. -/
def trimEnd : List Char → List Char
  | '/' :: above => trimEnd above
  | '.' :: '/' :: above => trimEnd above
  | path => path

/-- Whether a reversed path ends in a name other than a dot.  A dot in front
of everything counts as a name. -/
def endsInName : List Char → Bool
  | [] | '/' :: _ | '.' :: '/' :: _ => false
  | _ => true

/-- The reversed paths that lead to the directories above, the nearest
first. -/
def pathsAbove : List Char → List (List Char)
  | [] => []
  | character :: above =>
      if character = '/' && endsInName above then above :: pathsAbove above
      else pathsAbove above

/-- The path itself and those of the directories above it, as far as names go.
Each is a part of the path as it stands, and is thus no longer than it. -/
def ancestors (path : String) : List String :=
  if path.isEmpty then []
  else
    path :: (pathsAbove (trimEnd path.toList.reverse)).map fun above =>
      String.ofList above.reverse

end BgpTestbed.Files
