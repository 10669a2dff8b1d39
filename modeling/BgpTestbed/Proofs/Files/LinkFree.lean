import BgpTestbed.Proofs.Files.Arrivals
import BgpTestbed.Proofs.Files.Simulation
import BgpTestbed.Proofs.Files.Volumes

/-!
# Volumes without links

A volume without links is a file system: a path arrives at the same place in
both, or fails for the same reason, and no request tells them apart.  Every
file system whose directories stand in directories is such a volume.
-/

namespace BgpTestbed.Files

namespace Volume

/-- The entry that an item stands for; links are none. -/
def entry? (volume : Volume) : Item → Option Entry
  | .directory => some .directory
  | .file number => some (.file (volume.content number))
  | .link _ => none

/-- A volume without links has the same entries as a file system. -/
structure Represents (volume : Volume) (files : FileSystem) : Prop where
  workingDirectory : volume.workingDirectory = files.workingDirectory
  isLinkFree : volume.IsLinkFree
  isTree : files.IsTree
  entries : ∀ location,
    files.find? location = (volume.find? location).bind volume.entry?

namespace Represents

variable {volume : Volume} {files : FileSystem}
  (represents : volume.Represents files)
include represents

/-- There are no links at any location. -/
theorem found_cases (location : Location) :
    volume.find? location = none ∧ files.find? location = none ∨
      volume.find? location = some .directory ∧
        files.find? location = some .directory ∨
      ∃ number, volume.find? location = some (.file number) ∧
        files.find? location = some (.file (volume.content number)) := by
  rw [represents.entries]
  cases found : volume.find? location with
  | none => exact .inl ⟨rfl, rfl⟩
  | some item =>
      cases item with
      | directory => exact .inr (.inl ⟨rfl, rfl⟩)
      | file number => exact .inr (.inr ⟨number, rfl, rfl⟩)
      | link target =>
          exact absurd found (represents.isLinkFree.noLinks location target)

theorem isDirectoryAt_eq (location : Location) :
    volume.isDirectoryAt location = files.isDirectoryAt location := by
  rw [Volume.isDirectoryAt, FileSystem.isDirectoryAt]
  rcases represents.found_cases location with ⟨found, isEntry⟩ |
    ⟨found, isEntry⟩ | ⟨number, found, isEntry⟩
  all_goals rw [found, isEntry]
  all_goals rfl

/-- A name leads where it leads in the file system, and the names behind it
need something there. -/
theorem pass_cons (start : Location) (name : String) (later : List String) :
    volume.pass start (name :: later) =
      match files.lastStep start name with
      | .error fault => .error fault
      | .ok location =>
          if later.isEmpty || (files.find? location).isSome then
            volume.pass location later
          else .error .notFound := by
  have directory {location : Location}
      (isDirectory : files.isDirectoryAt location = true) :
      (later.isEmpty || (files.find? location).isSome) = true := by
    rw [FileSystem.isSome_of_isDirectoryAt isDirectory, Bool.or_true]
  rw [pass, FileSystem.lastStep, represents.isDirectoryAt_eq]
  cases isDirectory : files.isDirectoryAt start with
  | false => rfl
  | true =>
      simp only [Bool.not_true, Bool.false_eq_true, ite_false]
      by_cases isDot : name = "."
      · simp only [isDot, ite_true, directory isDirectory]
      · by_cases isDots : name = ".."
        · simp only [isDots, ite_true]
          simp [directory (represents.isTree start isDirectory)]
        · simp only [isDot, isDots, ite_false]
          cases FileSystem.isTooLong name with
          | true => rfl
          | false =>
              rcases represents.found_cases (start ++ [name]) with
                ⟨found, isEntry⟩ | ⟨found, isEntry⟩ | ⟨number, found, isEntry⟩
              · simp only [found, isEntry, Option.isSome_none, Bool.or_false,
                  Bool.false_eq_true, ite_false]
                cases later <;> rfl
              · simp [found, isEntry]
              · simp [found, isEntry]

/-- Names lead as far as in the file system. -/
theorem pass_concat (start : Location) (front : List String)
    (last : String) :
    volume.pass start (front ++ [last]) =
      match files.walk start front with
      | .error fault => .error fault
      | .ok parent => (files.lastStep parent last).map .arrived := by
  induction front generalizing start with
  | nil =>
      rw [List.nil_append, represents.pass_cons, FileSystem.walk]
      simp only
      cases files.lastStep start last <;> rfl
  | cons name later ih =>
      have notEmpty : (later ++ [last]).isEmpty = false := by simp
      rw [List.cons_append, represents.pass_cons, FileSystem.walk,
        FileSystem.step_eq represents.isTree, notEmpty]
      cases files.lastStep start name with
      | error fault => rfl
      | ok location =>
          simp only [Bool.false_or]
          cases (files.find? location).isSome with
          | false => rfl
          | true => exact ih location

theorem locate_eq (toTheEnd : Bool) (path : String) :
    volume.locate toTheEnd path = files.arrival path := by
  rw [locate, FileSystem.arrival]
  cases FileSystem.pathFault? path with
  | some fault => rfl
  | none =>
      simp only [represents.workingDirectory]
      rw [maximalLinks, follow]
      cases lastName : (segments path).getLast? with
      | none =>
          rw [List.getLast?_eq_none_iff.mp lastName]
          rfl
      | some last =>
          obtain ⟨front, names⟩ := List.getLast?_eq_some_iff.mp lastName
          rw [names, represents.pass_concat, List.dropLast_concat]
          simp only [FileSystem.startOf]
          cases files.walk _ front with
          | error fault => rfl
          | ok parent =>
              simp only
              cases files.lastStep parent last <;> rfl

theorem isDirectory_eq (path : String) :
    volume.isDirectory path = files.isDirectory path := by
  rw [isDirectory, FileSystem.isDirectory, represents.locate_eq,
    FileSystem.locate_eq represents.isTree]
  cases files.arrival path with
  | error fault => rfl
  | ok location =>
      simp only [represents.isDirectoryAt_eq]
      cases found : files.find? location with
      | none => simp [FileSystem.isDirectoryAt, found]
      | some entry => rfl

theorem read_eq (path : String) : volume.read path = files.read path := by
  rw [read, FileSystem.read, represents.locate_eq,
    FileSystem.locate_eq represents.isTree]
  cases files.arrival path with
  | error fault => rfl
  | ok location =>
      simp only
      rcases represents.found_cases location with ⟨found, isEntry⟩ |
        ⟨found, isEntry⟩ | ⟨number, found, isEntry⟩
      · rw [found, isEntry]
        rfl
      · simp [found, isEntry]
      · simp [found, isEntry]

theorem addDirectory {location : Location}
    (absent : volume.find? location = none)
    (inDirectory : files.isDirectoryAt location.dropLast = true) :
    (volume.addDirectory location).Represents
      (files.put location .directory) := by
  have isNamed := isNamed_of_find?_eq_none absent
  constructor
  case workingDirectory => exact represents.workingDirectory
  case isLinkFree =>
    have adds : volume.AddsDirectories (volume.addDirectory location) :=
      ⟨⟨[location], rfl⟩, rfl, grows_addDirectory absent⟩
    exact adds.isLinkFree represents.isLinkFree
  case isTree =>
    exact represents.isTree.put isNamed (fun _ => inDirectory) fun _ => rfl
  case entries =>
    intro other
    rw [FileSystem.find?_put _ _ _ _ isNamed, find?_addDirectory isNamed]
    split
    · rfl
    · exact represents.entries other

/-- What is written to a file is its entry, and the entries of other locations
stay. -/
theorem of_wrote {after : Volume} {location : Location} {number : Nat}
    {content : ByteArray} (isNamed : location ≠ [])
    (notDirectory : files.isDirectoryAt location = false)
    (workingDirectory : after.workingDirectory = volume.workingDirectory)
    (isLinkFree : after.IsLinkFree)
    (isFile : after.find? location = some (.file number))
    (holds : after.content number = content)
    (elsewhere : ∀ other, other ≠ location →
      after.find? other = volume.find? other)
    (keeps : ∀ other held, other ≠ location →
      volume.find? other = some (.file held) →
        after.content held = volume.content held) :
    after.Represents (files.put location (.file content)) := by
  constructor
  case workingDirectory =>
    exact workingDirectory.trans represents.workingDirectory
  case isLinkFree => exact isLinkFree
  case isTree =>
    refine represents.isTree.put isNamed nofun fun isDirectory => ?_
    rw [notDirectory] at isDirectory
    cases isDirectory
  case entries =>
    intro other
    rw [FileSystem.find?_put _ _ _ _ isNamed]
    split
    case isTrue isHere =>
      rw [isHere, isFile, ← holds]
      rfl
    case isFalse isOther =>
      rw [represents.entries, elsewhere other isOther]
      cases found : volume.find? other with
      | none => rfl
      | some item =>
          cases item with
          | directory => rfl
          | link target => rfl
          | file held =>
              have same := keeps other held isOther found
              simp only [Option.bind_some, entry?, same]

theorem addFile {location : Location}
    (absent : volume.find? location = none) (content : ByteArray) :
    (volume.addFile location content).Represents
      (files.put location (.file content)) := by
  have isNamed := isNamed_of_find?_eq_none absent
  have isFile : (volume.addFile location content).find? location =
      some (.file volume.contents.length) := by
    rw [find?_addFile isNamed, if_pos rfl]
  refine represents.of_wrote isNamed ?_ rfl
    (represents.isLinkFree.addFile absent content) isFile ?_ ?_ ?_
  · rw [← represents.isDirectoryAt_eq, isDirectoryAt, absent]
    rfl
  · simp [Volume.content, Volume.addFile]
  · intro other isOther
    rw [find?_addFile isNamed, if_neg isOther]
  · intro other held _ found
    simp [Volume.content, Volume.addFile, List.getD_eq_getElem?_getD,
      List.getElem?_append_left (lt_length_of_find? found)]

theorem replace {location : Location} {number : Nat}
    (isFile : volume.find? location = some (.file number))
    (content : ByteArray) :
    (volume.replace number content).Represents
      (files.put location (.file content)) := by
  have isHeld := lt_length_of_find? isFile
  refine represents.of_wrote ?_ ?_ rfl
    (represents.isLinkFree.replace number content) isFile ?_ (fun _ _ => rfl) ?_
  · rintro rfl
    cases isFile
  · rw [← represents.isDirectoryAt_eq, isDirectoryAt, isFile]
    rfl
  · simp [Volume.content, Volume.replace, List.getD_eq_getElem?_getD, isHeld]
  · intro other held isOther found
    have apart : number ≠ held := by
      rintro rfl
      exact isOther (represents.isLinkFree.singly _ _ _ found isFile)
    simp [Volume.content, Volume.replace, List.getD_eq_getElem?_getD,
      List.getElem?_set_ne apart]

end Represents

/-- Requests of directories, reading and writing do not tell a volume without
links from a file system. -/
theorem simulation : Simulation Represents where
  isDirectory path volume files represents :=
    ⟨represents.isDirectory_eq path, represents⟩
  read path volume files represents := ⟨represents.read_eq path, represents⟩
  createDirectory path volume files represents := by
    change (changed volume (volume.createDirectory path)).1 =
        (changed files (files.createDirectory path)).1 ∧
      (changed volume (volume.createDirectory path)).2.Represents
        (changed files (files.createDirectory path)).2
    rw [createDirectory, FileSystem.createDirectory_eq represents.isTree,
      represents.locate_eq]
    cases arrives : files.arrival path with
    | error fault => exact ⟨rfl, represents⟩
    | ok location =>
        simp only
        rcases represents.found_cases location with ⟨found, isEntry⟩ |
          ⟨found, isEntry⟩ | ⟨number, found, isEntry⟩
        · have inDirectory :=
            FileSystem.isDirectoryAt_dropLast_of_arrival represents.isTree
              arrives isEntry
          rw [found, isEntry]
          exact ⟨rfl, represents.addDirectory found inDirectory⟩
        · rw [found, isEntry]
          exact ⟨rfl, represents⟩
        · rw [found, isEntry]
          exact ⟨rfl, represents⟩
  write path content volume files represents := by
    change (changed volume (volume.write path content)).1 =
        (changed files (files.write path content)).1 ∧
      (changed volume (volume.write path content)).2.Represents
        (changed files (files.write path content)).2
    rw [write, FileSystem.write_eq represents.isTree, represents.locate_eq]
    cases arrives : files.arrival path with
    | error fault => exact ⟨rfl, represents⟩
    | ok location =>
        simp only
        cases endsInSlash path with
        | true => exact ⟨rfl, represents⟩
        | false =>
            rw [← represents.isDirectoryAt_eq, isDirectoryAt]
            rcases represents.found_cases location with ⟨found, -⟩ |
              ⟨found, -⟩ | ⟨number, found, -⟩
            · rw [found]
              exact ⟨rfl, represents.addFile found content⟩
            · rw [found]
              exact ⟨rfl, represents⟩
            · rw [found]
              exact ⟨rfl, represents.replace found content⟩

end Volume

/-- A drive that grants all requests, with a volume without links. -/
structure Drive.Represents (drive : Drive) (files : FileSystem) : Prop where
  granting : drive.conditions = []
  volume : drive.volume.Represents files

/-- Nor do requests tell a drive that grants them from a file system. -/
theorem Drive.simulation : Simulation Drive.Represents where
  isDirectory path := by
    rintro ⟨volume, _⟩ files ⟨rfl, represents⟩
    obtain ⟨same, later⟩ :=
      Volume.simulation.isDirectory path volume files represents
    exact ⟨same, rfl, later⟩
  createDirectory path := by
    rintro ⟨volume, _⟩ files ⟨rfl, represents⟩
    obtain ⟨same, later⟩ :=
      Volume.simulation.createDirectory path volume files represents
    exact ⟨same, rfl, later⟩
  write path content := by
    rintro ⟨volume, _⟩ files ⟨rfl, represents⟩
    obtain ⟨same, later⟩ :=
      Volume.simulation.write path content volume files represents
    exact ⟨same, rfl, later⟩
  read path := by
    rintro ⟨volume, _⟩ files ⟨rfl, represents⟩
    obtain ⟨same, later⟩ :=
      Volume.simulation.read path volume files represents
    exact ⟨same, rfl, later⟩

namespace Volume

/-- The item for an entry that stands at a position. -/
def itemOf (entry : Entry) (position : Nat) : Item :=
  match entry with
  | .directory => .directory
  | .file _ => .file position

/-- The content of a file; directories get an empty one. -/
def contentOf : Entry → ByteArray
  | .directory => ByteArray.empty
  | .file content => content

/-- Files have the numbers of their positions. -/
def itemsOf (entries : List (Location × Entry)) (start : Nat) :
    List (Location × Item) :=
  (entries.zipIdx start).map fun ((location, entry), position) =>
    (location, itemOf entry position)

theorem file_mem_itemsOf {entries : List (Location × Entry)}
    {location : Location} {number : Nat}
    (member : (location, .file number) ∈ itemsOf entries 0) :
    ∃ content, entries[number]? = some (location, .file content) := by
  obtain ⟨⟨⟨place, entry⟩, position⟩, isAt, same⟩ := List.mem_map.mp member
  have stands := List.mk_mem_zipIdx_iff_getElem?.mp isAt
  cases entry with
  | directory => cases same
  | file content =>
      cases same
      exact ⟨content, stands⟩

/-- The volume with the entries of a file system. -/
def ofFiles (files : FileSystem) : Volume where
  items := itemsOf files.entries 0
  contents := files.entries.map fun (_, entry) => contentOf entry
  workingDirectory := files.workingDirectory
  numbered := by
    intro location number member
    obtain ⟨content, stands⟩ := file_mem_itemsOf member
    rw [List.length_map]
    exact (List.getElem?_eq_some_iff.mp stands).1

/-- The first item at a location stands for the first entry there. -/
theorem lookup_itemsOf {volume : Volume}
    {entries : List (Location × Entry)} {start : Nat}
    (holds : ∀ index location content,
      entries[index]? = some (location, .file content) →
        volume.content (start + index) = content) (location : Location) :
    entries.lookup location =
      ((itemsOf entries start).lookup location).bind volume.entry? := by
  induction entries generalizing start with
  | nil => rfl
  | cons first later ih =>
      obtain ⟨place, entry⟩ := first
      have holdsLater : ∀ index other content,
          later[index]? = some (other, .file content) →
            volume.content (start + 1 + index) = content := by
        intro index other content isAt
        rw [Nat.add_right_comm]
        exact holds (index + 1) other content isAt
      rw [itemsOf, List.zipIdx_cons, List.map_cons, lookup_entry,
        lookup_entry]
      split
      · cases entry with
        | directory => rfl
        | file content =>
            have held := holds 0 place content rfl
            simp only [itemOf, Option.bind_some, entry?]
            rw [← held]
            rfl
      · exact ih holdsLater

theorem represents_ofFiles {files : FileSystem} (isTree : files.IsTree) :
    (ofFiles files).Represents files := by
  have isItem {location : Location} {item : Item}
      (found : (ofFiles files).find? location = some item)
      (notDirectory : item ≠ .directory) :
      (location, item) ∈ itemsOf files.entries 0 := by
    rw [find?] at found
    split at found
    · cases found
      exact absurd rfl notDirectory
    · exact mem_of_lookup_eq_some found
  constructor
  case workingDirectory => rfl
  case isLinkFree =>
    constructor
    · intro location target found
      obtain ⟨⟨⟨_, entry⟩, _⟩, _, same⟩ :=
        List.mem_map.mp (isItem found (by simp))
      cases entry <;> cases same
    · intro first second number foundFirst foundSecond
      obtain ⟨_, standsFirst⟩ :=
        file_mem_itemsOf (isItem foundFirst (by simp))
      obtain ⟨_, standsSecond⟩ :=
        file_mem_itemsOf (isItem foundSecond (by simp))
      rw [standsFirst] at standsSecond
      cases standsSecond
      rfl
  case isTree => exact isTree
  case entries =>
    intro location
    rw [FileSystem.find?, find?]
    split
    · rfl
    · refine lookup_itemsOf ?_ location
      intro index other content isAt
      simp [Volume.content, ofFiles, contentOf, isAt,
        List.getD_eq_getElem?_getD]

end Volume

namespace Drive

/-- The drive with the entries of a file system that grants all requests. -/
def ofFiles (files : FileSystem) : Drive where
  volume := .ofFiles files
  conditions := []

theorem represents_ofFiles {files : FileSystem} (isTree : files.IsTree) :
    (ofFiles files).Represents files :=
  ⟨rfl, Volume.represents_ofFiles isTree⟩

end Drive

end BgpTestbed.Files
