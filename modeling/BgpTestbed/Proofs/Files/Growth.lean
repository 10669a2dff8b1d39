import BgpTestbed.Proofs.Files.Runs
import BgpTestbed.Proofs.NameMap

/-!
# How file systems grow

Directories that are created and files that are written leave every entry in
place and of its kind, so names that could be followed before lead to the same
location afterwards.
-/

namespace BgpTestbed.Files

namespace FileSystem

variable {before between after files : FileSystem} {spared : Location}

/-- Every entry keeps its place and its kind, and the spared one its
content. -/
structure Keeps (spared : Location) (before after : FileSystem) : Prop where
  workingDirectory : after.workingDirectory = before.workingDirectory
  entries : ∀ location entry, before.find? location = some entry →
    ∃ kept, after.find? location = some kept ∧
      kept.isDirectory = entry.isDirectory ∧
      (location = spared → kept = entry)

theorem Keeps.refl (spared : Location) (files : FileSystem) :
    files.Keeps spared files := by
  refine ⟨rfl, ?_⟩
  intro location entry found
  exact ⟨entry, found, rfl, fun _ => rfl⟩

theorem Keeps.trans (first : before.Keeps spared between)
    (second : between.Keeps spared after) : before.Keeps spared after := by
  refine ⟨second.workingDirectory.trans first.workingDirectory, ?_⟩
  intro location entry found
  obtain ⟨held, foundHeld, sameKind, sameHeld⟩ :=
    first.entries location entry found
  obtain ⟨kept, foundKept, keptKind, sameKept⟩ :=
    second.entries location held foundHeld
  refine ⟨kept, foundKept, keptKind.trans sameKind, ?_⟩
  intro isSpared
  exact (sameKept isSpared).trans (sameHeld isSpared)

theorem Keeps.isDirectoryAt (keeps : before.Keeps spared after)
    {location : Location} (isDirectory : before.isDirectoryAt location = true) :
    after.isDirectoryAt location = true := by
  obtain ⟨entry, found, kind⟩ := (Option.any_eq_true _ _).mp isDirectory
  obtain ⟨kept, foundKept, sameKind, _⟩ := keeps.entries location entry found
  rw [FileSystem.isDirectoryAt, foundKept, Option.any_some, sameKind]
  exact kind

theorem Keeps.step (keeps : before.Keeps spared after)
    {start location : Location} {name : String}
    (steps : before.step start name = .ok location) :
    after.step start name = .ok location := by
  cases isDirectory : before.isDirectoryAt start with
  | false => simp [FileSystem.step, isDirectory] at steps
  | true =>
      have stays := keeps.isDirectoryAt isDirectory
      rw [FileSystem.step, isDirectory] at steps
      rw [FileSystem.step, stays]
      simp only [Bool.not_true, Bool.false_eq_true, ite_false] at steps ⊢
      split at steps
      case isTrue isDot =>
        rw [if_pos isDot]
        exact steps
      case isFalse notDot =>
        rw [if_neg notDot]
        split at steps
        case isTrue isDots =>
          rw [if_pos isDots]
          exact steps
        case isFalse notDots =>
          rw [if_neg notDots]
          split at steps
          · cases steps
          case isFalse notLong =>
            rw [if_neg notLong]
            split at steps
            case isTrue isThere =>
              obtain ⟨entry, found⟩ := Option.isSome_iff_exists.mp isThere
              obtain ⟨kept, foundKept, _⟩ := keeps.entries _ entry found
              rw [foundKept]
              exact steps
            · cases steps

theorem Keeps.walk (keeps : before.Keeps spared after)
    {start location : Location} {names : List String}
    (walks : before.walk start names = .ok location) :
    after.walk start names = .ok location := by
  induction names generalizing start with
  | nil => exact walks
  | cons name later ih =>
      rw [FileSystem.walk] at walks ⊢
      cases steps : before.step start name with
      | error fault =>
          rw [steps] at walks
          cases walks
      | ok following =>
          rw [steps] at walks
          rw [keeps.step steps]
          exact ih walks

/-- The location of a file that can be read. -/
theorem read_eq_ok_iff (files : FileSystem) (path : String)
    (content : ByteArray) :
    files.read path = .ok content ↔
      endsInSlash path = false ∧ ∃ location,
        files.locate path = .ok location ∧
        files.find? location = some (.file content) := by
  rw [FileSystem.read]
  cases files.locate path with
  | error fault => simp
  | ok location =>
      simp only [Except.ok.injEq, exists_eq_left']
      cases files.find? location with
      | none => simp
      | some entry =>
          cases entry with
          | directory => simp
          | file held =>
              simp only [Option.some.injEq, Entry.file.injEq]
              cases endsInSlash path <;> simp

/-- An entry is put where there was none or one of the same kind. -/
private theorem keeps_of_put {location : Location} {entry : Entry}
    (isNamed : location ≠ [])
    (sameKind : ∀ held, files.find? location = some held →
      entry.isDirectory = held.isDirectory)
    (elsewhere : files.find? location = none ∨ location ≠ spared) :
    files.Keeps spared (files.put location entry) := by
  refine ⟨rfl, ?_⟩
  intro other held found
  rw [files.find?_put location other entry isNamed]
  by_cases same : other = location
  · subst same
    refine ⟨entry, if_pos rfl, sameKind held found, ?_⟩
    intro isSpared
    rcases elsewhere with absent | apart
    · rw [absent] at found
      cases found
    · exact absurd isSpared apart
  · exact ⟨held, by rw [if_neg same, found], rfl, fun _ => rfl⟩

private theorem ne_nil_of_find?_eq_none {location : Location}
    (absent : files.find? location = none) : location ≠ [] := by
  rintro rfl
  cases absent

private theorem regularFiles_put_directory {location : Location}
    (absent : files.find? location = none) :
    (files.put location .directory).regularFiles = files.regularFiles := by
  have isNamed := ne_nil_of_find?_eq_none absent
  have notFound : files.entries.lookup location = none := by
    simpa [find?, isNamed] using absent
  have unchanged : files.entries.filter (fun other => other.1 != location) =
      files.entries := by
    rw [List.filter_eq_self]
    intro entry member
    rw [bne_iff_ne]
    rintro rfl
    exact lookup_eq_none_iff_not_mem.mp notFound (List.mem_map_of_mem member)
  simp only [regularFiles, put, unchanged, List.filterMap_cons]

/-- Only directories are added. -/
structure AddsDirectories (before after : FileSystem) : Prop where
  regularFiles : after.regularFiles = before.regularFiles
  keeps : ∀ spared, before.Keeps spared after

theorem AddsDirectories.refl (files : FileSystem) :
    files.AddsDirectories files :=
  ⟨rfl, fun spared => .refl spared files⟩

theorem AddsDirectories.trans (first : before.AddsDirectories between)
    (second : between.AddsDirectories after) :
    before.AddsDirectories after := by
  constructor
  · exact second.regularFiles.trans first.regularFiles
  · intro spared
    exact (first.keeps spared).trans (second.keeps spared)

theorem addsDirectories_of_createDirectory {path : String}
    (creates : files.createDirectory path = .ok after) :
    files.AddsDirectories after := by
  rw [createDirectory] at creates
  split at creates
  · cases creates
  · cases creates
  case h_3 location _ =>
    split at creates
    · cases creates
    case isFalse notThere =>
      cases creates
      have absent : files.find? location = none :=
        Option.not_isSome_iff_eq_none.mp notThere
      refine ⟨regularFiles_put_directory absent, ?_⟩
      intro spared
      apply keeps_of_put (ne_nil_of_find?_eq_none absent)
      · intro held found
        rw [absent] at found
        cases found
      · exact .inl absent

private theorem addsDirectories_runOn (files : FileSystem) (path : String) :
    files.AddsDirectories
      (runOn files (Store.createDirectory path)).2 := by
  rw [runOn_createDirectory]
  cases creates : files.createDirectory path with
  | error fault => exact .refl files
  | ok after => exact addsDirectories_of_createDirectory creates

/-- Directories are made, and nothing else, also where this fails halfway. -/
theorem addsDirectories_createDirectories (files : FileSystem)
    (path : String) :
    files.AddsDirectories (runOn files (createDirectories path)).2 :=
  related_createAbove AddsDirectories .refl (fun _ _ _ => .trans)
    addsDirectories_runOn (fun files _ => .refl files) files (ancestors path)

/-- A write puts the file where the path leads, in place of no directory. -/
theorem write_eq_ok_iff (files after : FileSystem) (path : String)
    (content : ByteArray) :
    files.write path content = .ok after ↔
      endsInSlash path = false ∧ ∃ location,
        files.target? path = .ok (some location) ∧
        files.isDirectoryAt location = false ∧
        after = files.put location (.file content) := by
  rw [write, writable]
  cases files.target? path with
  | error fault => simp [Except.map]
  | ok target =>
      cases target with
      | none => simp [Except.map]
      | some location =>
          simp only [Except.ok.injEq, Option.some.injEq, exists_eq_left']
          cases endsInSlash path <;> cases files.isDirectoryAt location <;>
            simp [Except.map, eq_comm (a := after)]

theorem isNamed_of_not_isDirectoryAt {location : Location}
    (notDirectory : files.isDirectoryAt location = false) :
    location ≠ [] := by
  rintro rfl
  cases notDirectory

theorem keeps_of_put_file {location : Location} {content : ByteArray}
    (notDirectory : files.isDirectoryAt location = false)
    (elsewhere : location ≠ spared) :
    files.Keeps spared (files.put location (.file content)) := by
  refine keeps_of_put (isNamed_of_not_isDirectoryAt notDirectory) ?_
    (.inr elsewhere)
  intro held found
  rw [isDirectoryAt, found] at notDirectory
  exact notDirectory.symm

end FileSystem

end BgpTestbed.Files
