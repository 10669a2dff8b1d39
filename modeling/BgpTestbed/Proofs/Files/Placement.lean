import BgpTestbed.Proofs.Files.Growth
import BgpTestbed.Proofs.Files.LastNames

/-!
# Where files are placed

A path that joins a file name to the path of a directory leads to this name in
the directory, whatever dots and slashes the path of the directory has.
Whatever a path leads to stays there while files are written.
-/

namespace BgpTestbed.Files

/-- A name that stands for itself wherever it occurs in a path. -/
structure IsFileName (name : String) : Prop where
  noSlash : '/' ∉ name.toList
  notEmpty : name.toList ≠ []
  notDot : name ≠ "."
  notDots : name ≠ ".."

private theorem segments_of_noSlash {name : String}
    (noSlash : '/' ∉ name.toList) (notEmpty : name.toList ≠ []) :
    segments name = [name] := by
  simp [segments, slashParts_eq_splitOn, List.splitOn_eq_singleton noSlash,
    notEmpty]

private theorem segments_append (front back : String) :
    segments (front ++ "/" ++ back) = segments front ++ segments back := by
  have chars : (front ++ "/" ++ back).toList =
      front.toList ++ '/' :: back.toList := by
    simp
  simp only [segments, chars, slashParts_eq_splitOn,
    List.splitOn_append_cons_self, List.filter_append, List.map_append]

/-- A slash at the end makes no difference to the names in a path. -/
private theorem exists_front_of_endsInSlash {base : String}
    (ends : endsInSlash base = true) : ∃ front, base = front ++ "/" := by
  rw [endsInSlash, beq_iff_eq, List.getLast?_eq_some_iff] at ends
  obtain ⟨front, chars⟩ := ends
  refine ⟨String.ofList front, ?_⟩
  rw [← String.toList_inj, chars]
  simp

private theorem segments_of_endsInSlash (front : String) :
    segments (front ++ "/") = segments front := by
  have appended := segments_append front ""
  rw [String.append_empty] at appended
  rw [appended]
  simp [segments, slashParts]

theorem not_isAbsolute_of_noSlash {name : String}
    (noSlash : '/' ∉ name.toList) : isAbsolute name = false := by
  rw [isAbsolute, beq_eq_false_iff_ne]
  intro isSlash
  exact noSlash (List.mem_of_mem_head? isSlash)

/-- A relative name stands behind the path that it is joined to, which gets a
slash if it needs one. -/
private theorem joinPath_of_relative (base : String) {name : String}
    (relative : isAbsolute name = false) :
    joinPath base name =
      (if base.isEmpty || endsInSlash base then base else base ++ "/") ++
        name := by
  rw [joinPath, relative, if_neg Bool.false_ne_true]
  split <;> rfl

theorem segments_joinPath_of_relative (base : String) {name : String}
    (relative : isAbsolute name = false) :
    segments (joinPath base name) = segments base ++ segments name := by
  rw [joinPath_of_relative base relative]
  cases isEmpty : base.isEmpty with
  | true =>
      have same : base = "" := String.isEmpty_iff.mp isEmpty
      subst same
      rw [Bool.true_or, if_pos rfl, String.empty_append]
      rfl
  | false =>
      cases ends : endsInSlash base with
      | true =>
          obtain ⟨front, rfl⟩ := exists_front_of_endsInSlash ends
          rw [Bool.or_true, if_pos rfl, segments_append,
            segments_of_endsInSlash]
      | false =>
          rw [Bool.or_false, if_neg Bool.false_ne_true, segments_append]

theorem segments_joinPath (base : String) {name : String}
    (isName : IsFileName name) :
    segments (joinPath base name) = segments base ++ [name] := by
  rw [segments_joinPath_of_relative base
    (not_isAbsolute_of_noSlash isName.noSlash),
    segments_of_noSlash isName.noSlash isName.notEmpty]

theorem isAbsolute_joinPath (base : String) {name : String}
    (relative : isAbsolute name = false) :
    isAbsolute (joinPath base name) = isAbsolute base := by
  rw [joinPath_of_relative base relative]
  cases chars : base.toList with
  | nil =>
      have same : base = "" := String.toList_inj.mp chars
      subst same
      exact relative
  | cons first later =>
      split <;> simp [isAbsolute, chars]

/-- Relative names that are joined to one path give different paths. -/
theorem joinPath_inj (base : String) {first second : String}
    (firstRelative : isAbsolute first = false)
    (secondRelative : isAbsolute second = false) :
    joinPath base first = joinPath base second ↔ first = second := by
  rw [joinPath_of_relative base firstRelative,
    joinPath_of_relative base secondRelative, String.append_right_inj]

namespace FileSystem

variable {before after files : FileSystem} {spared : Location}

/-- Where the names in the path of a directory lead; a path without names
leads to where it starts. -/
def follow (files : FileSystem) (path : String) : Except FileFault Location :=
  files.walk (files.startOf path) (segments path)

theorem walk_append (start : Location) (front back : List String) :
    files.walk start (front ++ back) =
      match files.walk start front with
      | .error fault => .error fault
      | .ok location => files.walk location back := by
  induction front generalizing start with
  | nil => rfl
  | cons name later ih =>
      rw [List.cons_append, walk, walk]
      cases files.step start name with
      | error fault => rfl
      | ok location => exact ih location

/-- What it takes for a path to lead to a file that need not exist. -/
structure IsTarget (files : FileSystem) (path : String) (parent : Location)
    (last : String) : Prop where
  noFault : pathFault? path = none
  endsWith : (segments path).getLast? = some last
  walks : files.walk (files.startOf path) (segments path).dropLast = .ok parent
  isDirectory : files.isDirectoryAt parent = true
  notDot : last ≠ "."
  notDots : last ≠ ".."
  notLong : isTooLong last = false

theorem target?_eq_ok_iff (path : String) (location : Location) :
    files.target? path = .ok (some location) ↔
      ∃ parent last, files.IsTarget path parent last ∧
        location = parent ++ [last] := by
  constructor
  · intro targets
    rw [target?] at targets
    split at targets
    · cases targets
    · cases targets
    case h_3 last noFault endsWith =>
      split at targets
      · cases targets
      case h_2 parent walks =>
        split at targets
        · cases targets
        case isFalse isDirectory =>
          split at targets
          · cases targets
          case isFalse notDots =>
            split at targets
            · cases targets
            case isFalse notLong =>
              cases targets
              rw [not_or] at notDots
              exact ⟨parent, last, {
                noFault, endsWith, walks
                isDirectory := by simpa using isDirectory
                notDot := notDots.1
                notDots := notDots.2
                notLong := Bool.eq_false_iff.mpr notLong }, rfl⟩
  · rintro ⟨parent, last, target, rfl⟩
    rw [target?, target.noFault, target.endsWith]
    simp only [target.walks, target.isDirectory, target.notDot,
      target.notDots, target.notLong]
    rfl

/-- A target that exists is what the path leads to. -/
theorem locate_of_target? {path : String} {location : Location} {entry : Entry}
    (targets : files.target? path = .ok (some location))
    (found : files.find? location = some entry) :
    files.locate path = .ok location := by
  obtain ⟨parent, last, target, rfl⟩ :=
    (target?_eq_ok_iff path location).mp targets
  have names : segments path = (segments path).dropLast ++ [last] := by
    obtain ⟨front, isSplit⟩ := List.getLast?_eq_some_iff.mp target.endsWith
    rw [isSplit, List.dropLast_concat]
  have steps : files.step parent last = .ok (parent ++ [last]) := by
    rw [step, target.isDirectory, Bool.not_true, if_neg Bool.false_ne_true,
      if_neg target.notDot, if_neg target.notDots, target.notLong,
      if_neg Bool.false_ne_true, found]
    rfl
  rw [locate, target.noFault]
  simp only
  rw [names, walk_append, target.walks]
  simp only [walk, steps]

theorem Keeps.target? (keeps : before.Keeps spared after) {path : String}
    {location : Location}
    (targets : before.target? path = .ok (some location)) :
    after.target? path = .ok (some location) := by
  obtain ⟨parent, last, target, isPlace⟩ :=
    (target?_eq_ok_iff path location).mp targets
  have sameStart : after.startOf path = before.startOf path := by
    rw [startOf, startOf, keeps.workingDirectory]
  refine (target?_eq_ok_iff path location).mpr ⟨parent, last, {
    target with
    walks := ?_
    isDirectory := keeps.isDirectoryAt target.isDirectory }, isPlace⟩
  rw [sameStart]
  exact keeps.walk target.walks

/-- A file name that is joined to a directory leads into this directory. -/
theorem target?_joinPath {base name : String} {location : Location}
    (isName : IsFileName name)
    (targets : files.target? (joinPath base name) = .ok (some location)) :
    ∃ parent, files.follow base = .ok parent ∧ location = parent ++ [name] := by
  obtain ⟨parent, last, target, rfl⟩ := (target?_eq_ok_iff _ _).mp targets
  have names := segments_joinPath base isName
  have isLast : name = last := by
    simpa [names] using target.endsWith
  subst isLast
  have walks := target.walks
  rw [names, List.dropLast_concat, startOf,
    isAbsolute_joinPath base (not_isAbsolute_of_noSlash isName.noSlash)]
    at walks
  exact ⟨parent, walks, rfl⟩

theorem follow_joinPath {base name : String} {location : Location}
    (isName : IsFileName name)
    (follows : files.follow (joinPath base name) = .ok location) :
    ∃ parent, files.follow base = .ok parent ∧ location = parent ++ [name] := by
  rw [follow, segments_joinPath base isName, startOf,
    isAbsolute_joinPath base (not_isAbsolute_of_noSlash isName.noSlash),
    walk_append] at follows
  cases walks : files.follow base with
  | error fault =>
      rw [follow, startOf] at walks
      rw [walks] at follows
      cases follows
  | ok parent =>
      refine ⟨parent, rfl, ?_⟩
      rw [follow, startOf] at walks
      rw [walks] at follows
      simp only [walk] at follows
      cases steps : files.step parent name with
      | error fault =>
          rw [steps] at follows
          cases follows
      | ok child =>
          rw [steps] at follows
          cases follows
          exact step_eq_ok isName.notDot isName.notDots steps

/-- Adding directories changes no regular file. -/
theorem AddsDirectories.find?_file_iff
    (adds : before.AddsDirectories after) (location : Location)
    (content : ByteArray) :
    after.find? location = some (.file content) ↔
      before.find? location = some (.file content) := by
  constructor
  · intro found
    have isNamed : location ≠ [] := by
      rintro rfl
      cases found
    have isFile : (location, content) ∈ before.regularFiles := by
      rw [← adds.regularFiles]
      rw [find?, if_neg (by simpa using isNamed)] at found
      exact List.mem_filterMap.mpr ⟨_, mem_of_lookup_eq_some found, rfl⟩
    cases held : before.find? location with
    | none =>
        obtain ⟨⟨place, entry⟩, member, isEntry⟩ := List.mem_filterMap.mp isFile
        rw [find?, if_neg (by simpa using isNamed),
          lookup_eq_none_iff_not_mem] at held
        cases entry with
        | directory => cases isEntry
        | file held' =>
            cases isEntry
            exact absurd (List.mem_map_of_mem member) held
    | some entry =>
        obtain ⟨kept, foundKept, _, same⟩ :=
          (adds.keeps location).entries location entry held
        rw [← same rfl, ← foundKept, found]
  · intro found
    obtain ⟨kept, foundKept, _, same⟩ :=
      (adds.keeps location).entries location _ found
    rw [foundKept, same rfl]

end FileSystem

end BgpTestbed.Files
