import BgpTestbed.Proofs.Files.Placement

/-!
# Where paths arrive

A path is followed to the end of its names, of which only the last one may be
missing.  What a request does is decided by the place where its path arrives,
and where directories stand in directories it does not matter whether the last
name is a dot.
-/

namespace BgpTestbed.Files

namespace FileSystem

variable {files : FileSystem}

/-- Directories stand in directories. -/
def IsTree (files : FileSystem) : Prop :=
  ∀ location, files.isDirectoryAt location = true →
    files.isDirectoryAt location.dropLast = true

/-- Where the last name of a path leads. -/
def lastStep (files : FileSystem) (parent : Location) (last : String) :
    Except FileFault Location :=
  if !files.isDirectoryAt parent then .error .notDirectory
  else if last = "." then .ok parent
  else if last = ".." then .ok parent.dropLast
  else if isTooLong last then .error .nameTooLong
  else .ok (parent ++ [last])

/-- The location to which a path leads, where the last name may be missing. -/
def arrival (files : FileSystem) (path : String) : Except FileFault Location :=
  match pathFault? path, (segments path).getLast? with
  | some fault, _ => .error fault
  | none, none => .ok (files.startOf path)
  | none, some last =>
      match files.walk (files.startOf path) (segments path).dropLast with
      | .error fault => .error fault
      | .ok parent => files.lastStep parent last

theorem isDirectoryAt_iff (location : Location) :
    files.isDirectoryAt location = true ↔
      files.find? location = some .directory := by
  rw [isDirectoryAt]
  cases files.find? location with
  | none => simp
  | some entry => cases entry <;> simp [Entry.isDirectory]

/-- A path without names leads to the root. -/
theorem startOf_of_noNames {path : String}
    (noFault : pathFault? path = none)
    (noNames : (segments path).getLast? = none) :
    files.startOf path = [] := by
  have absolute : isAbsolute path = true := by
    cases chars : path.toList with
    | nil =>
        have isEmpty : path = "" := String.toList_inj.mp chars
        subst isEmpty
        cases noFault
    | cons first later =>
        by_cases isSlash : first = '/'
        · simp [isAbsolute, chars, isSlash]
        · exfalso
          have isNil : segments path = [] := List.getLast?_eq_none_iff.mp noNames
          rw [segments, chars, slashParts, if_neg isSlash] at isNil
          split at isNil <;> cases isNil
  rw [startOf, if_pos absolute]

/-- What a path is to create, or that it leads to a directory. -/
theorem target?_cases (isTree : files.IsTree) (path : String) :
    (∃ fault, files.arrival path = .error fault ∧
      files.target? path = .error fault) ∨
    (∃ location, files.arrival path = .ok location ∧
      files.target? path = .ok none ∧
      files.isDirectoryAt location = true) ∨
    ∃ location, files.arrival path = .ok location ∧
      files.target? path = .ok (some location) ∧ location ≠ [] ∧
      files.isDirectoryAt location.dropLast = true := by
  rw [arrival, target?]
  cases noFault : pathFault? path with
  | some fault => exact .inl ⟨fault, rfl, rfl⟩
  | none =>
      cases noNames : (segments path).getLast? with
      | none =>
          rw [startOf_of_noNames noFault noNames]
          exact .inr (.inl ⟨[], rfl, rfl, rfl⟩)
      | some last =>
          simp only
          cases files.walk (files.startOf path) (segments path).dropLast with
          | error fault => exact .inl ⟨fault, rfl, rfl⟩
          | ok parent =>
              simp only [lastStep]
              cases isDirectory : files.isDirectoryAt parent with
              | false => exact .inl ⟨_, rfl, rfl⟩
              | true =>
                  by_cases isDot : last = "."
                  · refine .inr (.inl ⟨parent, ?_, ?_, isDirectory⟩) <;>
                      simp [isDot]
                  · by_cases isDots : last = ".."
                    · refine .inr (.inl ⟨parent.dropLast, ?_, ?_,
                        isTree parent isDirectory⟩) <;> simp [isDots]
                    · cases isLong : isTooLong last with
                      | true => exact .inl ⟨.nameTooLong, by simp [isDot, isDots],
                          by simp [isDot, isDots]⟩
                      | false =>
                          refine .inr (.inr ⟨parent ++ [last], ?_, ?_, ?_, ?_⟩)
                          · simp [isDot, isDots]
                          · simp [isDot, isDots]
                          · simp
                          · rwa [List.dropLast_concat]

theorem isSome_of_isDirectoryAt {location : Location}
    (isDirectory : files.isDirectoryAt location = true) :
    (files.find? location).isSome = true := by
  rw [(isDirectoryAt_iff location).mp isDirectory]
  rfl

/-- A step goes where a last name leads, if there is something. -/
theorem step_eq (isTree : files.IsTree) (start : Location) (name : String) :
    files.step start name =
      match files.lastStep start name with
      | .error fault => .error fault
      | .ok location =>
          if (files.find? location).isSome then .ok location
          else .error .notFound := by
  rw [step, lastStep]
  cases isDirectory : files.isDirectoryAt start with
  | false => rfl
  | true =>
      simp only [Bool.not_true, Bool.false_eq_true, ite_false]
      by_cases isDot : name = "."
      · simp [isDot, isSome_of_isDirectoryAt isDirectory]
      · by_cases isDots : name = ".."
        · simp [isDots, isSome_of_isDirectoryAt (isTree start isDirectory)]
        · simp only [isDot, isDots, ite_false]
          cases isTooLong name <;> rfl

/-- A path that can be followed to the end leads to where it arrives. -/
theorem locate_eq (isTree : files.IsTree) (path : String) :
    files.locate path =
      match files.arrival path with
      | .error fault => .error fault
      | .ok location =>
          if (files.find? location).isSome then .ok location
          else .error .notFound := by
  rw [arrival, locate]
  cases noFault : pathFault? path with
  | some fault => rfl
  | none =>
      cases lastName : (segments path).getLast? with
      | none =>
          rw [List.getLast?_eq_none_iff.mp lastName,
            startOf_of_noNames noFault lastName]
          rfl
      | some last =>
          obtain ⟨front, names⟩ := List.getLast?_eq_some_iff.mp lastName
          simp only [names, List.dropLast_concat]
          rw [walk_append]
          cases files.walk (files.startOf path) front with
          | error fault => rfl
          | ok parent =>
              simp only [walk, step_eq isTree]
              cases files.lastStep parent last with
              | error fault => rfl
              | ok location =>
                  simp only
                  cases (files.find? location).isSome <;> rfl

theorem createDirectory_eq (isTree : files.IsTree) (path : String) :
    files.createDirectory path =
      match files.arrival path with
      | .error fault => .error fault
      | .ok location =>
          if (files.find? location).isSome then .error .alreadyExists
          else .ok (files.put location .directory) := by
  rw [createDirectory]
  rcases files.target?_cases isTree path with ⟨fault, arrives, targets⟩ |
    ⟨location, arrives, targets, isDirectory⟩ | ⟨location, arrives, targets, _⟩
  · rw [arrives, targets]
  · simp only [arrives, targets, (isDirectoryAt_iff location).mp isDirectory]
    rfl
  · rw [arrives, targets]

theorem write_eq (isTree : files.IsTree) (path : String)
    (content : ByteArray) :
    files.write path content =
      match files.arrival path with
      | .error fault => .error fault
      | .ok location =>
          if endsInSlash path || files.isDirectoryAt location then
            .error .isDirectory
          else .ok (files.put location (.file content)) := by
  rw [write, writable]
  rcases files.target?_cases isTree path with ⟨fault, arrives, targets⟩ |
    ⟨location, arrives, targets, isDirectory⟩ | ⟨location, arrives, targets, _⟩
  · rw [arrives, targets]
    rfl
  · simp only [arrives, targets, isDirectory, Bool.or_true]
    rfl
  · rw [arrives, targets]
    simp only
    split <;> rfl

/-- A free place to which a path leads is in a directory. -/
theorem isDirectoryAt_dropLast_of_arrival (isTree : files.IsTree)
    {path : String} {location : Location}
    (arrives : files.arrival path = .ok location)
    (absent : files.find? location = none) :
    files.isDirectoryAt location.dropLast = true := by
  rcases files.target?_cases isTree path with ⟨fault, fails, _⟩ |
    ⟨other, leads, _, isDirectory⟩ | ⟨other, leads, _, _, isDirectory⟩
  · rw [arrives] at fails
    cases fails
  · rw [arrives] at leads
    cases leads
    rw [(isDirectoryAt_iff location).mp isDirectory] at absent
    cases absent
  · rw [arrives] at leads
    cases leads
    exact isDirectory

theorem isDirectoryAt_put {location : Location} (isNamed : location ≠ [])
    (entry : Entry) (other : Location) :
    (files.put location entry).isDirectoryAt other =
      if other = location then entry.isDirectory
      else files.isDirectoryAt other := by
  rw [isDirectoryAt, find?_put _ _ _ _ isNamed]
  split <;> rfl

/-- Directories still stand in directories if a new one is in a directory and
no old one is replaced by a file. -/
theorem IsTree.put (isTree : files.IsTree) {location : Location}
    (isNamed : location ≠ []) {entry : Entry}
    (inDirectory : entry.isDirectory = true →
      files.isDirectoryAt location.dropLast = true)
    (replacesNone : files.isDirectoryAt location = true →
      entry.isDirectory = true) :
    (files.put location entry).IsTree := by
  intro other isDirectory
  rw [isDirectoryAt_put isNamed] at isDirectory ⊢
  split
  case isTrue isAbove =>
    split at isDirectory
    case isTrue => exact isDirectory
    case isFalse =>
      have old := isTree other isDirectory
      rw [isAbove] at old
      exact replacesNone old
  case isFalse =>
    split at isDirectory
    case isTrue isHere =>
      rw [isHere]
      exact inDirectory isDirectory
    case isFalse => exact isTree other isDirectory

end FileSystem

end BgpTestbed.Files
