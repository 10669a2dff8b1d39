import BgpTestbed.Files.FileSystem

/-!
# The last name of a path

A path that ends in something other than a slash leads to an entry whose name
ends in the same character, whatever stands in front of it and wherever the
names in front lead.
-/

namespace BgpTestbed.Files

theorem slashParts_eq_splitOn (text : List Char) :
    slashParts text = text.splitOn '/' := by
  induction text with
  | nil => rfl
  | cons character later ih =>
      rw [List.splitOn, List.splitOnP_cons_eq_if_modifyHead, ← List.splitOn,
        slashParts, ih]
      simp only [beq_iff_eq]
      split
      · rfl
      · cases parts : later.splitOn '/' with
        | nil => exact absurd parts (List.splitOn_ne_nil _ _)
        | cons part others => rfl

private theorem slashParts_ne_nil (text : List Char) : slashParts text ≠ [] := by
  rw [slashParts_eq_splitOn]
  exact List.splitOn_ne_nil _ _

/-- The last part ends as the text does. -/
private theorem getLast?_slashParts {text : List Char} {character : Char}
    (ends : text.getLast? = some character) (notSlash : character ≠ '/') :
    ∃ last, (slashParts text).getLast? = some last ∧
      last.getLast? = some character := by
  induction text with
  | nil => cases ends
  | cons first later ih =>
      cases later with
      | nil =>
          have same : first = character := by simpa using ends
          subst same
          refine ⟨[first], ?_, rfl⟩
          simp [slashParts, notSlash]
      | cons second behind =>
          rw [List.getLast?_cons_cons] at ends
          obtain ⟨last, isLast, endsLast⟩ := ih ends
          rw [slashParts]
          split
          · refine ⟨last, ?_, endsLast⟩
            rw [List.getLast?_cons, isLast]
            rfl
          · split
            case h_1 noParts => exact absurd noParts (slashParts_ne_nil _)
            case h_2 part parts isParts =>
              rw [isParts] at isLast
              cases parts with
              | nil =>
                  have same : part = last := by simpa using isLast
                  subst same
                  refine ⟨first :: part, rfl, ?_⟩
                  rw [List.getLast?_cons, endsLast]
                  rfl
              | cons next others =>
                  rw [List.getLast?_cons_cons] at isLast
                  exact ⟨last, by rwa [List.getLast?_cons_cons], endsLast⟩

theorem getLast?_segments {path : String} {character : Char}
    (ends : path.toList.getLast? = some character)
    (notSlash : character ≠ '/') :
    ∃ last, (segments path).getLast? = some last ∧
      last.toList.getLast? = some character := by
  obtain ⟨last, isLast, endsLast⟩ := getLast?_slashParts ends notSlash
  refine ⟨String.ofList last, ?_, by rwa [String.toList_ofList]⟩
  obtain ⟨front, parts⟩ := List.getLast?_eq_some_iff.mp isLast
  have notEmpty : (!last.isEmpty) = true := by
    cases last with
    | nil => cases endsLast
    | cons first later => rfl
  rw [segments, parts, List.filter_append, List.map_append]
  simp [notEmpty]

/-- A path that does not end in a dot ends in a name that is no dots. -/
theorem exists_lastName {path : String} {character : Char}
    (ends : path.toList.getLast? = some character)
    (notSlash : character ≠ '/') (notDot : character ≠ '.') :
    ∃ last, (segments path).getLast? = some last ∧ last ≠ "." ∧
      last ≠ ".." := by
  obtain ⟨last, isLast, endsLast⟩ := getLast?_segments ends notSlash
  refine ⟨last, isLast, ?_, ?_⟩
  all_goals
    rintro rfl
    exact notDot (Option.some.inj endsLast).symm

theorem getLast?_joinPath (base : String) {name : String} {character : Char}
    (ends : name.toList.getLast? = some character) :
    (joinPath base name).toList.getLast? = some character := by
  rw [joinPath]
  split
  · exact ends
  · split
    · rw [String.toList_append, List.getLast?_append, ends]
      rfl
    · rw [String.toList_append, List.getLast?_append, ends]
      rfl

/-- Paths that end in different characters have different last names. -/
theorem getLast?_segments_ne {first second : String}
    {firstEnd secondEnd : Char}
    (endsFirst : first.toList.getLast? = some firstEnd)
    (endsSecond : second.toList.getLast? = some secondEnd)
    (firstNotSlash : firstEnd ≠ '/') (secondNotSlash : secondEnd ≠ '/')
    (different : firstEnd ≠ secondEnd) :
    (segments first).getLast? ≠ (segments second).getLast? := by
  obtain ⟨firstName, isFirst, firstNameEnds⟩ :=
    getLast?_segments endsFirst firstNotSlash
  obtain ⟨secondName, isSecond, secondNameEnds⟩ :=
    getLast?_segments endsSecond secondNotSlash
  intro same
  rw [isFirst, isSecond, Option.some.injEq] at same
  rw [same, secondNameEnds, Option.some.injEq] at firstNameEnds
  exact different firstNameEnds.symm

namespace FileSystem

/-- A step along a name that is not made of dots appends it. -/
theorem step_eq_ok {files : FileSystem} {start location : Location}
    {name : String} (notDot : name ≠ ".") (notDots : name ≠ "..")
    (steps : files.step start name = .ok location) :
    location = start ++ [name] := by
  rw [step, if_neg notDot, if_neg notDots] at steps
  split at steps
  · cases steps
  split at steps
  · cases steps
  split at steps
  · cases steps
    rfl
  · cases steps

theorem getLast?_target? {files : FileSystem} {path : String}
    {location : Location}
    (targets : files.target? path = .ok (some location)) :
    location.getLast? = (segments path).getLast? := by
  rw [target?] at targets
  cases fault : pathFault? path with
  | some fault' =>
      rw [fault] at targets
      cases targets
  | none =>
      cases isLast : (segments path).getLast? with
      | none =>
          rw [fault, isLast] at targets
          cases targets
      | some last =>
          rw [fault, isLast] at targets
          simp only at targets
          split at targets
          · cases targets
          split at targets
          · cases targets
          split at targets
          · cases targets
          split at targets
          · cases targets
          · cases targets
            rw [List.getLast?_concat]

end FileSystem

end BgpTestbed.Files
