import BgpTestbed.Proofs.Files.Placement

/-!
# Paths resolved by their names alone

Without links, the names in a path decide where it leads; the entries on the
way decide only whether it leads anywhere.  Names other than dots lead into the
directory from which they start, different paths of such names to different
places.
-/

namespace BgpTestbed.Files

/-- Where a name leads from a location. -/
def Location.child (location : Location) (name : String) : Location :=
  if name = "." then location
  else if name = ".." then location.dropLast
  else location ++ [name]

/-- Where names lead from a location, one after the other. -/
def Location.along (start : Location) (names : List String) : Location :=
  names.foldl Location.child start

theorem Location.along_append (start : Location) (front back : List String) :
    start.along (front ++ back) = (start.along front).along back :=
  List.foldl_append

theorem Location.along_of_noDots (start : Location) {names : List String}
    (noDots : ∀ name ∈ names, name ≠ "." ∧ name ≠ "..") :
    start.along names = start ++ names := by
  induction names generalizing start with
  | nil => exact (List.append_nil start).symm
  | cons name later ih =>
      obtain ⟨⟨notDot, notDots⟩, noDotsLater⟩ :=
        List.forall_mem_cons.mp noDots
      have isChild : start.child name = start ++ [name] := by
        rw [Location.child, if_neg notDot, if_neg notDots]
      have isLater := ih (start.child name) noDotsLater
      rw [Location.along, List.foldl_cons]
      rw [Location.along, isChild] at isLater
      rw [isChild, isLater, List.append_assoc, List.singleton_append]

namespace FileSystem

variable {files : FileSystem} {start location : Location}

theorem step_eq_child {name : String}
    (steps : files.step start name = .ok location) :
    location = start.child name := by
  rw [Location.child]
  split
  case isTrue isDot =>
    rw [step, if_pos isDot] at steps
    split at steps
    · cases steps
    · exact (Except.ok.inj steps).symm
  case isFalse notDot =>
    split
    case isTrue isDots =>
      rw [step, if_neg notDot, if_pos isDots] at steps
      split at steps
      · cases steps
      · exact (Except.ok.inj steps).symm
    case isFalse notDots => exact step_eq_ok notDot notDots steps

theorem walk_eq_along {names : List String}
    (walks : files.walk start names = .ok location) :
    location = start.along names := by
  induction names generalizing start with
  | nil => exact (Except.ok.inj walks).symm
  | cons name later ih =>
      rw [walk] at walks
      cases steps : files.step start name with
      | error fault =>
          rw [steps] at walks
          cases walks
      | ok following =>
          rw [steps] at walks
          have isChild := step_eq_child steps
          subst isChild
          exact ih walks

theorem locate_eq_along {path : String}
    (locates : files.locate path = .ok location) :
    location = (files.startOf path).along (segments path) := by
  rw [locate] at locates
  split at locates
  · cases locates
  · exact walk_eq_along locates

/-- A relative name goes on from the directory that it is joined to. -/
theorem locate_joinPath {base name : String} {parent : Location}
    (relative : isAbsolute name = false)
    (follows : files.follow base = .ok parent)
    (locates : files.locate (joinPath base name) = .ok location) :
    location = parent.along (segments name) := by
  have isParent : parent = (files.startOf base).along (segments base) :=
    walk_eq_along follows
  have sameStart : files.startOf (joinPath base name) = files.startOf base := by
    rw [startOf, startOf, isAbsolute_joinPath base relative]
  rw [locate_eq_along locates, sameStart,
    segments_joinPath_of_relative base relative, Location.along_append,
    isParent]

end FileSystem

/-- A path that goes down by one name after the other: it does not start at the
root, and no part of it is empty or made of dots. -/
def Descends (path : String) : Prop :=
  ∀ part ∈ slashParts path.toList, IsFileName (String.ofList part)

theorem IsFileName.descends {name : String} (isName : IsFileName name) :
    Descends name := by
  rw [Descends, slashParts_eq_splitOn,
    List.splitOn_eq_singleton isName.noSlash]
  intro part member
  rw [List.mem_singleton.mp member, String.ofList_toList]
  exact isName

namespace Descends

variable {path : String}

theorem segments_eq (descends : Descends path) :
    segments path = (slashParts path.toList).map String.ofList := by
  rw [segments, List.filter_eq_self.mpr]
  intro part member
  have notEmpty := (descends part member).notEmpty
  rw [String.toList_ofList] at notEmpty
  simpa using notEmpty

theorem isRelative (descends : Descends path) : isAbsolute path = false := by
  refine Bool.of_not_eq_true fun absolute => ?_
  rw [isAbsolute, beq_iff_eq, List.head?_eq_some_iff] at absolute
  obtain ⟨later, chars⟩ := absolute
  have isPart : [] ∈ slashParts path.toList := by
    rw [chars, slashParts, if_pos rfl]
    exact List.mem_cons_self
  exact (descends [] isPart).notEmpty rfl

theorem along_segments (descends : Descends path) (start : Location) :
    start.along (segments path) = start ++ segments path := by
  apply Location.along_of_noDots
  intro name member
  rw [descends.segments_eq] at member
  obtain ⟨part, isPart, rfl⟩ := List.mem_map.mp member
  exact ⟨(descends part isPart).notDot, (descends part isPart).notDots⟩

theorem segments_inj {first second : String}
    (firstDescends : Descends first) (secondDescends : Descends second) :
    segments first = segments second ↔ first = second := by
  constructor
  · intro same
    rw [firstDescends.segments_eq, secondDescends.segments_eq,
      List.map_inj_right fun _ _ => String.ofList_inj.mp] at same
    rw [slashParts_eq_splitOn, slashParts_eq_splitOn] at same
    have sameText := congrArg (['/'].intercalate ·) same
    simp only [List.intercalate_splitOn] at sameText
    exact String.toList_inj.mp sameText
  · rintro rfl
    rfl

end Descends

end BgpTestbed.Files
