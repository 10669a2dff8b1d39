import BgpTestbed.Files.Volume
import BgpTestbed.Proofs.Files.LastNames
import BgpTestbed.Proofs.Files.Runs
import BgpTestbed.Proofs.NameMap

/-!
# How volumes grow

What is created or written leaves every item of a volume in place and adds no
links, so that a path leads to the same file as before.  A write changes the
content of one file, the one to which its path leads afterwards.  Without
links this is a file with the last name of the path.
-/

namespace BgpTestbed.Files

namespace Volume

variable {volume before between after : Volume}

/-- Every item keeps its place, and there are no new links. -/
structure Grows (before after : Volume) : Prop where
  workingDirectory : after.workingDirectory = before.workingDirectory
  items : ∀ location item, before.find? location = some item →
    after.find? location = some item
  links : ∀ location target, after.find? location = some (.link target) →
    before.find? location = some (.link target)
  contents : before.contents.length ≤ after.contents.length

theorem Grows.refl (volume : Volume) : volume.Grows volume :=
  ⟨rfl, fun _ _ => id, fun _ _ => id, Nat.le_refl _⟩

theorem Grows.trans (first : before.Grows between)
    (second : between.Grows after) : before.Grows after where
  workingDirectory := second.workingDirectory.trans first.workingDirectory
  items location item found :=
    second.items location item (first.items location item found)
  links location target found :=
    first.links location target (second.links location target found)
  contents := Nat.le_trans first.contents second.contents

theorem find?_addDirectory {location : Location} (isNamed : location ≠ [])
    (other : Location) :
    (volume.addDirectory location).find? other =
      if other = location then some .directory else volume.find? other := by
  by_cases same : other = location
  · subst same
    simp [find?, addDirectory, isNamed]
  · simp [find?, addDirectory, same, lookup_entry]

theorem find?_addFile {location : Location} (isNamed : location ≠ [])
    (content : ByteArray) (other : Location) :
    (volume.addFile location content).find? other =
      if other = location then some (.file volume.contents.length)
      else volume.find? other := by
  by_cases same : other = location
  · subst same
    simp [find?, addFile, isNamed]
  · simp [find?, addFile, same, lookup_entry]

theorem isNamed_of_find?_eq_none {location : Location}
    (absent : volume.find? location = none) : location ≠ [] := by
  rintro rfl
  cases absent

/-- An item that is no link is put where there was none. -/
private theorem grows_of_find? {location : Location} {item : Item}
    (absent : volume.find? location = none)
    (notLink : ∀ target, item ≠ .link target)
    (workingDirectory : after.workingDirectory = volume.workingDirectory)
    (contents : volume.contents.length ≤ after.contents.length)
    (finds : ∀ other, after.find? other =
      if other = location then some item else volume.find? other) :
    volume.Grows after where
  workingDirectory := workingDirectory
  contents := contents
  items other held found := by
    have apart : other ≠ location := by
      rintro rfl
      rw [absent] at found
      cases found
    rw [finds, if_neg apart, found]
  links other target found := by
    rw [finds] at found
    split at found
    · exact absurd (Option.some.inj found) (notLink target)
    · exact found

theorem grows_addDirectory {location : Location}
    (absent : volume.find? location = none) :
    volume.Grows (volume.addDirectory location) :=
  grows_of_find? absent (fun _ => Item.noConfusion) rfl (Nat.le_refl _)
    (find?_addDirectory (isNamed_of_find?_eq_none absent))

theorem grows_addFile {location : Location}
    (absent : volume.find? location = none) (content : ByteArray) :
    volume.Grows (volume.addFile location content) := by
  refine grows_of_find? absent (fun _ => Item.noConfusion) rfl ?_
    (find?_addFile (isNamed_of_find?_eq_none absent) content)
  rw [addFile, List.length_append]
  exact Nat.le_add_right _ _

theorem grows_replace (number : Nat) (content : ByteArray) :
    volume.Grows (volume.replace number content) := by
  refine ⟨rfl, fun _ _ => id, fun _ _ => id, ?_⟩
  exact Nat.le_of_eq List.length_set.symm

theorem Grows.isDirectoryAt (grows : before.Grows after)
    {location : Location} (isDirectory : before.isDirectoryAt location = true) :
    after.isDirectoryAt location = true := by
  obtain ⟨item, found, kind⟩ := (Option.any_eq_true _ _).mp isDirectory
  rw [Volume.isDirectoryAt, grows.items location item found]
  exact kind

/-- Names lead as far as before, also to a place that is no longer free. -/
theorem Grows.pass (grows : before.Grows after) {start : Location}
    {names : List String} {passage : Passage}
    (passes : before.pass start names = .ok passage) :
    after.pass start names = .ok passage := by
  induction names generalizing start with
  | nil => exact passes
  | cons name later ih =>
      cases isDirectory : before.isDirectoryAt start with
      | false => simp [Volume.pass, isDirectory] at passes
      | true =>
          have stays := grows.isDirectoryAt isDirectory
          rw [Volume.pass, isDirectory] at passes
          rw [Volume.pass, stays]
          simp only [Bool.not_true, Bool.false_eq_true, ite_false]
            at passes ⊢
          split at passes
          case isTrue isDot =>
            rw [if_pos isDot]
            exact ih passes
          case isFalse notDot =>
            rw [if_neg notDot]
            split at passes
            case isTrue isDots =>
              rw [if_pos isDots]
              exact ih passes
            case isFalse notDots =>
              rw [if_neg notDots]
              split at passes
              · cases passes
              case isFalse notLong =>
                rw [if_neg notLong]
                cases found : before.find? (start ++ [name]) with
                | none =>
                    rw [found] at passes
                    cases later with
                    | cons second behind => cases passes
                    | nil =>
                        cases passes
                        cases foundAfter : after.find? (start ++ [name]) with
                        | none => rfl
                        | some item =>
                            cases item with
                            | link target =>
                                have isOld := grows.links _ _ foundAfter
                                rw [found] at isOld
                                cases isOld
                            | directory => rfl
                            | file number => rfl
                | some item =>
                    rw [found] at passes
                    rw [grows.items _ item found]
                    cases item with
                    | link target => exact passes
                    | directory => exact ih passes
                    | file number => exact ih passes

theorem Grows.follow (grows : before.Grows after) {toTheEnd : Bool}
    {links : Nat} {start : Location} {names : List String}
    {location : Location}
    (follows : before.follow toTheEnd links start names = .ok location) :
    after.follow toTheEnd links start names = .ok location := by
  induction links generalizing start names with
  | zero =>
      rw [Volume.follow] at follows ⊢
      cases passes : before.pass start names with
      | error fault =>
          rw [passes] at follows
          cases follows
      | ok passage =>
          rw [passes] at follows
          rw [grows.pass passes]
          exact follows
  | succ links ih =>
      rw [Volume.follow] at follows ⊢
      cases passes : before.pass start names with
      | error fault =>
          rw [passes] at follows
          cases follows
      | ok passage =>
          rw [passes] at follows
          rw [grows.pass passes]
          cases passage with
          | arrived arrival => exact follows
          | stopped halt target later =>
              simp only at follows ⊢
              split at follows
              case isTrue isEnd =>
                rw [if_pos isEnd]
                exact follows
              case isFalse notEnd =>
                rw [if_neg notEnd]
                exact ih follows

theorem Grows.locate (grows : before.Grows after) {toTheEnd : Bool}
    {path : String} {location : Location}
    (locates : before.locate toTheEnd path = .ok location) :
    after.locate toTheEnd path = .ok location := by
  rw [Volume.locate] at locates ⊢
  cases fault : FileSystem.pathFault? path with
  | some fault' =>
      rw [fault] at locates
      cases locates
  | none =>
      rw [fault] at locates
      simp only [grows.workingDirectory]
      exact grows.follow locates

theorem fileAt?_eq_some_iff {path : String} {number : Nat} :
    volume.fileAt? path = some number ↔
      ∃ location, volume.locate true path = .ok location ∧
        volume.find? location = some (.file number) := by
  rw [fileAt?]
  cases volume.locate true path with
  | error fault => simp
  | ok location =>
      simp only [Except.ok.injEq, exists_eq_left']
      cases volume.find? location with
      | none => simp
      | some item => cases item <;> simp

theorem Grows.fileAt? (grows : before.Grows after) {path : String}
    {number : Nat} (isFile : before.fileAt? path = some number) :
    after.fileAt? path = some number := by
  obtain ⟨location, locates, found⟩ := fileAt?_eq_some_iff.mp isFile
  exact fileAt?_eq_some_iff.mpr
    ⟨location, grows.locate locates, grows.items _ _ found⟩

/-- The number of a file belongs to a content. -/
theorem lt_length_of_find? {location : Location} {number : Nat}
    (found : volume.find? location = some (.file number)) :
    number < volume.contents.length := by
  rw [find?] at found
  split at found
  · cases found
  · exact volume.numbered location number (mem_of_lookup_eq_some found)

theorem read_eq_ok_iff {path : String} {content : ByteArray} :
    volume.read path = .ok content ↔
      endsInSlash path = false ∧ ∃ number,
        volume.fileAt? path = some number ∧
          volume.content number = content := by
  rw [read, fileAt?]
  cases volume.locate true path with
  | error fault => simp
  | ok location =>
      simp only
      cases volume.find? location with
      | none => simp
      | some item =>
          cases item with
          | directory => simp
          | link target => simp
          | file number => cases endsInSlash path <;> simp

/-- What a write does: it replaces the content of the file to which its path
leads, or creates a file at the free place to which it leads. -/
inductive Wrote (volume : Volume) (path : String) (content : ByteArray) :
    Volume → Prop where
  | replaced {number : Nat} (isFile : volume.fileAt? path = some number) :
      Wrote volume path content (volume.replace number content)
  | created {location : Location}
      (locates : volume.locate true path = .ok location)
      (absent : volume.find? location = none) :
      Wrote volume path content (volume.addFile location content)

theorem wrote_of_write {path : String} {content : ByteArray}
    (writes : volume.write path content = .ok after) :
    volume.Wrote path content after := by
  rw [write] at writes
  cases locates : volume.locate true path with
  | error fault =>
      rw [locates] at writes
      cases writes
  | ok location =>
      rw [locates] at writes
      simp only at writes
      split at writes
      · cases writes
      · cases found : volume.find? location with
        | none =>
            rw [found] at writes
            cases writes
            exact .created locates found
        | some item =>
            rw [found] at writes
            cases item with
            | directory => cases writes
            | link target => cases writes
            | file number =>
                cases writes
                exact .replaced
                  (fileAt?_eq_some_iff.mpr ⟨location, locates, found⟩)

namespace Wrote

variable {path : String} {content : ByteArray}

theorem grows (wrote : volume.Wrote path content after) :
    volume.Grows after := by
  cases wrote with
  | replaced _ => exact grows_replace _ content
  | created _ absent => exact grows_addFile absent content

/-- Behind a write its path leads to a file, and all others that have been
there are as they were. -/
theorem exists_number (wrote : volume.Wrote path content after) :
    ∃ number, after.fileAt? path = some number ∧
      ∀ other, other ≠ number → other < volume.contents.length →
        after.content other = volume.content other := by
  have grown := wrote.grows
  cases wrote with
  | @replaced number isFile =>
      refine ⟨number, grown.fileAt? isFile, ?_⟩
      intro other apart _
      simp [Volume.content, replace, List.getD_eq_getElem?_getD,
        List.getElem?_set_ne apart.symm]
  | @created location locates absent =>
      refine ⟨volume.contents.length, ?_, ?_⟩
      · refine fileAt?_eq_some_iff.mpr ⟨location, grown.locate locates, ?_⟩
        rw [find?_addFile (isNamed_of_find?_eq_none absent), if_pos rfl]
      · intro other _ isOld
        simp [Volume.content, addFile, List.getD_eq_getElem?_getD,
          List.getElem?_append_left isOld]

end Wrote

/-- Writes to paths in order lead from one volume to another. -/
inductive WroteAll : List String → Volume → Volume → Prop where
  | nothing (volume : Volume) : WroteAll [] volume volume
  | next {path : String} {later : List String} {content : ByteArray}
      {before between after : Volume}
      (wrote : before.Wrote path content between)
      (continues : WroteAll later between after) :
      WroteAll (path :: later) before after

namespace WroteAll

variable {paths : List String}

theorem concat {path : String} {content : ByteArray}
    (wroteAll : WroteAll paths before between)
    (wrote : between.Wrote path content after) :
    WroteAll (paths ++ [path]) before after := by
  induction wroteAll with
  | nothing volume => exact .next wrote (.nothing after)
  | next first _ ih => exact .next first (ih wrote)

theorem grows (wroteAll : WroteAll paths before after) :
    before.Grows after := by
  induction wroteAll with
  | nothing volume => exact .refl volume
  | next wrote _ ih => exact wrote.grows.trans ih

/-- A file keeps its content if no path leads to it in the end. -/
theorem content_eq (wroteAll : WroteAll paths before after) {number : Nat}
    (isHeld : number < before.contents.length)
    (elsewhere : ∀ path ∈ paths, after.fileAt? path ≠ some number) :
    after.content number = before.content number := by
  induction wroteAll with
  | nothing volume => rfl
  | @next path later content before between after wrote continues ih =>
      obtain ⟨elsewhereHere, elsewhereLater⟩ :=
        List.forall_mem_cons.mp elsewhere
      obtain ⟨written, isFile, keepsOthers⟩ := wrote.exists_number
      have apart : number ≠ written := by
        rintro rfl
        exact elsewhereHere (continues.grows.fileAt? isFile)
      have stillHeld := Nat.lt_of_lt_of_le isHeld wrote.grows.contents
      exact (ih stillHeld elsewhereLater).trans
        (keepsOthers number apart isHeld)

end WroteAll

theorem runOn_writeText_eq_ok_iff {path text : String} :
    runOn volume (writeText path text) = (.ok (), after) ↔
      volume.write path text.toUTF8 = .ok after :=
  changed_eq_ok_iff

/-- Only directories are added. -/
structure AddsDirectories (before after : Volume) : Prop where
  items : ∃ added : List Location,
    after.items = added.map (·, .directory) ++ before.items
  contents : after.contents = before.contents
  grows : before.Grows after

theorem AddsDirectories.refl (volume : Volume) :
    volume.AddsDirectories volume :=
  ⟨⟨[], rfl⟩, rfl, .refl volume⟩

theorem AddsDirectories.trans (first : before.AddsDirectories between)
    (second : between.AddsDirectories after) :
    before.AddsDirectories after := by
  obtain ⟨added, itemsBetween⟩ := first.items
  obtain ⟨addedLater, itemsAfter⟩ := second.items
  refine ⟨⟨addedLater ++ added, ?_⟩,
    second.contents.trans first.contents, first.grows.trans second.grows⟩
  rw [itemsAfter, itemsBetween, List.map_append, List.append_assoc]

theorem AddsDirectories.regularFiles (adds : before.AddsDirectories after) :
    after.regularFiles = before.regularFiles := by
  obtain ⟨added, items⟩ := adds.items
  have sameContents : after.regularFile? = before.regularFile? := by
    funext ⟨location, item⟩
    cases item with
    | file number => simp only [regularFile?, content, adds.contents]
    | directory => rfl
    | link target => rfl
  have noFiles : (added.map (·, Item.directory)).filterMap
      before.regularFile? = [] := by
    rw [List.filterMap_map]
    exact List.filterMap_eq_nil_iff.mpr fun _ _ => rfl
  rw [Volume.regularFiles, Volume.regularFiles, items, sameContents,
    List.filterMap_append, noFiles, List.nil_append]

theorem addsDirectories_of_createDirectory {path : String}
    (creates : volume.createDirectory path = .ok after) :
    volume.AddsDirectories after := by
  rw [createDirectory] at creates
  split at creates
  · cases creates
  case h_2 location _ =>
    split at creates
    · cases creates
    case isFalse notThere =>
      cases creates
      have absent : volume.find? location = none :=
        Option.not_isSome_iff_eq_none.mp notThere
      exact ⟨⟨[location], rfl⟩, rfl, grows_addDirectory absent⟩

/-- What a path leads to is read as before if neither directories nor writes
go there. -/
theorem read_of_wroteAll {prepared : Volume} {paths : List String}
    {path : String} {content : ByteArray}
    (adds : before.AddsDirectories prepared)
    (wroteAll : WroteAll paths prepared after)
    (elsewhere : ∀ other ∈ paths,
      after.fileAt? other ≠ after.fileAt? path)
    (reads : before.read path = .ok content) :
    after.read path = .ok content := by
  obtain ⟨noSlash, number, isFile, holds⟩ := read_eq_ok_iff.mp reads
  have isPrepared := adds.grows.fileAt? isFile
  have isAfter := wroteAll.grows.fileAt? isPrepared
  obtain ⟨_, _, found⟩ := fileAt?_eq_some_iff.mp isPrepared
  refine read_eq_ok_iff.mpr ⟨noSlash, number, isAfter, ?_⟩
  rw [wroteAll.content_eq (lt_length_of_find? found), ← holds,
    Volume.content, Volume.content, adds.contents]
  intro other member
  rw [← isAfter]
  exact elsewhere other member

/-- No path leads through a link, and every file stands at one location. -/
structure IsLinkFree (volume : Volume) : Prop where
  noLinks : ∀ location target, volume.find? location ≠ some (.link target)
  singly : ∀ first second number,
    volume.find? first = some (.file number) →
    volume.find? second = some (.file number) → first = second

theorem AddsDirectories.isLinkFree (adds : before.AddsDirectories after)
    (isLinkFree : before.IsLinkFree) : after.IsLinkFree := by
  obtain ⟨added, items⟩ := adds.items
  have areOld (location : Location) (number : Nat)
      (found : after.find? location = some (.file number)) :
      before.find? location = some (.file number) := by
    rw [find?] at found ⊢
    split at found
    · cases found
    case isFalse isNamed =>
      rw [if_neg isNamed]
      rw [items, List.lookup_append] at found
      cases isAdded : (added.map (·, Item.directory)).lookup location with
      | none =>
          rw [isAdded] at found
          exact found
      | some item =>
          obtain ⟨_, _, same⟩ :=
            List.mem_map.mp (mem_of_lookup_eq_some isAdded)
          cases same
          rw [isAdded] at found
          cases found
  constructor
  · intro location target found
    exact isLinkFree.noLinks location target (adds.grows.links _ _ found)
  · intro first second number foundFirst foundSecond
    exact isLinkFree.singly first second number
      (areOld first number foundFirst) (areOld second number foundSecond)

theorem IsLinkFree.addFile (isLinkFree : volume.IsLinkFree)
    {location : Location} (absent : volume.find? location = none)
    (content : ByteArray) : (volume.addFile location content).IsLinkFree := by
  have isNamed := isNamed_of_find?_eq_none absent
  constructor
  · intro other target found
    exact isLinkFree.noLinks other target
      ((grows_addFile absent content).links _ _ found)
  · intro first second number foundFirst foundSecond
    rw [find?_addFile isNamed] at foundFirst foundSecond
    split at foundFirst <;> split at foundSecond
    case isTrue.isTrue isFirst isSecond => rw [isFirst, isSecond]
    case isTrue.isFalse =>
      cases foundFirst
      exact absurd (lt_length_of_find? foundSecond) (Nat.lt_irrefl _)
    case isFalse.isTrue =>
      cases foundSecond
      exact absurd (lt_length_of_find? foundFirst) (Nat.lt_irrefl _)
    case isFalse.isFalse =>
      exact isLinkFree.singly first second number foundFirst foundSecond

theorem IsLinkFree.replace (isLinkFree : volume.IsLinkFree) (number : Nat)
    (content : ByteArray) : (volume.replace number content).IsLinkFree :=
  ⟨isLinkFree.noLinks, isLinkFree.singly⟩

theorem Wrote.isLinkFree {path : String} {content : ByteArray}
    (wrote : volume.Wrote path content after)
    (isLinkFree : volume.IsLinkFree) : after.IsLinkFree := by
  cases wrote with
  | replaced _ => exact isLinkFree.replace _ content
  | created _ absent => exact isLinkFree.addFile absent content

theorem WroteAll.isLinkFree {paths : List String}
    (wroteAll : WroteAll paths before after)
    (isLinkFree : before.IsLinkFree) : after.IsLinkFree := by
  induction wroteAll with
  | nothing volume => exact isLinkFree
  | next wrote _ ih => exact ih (wrote.isLinkFree isLinkFree)

namespace IsLinkFree

variable (isLinkFree : volume.IsLinkFree)
include isLinkFree

/-- Names lead to the end, to a location with the last of them. -/
theorem pass_eq_ok {start : Location} {names : List String}
    {passage : Passage} (passes : volume.pass start names = .ok passage) :
    ∃ location, passage = .arrived location ∧
      ∀ last, names.getLast? = some last → last ≠ "." → last ≠ ".." →
        location.getLast? = some last := by
  induction names generalizing start with
  | nil =>
      cases passes
      exact ⟨start, rfl, nofun⟩
  | cons name later ih =>
      -- Behind the first name the other ones lead on, if there are any.
      have leadsOn {middle : Location}
          (passesLater : volume.pass middle later = .ok passage)
          (isNamed : name ≠ "." → name ≠ ".." →
            middle.getLast? = some name) :
          ∃ location, passage = .arrived location ∧
            ∀ last, (name :: later).getLast? = some last → last ≠ "." →
              last ≠ ".." → location.getLast? = some last := by
        cases later with
        | nil =>
            cases passesLater
            refine ⟨middle, rfl, ?_⟩
            intro last isLast notDot notDots
            cases isLast
            exact isNamed notDot notDots
        | cons second behind => exact ih passesLater
      rw [pass] at passes
      split at passes
      · cases passes
      split at passes
      case isTrue isDot => exact leadsOn passes fun notDot => absurd isDot notDot
      split at passes
      case isTrue isDots =>
        exact leadsOn passes fun _ notDots => absurd isDots notDots
      split at passes
      · cases passes
      split at passes
      · split at passes
        case isTrue isEnd =>
          cases passes
          refine ⟨start ++ [name], rfl, ?_⟩
          intro last isLast _ _
          rw [List.isEmpty_iff.mp isEnd] at isLast
          rw [List.getLast?_concat]
          exact isLast
        · cases passes
      case h_2 target found => exact absurd found (isLinkFree.noLinks _ target)
      case h_3 =>
        exact leadsOn passes fun _ _ => List.getLast?_concat

theorem getLast?_locate {toTheEnd : Bool} {path : String}
    {location : Location} {character : Char}
    (ends : path.toList.getLast? = some character)
    (notSlash : character ≠ '/') (notDot : character ≠ '.')
    (locates : volume.locate toTheEnd path = .ok location) :
    location.getLast? = (segments path).getLast? := by
  obtain ⟨last, isLast, notDotName, notDotsName⟩ :=
    exists_lastName ends notSlash notDot
  rw [locate] at locates
  split at locates
  · cases locates
  · simp only at locates
    generalize (if isAbsolute path then [] else volume.workingDirectory) =
      start at locates
    rw [maximalLinks, follow] at locates
    cases passes : volume.pass start (segments path) with
    | error fault =>
        rw [passes] at locates
        cases locates
    | ok passage =>
        obtain ⟨arrival, rfl, ends⟩ := isLinkFree.pass_eq_ok passes
        rw [passes] at locates
        cases locates
        rw [isLast]
        exact ends last isLast notDotName notDotsName

/-- Paths to one file have the same last name. -/
theorem getLast?_segments_eq {first second : String} {number : Nat}
    {firstEnd secondEnd : Char}
    (endsFirst : first.toList.getLast? = some firstEnd)
    (endsSecond : second.toList.getLast? = some secondEnd)
    (firstIsName : firstEnd ≠ '/' ∧ firstEnd ≠ '.')
    (secondIsName : secondEnd ≠ '/' ∧ secondEnd ≠ '.')
    (isFirst : volume.fileAt? first = some number)
    (isSecond : volume.fileAt? second = some number) :
    (segments first).getLast? = (segments second).getLast? := by
  obtain ⟨place, locatesFirst, foundFirst⟩ := fileAt?_eq_some_iff.mp isFirst
  obtain ⟨other, locatesSecond, foundSecond⟩ :=
    fileAt?_eq_some_iff.mp isSecond
  have same := isLinkFree.singly place other number foundFirst foundSecond
  subst same
  rw [← isLinkFree.getLast?_locate endsFirst firstIsName.1 firstIsName.2
      locatesFirst,
    ← isLinkFree.getLast?_locate endsSecond secondIsName.1 secondIsName.2
      locatesSecond]

end IsLinkFree

end Volume

/-- What a failed write leaves of a volume: the volume itself, or what a write
of the first bytes alone makes of it. -/
inductive Volume.LeftByFailure (volume : Volume) (path : String)
    (content : ByteArray) : Volume → Prop where
  | untouched : LeftByFailure volume path content volume
  | firstBytes {written : Nat} {after : Volume}
      (notAll : written < content.size)
      (writes : volume.write path (content.extract 0 written) = .ok after) :
      LeftByFailure volume path content after

namespace Drive

variable {drive after : Drive}

theorem runOn_writeText (drive : Drive) (path text : String) :
    runOn drive (writeText path text) =
      ((drive.write path text.toUTF8).1,
        drive.leaving (drive.write path text.toUTF8).2) := rfl

/-- A write that succeeds does what it does on the volume alone. -/
theorem write_of_ok {path text : String}
    (writes : runOn drive (writeText path text) = (.ok (), after)) :
    runOn drive.volume (writeText path text) = (.ok (), after.volume) := by
  rw [runOn_writeText] at writes
  change changed drive.volume (drive.volume.write path text.toUTF8) = _
  cases outcome : drive.write path text.toUTF8 with
  | mk result volume =>
    rw [outcome] at writes
    cases writes
    rw [write] at outcome
    split at outcome
    · exact outcome
    · cases outcome
    · split at outcome
      · split at outcome
        · cases outcome
        case h_2 failed =>
          exact absurd outcome (failed volume)
      · exact outcome

theorem leftByFailure_of_error {path text : String} {fault : FileFault}
    (fails : runOn drive (writeText path text) = (.error fault, after)) :
    drive.volume.LeftByFailure path text.toUTF8 after.volume := by
  have unchanged {content : ByteArray} {volume : Volume}
      (refuses : changed drive.volume (drive.volume.write path content) =
        (.error fault, volume)) : volume = drive.volume := by
    cases writes : drive.volume.write path content with
    | error fault =>
        rw [writes] at refuses
        cases refuses
        rfl
    | ok between =>
        rw [writes] at refuses
        cases refuses
  rw [runOn_writeText] at fails
  cases outcome : drive.write path text.toUTF8 with
  | mk result volume =>
    rw [outcome] at fails
    cases fails
    change drive.volume.LeftByFailure path text.toUTF8 volume
    rw [write] at outcome
    split at outcome
    · rw [unchanged outcome]
      exact .untouched
    · cases outcome
      exact .untouched
    · split at outcome
      case isTrue notAll =>
        split at outcome
        case h_1 writes =>
          cases outcome
          exact .firstBytes notAll (changed_eq_ok_iff.mp writes)
        case h_2 =>
          rw [unchanged outcome]
          exact .untouched
      case isFalse =>
        rw [unchanged outcome]
        exact .untouched

private theorem addsDirectories_runOn (drive : Drive) (path : String) :
    drive.volume.AddsDirectories
      (runOn drive (Store.createDirectory path)).2.volume := by
  change drive.volume.AddsDirectories
    (changed drive.volume (drive.createDirectory path)).2
  rw [createDirectory]
  cases drive.fault? with
  | some fault => exact .refl drive.volume
  | none =>
      simp only
      cases creates : drive.volume.createDirectory path with
      | error fault => exact .refl drive.volume
      | ok volume => exact Volume.addsDirectories_of_createDirectory creates

/-- Directories are made, and nothing else, also where this fails halfway. -/
theorem addsDirectories_createDirectories (drive : Drive) (path : String) :
    drive.volume.AddsDirectories
      (runOn drive (createDirectories path)).2.volume :=
  related_createAbove
    (fun before after => before.volume.AddsDirectories after.volume)
    (fun drive => .refl drive.volume) (fun _ _ _ => .trans)
    addsDirectories_runOn (fun drive _ => .refl drive.volume) drive
    (ancestors path)

/-- Reading changes nothing. -/
theorem volume_readText (drive : Drive) (path : String) :
    (runOn drive (readText path)).2.volume = drive.volume := by
  rw [readText, runOn_bind]
  have reads : runOn drive (Store.read path) =
      (drive.read path, drive.leaving drive.volume) := rfl
  rw [reads]
  cases drive.read path with
  | error fault => rfl
  | ok content =>
      simp only
      cases String.fromUTF8? content <;> rfl

end Drive

end BgpTestbed.Files
