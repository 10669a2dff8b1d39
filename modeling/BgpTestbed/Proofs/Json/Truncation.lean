import BgpTestbed.Proofs.Json.Cuts
import BgpTestbed.Proofs.Json.Locality
import BgpTestbed.Proofs.Json.Records
import Mathlib.Data.List.TakeWhile

/-!
# Values cut short

A codec notices that a text is cut if it stops at the end of the cut.  What
lists, objects and records hold is cut with them, so they notice a cut if
their items and members do; and brackets are never taken for complete without
the closing one.
-/

namespace BgpTestbed.Json

open Reader

variable {α σ τ δ : Type}

namespace Codec

/-- The codec reads the text and stops at the end of every cut of it. -/
structure NoticesCuts (codec : Codec α) (text : List Char) : Prop where
  reads : ∃ value, codec.Reads text value
  stops : ∀ space cut, IsBlank space → Cut cut (space ++ text) →
    codec.read.StopsAtEnd cut

/-- The codec notices every cut of what it writes for the value. -/
def NoticesCutsOf (codec : Codec α) (value : α) : Prop :=
  ∀ (layout : Layout) (depth : Nat),
    codec.NoticesCuts (layout.text depth (codec.write value))

/-- In a cut there is no token, or the reader stops behind it. -/
theorem NoticesCuts.run_token {codec : Codec α} {text : List Char}
    (notices : codec.NoticesCuts text) {space cut : List Char}
    (blank : IsBlank space) (isCut : Cut cut (space ++ text)) :
    token.run cut = .ok (none, []) ∨
      ∃ first here, text.head? = some first ∧ first ≠ ']' ∧
        token.run cut = .ok (some first, here) ∧
        codec.read.StopsAtEnd here := by
  obtain ⟨⟨_, reads⟩, stops⟩ := notices
  obtain ⟨first, later, rfl, notSpace, notClosing⟩ := reads.starts
  rcases cut_behind_space blank isCut with cutBlank | ⟨inner, rfl, isInner⟩
  · exact .inl (run_token_of_isBlank cutBlank)
  · have inText : Cut (first :: inner) (first :: later) := by
      obtain ⟨rest, notEmpty, rfl⟩ := isInner
      exact ⟨rest, notEmpty, rfl⟩
    exact .inr ⟨first, first :: inner, rfl, notClosing,
      run_token_blank blank notSpace inner,
      stops [] (first :: inner) isBlank_nil inText⟩

theorem readText_failsAtEnd (wanted value : String) {space cut : List Char}
    (blank : IsBlank space) (isCut : Cut cut (space ++ quotedText value)) :
    (readText wanted).FailsAtEnd cut :=
  nextToken_failsAtEnd blank rfl isCut (failsAtEnd_fail rfl _)
    fun _ isInner => text_failsAtEnd value isInner

/-- The codec writes texts. -/
theorem noticesCutsOf_of_text {codec : Codec α} {value read : α}
    {written : String} (isText : codec.write value = .text written)
    (reads : codec.Reads (quotedText written) read)
    (fails : ∀ space cut, IsBlank space →
      Cut cut (space ++ quotedText written) → codec.read.FailsAtEnd cut) :
    codec.NoticesCutsOf value := by
  intro layout depth
  rw [isText, layout.text_text]
  refine ⟨⟨read, reads⟩, ?_⟩
  intro space cut blank isCut
  exact (fails space cut blank isCut).stopsAtEnd

theorem text_noticesCuts (value : String) : Codec.text.NoticesCutsOf value :=
  noticesCutsOf_of_text rfl (text_reads (textOf_quotedText value))
    fun _ _ blank isCut => readText_failsAtEnd _ value blank isCut

theorem word_noticesCuts (value : UInt32) : word.NoticesCutsOf value := by
  intro layout depth
  refine ⟨⟨value, (word_spells value).reads _
    ((word_spells value).writes layout depth)⟩, ?_⟩
  intro space cut blank isCut
  change Cut cut (space ++ layout.text depth (.number value.toNat)) at isCut
  rw [layout.text_number] at isCut
  exact readWord_stopsAtEnd value blank isCut

/-- What stands for an absent value, where a missing one is noticed, too. -/
private theorem null_noticesCuts {codec : Codec α}
    (empty : codec.read.StopsAtEnd []) :
    (optional codec).NoticesCuts ['n', 'u', 'l', 'l'] := by
  have spelled : OptionalOf
      (fun held text => codec.Reads text held ∧ text.head? ≠ some 'n')
      none ['n', 'u', 'l', 'l'] := rfl
  refine ⟨⟨none, optional_reads (fun _ _ isSpelled => isSpelled) spelled⟩, ?_⟩
  intro space cut blank isCut
  rcases cut_behind_space blank isCut with cutBlank | ⟨inner, rfl, isInner⟩
  · exact (empty.map some).of_run_eq (run_readOptional_present codec.read
      (run_token_of_isBlank cutBlank) nofun)
  · refine stopsAtEnd_bind (run_token_blank blank rfl inner) ?_
    exact (failsAtEnd_bind (run_next _)
      ((keyword_failsAtEnd isInner).bind _)).stopsAtEnd

private theorem present_noticesCuts {codec : Codec α} {text : List Char}
    (empty : codec.read.StopsAtEnd []) (notices : codec.NoticesCuts text)
    (notNull : text.head? ≠ some 'n') :
    (optional codec).NoticesCuts text := by
  obtain ⟨held, reads⟩ := notices.reads
  have spelled : OptionalOf
      (fun held text => codec.Reads text held ∧ text.head? ≠ some 'n')
      (some held) text := ⟨reads, notNull⟩
  refine ⟨⟨some held, optional_reads (fun _ _ isSpelled => isSpelled)
    spelled⟩, ?_⟩
  intro space cut blank isCut
  rcases notices.run_token blank isCut with
    nothing | ⟨first, here, isFirst, _, looks, stops⟩
  · exact (empty.map some).of_run_eq
      (run_readOptional_present codec.read nothing nofun)
  · rw [isFirst] at notNull
    exact (stops.map some).of_run_eq
      (run_readOptional_present codec.read looks notNull)

/-- A present value may not start like an absent one. -/
theorem optional_noticesCuts {codec : Codec α}
    (empty : codec.read.StopsAtEnd [])
    (notices : ∀ held, codec.NoticesCutsOf held)
    (notNull : ∀ held (layout : Layout) depth,
      (layout.text depth (codec.write held)).head? ≠ some 'n')
    (value : Option α) : (optional codec).NoticesCutsOf value := by
  intro layout depth
  cases value with
  | none =>
      change (optional codec).NoticesCuts (layout.text depth .null)
      rw [layout.text_null]
      exact null_noticesCuts empty
  | some held =>
      exact present_noticesCuts empty (notices held layout depth)
        (notNull held layout depth)

end Codec

section Scan

variable {step : σ → Char → Reader (σ ⊕ α)} {atEnd : σ → Fault}

/-- The scan takes texts behind commas, and misses something if one of them
is cut. -/
inductive TakesWhole (step : σ → Char → Reader (σ ⊕ α)) (atEnd : σ → Fault) :
    σ → List (List Char) → Prop where
  | done (state : σ) : TakesWhole step atEnd state []
  | next {state following : σ} {text : List Char} {later : List (List Char)}
      (takes : ∀ space rest, IsBlank space → EndsNumeral rest →
        (scan step atEnd state).run (',' :: (space ++ (text ++ rest))) =
          (scan step atEnd following).run rest)
      (fails : ∀ space cut, IsBlank space → Cut cut (space ++ text) →
        (scan step atEnd state).FailsAtEnd (',' :: cut))
      (others : TakesWhole step atEnd following later) :
      TakesWhole step atEnd state (text :: later)

/-- Where a step that goes on stops, so does the scan. -/
theorem scan_failsAtEnd_of_stops
    (isEnd : ∀ state, (atEnd state).category = .eof)
    {state : σ} {character : Char} {later : List Char}
    (stops : (step state character).StopsAtEnd later)
    (goesOn : (step state character).Ensures fun result =>
      result.isLeft = true) :
    (scan step atEnd state).FailsAtEnd (character :: later) := by
  rcases stops with fails | ⟨result, reads⟩
  · exact scan_failsAtEnd_of_step fails
  · cases result with
    | inl following =>
        apply (scan_nil_failsAtEnd step following (isEnd following)).of_run_eq
        rw [run_scan_cons, reads]
        rfl
    | inr value => exact absurd (goesOn _ ⟨_, _, reads⟩) (by simp)

/-- The scan goes on behind space. -/
private theorem scan_failsAtEnd_behind
    (skips : ∀ state character, isSpace character = true →
      step state character = pure (.inl state))
    {state : σ} {space rest : List Char} (blank : IsBlank space)
    (fails : (scan step atEnd state).FailsAtEnd rest) :
    (scan step atEnd state).FailsAtEnd (space ++ rest) :=
  fails.of_run_eq (run_scan_blank step atEnd state (skips state) blank rest)

/-- The closing bracket is missed, or something in front of it. -/
theorem scan_failsAtEnd_of_later
    (isEnd : ∀ state, (atEnd state).category = .eof)
    (skips : ∀ state character, isSpace character = true →
      step state character = pure (.inl state))
    {closing : Char} (closes : EndsNumeral [closing]) {state : σ}
    {texts : List (List Char)} {text cut : List Char}
    (takes : TakesWhole step atEnd state texts) (later : Later texts text)
    (isCut : Cut cut (text ++ [closing])) :
    (scan step atEnd state).FailsAtEnd cut := by
  have nothing (state : σ) {space : List Char} (blank : IsBlank space) :
      (scan step atEnd state).FailsAtEnd space := by
    have fails := scan_failsAtEnd_behind skips blank
      (scan_nil_failsAtEnd step state (isEnd state))
    rwa [List.append_nil] at fails
  induction takes generalizing text cut with
  | done state =>
      obtain ⟨blank⟩ := later
      rcases cut_behind_space blank isCut with cutBlank | ⟨_, _, isInner⟩
      · exact nothing state cutBlank
      · exact absurd isInner (not_cut_nil _)
  | @next state following text texts takes fails others ih =>
      obtain _ | ⟨beforeIsBlank, afterIsBlank, laterTexts⟩ := later
      have regroup (after rest : List Char) :
          after ++ (text ++ rest) ++ [closing] =
            (after ++ text) ++ (rest ++ [closing]) := by simp
      rw [List.append_assoc, List.cons_append] at isCut
      rcases cut_behind_space beforeIsBlank isCut with
        cutBlank | ⟨inner, rfl, isInner⟩
      · exact nothing state cutBlank
      apply scan_failsAtEnd_behind skips beforeIsBlank
      -- Behind the comma, the cut ends in the next text or behind it.
      rw [regroup] at isInner
      rcases cut_append isInner with inText | ⟨last, rfl, isLast⟩
      · exact fails _ inner afterIsBlank inText
      · have ends := (laterTexts.endsNumeral closes).cut isLast
        apply (ih laterTexts isLast).of_run_eq
        rw [List.append_assoc, takes _ last afterIsBlank ends]

end Scan

namespace Codec

variable {codec : Codec α} {texts : List (List Char)}

private theorem listStep_goesOn (item : Reader α) (soFar : List α) :
    (listStep item soFar ',').Ensures fun result => result.isLeft = true := by
  have notSpace : isSpace ',' = false := rfl
  simp only [listStep, notSpace, Bool.false_eq_true, ite_false]
  apply ensures_behind
  intro first
  split
  · exact ensures_fail _ _
  · exact ensures_fail _ _
  · exact ensures_behind fun _ => ensures_pure rfl

private theorem takesWhole_items
    (notices : ∀ text ∈ texts, codec.NoticesCuts text) (soFar : List α) :
    TakesWhole (listStep codec.read) (fun _ => .endOfList) soFar texts := by
  induction texts generalizing soFar with
  | nil => exact .done soFar
  | cons text later ih =>
      obtain ⟨noticesHere, noticeLater⟩ := List.forall_mem_cons.mp notices
      obtain ⟨value, reads⟩ := noticesHere.reads
      refine .next ?_ ?_ (ih noticeLater (value :: soFar))
      · intro space rest blank ends
        exact run_scan_listItem reads _ soFar blank ends
      · intro space cut blank isCut
        apply scan_failsAtEnd_of_stops (fun _ => rfl) ?_ (listStep_goesOn _ _)
        rcases noticesHere.run_token blank isCut with
          nothing | ⟨first, here, _, notClosing, looks, stops⟩
        · exact stopsAtEnd_bind nothing (failsAtEnd_fail rfl _).stopsAtEnd
        · refine StopsAtEnd.of_run_eq ?_
            (run_listStep_item codec.read soFar looks notClosing)
          exact stops.bind fun item => stopsAtEnd_pure _

/-- The closing bracket of a list is missed. -/
private theorem readItems_failsAtEnd
    (notices : ∀ text ∈ texts, codec.NoticesCuts text) {inner cut : List Char}
    (enclosed : Enclosed '[' ']' texts ('[' :: inner)) (isCut : Cut cut inner) :
    (readItems codec.read).FailsAtEnd cut := by
  have nothing {cut : List Char} (looks : token.run cut = .ok (none, [])) :
      (readItems codec.read).FailsAtEnd cut :=
    failsAtEnd_bind looks (failsAtEnd_fail rfl _)
  cases enclosed with
  | none blank =>
      rcases cut_behind_space blank isCut with cutBlank | ⟨_, _, isInner⟩
      · exact nothing (run_token_of_isBlank cutBlank)
      · exact absurd isInner (not_cut_nil _)
  | @some space text rest _ blank others =>
      obtain ⟨noticesHere, noticeLater⟩ := List.forall_mem_cons.mp notices
      have regroup : space ++ (text ++ (rest ++ [']'])) =
          (space ++ text) ++ (rest ++ [']']) := by simp
      -- The cut ends in the first item or behind it.
      rw [regroup] at isCut
      rcases cut_append isCut with inFirst | ⟨last, rfl, isLast⟩
      · rcases noticesHere.run_token blank inFirst with
          looks | ⟨first, here, _, notClosing, looks, stops⟩
        · exact nothing looks
        · refine FailsAtEnd.of_run_eq ?_
            (run_readItems_item codec.read looks notClosing)
          exact stops.failsAtEnd_bind fun item => scan_nil_failsAtEnd _ _ rfl
      · obtain ⟨value, reads⟩ := noticesHere.reads
        have closes : EndsNumeral [']'] := endsNumeral_bracket (.inl rfl) []
        have ends := (others.endsNumeral closes).cut isLast
        obtain ⟨first, _, notClosing, looks⟩ := reads.run_token blank last
        rw [List.append_assoc]
        refine FailsAtEnd.of_run_eq ?_
          (run_readItems_item codec.read looks notClosing)
        refine failsAtEnd_bind (reads.run_here ends) ?_
        exact scan_failsAtEnd_of_later (fun _ => rfl)
          (listStep_space codec.read) closes
          (takesWhole_items noticeLater [value]) others isLast

private theorem exists_reads
    (notices : ∀ text ∈ texts, codec.NoticesCuts text) :
    ∃ values, List.Forall₂ (fun value text => codec.Reads text value)
      values texts := by
  induction texts with
  | nil => exact ⟨[], .nil⟩
  | cons text later ih =>
      obtain ⟨noticesHere, noticeLater⟩ := List.forall_mem_cons.mp notices
      obtain ⟨value, reads⟩ := noticesHere.reads
      obtain ⟨values, readLater⟩ := ih noticeLater
      exact ⟨value :: values, .cons reads readLater⟩

theorem list_noticesCuts {items : List α}
    (notices : ∀ item ∈ items, codec.NoticesCutsOf item) :
    (list codec).NoticesCutsOf items := by
  intro layout depth
  change (list codec).NoticesCuts
    (layout.text depth (.list (items.map codec.write)))
  rw [layout.text_list, List.map_map]
  have enclosed := layout.isEnclosed '[' ']' depth
    (items.map (layout.text (depth + 1) ∘ codec.write))
  have textsNotice : ∀ text ∈
      items.map (layout.text (depth + 1) ∘ codec.write),
      codec.NoticesCuts text := by
    intro text isText
    obtain ⟨item, isItem, rfl⟩ := List.mem_map.mp isText
    exact notices item isItem layout (depth + 1)
  obtain ⟨values, read⟩ := exists_reads textsNotice
  refine ⟨⟨values, list_reads (fun _ _ _ reads => reads) ⟨read, enclosed⟩⟩, ?_⟩
  intro space cut blank isCut
  obtain ⟨inner, isText⟩ := enclosed.eq_cons
  rw [isText] at enclosed isCut
  apply FailsAtEnd.stopsAtEnd
  exact nextToken_failsAtEnd blank rfl isCut (failsAtEnd_fail rfl _)
    fun _ isBehind => readItems_failsAtEnd textsNotice enclosed isBehind

end Codec

/-- The reader takes a member behind its key, and stops at the end of every
cut. -/
structure TakesMember (reader : Reader σ) (member : Member) (following : σ) :
    Prop where
  reads : ∀ rest, EndsNumeral rest →
    reader.run (member.behindKey ++ rest) = .ok (following, rest)
  stops : ∀ cut, Cut cut member.behindKey → reader.StopsAtEnd cut

/-- A value behind a colon. -/
theorem TakesMember.of_colon {codec : Codec α} (member : Member)
    (notices : codec.NoticesCuts member.value) (build : α → σ) :
    ∃ value, TakesMember
      (colon >>= fun _ => codec.read >>= fun value => pure (build value))
      member (build value) := by
  obtain ⟨⟨value, reads⟩, stops⟩ := notices
  refine ⟨value, ?_, ?_⟩
  · intro rest ends
    simp only [run_bind, run_colon_member, Except.bind,
      reads.reads _ rest member.afterIsBlank ends, run_pure]
  · intro cut isCut
    rcases colon_cut member.beforeIsBlank isCut with
      fails | ⟨inner, isInner, reads⟩
    · exact (fails.bind _).stopsAtEnd
    · exact stopsAtEnd_bind reads
        ((stops _ inner member.afterIsBlank isInner).map build)

private theorem run_text_member (member : NamedMember) (rest : List Char) :
    text.run ((member.key ++ '"' :: member.behindKey) ++ rest) =
      .ok (member.name, member.behindKey ++ rest) := by
  rw [List.append_assoc]
  exact run_text_of_denotes member.denotes (member.behindKey ++ rest)

/-- The key is cut, or what stands behind it. -/
private theorem key_cut (layout : Layout) (depth : Nat)
    (entry : String × Value) {cut : List Char}
    (isCut : Cut cut (entry.1.toList.flatMap escapedChar ++
      '"' :: (layout.namedMember depth entry).behindKey)) :
    text.FailsAtEnd cut ∨
      ∃ inner, Cut inner (layout.namedMember depth entry).behindKey ∧
        text.run cut = .ok (entry.1, inner) := by
  rw [List.append_cons] at isCut
  rcases cut_append isCut with inKey | ⟨inner, rfl, isInner⟩
  · exact .inl (text_failsAtEnd entry.1 inKey)
  · refine .inr ⟨inner, isInner, ?_⟩
    rw [List.append_assoc]
    exact run_text_of_denotes (denotes_escaped entry.1.toList) inner

/-- Reading the members of an object leads from one state to another, and
misses something if one of them is cut. -/
inductive LeadsWhole (layout : Layout) (depth : Nat)
    (read : σ → String → Reader σ) :
    σ → List (String × Value) → σ → Prop where
  | done (state : σ) : LeadsWhole layout depth read state [] state
  | next {state following last : σ} {entry : String × Value}
      {later : List (String × Value)}
      (takes : TakesMember (read state entry.1)
        (layout.namedMember depth entry).toMember following)
      (others : LeadsWhole layout depth read following later last) :
      LeadsWhole layout depth read state (entry :: later) last

section Objects

variable {read : σ → String → Reader σ} {layout : Layout} {depth : Nat}
variable {state last : σ} {entries : List (String × Value)}

theorem LeadsWhole.leads
    (whole : LeadsWhole layout depth read state entries last) :
    Leads read state (entries.map (layout.namedMember depth)) last := by
  induction whole with
  | done state => exact .done state
  | next takes _ ih => exact .next takes.reads ih

private theorem objectStep_goesOn (state : σ) :
    (objectStep read state ',').Ensures fun result =>
      result.isLeft = true := by
  apply ensures_behind
  intro first
  split
  · exact ensures_fail _ _
  · exact ensures_behind fun _ => ensures_behind fun _ => ensures_pure rfl
  · exact ensures_fail _ _
  · exact ensures_fail _ _

private theorem takesWhole_members
    (whole : LeadsWhole layout depth read state entries last) :
    TakesWhole (objectStep read) (fun _ => .endOfObject) state
      ((entries.map (layout.namedMember depth)).map
        fun member => member.text) := by
  induction whole with
  | done state => exact .done state
  | @next state following _ entry later takes _ ih =>
      refine .next ?_ ?_ ih
      · intro space rest blank ends
        exact run_scan_objectMember (takes.reads rest ends) _ blank
      · intro space cut blank isCut
        apply scan_failsAtEnd_of_stops (fun _ => rfl) ?_ (objectStep_goesOn _)
        rcases run_nextToken_cut blank rfl isCut with
          nothing | ⟨inner, isInner, looks⟩
        · exact stopsAtEnd_bind nothing (failsAtEnd_fail rfl _).stopsAtEnd
        refine stopsAtEnd_bind looks ?_
        rcases key_cut layout depth entry isInner with
          fails | ⟨behind, isBehind, readsKey⟩
        · exact (fails.bind _).stopsAtEnd
        · refine stopsAtEnd_bind readsKey ((takes.stops _ isBehind).bind ?_)
          intro value
          exact stopsAtEnd_pure _

/-- The closing brace of an object is missed. -/
theorem readMembers_failsAtEnd
    (whole : LeadsWhole layout depth read state entries last)
    {inner cut : List Char}
    (enclosed : Enclosed '\x7b' '\x7d'
      ((entries.map (layout.namedMember depth)).map fun member => member.text)
      ('\x7b' :: inner)) (isCut : Cut cut inner) :
    (readMembers read state).FailsAtEnd cut := by
  have nothing {cut : List Char} (looks : nextToken.run cut = .ok (none, [])) :
      (readMembers read state).FailsAtEnd cut :=
    failsAtEnd_bind looks (failsAtEnd_fail rfl _)
  cases whole with
  | done =>
      obtain ⟨blank⟩ := enclosed
      rcases cut_behind_space blank isCut with cutBlank | ⟨_, _, isInner⟩
      · exact nothing (run_nextToken_of_isBlank cutBlank)
      · exact absurd isInner (not_cut_nil _)
  | @next _ following _ entry later takes others =>
      obtain _ | @⟨space, _, rest, _, blank, laterTexts⟩ := enclosed
      have closes : EndsNumeral ['\x7d'] := endsNumeral_bracket (.inr rfl) []
      have regroup :
          space ++ ((layout.namedMember depth entry).text ++
              (rest ++ ['\x7d'])) =
            (space ++ (layout.namedMember depth entry).text) ++
              (rest ++ ['\x7d']) := by simp
      rw [regroup] at isCut
      rcases cut_append isCut with inFirst | ⟨last, rfl, isLast⟩
      · rcases run_nextToken_cut blank rfl inFirst with
          looks | ⟨inner, isInner, looks⟩
        · exact nothing looks
        refine failsAtEnd_bind looks ?_
        rcases key_cut layout depth entry isInner with
          fails | ⟨behind, isBehind, readsKey⟩
        · exact fails.bind _
        · refine failsAtEnd_bind readsKey
            ((takes.stops _ isBehind).failsAtEnd_bind ?_)
          intro value
          exact scan_nil_failsAtEnd _ _ rfl
      · have ends := (laterTexts.endsNumeral closes).cut isLast
        rw [List.append_assoc]
        refine failsAtEnd_bind (run_nextToken blank rfl _) ?_
        refine failsAtEnd_bind (run_text_member _ last) ?_
        refine failsAtEnd_bind (takes.reads last ends) ?_
        exact scan_failsAtEnd_of_later (fun _ => rfl) (objectStep_space read)
          closes (takesWhole_members others) laterTexts isLast

end Objects

namespace Fields

/-- The codecs notice every cut of what they write for the values. -/
def NoticesCutsOf : {τ δ : Type} → Fields τ δ → τ → Prop
  | _, _, .done, _ => True
  | _, _, .field first later, (value, values) =>
      first.codec.NoticesCutsOf value ∧ later.NoticesCutsOf values

/-- Members of other fields leave the first one as it is. -/
private theorem leadsWhole_later {first : Field α} {later : Fields τ δ}
    {layout : Layout} {depth : Nat} {draft last : δ}
    {entries : List (String × Value)}
    (whole : LeadsWhole layout depth later.readMember draft entries last)
    (others : ∀ entry ∈ entries, entry.1 ≠ first.name) (held : Option α) :
    LeadsWhole layout depth (field first later).readMember (held, draft)
      entries (held, last) := by
  induction whole with
  | done => exact .done _
  | next takes _ ih =>
      obtain ⟨isOther, areOthers⟩ := List.forall_mem_cons.mp others
      refine .next ⟨?_, ?_⟩ (ih areOthers)
      · intro rest ends
        rw [readMember, if_neg isOther, run_bind, takes.reads rest ends]
        rfl
      · intro cut isCut
        rw [readMember, if_neg isOther]
        refine (takes.stops cut isCut).bind ?_
        intro draft
        exact stopsAtEnd_pure _

/-- The members of a written record lead to a complete draft. -/
private theorem exists_leadsWhole {fields : Fields τ δ} {values : τ}
    (notices : fields.NoticesCutsOf values) (distinct : fields.names.Nodup)
    (layout : Layout) (depth : Nat) :
    ∃ draft read, LeadsWhole layout depth fields.readMember fields.draft
      (fields.write values) draft ∧ fields.complete draft = .ok read := by
  induction fields with
  | done => exact ⟨(), (), .done _, rfl⟩
  | field first later ih =>
      obtain ⟨value, values⟩ := values
      obtain ⟨noticesFirst, noticeLater⟩ := notices
      obtain ⟨notLater, laterDistinct⟩ := List.nodup_cons.mp distinct
      obtain ⟨draft, read, whole, complete⟩ := ih noticeLater laterDistinct
      obtain ⟨held, takes⟩ := TakesMember.of_colon
        (layout.namedMember depth
          (first.name, first.codec.write value)).toMember
        (noticesFirst layout depth) fun held => (some held, later.draft)
      have others : ∀ entry ∈ later.write values, entry.1 ≠ first.name := by
        intro entry isEntry sameName
        have isName : entry.1 ∈ (later.write values).map Prod.fst :=
          List.mem_map_of_mem isEntry
        rw [Fills.map_fst_write, sameName] at isName
        exact notLater isName
      -- The first member fills its place, and no other one has its name.
      refine ⟨(some held, draft), (held, read), .next ?_
        (leadsWhole_later whole others (some held)), ?_⟩
      · simpa [readMember, Fields.draft] using takes
      · simp [Fields.complete, complete]

end Fields

namespace Codec

theorem record_noticesCuts {fields : Fields τ δ} {values : α → τ}
    {build : τ → α} {value : α} (notices : fields.NoticesCutsOf (values value))
    (distinct : fields.names.Nodup) (name : String) :
    (record name fields build values).NoticesCutsOf value := by
  intro layout depth
  change (record name fields build values).NoticesCuts
    (layout.text depth (.object (fields.write (values value))))
  have enclosed := layout.isEnclosed_object depth
    (fields.write (values value))
  obtain ⟨draft, read, whole, complete⟩ :=
    Fields.exists_leadsWhole notices distinct layout (depth + 1)
  obtain ⟨inner, isText⟩ := enclosed.eq_cons
  rw [isText] at enclosed ⊢
  refine ⟨⟨build read, ⟨_, _, rfl, rfl, by decide⟩, ?_⟩, ?_⟩
  · intro space rest blank _
    change (build <$> fields.read name).run _ = _
    rw [run_map, whole.leads.run_read complete enclosed name blank rest]
    rfl
  · intro space cut blank isCut
    refine StopsAtEnd.map (FailsAtEnd.stopsAtEnd ?_) build
    refine nextToken_failsAtEnd blank rfl isCut (failsAtEnd_fail rfl _) ?_
    intro behind isBehind
    exact (readMembers_failsAtEnd whole enclosed isBehind).bind _

theorem decode_eq_error_of_failsAtEnd {codec : Codec α} {text : String}
    (fails : codec.read.FailsAtEnd text.toList) :
    ∃ fault, codec.decode text = .error fault ∧ fault.category = .eof := by
  obtain ⟨fault, stops, atEnd⟩ := fails
  refine ⟨fault, ?_, atEnd⟩
  rw [decode, run_bind, stops]
  rfl

private theorem isBlank_of_run_nextToken {text rest : List Char}
    (looks : nextToken.run text = .ok (none, rest)) : IsBlank text := by
  rw [nextToken, run_bind, run_skipSpace] at looks
  simp only [Except.bind, run_next, Except.ok.injEq, Prod.mk.injEq,
    List.head?_eq_none_iff] at looks
  exact List.dropWhile_eq_nil_iff.mp looks.1

/-- If a front of the text is decoded, the value ends in it, and the text goes
on with space only. -/
theorem decode_cut_eq_error {codec : Codec α}
    (isLocal : codec.read.LocalFor fun _ => True) {text cut : String}
    {value : α} (decodes : codec.decode text = .ok value)
    (notSpace : ∀ last ∈ text.toList.getLast?, isSpace last = false)
    (isCut : Cut cut.toList text.toList) :
    ∃ fault, codec.decode cut = .error fault := by
  cases decodesCut : codec.decode cut with
  | error fault => exact ⟨fault, rfl⟩
  | ok other =>
      obtain ⟨behind, _, reads, looks⟩ := exists_run_of_decode decodes
      obtain ⟨rest, _, readsCut, _⟩ := exists_run_of_decode decodesCut
      obtain ⟨more, notEmpty, isText⟩ := isCut
      -- The value of the front is also read from the whole text.
      have readsMore := isLocal _ other rest readsCut (.inl trivial) more
      rw [← isText, reads] at readsMore
      cases readsMore
      have isLast : text.toList.getLast? = some (more.getLast notEmpty) := by
        rw [isText, List.getLast?_append_of_ne_nil _ notEmpty,
          List.getLast?_eq_some_getLast notEmpty]
      have isMore : more.getLast notEmpty ∈ rest ++ more :=
        List.mem_append_right rest (List.getLast_mem notEmpty)
      have space := isBlank_of_run_nextToken looks _ isMore
      rw [notSpace _ isLast] at space
      cases space

end Codec

end BgpTestbed.Json
