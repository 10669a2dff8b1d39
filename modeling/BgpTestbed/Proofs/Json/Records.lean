import BgpTestbed.Json.Record
import BgpTestbed.Proofs.Json.Layout
import BgpTestbed.Proofs.Json.Reading

/-!
# Values and their spellings

A codec spells a value in some ways if it reads the value from each of these
spellings and writes one of them itself.  A record is spelled by the slots of
its fields: the members of an object may come in any order, since each of them
fills the place of its own field only, and a list may end early.
-/

namespace BgpTestbed.Json

open Reader

variable {α τ δ : Type}

structure Codec.Spells (codec : Codec α) (value : α)
    (spelled : List Char → Prop) : Prop where
  reads : ∀ text, spelled text → codec.Reads text value
  writes : ∀ (layout : Layout) (depth : Nat),
    spelled (layout.text depth (codec.write value))

namespace Codec

theorem text_spells (value : String) : text.Spells value (TextOf value) where
  reads _ := text_reads
  writes layout depth := by
    change TextOf value (layout.text depth (.text value))
    rw [layout.text_text]
    exact textOf_quotedText value

theorem word_spells (value : UInt32) : word.Spells value (WordOf value) where
  reads _ := word_reads
  writes layout depth := layout.text_number depth value.toNat

/-- No spelling of a present value may start like that of an absent one. -/
theorem optional_spells {codec : Codec α} {spelled : α → List Char → Prop}
    (present : ∀ held, codec.Spells held (spelled held))
    (notNull : ∀ held text, spelled held text → text.head? ≠ some 'n')
    (value : Option α) :
    (optional codec).Spells value (OptionalOf spelled value) where
  reads _ := optional_reads fun held text isSpelled =>
    ⟨(present held).reads text isSpelled, notNull held text isSpelled⟩
  writes layout depth := by
    cases value with
    | none => exact layout.text_null depth
    | some held => exact (present held).writes layout depth

theorem list_spells {codec : Codec α} {spelled : α → List Char → Prop}
    {items : List α}
    (itemSpells : ∀ item ∈ items, codec.Spells item (spelled item)) :
    (list codec).Spells items (ListOf spelled items) where
  reads _ := list_reads fun item isItem => (itemSpells item isItem).reads
  writes layout depth := by
    change ListOf spelled items
      (layout.text depth (.list (items.map codec.write)))
    rw [layout.text_list, List.map_map]
    refine .list ?_ (layout.isEnclosed _ _ depth _)
    rw [List.forall₂_map_right_iff, List.forall₂_same]
    intro item isItem
    exact (itemSpells item isItem).writes layout (depth + 1)

end Codec

/-- The slots are those of the fields where these hold certain values. -/
inductive Fills : {τ δ : Type} → Fields τ δ → τ → List Slot → Prop where
  | done : Fills .done () []
  | field {α τ δ : Type} {first : Field α} {later : Fields τ δ} {value : α}
      {values : τ} {slot : Slot} {slots : List Slot}
      (sameName : first.name = slot.name)
      (spells : first.codec.Spells value slot.spelled)
      (fallsBack : slot.omissible → first.fallback = some value)
      (others : Fills later values slots) :
      Fills (.field first later) (value, values) (slot :: slots)

namespace Fields

def names : {τ δ : Type} → Fields τ δ → List String
  | _, _, .done => []
  | _, _, .field first later => first.name :: later.names

/-- The draft in which the fields of certain names have their values. -/
def draftWith : {τ δ : Type} → Fields τ δ → τ → (String → Bool) → δ
  | _, _, .done, _, _ => ()
  | _, _, .field first later, (value, values), given =>
      (if given first.name then some value else none,
        later.draftWith values given)

theorem draft_eq_draftWith (fields : Fields τ δ) (values : τ) :
    fields.draft = fields.draftWith values fun _ => false := by
  induction fields with
  | done => rfl
  | field first later ih =>
      rw [draft, draftWith, ih values.2]
      rfl

end Fields

/-- Members that lead to a complete draft are those of a record. -/
theorem Leads.run_read {fields : Fields τ δ} {draft : δ} {values : τ}
    {members : List NamedMember}
    (leads : Leads fields.readMember fields.draft members draft)
    (complete : fields.complete draft = .ok values) {text : List Char}
    (enclosed : Enclosed '\x7b' '\x7d'
      (members.map fun member => member.text) text)
    (name : String) {space : List Char} (isBlank : IsBlank space)
    (rest : List Char) :
    (fields.read name).run (space ++ (text ++ rest)) =
      .ok (values, rest) := by
  obtain ⟨inner, rfl, reads⟩ := run_readMembers leads enclosed
  have notSpace : isSpace '\x7b' = false := rfl
  simp only [Fields.read, run_bind, List.cons_append,
    run_nextToken isBlank notSpace, Except.bind, reads, run_ofExcept,
    complete, Except.map]

namespace Fills

variable {fields : Fields τ δ} {values : τ} {slots : List Slot}

section

variable {codec : Codec α} {value : α} {spelled : List Char → Prop}

theorem required {name : String}
    (spells : codec.Spells value spelled)
    (others : Fills fields values slots) :
    Fills (fields.required name codec) (value, values)
      (.required name spelled :: slots) :=
  .field rfl spells nofun others

theorem defaulted {name : String} {fallback : α}
    (spells : codec.Spells value spelled)
    (others : Fills fields values slots) :
    Fills (fields.defaulted name codec fallback) (value, values)
      (.defaulted name spelled (value = fallback) :: slots) := by
  refine .field rfl spells ?_ others
  intro isFallback
  exact congrArg some (Eq.symm isFallback)

end

theorem map_name (fills : Fills fields values slots) :
    slots.map Slot.name = fields.names := by
  induction fills with
  | done => rfl
  | field sameName _ _ _ ih =>
      rw [List.map_cons, ih, ← sameName, Fields.names]

private theorem draftWith_congr (fills : Fills fields values slots)
    {given other : String → Bool}
    (same : ∀ slot ∈ slots, given slot.name = other slot.name) :
    fields.draftWith values given = fields.draftWith values other := by
  induction fills with
  | done => rfl
  | field sameName _ _ _ ih =>
      obtain ⟨sameFirst, sameLater⟩ := List.forall_mem_cons.mp same
      rw [Fields.draftWith, Fields.draftWith, sameName, sameFirst, ih sameLater]

/-- A draft is complete if every value that is missing is a fallback. -/
private theorem complete_draftWith (fills : Fills fields values slots)
    {given : String → Bool}
    (givenOrOmissible : ∀ slot ∈ slots,
      given slot.name = true ∨ slot.omissible) :
    fields.complete (fields.draftWith values given) = .ok values := by
  induction fills with
  | done => rfl
  | @field _ _ _ first _ value _ slot _ sameName _ fallsBack _ ih =>
      obtain ⟨here, later⟩ := List.forall_mem_cons.mp givenOrOmissible
      have found : (if given slot.name then some value else none).or
          first.fallback = some value := by
        rcases here with isGiven | isOmissible
        · rw [isGiven]
          rfl
        · rw [fallsBack isOmissible]
          cases given slot.name <;> rfl
      simp only [Fields.draftWith, Fields.complete, sameName, found, ih later]

/-- A member that suits the slots fills the place of its field, or is skipped
if no field has its name. -/
private theorem run_readMember (fills : Fills fields values slots)
    (distinct : (slots.map Slot.name).Nodup) {given : String → Bool}
    {member : NamedMember}
    (isNew : ∀ slot ∈ slots, slot.name = member.name →
      given slot.name = false ∧ slot.spelled member.value)
    (others : (∀ slot ∈ slots, slot.name ≠ member.name) →
      IsValue member.value)
    {rest : List Char} (ends : EndsNumeral rest) :
    (fields.readMember (fields.draftWith values given) member.name).run
        (member.behindKey ++ rest) =
      .ok (fields.draftWith values
        fun name => given name || member.name == name, rest) := by
  induction fills with
  | done =>
      have isValue := others fun slot isSlot => nomatch isSlot
      simp only [Fields.readMember, run_bind, run_colon_member, Except.bind,
        run_skipValue isValue member.afterIsBlank ends, run_pure]
  | @field _ _ _ first later value values slot slots sameName spells _ fills ih =>
      obtain ⟨firstIsNew, laterAreNew⟩ := List.forall_mem_cons.mp isNew
      rw [List.map_cons, List.nodup_cons] at distinct
      obtain ⟨notLater, laterDistinct⟩ := distinct
      by_cases isFirst : slot.name = member.name
      · obtain ⟨notGiven, isSpelled⟩ := firstIsNew isFirst
        have readsValue := (spells.reads _ isSpelled).reads _ rest
          member.afterIsBlank ends
        have unchanged : later.draftWith values given =
            later.draftWith values
              fun name => given name || member.name == name := by
          apply fills.draftWith_congr
          intro other isOther
          have differs : member.name ≠ other.name := by
            intro same
            rw [isFirst, same] at notLater
            exact notLater (List.mem_map_of_mem isOther)
          simp [differs]
        rw [isFirst] at notGiven sameName
        simp only [Fields.draftWith, Fields.readMember, sameName, ite_true,
          notGiven, Bool.false_eq_true, ite_false, Option.isSome_none,
          run_bind, run_colon_member, Except.bind, readsValue, run_pure,
          unchanged, beq_self_eq_true, Bool.or_true]
      · have isOther : member.name ≠ first.name := by
          rw [sameName]
          exact Ne.symm isFirst
        have othersLater : (∀ slot ∈ slots, slot.name ≠ member.name) →
            IsValue member.value :=
          fun noLater => others (List.forall_mem_cons.mpr ⟨isFirst, noLater⟩)
        have unchanged : (member.name == first.name) = false :=
          beq_false_of_ne isOther
        rw [Fields.draftWith, Fields.readMember, if_neg isOther, run_bind,
          ih laterDistinct laterAreNew othersLater]
        simp only [Except.bind, run_pure, Fields.draftWith, unchanged,
          Bool.or_false]

/-- The members of a record lead from the empty draft to one in which every
place is filled that some member has the name of. -/
private theorem leads_of_covers (fills : Fills fields values slots)
    (distinct : (slots.map Slot.name).Nodup) {members : List NamedMember}
    (covers : Covers slots members) :
    Leads fields.readMember fields.draft members
      (fields.draftWith values
        fun name => members.any fun member => member.name == name) := by
  -- Some members are read already, and none of the others repeats a field.
  have leads (front later : List NamedMember) (split : members = front ++ later) :
      Leads fields.readMember
        (fields.draftWith values
          fun name => front.any fun member => member.name == name) later
        (fields.draftWith values
          fun name => members.any fun member => member.name == name) := by
    induction later generalizing front with
    | nil =>
        rw [List.append_nil] at split
        subst split
        exact .done _
    | cons member later ih =>
        have following := ih (front ++ [member]) (by simp [split])
        simp only [List.any_append, List.any_cons, List.any_nil,
          Bool.or_false] at following
        refine .next ?_ following
        intro rest ends
        apply fills.run_readMember distinct _ _ ends
        · intro slot isSlot sameName
          have isMember : member ∈ members := by simp [split]
          rcases covers.covered slot isSlot with
            ⟨only, isOnly, isSpelled⟩ | ⟨_, noMember⟩
          · rw [split, List.filter_append, List.filter_cons_of_pos
              (by simpa using sameName.symm), List.append_eq_singleton_iff]
              at isOnly
            rcases isOnly with ⟨noFront, isOnly⟩ | ⟨_, isEmpty⟩
            · obtain rfl := (List.cons.inj isOnly).1
              rw [List.filter_eq_nil_iff] at noFront
              exact ⟨List.any_eq_false.mpr (by simpa using noFront), isSpelled⟩
            · cases isEmpty
          · exact absurd sameName.symm (noMember member isMember)
        · intro noSlot
          exact covers.others member (by simp [split]) noSlot
  rw [fields.draft_eq_draftWith values]
  exact leads [] members rfl

/-- A record is read from an object. -/
private theorem run_object (fills : Fills fields values slots)
    (distinct : (slots.map Slot.name).Nodup) {members : List NamedMember}
    (covers : Covers slots members) {text : List Char}
    (enclosed : Enclosed '\x7b' '\x7d'
      (members.map fun member => member.text) text)
    (name : String) {space : List Char} (isBlank : IsBlank space)
    (rest : List Char) :
    (fields.read name).run (space ++ (text ++ rest)) =
      .ok (values, rest) := by
  apply (fills.leads_of_covers distinct covers).run_read ?_ enclosed _ isBlank
  apply fills.complete_draftWith
  intro slot isSlot
  rcases covers.covered slot isSlot with ⟨only, isOnly, _⟩ | ⟨omissible, _⟩
  · have isMatch : only ∈ members.filter
        fun member => member.name == slot.name := by
      rw [isOnly]
      exact List.mem_cons_self
    obtain ⟨isMember, sameName⟩ := List.mem_filter.mp isMatch
    exact .inl (List.any_eq_true.mpr ⟨only, isMember, sameName⟩)
  · exact .inr omissible

private theorem run_hasElement_end (isFirst : Bool) {space : List Char}
    (isBlank : IsBlank space) (rest : List Char) :
    (Fields.hasElement isFirst).run (space ++ ']' :: rest) =
      .ok (false, ']' :: rest) := by
  rw [Fields.hasElement, run_bind, run_token_blank isBlank rfl]
  rfl

private theorem run_hasElement_first {codec : Codec α} {text : List Char}
    {value : α} (reads : codec.Reads text value) {space : List Char}
    (isBlank : IsBlank space) (rest : List Char) :
    (Fields.hasElement true).run (space ++ (text ++ rest)) =
      .ok (true, text ++ rest) := by
  obtain ⟨first, _, notClosing, looks⟩ := reads.run_token isBlank rest
  simp only [Fields.hasElement, run_bind, looks, Except.bind, ite_true,
    run_pure]

private theorem run_hasElement_next {codec : Codec α} {text : List Char}
    {value : α} (reads : codec.Reads text value) {before after : List Char}
    (beforeIsBlank : IsBlank before) (afterIsBlank : IsBlank after)
    (rest : List Char) :
    (Fields.hasElement false).run
        (before ++ ',' :: (after ++ (text ++ rest))) =
      .ok (true, text ++ rest) := by
  obtain ⟨first, _, notClosing, looks⟩ := reads.run_token afterIsBlank rest
  rw [Fields.hasElement, run_bind, run_token_blank beforeIsBlank rfl]
  simp only [Except.bind]
  split
  case h_1 absent => cases absent
  case h_2 isClosing => cases isClosing
  case h_3 isComma =>
    obtain rfl := Option.some.inj isComma
    simp only [Bool.false_eq_true, ite_false, ite_true, run_bind, run_next,
      Except.bind, List.tail_cons, looks, run_pure]

/-- Where the list ends, the fields that are left fall back on their values. -/
private theorem run_readElements_end (fills : Fills fields values slots)
    (omissible : ∀ slot ∈ slots, slot.omissible) {space : List Char}
    (isBlank : IsBlank space) (wanted : String) (position : Nat)
    (rest : List Char) :
    (fields.readElements wanted position).run (space ++ ']' :: rest) =
      .ok (values, rest) := by
  induction fills generalizing space position with
  | done =>
      have closing : isSpace ']' = false := rfl
      simp only [Fields.readElements, Fields.readClosing, run_bind,
        run_nextToken isBlank closing, Except.bind, run_pure]
  | field _ _ fallsBack _ ih =>
      obtain ⟨here, others⟩ := List.forall_mem_cons.mp omissible
      have continues := ih others isBlank_nil (position + 1)
      rw [List.nil_append] at continues
      simp only [Fields.readElements, run_bind, run_hasElement_end _ isBlank,
        Except.bind, Bool.false_eq_true, ite_false, fallsBack here, continues,
        run_pure]

/-- The elements behind a first one are read up to the closing bracket. -/
private theorem run_readElements_later (fills : Fills fields values slots)
    {texts : List (List Char)} (lists : Lists slots texts) {text : List Char}
    (later : Later texts text) (wanted : String) (position : Nat)
    (rest : List Char) :
    (fields.readElements wanted (position + 1)).run (text ++ ']' :: rest) =
      .ok (values, rest) := by
  induction fills generalizing texts text position with
  | done =>
      cases lists with
      | omitted omissible =>
          obtain ⟨isBlank⟩ := later
          exact Fills.done.run_readElements_end omissible isBlank _ _ _
  | field sameName spells fallsBack fills ih =>
      cases lists with
      | omitted omissible =>
          obtain ⟨isBlank⟩ := later
          exact (Fills.field sameName spells fallsBack fills)
            |>.run_readElements_end omissible isBlank _ _ _
      | next isSpelled others =>
          obtain _ | ⟨beforeIsBlank, afterIsBlank, laterTexts⟩ := later
          have valueReads := spells.reads _ isSpelled
          have ends := laterTexts.endsNumeral
            (endsNumeral_bracket (.inl rfl) rest)
          have notFirst : (position + 1 == 0) = false := rfl
          simp only [Fields.readElements, notFirst, run_bind, List.append_assoc,
            List.cons_append,
            run_hasElement_next valueReads beforeIsBlank afterIsBlank,
            Except.bind, ite_true, valueReads.run_here ends,
            ih others laterTexts (position + 1), run_pure]

/-- A record is read from a list. -/
private theorem run_elements (fills : Fills fields values slots)
    {texts : List (List Char)} (lists : Lists slots texts) {text : List Char}
    (enclosed : Enclosed '[' ']' texts text) (name : String)
    {space : List Char} (isBlank : IsBlank space) (rest : List Char) :
    (fields.read name).run (space ++ (text ++ rest)) =
      .ok (values, rest) := by
  have opening : isSpace '[' = false := rfl
  cases enclosed with
  | none innerIsBlank =>
      obtain ⟨omissible⟩ := lists
      simp only [Fields.read, run_bind, List.cons_append,
        run_nextToken isBlank opening, Except.bind, List.append_assoc,
        List.nil_append, fills.run_readElements_end omissible innerIsBlank]
  | some innerIsBlank later =>
      obtain _ | ⟨isSpelled, others⟩ := lists
      obtain _ | ⟨_, spells, _, laterFills⟩ := fills
      have valueReads := spells.reads _ isSpelled
      have ends := later.endsNumeral (endsNumeral_bracket (.inl rfl) rest)
      have first : (0 == 0) = true := rfl
      simp only [Fields.read, Fields.readElements, first, run_bind,
        List.cons_append, run_nextToken isBlank opening, Except.bind,
        List.append_assoc, List.nil_append,
        run_hasElement_first valueReads innerIsBlank, ite_true,
        valueReads.run_here ends,
        laterFills.run_readElements_later others later _ 0, run_pure]

/-- A record is read from every spelling of its slots. -/
theorem run_read (fills : Fills fields values slots)
    (distinct : fields.names.Nodup) {text : List Char}
    (spelled : RecordOf slots text) (name : String) {space : List Char}
    (isBlank : IsBlank space) (rest : List Char) :
    (fields.read name).run (space ++ (text ++ rest)) =
      .ok (values, rest) := by
  rw [← fills.map_name] at distinct
  cases spelled with
  | object covers enclosed =>
      exact fills.run_object distinct covers enclosed name isBlank rest
  | list lists enclosed =>
      exact fills.run_elements lists enclosed name isBlank rest

theorem map_fst_write (fields : Fields τ δ) (values : τ) :
    (fields.write values).map Prod.fst = fields.names := by
  induction fields with
  | done => rfl
  | field first later ih =>
      rw [Fields.write, List.map_cons, ih, Fields.names]

theorem map_name_write (fields : Fields τ δ) (values : τ)
    (layout : Layout) (depth : Nat) :
    ((fields.write values).map (layout.namedMember depth)).map
      NamedMember.name = fields.names := by
  rw [List.map_map, ← map_fst_write fields values]
  rfl

/-- Every slot has one written member. -/
private theorem filter_write (fills : Fills fields values slots)
    (distinct : fields.names.Nodup) (layout : Layout) (depth : Nat) :
    ∀ slot ∈ slots, ∃ member,
      (((fields.write values).map (layout.namedMember depth)).filter
        fun member => member.name == slot.name) = [member] ∧
      slot.spelled member.value := by
  induction fills with
  | done => exact List.forall_mem_nil _
  | @field _ _ _ first later value values slot slots sameName spells _ fills ih =>
      obtain ⟨notLater, laterDistinct⟩ := List.nodup_cons.mp distinct
      rw [Fields.write, List.map_cons]
      have isNamed : (layout.namedMember depth
          (first.name, first.codec.write value)).name = first.name := rfl
      refine List.forall_mem_cons.mpr ⟨?_, ?_⟩
      · refine ⟨layout.namedMember depth (first.name, first.codec.write value),
          ?_, spells.writes layout depth⟩
        rw [List.filter_cons_of_pos (by simpa [isNamed] using sameName)]
        refine congrArg _ (List.filter_eq_nil_iff.mpr ?_)
        intro member isMember isSame
        have isName : member.name ∈ later.names := by
          rw [← map_name_write later values layout depth]
          exact List.mem_map_of_mem isMember
        rw [beq_iff_eq.mp isSame, ← sameName] at isName
        exact notLater isName
      · intro other isOther
        have isName : other.name ∈ later.names := by
          rw [← fills.map_name]
          exact List.mem_map_of_mem isOther
        have differs : ¬ first.name = other.name := by
          intro same
          rw [same] at notLater
          exact notLater isName
        rw [List.filter_cons_of_neg (by simpa [isNamed] using differs)]
        exact ih laterDistinct other isOther

/-- The members of a written record are those of its slots. -/
private theorem covers_write (fills : Fills fields values slots)
    (distinct : fields.names.Nodup) (layout : Layout) (depth : Nat) :
    Covers slots ((fields.write values).map (layout.namedMember depth)) := by
  apply Covers.of_names
  · intro slot isSlot
    exact .inl (fills.filter_write distinct layout depth slot isSlot)
  · intro member isMember
    rw [fills.map_name, ← map_name_write fields values layout depth]
    exact .inl (List.mem_map_of_mem isMember)

end Fills

theorem Enclosed.eq_cons {opening closing : Char} {texts : List (List Char)}
    {text : List Char} (enclosed : Enclosed opening closing texts text) :
    ∃ inner, text = opening :: inner := by
  cases enclosed <;> exact ⟨_, rfl⟩

theorem Codec.record_spells {fields : Fields τ δ} {values : α → τ}
    {build : τ → α} {value : α} {slots : List Slot}
    (fills : Fills fields (values value) slots)
    (distinct : fields.names.Nodup)
    (built : build (values value) = value) (name : String) :
    (Codec.record name fields build values).Spells value (RecordOf slots) where
  reads text spelled := by
    refine ⟨?_, ?_⟩
    · cases spelled with
      | object _ enclosed =>
          obtain ⟨inner, rfl⟩ := enclosed.eq_cons
          exact ⟨_, _, rfl, rfl, by decide⟩
      | list _ enclosed =>
          obtain ⟨inner, rfl⟩ := enclosed.eq_cons
          exact ⟨_, _, rfl, rfl, by decide⟩
    · intro space rest isBlank _
      change (build <$> fields.read name).run _ = _
      rw [run_map, fills.run_read distinct spelled name isBlank rest]
      change Except.ok (build (values value), rest) = _
      rw [built]
  writes layout depth :=
    .object (fills.covers_write distinct layout (depth + 1))
      (layout.isEnclosed_object depth _)

end BgpTestbed.Json
