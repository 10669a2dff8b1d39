import BgpTestbed.Proofs.Json.Skipped

/-!
# Spelled values read

A codec reads a value from a text if it does so wherever the text stands:
whatever space is in front of it and whatever follows it.  Lists and optional
values are read from their spellings if what they hold is; an object is read
member by member.
-/

namespace BgpTestbed.Json

open Reader

variable {α σ τ δ : Type}

/-- Wherever the text stands, the codec reads it as the value. -/
structure Codec.Reads (codec : Codec α) (text : List Char) (value : α) :
    Prop where
  starts : ∃ first later, text = first :: later ∧ isSpace first = false ∧
    first ≠ ']'
  reads : ∀ space rest, IsBlank space → EndsNumeral rest →
    codec.read.run (space ++ (text ++ rest)) = .ok (value, rest)

namespace Codec

variable {codec : Codec α}

/-- The text is what a reader sees that looks for a token. -/
theorem Reads.run_token {text : List Char} {value : α}
    (reads : codec.Reads text value) {space : List Char}
    (isBlank : IsBlank space) (rest : List Char) :
    ∃ first, text.head? = some first ∧ first ≠ ']' ∧
      token.run (space ++ (text ++ rest)) = .ok (some first, text ++ rest) := by
  obtain ⟨first, later, rfl, notSpace, notClosing⟩ := reads.starts
  exact ⟨first, rfl, notClosing, run_token_blank isBlank notSpace _⟩

/-- Without space in front of it. -/
theorem Reads.run_here {text : List Char} {value : α}
    (reads : codec.Reads text value) {rest : List Char}
    (ends : EndsNumeral rest) :
    codec.read.run (text ++ rest) = .ok (value, rest) :=
  reads.reads [] rest isBlank_nil ends

/-- A whole text with a spelling of the value in it. -/
theorem Reads.decode_eq {text : List Char} {value : α}
    (reads : codec.Reads text value) {before after : List Char}
    (beforeIsBlank : IsBlank before) (afterIsBlank : IsBlank after) :
    codec.decode (String.ofList (before ++ (text ++ after))) = .ok value := by
  have ends : EndsNumeral after := by
    simpa using endsNumeral_nil.append afterIsBlank
  rw [decode, String.toList_ofList, run_bind, reads.reads _ _ beforeIsBlank ends]
  simp only [Except.bind, run_bind, run_nextToken_of_isBlank afterIsBlank]
  rfl

theorem run_readText_textOf (wanted : String) {value : String}
    {text : List Char} (spelled : TextOf value text) {space : List Char}
    (isBlank : IsBlank space) (rest : List Char) :
    (readText wanted).run (space ++ (text ++ rest)) = .ok (value, rest) := by
  obtain ⟨denotes⟩ := spelled
  rw [readText, run_bind, List.cons_append, run_nextToken isBlank rfl,
    List.append_assoc]
  exact run_text_of_denotes denotes rest

theorem text_reads {value : String} {text : List Char}
    (spelled : TextOf value text) : Codec.text.Reads text value where
  starts := by
    obtain ⟨denotes⟩ := spelled
    exact ⟨_, _, rfl, rfl, by decide⟩
  reads _ rest isBlank _ := run_readText_textOf _ spelled isBlank rest

theorem word_reads {value : UInt32} {text : List Char}
    (spelled : WordOf value text) : word.Reads text value where
  starts := by
    obtain ⟨first, later, digits, isDigit⟩ := toDigits_eq_cons value.toNat
    refine ⟨first, later, spelled.trans digits, isSpace_of_isDigit isDigit, ?_⟩
    rintro rfl
    cases isDigit
  reads space rest isBlank ends := by
    rw [spelled, ← List.append_assoc]
    exact run_readWord value isBlank ends

/-- Whatever does not start like `null` is left to the present value. -/
theorem run_readOptional_present (present : Reader α) {text here : List Char}
    {first? : Option Char} (looks : token.run text = .ok (first?, here))
    (notNull : first? ≠ some 'n') :
    (readOptional present).run text = (some <$> present).run here := by
  rw [readOptional, run_bind, looks]
  simp only [Except.bind]

/-- A present value is told from an absent one by its first character. -/
theorem optional_reads {spelled : α → List Char → Prop} {value : Option α}
    (present : ∀ held text, spelled held text →
      codec.Reads text held ∧ text.head? ≠ some 'n')
    {text : List Char} (isSpelled : OptionalOf spelled value text) :
    (optional codec).Reads text value := by
  cases value with
  | none =>
      have isNull : text = ['n', 'u', 'l', 'l'] := isSpelled
      subst isNull
      refine ⟨⟨_, _, rfl, rfl, by decide⟩, ?_⟩
      intro space rest isBlank _
      change (readOptional codec.read).run _ = _
      rw [readOptional, run_bind, List.cons_append, run_token_blank isBlank rfl]
      rfl
  | some held =>
      obtain ⟨reads, notNull⟩ := present held text isSpelled
      refine ⟨reads.starts, ?_⟩
      intro space rest isBlank ends
      obtain ⟨first, isFirst, _, looks⟩ := reads.run_token isBlank rest
      rw [isFirst] at notNull
      change (readOptional codec.read).run _ = _
      rw [run_readOptional_present _ looks notNull, run_map,
        reads.run_here ends]
      rfl

theorem listStep_space (item : Reader α) (soFar : List α)
    (character : Char) (space : isSpace character = true) :
    listStep item soFar character = pure (.inl soFar) := by
  rw [listStep, if_pos space]

/-- A token that does not close the list starts its first item. -/
theorem run_readItems_item (item : Reader α) {text here : List Char}
    {first : Char} (looks : token.run text = .ok (some first, here))
    (notClosing : first ≠ ']') :
    (readItems item).run text =
      (item >>= fun value =>
        scan (listStep item) (fun _ => .endOfList) [value]).run here := by
  rw [readItems, run_bind, looks]
  simp only [Except.bind]

/-- A token that does not close the list starts the item behind a comma. -/
theorem run_listStep_item (item : Reader α) (soFar : List α)
    {text here : List Char} {first : Char}
    (looks : token.run text = .ok (some first, here))
    (notClosing : first ≠ ']') :
    (listStep item soFar ',').run text =
      (item >>= fun value => pure (.inl (value :: soFar))).run here := by
  have notSpace : isSpace ',' = false := rfl
  have notEnd : ',' ≠ ']' := by decide
  simp only [listStep, notSpace, Bool.false_eq_true, ite_false, notEnd,
    ite_true, run_bind, looks, Except.bind]

/-- An item behind a comma is taken. -/
theorem run_scan_listItem {text : List Char} {item : α}
    (reads : codec.Reads text item) (atEnd : List α → Fault)
    (soFar : List α) {space rest : List Char} (isBlank : IsBlank space)
    (ends : EndsNumeral rest) :
    (scan (listStep codec.read) atEnd soFar).run
        (',' :: (space ++ (text ++ rest))) =
      (scan (listStep codec.read) atEnd (item :: soFar)).run rest := by
  obtain ⟨first, _, notClosing, looks⟩ := reads.run_token isBlank rest
  rw [run_scan_cons, run_listStep_item _ soFar looks notClosing, run_bind,
    reads.run_here ends]
  rfl

private theorem takes_listItems {items : List α} {texts : List (List Char)}
    (reads : List.Forall₂ (fun item text => codec.Reads text item) items texts)
    (atEnd : List α → Fault) (soFar : List α) :
    Takes (listStep codec.read) atEnd soFar texts
      (items.reverse ++ soFar) := by
  induction reads generalizing soFar with
  | nil => exact .done _
  | @cons item text items texts reads _ ih =>
      have reversed : (item :: items).reverse ++ soFar =
          items.reverse ++ item :: soFar := by simp
      rw [reversed]
      exact .next (fun _ _ isBlank ends =>
        run_scan_listItem reads atEnd soFar isBlank ends) (ih (item :: soFar))

private theorem forall₂_reads {spelled : α → List Char → Prop}
    {items : List α} {texts : List (List Char)}
    (areSpelled : List.Forall₂ spelled items texts)
    (itemReads : ∀ item ∈ items, ∀ text, spelled item text →
      codec.Reads text item) :
    List.Forall₂ (fun item text => codec.Reads text item) items texts := by
  induction areSpelled with
  | nil => exact .nil
  | cons isSpelled _ ih =>
      obtain ⟨firstReads, laterReads⟩ := List.forall_mem_cons.mp itemReads
      exact .cons (firstReads _ isSpelled) (ih laterReads)

theorem list_reads {spelled : α → List Char → Prop} {items : List α}
    (itemReads : ∀ item ∈ items, ∀ text, spelled item text →
      codec.Reads text item)
    {text : List Char} (isSpelled : ListOf spelled items text) :
    (list codec).Reads text items := by
  obtain @⟨texts, text, areSpelled, enclosed⟩ := isSpelled
  have reads := forall₂_reads areSpelled itemReads
  have enters (space inner : List Char) (isBlank : IsBlank space) :
      (readList codec.read).run (space ++ '[' :: inner) =
        (readItems codec.read).run inner := by
    rw [readList, run_bind, run_nextToken isBlank rfl]
    rfl
  cases enclosed with
  | none innerIsBlank =>
      obtain _ | _ := reads
      refine ⟨⟨_, _, rfl, rfl, by decide⟩, ?_⟩
      intro space rest isBlank _
      change (readList codec.read).run _ = _
      rw [List.cons_append, enters _ _ isBlank, List.append_assoc, readItems,
        run_bind, List.singleton_append, run_token_blank innerIsBlank rfl]
      rfl
  | some innerIsBlank others =>
      obtain _ | ⟨firstReads, laterReads⟩ := reads
      refine ⟨⟨_, _, rfl, rfl, by decide⟩, ?_⟩
      intro space rest isBlank _
      have closes : EndsNumeral (']' :: rest) :=
        endsNumeral_bracket (.inl rfl) rest
      have ends := others.endsNumeral closes
      obtain ⟨first, _, notClosing, looks⟩ := firstReads.run_token innerIsBlank _
      change (readList codec.read).run _ = _
      simp only [List.cons_append, List.append_assoc, List.nil_append]
      rw [enters _ _ isBlank, run_readItems_item _ looks notClosing, run_bind,
        firstReads.run_here ends]
      simp only [Except.bind]
      rw [run_scan_later (listStep_space codec.read)
        (takes_listItems laterReads _ _) others closes, run_scan_cons]
      have notSpace : isSpace ']' = false := rfl
      simp [listStep, notSpace, run_pure, Except.bind]

end Codec

/-- Reading the members in order leads from one state to another. -/
inductive Leads (read : σ → String → Reader σ) :
    σ → List NamedMember → σ → Prop where
  | done (state : σ) : Leads read state [] state
  | next {state following last : σ} {member : NamedMember}
      {later : List NamedMember}
      (reads : ∀ rest, EndsNumeral rest →
        (read state member.name).run (member.behindKey ++ rest) =
          .ok (following, rest))
      (others : Leads read following later last) :
      Leads read state (member :: later) last

theorem objectStep_space (read : σ → String → Reader σ) (state : σ)
    (character : Char) (space : isSpace character = true) :
    objectStep read state character = pure (.inl state) := by
  rw [objectStep, if_pos space]

/-- A member behind a comma is taken. -/
theorem run_scan_objectMember {read : σ → String → Reader σ}
    {state following : σ} {member : NamedMember} {rest : List Char}
    (reads : (read state member.name).run (member.behindKey ++ rest) =
      .ok (following, rest)) (atEnd : σ → Fault) {space : List Char}
    (isBlank : IsBlank space) :
    (scan (objectStep read) atEnd state).run
        (',' :: (space ++ (member.text ++ rest))) =
      (scan (objectStep read) atEnd following).run rest := by
  have step : (objectStep read state ',').run
      (space ++ (member.text ++ rest)) = .ok (.inl following, rest) := by
    have notSpace : isSpace ',' = false := rfl
    have notEnd : ',' ≠ '\x7d' := by decide
    have quote : isSpace '"' = false := rfl
    simp only [objectStep, notSpace, Bool.false_eq_true, ite_false, notEnd,
      ite_true, run_bind, Member.text, List.cons_append, List.append_assoc,
      run_nextToken isBlank quote, Except.bind,
      run_text_of_denotes member.denotes, reads, run_pure]
  rw [run_scan_cons, step]
  rfl

private theorem takes_objectMembers {read : σ → String → Reader σ}
    {state last : σ} {members : List NamedMember}
    (leads : Leads read state members last) (atEnd : σ → Fault) :
    Takes (objectStep read) atEnd state
      (members.map fun member => member.text) last := by
  induction leads with
  | done state => exact .done state
  | next reads _ ih =>
      exact .next (fun _ rest isBlank ends =>
        run_scan_objectMember (reads rest ends) atEnd isBlank) ih

/-- The members of an object are read from behind its opening brace. -/
theorem run_readMembers {read : σ → String → Reader σ} {start last : σ}
    {members : List NamedMember} (leads : Leads read start members last)
    {text : List Char} (enclosed : Enclosed '\x7b' '\x7d'
      (members.map fun member => member.text) text) :
    ∃ inner, text = '\x7b' :: inner ∧
      ∀ rest, (readMembers read start).run (inner ++ rest) =
        .ok (last, rest) := by
  generalize isTexts : (members.map fun member => member.text) = texts
    at enclosed
  cases enclosed with
  | none isBlank =>
      refine ⟨_, rfl, fun rest => ?_⟩
      obtain rfl := List.map_eq_nil_iff.mp isTexts
      obtain _ | _ := leads
      rw [readMembers, run_bind, List.append_assoc, List.singleton_append,
        run_nextToken isBlank rfl]
      rfl
  | some isBlank others =>
      refine ⟨_, rfl, fun rest => ?_⟩
      obtain ⟨member, members, rfl, rfl, rfl⟩ := List.map_eq_cons_iff.mp isTexts
      obtain _ | ⟨reads, laterLead⟩ := leads
      have closes : EndsNumeral ('\x7d' :: rest) :=
        endsNumeral_bracket (.inr rfl) rest
      have quote : isSpace '"' = false := rfl
      simp only [readMembers, run_bind, Member.text, List.cons_append,
        List.append_assoc, List.nil_append, run_nextToken isBlank quote,
        Except.bind, run_text_of_denotes member.denotes,
        reads _ (others.endsNumeral closes)]
      rw [run_scan_later (objectStep_space read)
        (takes_objectMembers laterLead _) others closes, run_scan_cons]
      rfl

end BgpTestbed.Json
