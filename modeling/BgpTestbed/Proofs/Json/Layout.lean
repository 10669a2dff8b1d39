import BgpTestbed.Json.Value
import BgpTestbed.Proofs.Json.Tokens

/-!
# Layouts

The compact and the indented text of a value differ only in the space between
its tokens.  What is said about a layout holds for both texts at once: lists and
objects are spelled as they have to be.
-/

namespace BgpTestbed.Json

open Reader

inductive Layout where
  | compact
  | pretty
  deriving DecidableEq

namespace Layout

/-- The text of a value at a nesting depth. -/
def text : Layout → Nat → Value → List Char
  | .compact, _, value => value.compact
  | .pretty, depth, value => value.prettyAt depth

/-- The space in front of an item, or in front of a closing bracket. -/
def space : Layout → Nat → List Char
  | .compact, _ => []
  | .pretty, depth => newLine depth

/-- The space between a colon and the value behind it. -/
def colonSpace : Layout → List Char
  | .compact => []
  | .pretty => [' ']

/-- A key, its colon and its value. -/
def member (layout : Layout) (depth : Nat) (entry : String × Value) :
    List Char :=
  quotedText entry.1 ++
    ':' :: layout.colonSpace ++ layout.text depth entry.2

/-- The items behind the first one, each behind a comma. -/
def laterTexts (layout : Layout) (depth : Nat)
    (texts : List (List Char)) : List Char :=
  texts.flatMap fun text => ',' :: layout.space depth ++ text

/-- Brackets around texts that stand one level deeper. -/
def enclosed (layout : Layout) (opening closing : Char) (depth : Nat) :
    List (List Char) → List Char
  | [] => [opening, closing]
  | first :: later =>
      opening :: layout.space (depth + 1) ++ first ++
        layout.laterTexts (depth + 1) later ++
        layout.space depth ++ [closing]

theorem isBlank_space (layout : Layout) (depth : Nat) :
    IsBlank (layout.space depth) := by
  cases layout with
  | compact => exact isBlank_nil
  | pretty =>
      intro character isIn
      rcases List.mem_cons.mp isIn with rfl | isLater
      · rfl
      · rw [List.eq_of_mem_replicate isLater]
        rfl

theorem isBlank_colonSpace (layout : Layout) : IsBlank layout.colonSpace := by
  cases layout with
  | compact => exact isBlank_nil
  | pretty =>
      intro character isIn
      rw [List.mem_singleton.mp isIn]
      rfl

/-- The later texts stand in front of the space before a closing bracket. -/
private theorem isLater (layout : Layout) (depth inner : Nat)
    (texts : List (List Char)) :
    Later texts (layout.laterTexts inner texts ++ layout.space depth) := by
  induction texts with
  | nil => exact .none (layout.isBlank_space depth)
  | cons text later ih =>
      have next : Later (text :: later) ([] ++ ',' :: (layout.space inner ++
          (text ++ (layout.laterTexts inner later ++ layout.space depth)))) :=
        .next isBlank_nil (layout.isBlank_space inner) ih
      simpa [laterTexts] using next

theorem isEnclosed (layout : Layout) (opening closing : Char) (depth : Nat)
    (texts : List (List Char)) :
    Enclosed opening closing texts
      (layout.enclosed opening closing depth texts) := by
  cases texts with
  | nil => exact .none isBlank_nil
  | cons first later =>
      have some : Enclosed opening closing (first :: later)
          (opening :: (layout.space (depth + 1) ++ (first ++
            (layout.laterTexts (depth + 1) later ++ layout.space depth ++
              [closing])))) :=
        .some (layout.isBlank_space (depth + 1))
          (layout.isLater depth (depth + 1) later)
      simpa [enclosed] using some

private theorem intercalate_cons (separator first : List Char)
    (later : List (List Char)) :
    separator.intercalate (first :: later) =
      first ++ later.flatMap fun text => separator ++ text := by
  induction later generalizing first with
  | nil => simp [List.intercalate]
  | cons second later ih =>
      rw [List.intercalate_cons_cons, ih, List.flatMap_cons]
      simp

private theorem enclosed_compact (opening closing : Char) (depth : Nat)
    (texts : List (List Char)) :
    compact.enclosed opening closing depth texts =
      opening :: [','].intercalate texts ++ [closing] := by
  cases texts with
  | nil => rfl
  | cons first later => simp [enclosed, space, laterTexts, intercalate_cons]

private theorem enclosed_pretty (opening closing : Char) (depth : Nat)
    (texts : List (List Char)) :
    pretty.enclosed opening closing depth texts =
      bracketed opening closing depth texts := by
  cases texts with
  | nil => rfl
  | cons first later =>
      simp [enclosed, space, laterTexts, bracketed, intercalate_cons]

private theorem member_compact (depth : Nat) (key : String) (value : Value) :
    compact.member depth (key, value) =
      quotedText key ++ ':' :: value.compact := by
  simp [member, colonSpace, text]

private theorem member_pretty (depth : Nat) (key : String) (value : Value) :
    pretty.member depth (key, value) =
      quotedText key ++ ':' :: ' ' :: value.prettyAt depth := by
  simp [member, colonSpace, text]

theorem text_list (layout : Layout) (depth : Nat) (items : List Value) :
    layout.text depth (.list items) =
      layout.enclosed '[' ']' depth (items.map (layout.text (depth + 1))) := by
  cases layout with
  | compact =>
      rw [enclosed_compact, text, Value.compact, compactItems_eq_map]
      rfl
  | pretty =>
      rw [enclosed_pretty, text, Value.prettyAt, prettyItems_eq_map]
      rfl

theorem text_object (layout : Layout) (depth : Nat)
    (members : List (String × Value)) :
    layout.text depth (.object members) =
      layout.enclosed '\x7b' '\x7d' depth
        (members.map (layout.member (depth + 1))) := by
  cases layout with
  | compact =>
      simp only [enclosed_compact, text, Value.compact, compactMembers_eq_map,
        ← member_compact (depth + 1)]
  | pretty =>
      simp only [enclosed_pretty, text, Value.prettyAt, prettyMembers_eq_map,
        ← member_pretty]

theorem text_text (layout : Layout) (depth : Nat) (value : String) :
    layout.text depth (.text value) = quotedText value := by
  cases layout <;> rw [text] <;> simp only [Value.compact, Value.prettyAt]

theorem text_number (layout : Layout) (depth : Nat) (value : Nat) :
    layout.text depth (.number value) = Nat.toDigits 10 value := by
  cases layout <;> rw [text] <;> simp only [Value.compact, Value.prettyAt]

theorem text_null (layout : Layout) (depth : Nat) :
    layout.text depth .null = ['n', 'u', 'l', 'l'] := by
  cases layout <;> rw [text] <;> simp only [Value.compact, Value.prettyAt]

/-- A key and its value as a member of an object. -/
def namedMember (layout : Layout) (depth : Nat) (entry : String × Value) :
    NamedMember where
  key := entry.1.toList.flatMap escapedChar
  beforeColon := []
  afterColon := layout.colonSpace
  value := layout.text depth entry.2
  beforeIsBlank := isBlank_nil
  afterIsBlank := layout.isBlank_colonSpace
  name := entry.1
  denotes := denotes_escaped entry.1.toList

theorem text_namedMember (layout : Layout) (depth : Nat)
    (entry : String × Value) :
    (layout.namedMember depth entry).text = layout.member depth entry := by
  simp [namedMember, Member.text, Member.behindKey, member, quotedText]

theorem isEnclosed_object (layout : Layout) (depth : Nat)
    (entries : List (String × Value)) :
    Enclosed '\x7b' '\x7d'
      ((entries.map (layout.namedMember (depth + 1))).map
        fun member => member.text)
      (layout.text depth (.object entries)) := by
  rw [text_object, List.map_map]
  have sameTexts : (fun member => member.text) ∘
      layout.namedMember (depth + 1) = layout.member (depth + 1) := by
    funext entry
    exact layout.text_namedMember (depth + 1) entry
  rw [sameTexts]
  exact layout.isEnclosed _ _ depth _

end Layout

end BgpTestbed.Json
