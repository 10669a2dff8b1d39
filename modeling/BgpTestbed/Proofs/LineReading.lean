import BgpTestbed.Proofs.RouterStrings

/-!
# Lines read back

A line without newlines is known by the text that it starts with, and a word
without spaces by the space next to it.  What stands behind is free: it may
look like any other part of the text.
-/

namespace BgpTestbed.Text

section Until

variable {character : Char} {word rest : List Char}

theorem takeWhile_ne_append (lacks : character ∉ word) :
    (word ++ character :: rest).takeWhile (· != character) = word := by
  have differ : ∀ other ∈ word, (other != character) = true := by
    intro other member
    simpa using ne_of_mem_of_not_mem member lacks
  rw [List.takeWhile_append_of_pos differ, List.takeWhile_cons_of_neg (by simp),
    List.append_nil]

theorem dropWhile_ne_append (lacks : character ∉ word) :
    (word ++ character :: rest).dropWhile (· != character) =
      character :: rest := by
  have differ : ∀ other ∈ word, (other != character) = true := by
    intro other member
    simpa using ne_of_mem_of_not_mem member lacks
  rw [List.dropWhile_append_of_pos differ, List.dropWhile_cons_of_neg (by simp)]

end Until

/-- Lines without newlines are the lines of only one text. -/
theorem ofLines_inj {first second : List String}
    (firstLacks : LacksIn '\n' first) (secondLacks : LacksIn '\n' second)
    (same : ofLines first = ofLines second) : first = second := by
  induction first generalizing second with
  | nil =>
      have isEmpty : ofLines second = "" := same.symm
      exact ((ofLines_eq_empty_iff second).mp isEmpty).symm
  | cons line later ih =>
      cases second with
      | nil =>
          have isEmpty : ofLines (line :: later) = "" := same
          exact absurd ((ofLines_eq_empty_iff _).mp isEmpty) (by simp)
      | cons other others =>
          obtain ⟨lineLacks, laterLacks⟩ := lacksIn_cons.mp firstLacks
          obtain ⟨otherLacks, othersLacks⟩ := lacksIn_cons.mp secondLacks
          have sameChars :
              line.toList ++ '\n' :: (ofLines later).toList =
                other.toList ++ '\n' :: (ofLines others).toList := by
            simpa [ofLines_cons] using congrArg String.toList same
          -- The first newline of each text ends its first line.
          have sameLine : line.toList = other.toList := by
            rw [← takeWhile_ne_append lineLacks, sameChars,
              takeWhile_ne_append otherLacks]
          have sameLater : (ofLines later).toList = (ofLines others).toList :=
            by rwa [sameLine, List.append_right_inj, List.cons_inj_right]
              at sameChars
          rw [String.toList_inj.mp sameLine,
            ih laterLacks othersLacks (String.toList_inj.mp sameLater)]

/-- The line starts with the text. -/
def Opens (opening line : String) : Prop :=
  opening.toList <+: line.toList

instance (opening line : String) : Decidable (Opens opening line) :=
  inferInstanceAs (Decidable (opening.toList <+: line.toList))

/-- No line starts with both texts. -/
def Apart (opening other : String) : Prop :=
  ¬ Opens opening other ∧ ¬ Opens other opening

instance (opening other : String) : Decidable (Apart opening other) :=
  inferInstanceAs (Decidable (_ ∧ _))

/-- What stands behind the text that the line starts with. -/
def after? (opening line : String) : Option String :=
  if Opens opening line then
    some (String.ofList (line.toList.drop opening.toList.length))
  else none

theorem opens_append {opening other : String} (opens : Opens opening other)
    (rest : String) : Opens opening (other ++ rest) := by
  rw [Opens, String.toList_append]
  exact List.IsPrefix.trans opens (List.prefix_append _ _)

theorem not_opens_append {opening other : String} (apart : Apart opening other)
    (rest : String) : ¬ Opens opening (other ++ rest) := by
  intro opens
  have otherOpens : Opens other (other ++ rest) := by
    rw [Opens, String.toList_append]
    exact List.prefix_append _ _
  rcases List.prefix_or_prefix_of_prefix opens otherOpens with
    isPrefix | isPrefix
  · exact apart.1 isPrefix
  · exact apart.2 isPrefix

theorem after?_append (opening rest : String) :
    after? opening (opening ++ rest) = some rest := by
  have opens : Opens opening (opening ++ rest) :=
    opens_append (List.prefix_refl _) rest
  rw [after?, if_pos opens, String.toList_append, List.drop_left,
    String.ofList_toList]

theorem after?_apart {opening other : String} (apart : Apart opening other)
    (rest : String) : after? opening (other ++ rest) = none :=
  if_neg (not_opens_append apart rest)

/-- What stands behind the text in the lines that start with it. -/
def behind (opening : String) (lines : List String) : List String :=
  lines.filterMap (after? opening)

variable {opening other : String}

theorem behind_nil : behind opening [] = [] := rfl

theorem behind_append (first second : List String) :
    behind opening (first ++ second) =
      behind opening first ++ behind opening second :=
  List.filterMap_append

theorem behind_cons_self (rest : String) (later : List String) :
    behind opening ((opening ++ rest) :: later) = rest :: behind opening later :=
  List.filterMap_cons_some (after?_append opening rest)

theorem behind_cons_apart (apart : Apart opening other) (rest : String)
    (later : List String) :
    behind opening ((other ++ rest) :: later) = behind opening later :=
  List.filterMap_cons_none (after?_apart apart rest)

theorem behind_flatMap {α : Type} (items : List α)
    (ofItem : α → List String) :
    behind opening (items.flatMap ofItem) =
      items.flatMap fun item => behind opening (ofItem item) :=
  List.filterMap_flatMap

theorem behind_map_self {α : Type} (items : List α) (ofItem : α → String) :
    behind opening (items.map fun item => opening ++ ofItem item) =
      items.map ofItem := by
  rw [behind, List.filterMap_map]
  simp only [Function.comp_def, after?_append]
  exact congrFun List.filterMap_eq_map items

theorem behind_map_apart {α : Type} (apart : Apart opening other)
    (items : List α) (ofItem : α → String) :
    behind opening (items.map fun item => other ++ ofItem item) = [] := by
  rw [behind, List.filterMap_eq_nil_iff]
  intro line member
  obtain ⟨item, _, rfl⟩ := List.mem_map.mp member
  exact after?_apart apart _

theorem behind_prefixed_self (texts : List String) :
    behind opening (texts.map (opening ++ ·)) = texts := by
  have texts_eq : behind opening (texts.map fun text => opening ++ id text) =
      texts.map id := behind_map_self texts id
  rwa [List.map_id] at texts_eq

theorem behind_prefixed_apart (apart : Apart opening other)
    (texts : List String) : behind opening (texts.map (other ++ ·)) = [] :=
  behind_map_apart apart texts id

/-- The blocks of a text: what stands behind the opening of their first lines,
each with the lines directly below it that are indented. -/
def blocks (opening indent : String) :
    List String → List (String × List String)
  | [] => []
  | line :: later =>
      match after? opening line with
      | some rest =>
          (rest, later.takeWhile fun line => decide (Opens indent line)) ::
            blocks opening indent later
      | none => blocks opening indent later

theorem blocks_append_apart {indent : String} {before later : List String}
    (apart : behind opening before = []) :
    blocks opening indent (before ++ later) = blocks opening indent later := by
  induction before with
  | nil => rfl
  | cons line others ih =>
      rw [behind, List.filterMap_eq_nil_iff] at apart
      have lineApart := apart line List.mem_cons_self
      have othersApart : behind opening others = [] :=
        List.filterMap_eq_nil_iff.mpr fun other member =>
          apart other (List.mem_cons_of_mem _ member)
      rw [List.cons_append, blocks, lineApart, ih othersApart]

/-- Blocks are read back as long as what follows them is not indented. -/
theorem blocks_flatMap {α : Type} {indent : String}
    {ofHead : α → String} {ofItem : α → List String}
    (apart : Apart indent opening) (items : List α)
    (indented : ∀ item ∈ items, ∀ line ∈ ofItem item,
      Opens indent line ∧ after? opening line = none)
    {later : List String} (ends : ∀ line ∈ later.head?, ¬ Opens indent line) :
    blocks opening indent
        (items.flatMap (fun item => (opening ++ ofHead item) :: ofItem item) ++
          later) =
      items.map (fun item => (ofHead item, ofItem item)) ++
        blocks opening indent later := by
  induction items with
  | nil => rfl
  | cons item others ih =>
      have itemIndented := indented item List.mem_cons_self
      have restBlocks := ih fun other member =>
        indented other (List.mem_cons_of_mem _ member)
      generalize rest : others.flatMap (fun item =>
        (opening ++ ofHead item) :: ofItem item) ++ later = following
        at restBlocks
      -- The next block or the rest ends this one.
      have followingEnds : ∀ line ∈ following.head?, ¬ Opens indent line := by
        subst rest
        cases others with
        | nil => exact ends
        | cons other _ =>
            intro line isHead
            cases isHead
            exact not_opens_append apart _
      have takesItem : (ofItem item ++ following).takeWhile
          (fun line => decide (Opens indent line)) = ofItem item := by
        rw [List.takeWhile_append_of_pos fun line member =>
          decide_eq_true (itemIndented line member).1]
        cases following with
        | nil => exact List.append_nil _
        | cons line _ =>
            rw [List.takeWhile_cons_of_neg, List.append_nil]
            simpa using followingEnds line rfl
      have itemApart : behind opening (ofItem item) = [] :=
        List.filterMap_eq_nil_iff.mpr fun line member =>
          (itemIndented line member).2
      rw [List.flatMap_cons, List.append_assoc, rest, List.cons_append, blocks,
        after?_append, takesItem, blocks_append_apart itemApart, restBlocks]
      rfl

/-- The first word of a text and what stands behind its space. -/
def splitFirst (text : String) : String × String :=
  (String.ofList (text.toList.takeWhile (· != ' ')),
    String.ofList ((text.toList.dropWhile (· != ' ')).drop 1))

theorem splitFirst_append {word : String} (lacks : Lacks ' ' word)
    (rest : String) : splitFirst (word ++ (" " ++ rest)) = (word, rest) := by
  have chars : (word ++ (" " ++ rest)).toList =
      word.toList ++ ' ' :: rest.toList := by simp
  rw [splitFirst, chars, takeWhile_ne_append lacks, dropWhile_ne_append lacks]
  simp

/-- What stands before the space of the last word of a text, and this word. -/
def splitLast (text : String) : String × String :=
  (String.ofList ((text.toList.reverse.dropWhile (· != ' ')).drop 1).reverse,
    String.ofList (text.toList.reverse.takeWhile (· != ' ')).reverse)

theorem splitLast_append (front : String) {word : String}
    (lacks : Lacks ' ' word) :
    splitLast (front ++ (" " ++ word)) = (front, word) := by
  have chars : (front ++ (" " ++ word)).toList.reverse =
      word.toList.reverse ++ ' ' :: front.toList.reverse := by simp
  have reversedLacks : ' ' ∉ word.toList.reverse := by
    simpa [Lacks] using lacks
  rw [splitLast, chars, takeWhile_ne_append reversedLacks,
    dropWhile_ne_append reversedLacks]
  simp

/-- The words of a text. -/
def words (text : String) : List String :=
  if text = "" then [] else (text.toList.splitOn ' ').map String.ofList

theorem words_intercalate {items : List String}
    (areWords : ∀ item ∈ items, item ≠ "" ∧ Lacks ' ' item) :
    words (" ".intercalate items) = items := by
  cases items with
  | nil => rfl
  | cons item later =>
      have chars : (" ".intercalate (item :: later)).toList =
          [' '].intercalate ((item :: later).map String.toList) :=
        String.toList_intercalate
      have notEmpty : " ".intercalate (item :: later) ≠ "" := by
        have itemNotEmpty := (areWords item List.mem_cons_self).1
        cases later with
        | nil => simpa using itemNotEmpty
        | cons second others =>
            rw [String.intercalate_cons_cons]
            simp [String.append_eq_empty_iff]
      have pieces : (" ".intercalate (item :: later)).toList.splitOn ' ' =
          (item :: later).map String.toList := by
        rw [chars]
        refine List.splitOn_intercalate ' ' ?_ (by simp)
        intro piece member
        obtain ⟨word, isWord, rfl⟩ := List.mem_map.mp member
        exact (areWords word isWord).2
      rw [words, if_neg notEmpty, pieces, List.map_map, List.map_congr_left,
        List.map_id]
      intro word _
      exact String.ofList_toList

end BgpTestbed.Text
