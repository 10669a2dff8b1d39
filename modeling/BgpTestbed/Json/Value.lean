/-!
# JSON values and their texts

`compact` writes a value without any space.  `pretty` writes one item or
member per line, two spaces deeper than the brackets around it; empty lists
and objects stay on their line.
-/

namespace BgpTestbed.Json

inductive Value where
  | null
  | number (value : Nat)
  | text (value : String)
  | list (items : List Value)
  | object (members : List (String × Value))

def escapedChar (character : Char) : List Char :=
  match character with
  | '"' => ['\\', '"']
  | '\\' => ['\\', '\\']
  | '\x08' => ['\\', 'b']
  | '\t' => ['\\', 't']
  | '\n' => ['\\', 'n']
  | '\x0c' => ['\\', 'f']
  | '\r' => ['\\', 'r']
  | _ =>
      if character.toNat < 0x20 then
        ['\\', 'u', '0', '0', Nat.digitChar (character.toNat / 16),
          Nat.digitChar (character.toNat % 16)]
      else [character]

def quotedText (text : String) : List Char :=
  '"' :: text.toList.flatMap escapedChar ++ ['"']

mutual

def Value.compact : Value → List Char
  | .null => ['n', 'u', 'l', 'l']
  | .number value => Nat.toDigits 10 value
  | .text value => quotedText value
  | .list items => '[' :: [','].intercalate (compactItems items) ++ [']']
  | .object members =>
      '\x7b' :: [','].intercalate (compactMembers members) ++ ['\x7d']

def compactItems : List Value → List (List Char)
  | [] => []
  | item :: later => item.compact :: compactItems later

def compactMembers : List (String × Value) → List (List Char)
  | [] => []
  | (key, value) :: later =>
      (quotedText key ++ ':' :: value.compact) :: compactMembers later

end

/-- A new line that is indented to a nesting depth. -/
def newLine (depth : Nat) : List Char :=
  '\n' :: List.replicate (2 * depth) ' '

/-- Brackets around lines, each of which stands at the given depth. -/
def bracketed (opening closing : Char) (depth : Nat)
    (lines : List (List Char)) : List Char :=
  if lines.isEmpty then [opening, closing]
  else
    opening :: newLine (depth + 1) ++
      (',' :: newLine (depth + 1)).intercalate lines ++
      newLine depth ++ [closing]

mutual

/-- The indented text of a value whose first line is already indented. -/
def Value.prettyAt (depth : Nat) : Value → List Char
  | .null => ['n', 'u', 'l', 'l']
  | .number value => Nat.toDigits 10 value
  | .text value => quotedText value
  | .list items => bracketed '[' ']' depth (prettyItems (depth + 1) items)
  | .object members =>
      bracketed '\x7b' '\x7d' depth (prettyMembers (depth + 1) members)

def prettyItems (depth : Nat) : List Value → List (List Char)
  | [] => []
  | item :: later => item.prettyAt depth :: prettyItems depth later

def prettyMembers (depth : Nat) : List (String × Value) → List (List Char)
  | [] => []
  | (key, value) :: later =>
      (quotedText key ++ ':' :: ' ' :: value.prettyAt depth) ::
        prettyMembers depth later

end

def Value.pretty (value : Value) : List Char :=
  value.prettyAt 0

theorem compactItems_eq_map (items : List Value) :
    compactItems items = items.map Value.compact := by
  induction items with
  | nil => simp [compactItems]
  | cons item later ih => simp [compactItems, ih]

theorem compactMembers_eq_map (members : List (String × Value)) :
    compactMembers members = members.map fun (key, value) =>
      quotedText key ++ ':' :: value.compact := by
  induction members with
  | nil => simp [compactMembers]
  | cons member later ih => simp [compactMembers, ih]

theorem prettyItems_eq_map (depth : Nat) (items : List Value) :
    prettyItems depth items = items.map (Value.prettyAt depth) := by
  induction items with
  | nil => simp [prettyItems]
  | cons item later ih => simp [prettyItems, ih]

theorem prettyMembers_eq_map (depth : Nat) (members : List (String × Value)) :
    prettyMembers depth members = members.map fun (key, value) =>
      quotedText key ++ ':' :: ' ' :: value.prettyAt depth := by
  induction members with
  | nil => simp [prettyMembers]
  | cons member later ih => simp [prettyMembers, ih]

end BgpTestbed.Json
