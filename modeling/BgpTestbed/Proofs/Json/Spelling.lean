import BgpTestbed.Json.Reader
import Mathlib.Data.List.Forall2

/-!
# How JSON values may be spelled

The grammar of JSON texts, apart from any reader.  A text is spelled with plain
characters or escapes, blanks may stand around every token, and a record is an
object with its members in any order or a list of its fields in declaration
order.
-/

namespace BgpTestbed.Json

open Reader

/-- Only white space. -/
def IsBlank (space : List Char) : Prop :=
  ∀ character ∈ space, isSpace character = true

/-- The hexadecimal digits with their values. -/
def hexDigits : List (Char × Nat) :=
  [('0', 0), ('1', 1), ('2', 2), ('3', 3), ('4', 4), ('5', 5), ('6', 6),
    ('7', 7), ('8', 8), ('9', 9), ('a', 10), ('b', 11), ('c', 12), ('d', 13),
    ('e', 14), ('f', 15), ('A', 10), ('B', 11), ('C', 12), ('D', 13),
    ('E', 14), ('F', 15)]

/-- Four hexadecimal digits and their number. -/
inductive HexCode : List Char → Nat → Prop where
  | digits {first second third fourth : Char × Nat}
      (firstDigit : first ∈ hexDigits) (secondDigit : second ∈ hexDigits)
      (thirdDigit : third ∈ hexDigits) (fourthDigit : fourth ∈ hexDigits) :
      HexCode [first.1, second.1, third.1, fourth.1]
        (((first.2 * 16 + second.2) * 16 + third.2) * 16 + fourth.2)

/-- The characters that may follow a backslash, and what they stand for. -/
def shortEscapes : List (Char × Char) :=
  [('"', '"'), ('\\', '\\'), ('/', '/'), ('b', '\x08'), ('f', '\x0c'),
    ('n', '\n'), ('r', '\r'), ('t', '\t')]

/-- A character that may stand in a text for itself. -/
def IsPlain (character : Char) : Prop :=
  character ≠ '"' ∧ character ≠ '\\' ∧ 0x20 ≤ character.toNat

/-- What stands between the quotes of a text, and the characters that it
denotes. -/
inductive Denotes : List Char → List Char → Prop where
  | done : Denotes [] []
  | plain {character : Char} {body meant : List Char}
      (isPlain : IsPlain character) (later : Denotes body meant) :
      Denotes (character :: body) (character :: meant)
  | short {letter character : Char} {body meant : List Char}
      (isShort : (letter, character) ∈ shortEscapes)
      (later : Denotes body meant) :
      Denotes ('\\' :: letter :: body) (character :: meant)
  | code {digits body meant : List Char} {code : Nat}
      (isCode : HexCode digits code)
      (notSurrogate : code < 0xD800 ∨ 0xDFFF < code)
      (later : Denotes body meant) :
      Denotes ('\\' :: 'u' :: (digits ++ body)) (Char.ofNat code :: meant)
  | pair {highDigits lowDigits body meant : List Char} {high low : Nat}
      (highCode : HexCode highDigits high) (lowCode : HexCode lowDigits low)
      (isHigh : 0xD800 ≤ high ∧ high ≤ 0xDBFF)
      (isLow : 0xDC00 ≤ low ∧ low ≤ 0xDFFF)
      (later : Denotes body meant) :
      Denotes
        ('\\' :: 'u' :: (highDigits ++ '\\' :: 'u' :: (lowDigits ++ body)))
        (Char.ofNat (0x10000 + (high - 0xD800) * 0x400 + (low - 0xDC00)) ::
          meant)

/-- What may stand between the quotes of a text; surrogates need not be
paired, so it may denote nothing. -/
inductive IsBody : List Char → Prop where
  | done : IsBody []
  | plain {character : Char} {body : List Char}
      (isPlain : IsPlain character) (later : IsBody body) :
      IsBody (character :: body)
  | short {letter character : Char} {body : List Char}
      (isShort : (letter, character) ∈ shortEscapes) (later : IsBody body) :
      IsBody ('\\' :: letter :: body)
  | code {digits body : List Char} {code : Nat}
      (isCode : HexCode digits code) (later : IsBody body) :
      IsBody ('\\' :: 'u' :: (digits ++ body))

/-- At least one decimal digit and nothing else. -/
def IsDigits (digits : List Char) : Prop :=
  digits ≠ [] ∧ ∀ digit ∈ digits, digit.isDigit = true

inductive IsFraction : List Char → Prop where
  | none : IsFraction []
  | some {digits : List Char} (areDigits : IsDigits digits) :
      IsFraction ('.' :: digits)

inductive IsExponent : List Char → Prop where
  | none : IsExponent []
  | some {mark : Char} {sign digits : List Char}
      (isMark : mark ∈ ['e', 'E']) (isSign : sign ∈ [[], ['+'], ['-']])
      (areDigits : IsDigits digits) : IsExponent (mark :: (sign ++ digits))

/-- A number of any size; a leading zero stands alone. -/
inductive IsNumeral : List Char → Prop where
  | parts {sign whole fraction exponent : List Char}
      (isSign : sign ∈ [[], ['-']]) (areDigits : IsDigits whole)
      (noLeadingZero : whole.head? = some '0' → whole = ['0'])
      (isFraction : IsFraction fraction) (isExponent : IsExponent exponent) :
      IsNumeral (sign ++ (whole ++ (fraction ++ exponent)))

/-- The texts behind a first one, each behind a comma, up to the closing
bracket. -/
inductive Later : List (List Char) → List Char → Prop where
  | none {space : List Char} (isBlank : IsBlank space) : Later [] space
  | next {before after text rest : List Char} {later : List (List Char)}
      (beforeIsBlank : IsBlank before) (afterIsBlank : IsBlank after)
      (others : Later later rest) :
      Later (text :: later) (before ++ ',' :: (after ++ (text ++ rest)))

/-- Texts between brackets. -/
inductive Enclosed (opening closing : Char) :
    List (List Char) → List Char → Prop where
  | none {space : List Char} (isBlank : IsBlank space) :
      Enclosed opening closing [] (opening :: (space ++ [closing]))
  | some {space first rest : List Char} {later : List (List Char)}
      (isBlank : IsBlank space) (others : Later later rest) :
      Enclosed opening closing (first :: later)
        (opening :: (space ++ (first ++ (rest ++ [closing]))))

/-- A member of an object: its key as it stands between quotes, its value and
the space around the colon between them. -/
structure Member where
  key : List Char
  beforeColon : List Char
  afterColon : List Char
  value : List Char
  beforeIsBlank : IsBlank beforeColon
  afterIsBlank : IsBlank afterColon

namespace Member

def behindKey (member : Member) : List Char :=
  member.beforeColon ++ ':' :: (member.afterColon ++ member.value)

def text (member : Member) : List Char :=
  '"' :: (member.key ++ '"' :: member.behindKey)

end Member

/-- A well-formed value, however deep it is. -/
inductive IsValue : List Char → Prop where
  | null : IsValue ['n', 'u', 'l', 'l']
  | true : IsValue ['t', 'r', 'u', 'e']
  | false : IsValue ['f', 'a', 'l', 's', 'e']
  | number {text : List Char} (isNumeral : IsNumeral text) : IsValue text
  | text {body : List Char} (isBody : IsBody body) :
      IsValue ('"' :: (body ++ ['"']))
  | list {items : List (List Char)} {text : List Char}
      (enclosed : Enclosed '[' ']' items text)
      (areValues : ∀ item ∈ items, IsValue item) : IsValue text
  | object {members : List Member} {text : List Char}
      (enclosed : Enclosed '\x7b' '\x7d' (members.map Member.text) text)
      (areBodies : ∀ member ∈ members, IsBody member.key)
      (areValues : ∀ member ∈ members, IsValue member.value) : IsValue text

/-- A spelling of a string. -/
inductive TextOf (value : String) : List Char → Prop where
  | quoted {body : List Char} (denotes : Denotes body value.toList) :
      TextOf value ('"' :: (body ++ ['"']))

/-- The only spelling of a number, by its decimal digits. -/
def WordOf (value : UInt32) (text : List Char) : Prop :=
  text = Nat.toDigits 10 value.toNat

/-- An absent value is spelled `null`. -/
def OptionalOf {α : Type} (spelled : α → List Char → Prop) :
    Option α → List Char → Prop
  | none, text => text = ['n', 'u', 'l', 'l']
  | some value, text => spelled value text

/-- Spellings of all items, in order. -/
inductive ListOf {α : Type} (spelled : α → List Char → Prop)
    (items : List α) : List Char → Prop where
  | list {texts : List (List Char)} {text : List Char}
      (areSpelled : List.Forall₂ spelled items texts)
      (enclosed : Enclosed '[' ']' texts text) : ListOf spelled items text

/-- A field of a record that holds a certain value: its name, how the value is
spelled, and whether it may be left out. -/
structure Slot where
  name : String
  spelled : List Char → Prop
  omissible : Prop

namespace Slot

def required (name : String) (spelled : List Char → Prop) : Slot where
  name
  spelled
  omissible := False

/-- The slot may be left out if it holds the default value. -/
def defaulted (name : String) (spelled : List Char → Prop)
    (holdsDefault : Prop) : Slot where
  name
  spelled
  omissible := holdsDefault

end Slot

/-- A member whose key denotes a string. -/
structure NamedMember extends Member where
  name : String
  denotes : Denotes key name.toList

/-- The members of a record in any order: one for every slot that is not left
out, and any members of other names. -/
structure Covers (slots : List Slot) (members : List NamedMember) : Prop where
  covered : ∀ slot ∈ slots,
    (∃ member, (members.filter fun member => member.name == slot.name) =
      [member] ∧ slot.spelled member.value) ∨
    (slot.omissible ∧ ∀ member ∈ members, member.name ≠ slot.name)
  others : ∀ member ∈ members, (∀ slot ∈ slots, slot.name ≠ member.name) →
    IsValue member.value

theorem Covers.of_names {slots : List Slot} {members : List NamedMember}
    (covered : ∀ slot ∈ slots,
      (∃ member, (members.filter fun member => member.name == slot.name) =
        [member] ∧ slot.spelled member.value) ∨
      (slot.omissible ∧ ∀ member ∈ members, member.name ≠ slot.name))
    (named : ∀ member ∈ members,
      member.name ∈ slots.map Slot.name ∨ IsValue member.value) :
    Covers slots members where
  covered
  others member isMember noSlot := by
    rcases named member isMember with isName | isValue
    · obtain ⟨slot, isSlot, sameName⟩ := List.mem_map.mp isName
      exact absurd sameName (noSlot slot isSlot)
    · exact isValue

/-- The elements of a record in declaration order; slots at the end may be
left out. -/
inductive Lists : List Slot → List (List Char) → Prop where
  | omitted {slots : List Slot} (omissible : ∀ slot ∈ slots, slot.omissible) :
      Lists slots []
  | next {slot : Slot} {slots : List Slot} {text : List Char}
      {texts : List (List Char)} (spelled : slot.spelled text)
      (later : Lists slots texts) : Lists (slot :: slots) (text :: texts)

/-- A spelling of a record with these slots. -/
inductive RecordOf (slots : List Slot) : List Char → Prop where
  | object {members : List NamedMember} {text : List Char}
      (covers : Covers slots members)
      (enclosed : Enclosed '\x7b' '\x7d'
        (members.map fun member => member.text) text) : RecordOf slots text
  | list {texts : List (List Char)} {text : List Char}
      (lists : Lists slots texts) (enclosed : Enclosed '[' ']' texts text) :
      RecordOf slots text

end BgpTestbed.Json
