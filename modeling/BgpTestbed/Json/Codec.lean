import BgpTestbed.Json.Skip
import BgpTestbed.Json.Value

/-!
# Codecs

A codec reads the values of one type from JSON text and writes them as JSON
values.  Reading is directed by the wanted type: the first fault in the order
of the text is the one that is found, whether the data or the syntax is wrong.
-/

namespace BgpTestbed.Json

open Reader

structure Codec (α : Type) where
  read : Reader α
  write : α → Value

variable {α σ : Type}

/-- The fault of a value of another type than wanted.  A simple value is read
to its end, because it is named in the fault; brackets are not entered. -/
def mismatch (wanted : String) (first : Char) : Reader α := do
  match first with
  | 'n' =>
      keyword ['u', 'l', 'l']
      fail (.wrongType .null wanted)
  | 't' =>
      keyword ['r', 'u', 'e']
      fail (.wrongType (.boolean true) wanted)
  | 'f' =>
      keyword ['a', 'l', 's', 'e']
      fail (.wrongType (.boolean false) wanted)
  | '"' => fail (.wrongType (.text (← text)) wanted)
  | '[' => fail (.wrongType .sequence wanted)
  | '\x7b' => fail (.wrongType .map wanted)
  | _ =>
      if first = '-' ∨ first.isDigit then
        match ← number first with
        | .integer value => fail (.wrongType (.integer value) wanted)
        | .float value => fail (.wrongType (.float value) wanted)
      else
        fail .expectedValue

/-- A text that is described as `wanted` if something else stands there. -/
def readText (wanted : String) : Reader String := do
  match ← nextToken with
  | none => fail .endOfValue
  | some '"' => text
  | some first => mismatch wanted first

/-- An integer below `2 ^ 32`. -/
def readWord : Reader UInt32 := do
  match ← nextToken with
  | none => fail .endOfValue
  | some first =>
      if first = '-' ∨ first.isDigit then
        match ← number first with
        | .integer value =>
            if 0 ≤ value ∧ value.toNat < UInt32.size then
              pure (UInt32.ofNat value.toNat)
            else fail (.wrongInteger value "u32")
        | .float value => fail (.wrongType (.float value) "u32")
      else
        mismatch "u32" first

/-- One step of reading a list behind an item. -/
def listStep (item : Reader α) (soFar : List α) (character : Char) :
    Reader (List α ⊕ List α) := do
  if isSpace character then pure (.inl soFar)
  else if character = ']' then pure (.inr soFar.reverse)
  else if character = ',' then
    match ← token with
    | none => fail .endOfValue
    | some ']' => fail .trailingComma
    | some _ =>
        let value ← item
        pure (.inl (value :: soFar))
  else fail .expectedCommaOrBracket

/-- A list behind its opening bracket. -/
def readItems (item : Reader α) : Reader (List α) := do
  match ← token with
  | none => fail .endOfList
  | some ']' =>
      let _ ← next
      pure []
  | some _ =>
      let value ← item
      scan (listStep item) (fun _ => .endOfList) [value]

def readList (item : Reader α) : Reader (List α) := do
  match ← nextToken with
  | none => fail .endOfValue
  | some '[' => readItems item
  | some first => mismatch "a sequence" first

/-- One step of reading an object behind a member. -/
def objectStep (member : σ → String → Reader σ) (soFar : σ)
    (character : Char) : Reader (σ ⊕ σ) := do
  if isSpace character then pure (.inl soFar)
  else if character = '\x7d' then pure (.inr soFar)
  else if character = ',' then
    match ← nextToken with
    | none => fail .endOfValue
    | some '"' =>
        let key ← text
        let following ← member soFar key
        pure (.inl following)
    | some '\x7d' => fail .trailingComma
    | some _ => fail .keyNotText
  else fail .expectedCommaOrBrace

/-- An object behind its opening brace.  `member` reads what stands behind a
key, from its colon on. -/
def readMembers (member : σ → String → Reader σ) (start : σ) : Reader σ := do
  match ← nextToken with
  | none => fail .endOfObject
  | some '\x7d' => pure start
  | some '"' =>
      let key ← text
      let following ← member start key
      scan (objectStep member) (fun _ => .endOfObject) following
  | some _ => fail .keyNotText

def readOptional (present : Reader α) : Reader (Option α) := do
  match ← token with
  | some 'n' =>
      let _ ← next
      keyword ['u', 'l', 'l']
      pure none
  | _ => some <$> present

namespace Codec

def text : Codec String where
  read := readText "a string"
  write := .text

def word : Codec UInt32 where
  read := readWord
  write value := .number value.toNat

def list (item : Codec α) : Codec (List α) where
  read := readList item.read
  write items := .list (items.map item.write)

/-- An absent value is written `null`. -/
def optional (present : Codec α) : Codec (Option α) where
  read := readOptional present.read
  write
    | none => .null
    | some value => present.write value

/-- Reads a whole text; only space may follow the value. -/
def decode (codec : Codec α) (source : String) : Except Fault α :=
  let whole : Reader α := do
    let value ← codec.read
    match ← nextToken with
    | none => pure value
    | some _ => fail .trailingCharacters
  (whole.run source.toList).map Prod.fst

def compact (codec : Codec α) (value : α) : String :=
  String.ofList (codec.write value).compact

def pretty (codec : Codec α) (value : α) : String :=
  String.ofList (codec.write value).pretty

end Codec

end BgpTestbed.Json
