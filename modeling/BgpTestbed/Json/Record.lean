import BgpTestbed.Json.Codec

/-!
# Records

A record is a sequence of named fields.  It is written as an object with all
fields in declaration order, and read either from an object with its members
in any order or from a list of the fields in declaration order.  A field with
a fallback may be absent; members of other names are skipped.
-/

namespace BgpTestbed.Json

open Reader

structure Field (α : Type) where
  name : String
  codec : Codec α
  fallback : Option α

/-- The fields of a record.  Their values together have the type `τ`; while
the record is read, the values so far have the type `δ`. -/
inductive Fields : (τ δ : Type) → Type 1 where
  | done : Fields Unit Unit
  | field {α τ δ : Type} (first : Field α) (later : Fields τ δ) :
      Fields (α × τ) (Option α × δ)

namespace Fields

def draft : {τ δ : Type} → Fields τ δ → δ
  | _, _, .done => ()
  | _, _, .field _ later => (none, later.draft)

def size : {τ δ : Type} → Fields τ δ → Nat
  | _, _, .done => 0
  | _, _, .field _ later => later.size + 1

/-- Reads the member behind a key into its place. -/
def readMember : {τ δ : Type} → Fields τ δ → δ → String → Reader δ
  | _, _, .done, draft, _ => do
      colon
      skipValue
      pure draft
  | _, _, .field first later, (value, draft), key => do
      if key = first.name then
        if value.isSome then fail (.duplicateField first.name)
        else
          colon
          let value ← first.codec.read
          pure (some value, draft)
      else
        let draft ← later.readMember draft key
        pure (value, draft)

/-- The record of a draft, or the first field in declaration order that has
neither a value nor a fallback. -/
def complete : {τ δ : Type} → Fields τ δ → δ → Except Fault τ
  | _, _, .done, _ => .ok ()
  | _, _, .field first later, (value, draft) =>
      match value.or first.fallback with
      | none => .error (.missingField first.name)
      | some value =>
          match later.complete draft with
          | .error fault => .error fault
          | .ok values => .ok (value, values)

/-- Whether another element of a list stands next; a comma in front of it is
taken. -/
def hasElement (isFirst : Bool) : Reader Bool := do
  match ← token with
  | none => fail .endOfList
  | some ']' => pure false
  | some character =>
      if isFirst then pure true
      else if character = ',' then
        let _ ← next
        match ← token with
        | none => fail .endOfValue
        | some ']' => fail .trailingComma
        | some _ => pure true
      else fail .expectedCommaOrBracket

/-- The end of a list in which every field has its element. -/
def readClosing : Reader Unit := do
  match ← nextToken with
  | none => fail .endOfList
  | some ']' => pure ()
  | some ',' =>
      if (← token) = some ']' then fail .trailingComma
      else fail .trailingCharacters
  | some _ => fail .trailingCharacters

/-- Reads the elements of a list from the given position on.  `wanted`
describes the whole record. -/
def readElements (wanted : String) :
    {τ δ : Type} → Fields τ δ → Nat → Reader τ
  | _, _, .done, _ => readClosing
  | _, _, .field first later, position => do
      if ← hasElement (position == 0) then
        let value ← first.codec.read
        let values ← later.readElements wanted (position + 1)
        pure (value, values)
      else
        match first.fallback with
        | none => fail (.wrongLength position wanted)
        | some value =>
            let values ← later.readElements wanted (position + 1)
            pure (value, values)

def read (fields : Fields τ δ) (name : String) : Reader τ := do
  let wanted := "struct " ++ name
  match ← nextToken with
  | none => fail .endOfValue
  | some '[' =>
      fields.readElements
        (wanted ++ " with " ++ toString fields.size ++ " elements") 0
  | some '\x7b' =>
      let draft ← readMembers fields.readMember fields.draft
      ofExcept (fields.complete draft)
  | some first => mismatch wanted first

def write : {τ δ : Type} → Fields τ δ → τ → List (String × Value)
  | _, _, .done, _ => []
  | _, _, .field first later, (value, values) =>
      (first.name, first.codec.write value) :: later.write values

/-- The field has to be present. -/
def required (name : String) (codec : Codec α) (later : Fields τ δ) :
    Fields (α × τ) (Option α × δ) :=
  .field { name, codec, fallback := none } later

/-- The field has this value where it is absent. -/
def defaulted (name : String) (codec : Codec α) (fallback : α)
    (later : Fields τ δ) : Fields (α × τ) (Option α × δ) :=
  .field { name, codec, fallback := some fallback } later

end Fields

/-- The codec of a type whose values are built from the values of fields. -/
def Codec.record (name : String) (fields : Fields τ δ) (build : τ → α)
    (values : α → τ) : Codec α where
  read := build <$> fields.read name
  write value := .object (fields.write (values value))

end BgpTestbed.Json
