import BgpTestbed.Json.Reader

/-!
# Keywords and quoted texts

The readers start behind the character that announces them: a keyword behind
its first letter, a text behind its opening quote.  `skipText` passes over a
text of which nothing is kept, so it does not ask for paired surrogates.
-/

namespace BgpTestbed.Json

open Reader

def keyword : List Char → Reader Unit
  | [] => pure ()
  | expected :: later => do
      match ← next with
      | none => fail .endOfValue
      | some character =>
          if character = expected then keyword later
          else fail .expectedKeyword

def hexDigit? (character : Char) : Option Nat :=
  if character.isDigit then some (character.toNat - '0'.toNat)
  else if 'a' ≤ character ∧ character ≤ 'f' then
    some (character.toNat - 'a'.toNat + 10)
  else if 'A' ≤ character ∧ character ≤ 'F' then
    some (character.toNat - 'A'.toNat + 10)
  else none

/-- Four hexadecimal digits.  A text of fewer than four bytes ends too early,
whatever its characters are. -/
def hexEscape : Reader Nat := do
  if (String.ofList ((← ahead).take 4)).utf8ByteSize < 4 then
    fail .endOfText
  else
    let digit : Reader Nat := do
      match (← next).bind hexDigit? with
      | some value => pure value
      | none => fail .invalidEscape
    let first ← digit
    let second ← digit
    let third ← digit
    let fourth ← digit
    pure (((first * 16 + second) * 16 + third) * 16 + fourth)

/-- The character of a numeric escape.  Characters beyond `U+FFFF` are
written as a high surrogate and a low one. -/
def unicodeEscape : Reader Char := do
  let first ← hexEscape
  if 0xDC00 ≤ first ∧ first ≤ 0xDFFF then fail .unpairedLowSurrogate
  else if 0xD800 ≤ first ∧ first ≤ 0xDBFF then
    match ← next with
    | none => fail .endOfText
    | some '\\' =>
        match ← next with
        | none => fail .endOfText
        | some 'u' =>
            let second ← hexEscape
            if 0xDC00 ≤ second ∧ second ≤ 0xDFFF then
              pure (Char.ofNat
                (0x10000 + (first - 0xD800) * 0x400 + (second - 0xDC00)))
            else fail .unpairedLowSurrogate
        | some _ => fail .unpairedHighSurrogate
    | some _ => fail .unpairedHighSurrogate
  else pure (Char.ofNat first)

def shortEscape? : Char → Option Char
  | '"' => some '"'
  | '\\' => some '\\'
  | '/' => some '/'
  | 'b' => some '\x08'
  | 'f' => some '\x0c'
  | 'n' => some '\n'
  | 'r' => some '\r'
  | 't' => some '\t'
  | _ => none

def escape : Reader Char := do
  match ← next with
  | none => fail .endOfText
  | some 'u' => unicodeEscape
  | some character =>
      match shortEscape? character with
      | some meant => pure meant
      | none => fail .invalidEscape

def isControl (character : Char) : Bool :=
  decide (character.toNat < 0x20)

/-- One step of reading a text; the characters so far are in reverse. -/
def textStep (soFar : List Char) (character : Char) :
    Reader (List Char ⊕ String) := do
  if character = '"' then pure (.inr (String.ofList soFar.reverse))
  else if character = '\\' then
    let meant ← escape
    pure (.inl (meant :: soFar))
  else if isControl character then fail .controlCharacter
  else pure (.inl (character :: soFar))

def text : Reader String :=
  scan textStep (fun _ => .endOfText) []

def skipEscape : Reader Unit := do
  match ← next with
  | none => fail .endOfText
  | some 'u' =>
      let _ ← hexEscape
  | some character =>
      if (shortEscape? character).isNone then fail .invalidEscape

def skipTextStep (_ : Unit) (character : Char) :
    Reader (Unit ⊕ Unit) := do
  if character = '"' then pure (.inr ())
  else if character = '\\' then
    skipEscape
    pure (.inl ())
  else if isControl character then fail .controlCharacter
  else pure (.inl ())

def skipText : Reader Unit :=
  scan skipTextStep (fun _ => .endOfText) ()

end BgpTestbed.Json
