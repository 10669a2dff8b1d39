import BgpTestbed.Json.Literal
import BgpTestbed.Json.Numeral

/-!
# Skipping a value

A value that nobody asked for is passed over whatever its nesting.  The scan
remembers the brackets that are open, innermost first, and whether a value,
or something behind one, comes next.
-/

namespace BgpTestbed.Json

open Reader

inductive Bracket where
  | list
  | object
  deriving DecidableEq

/-- What comes next while a value is skipped. -/
inductive Skipping where
  | value (enclosing : List Bracket)
  | opened (bracket : Bracket) (enclosing : List Bracket)
  | behind (bracket : Bracket) (enclosing : List Bracket)

/-- The first character after any space, which is taken. -/
def nextToken : Reader (Option Char) := do
  skipSpace
  next

/-- The colon between a key and its value. -/
def colon : Reader Unit := do
  match ← nextToken with
  | some ':' => pure ()
  | some _ => fail .expectedColon
  | none => fail .endOfObject

def Skipping.atEnd : Skipping → Fault
  | .value _ => .endOfValue
  | .opened .list _ | .behind .list _ => .endOfList
  | .opened .object _ | .behind .object _ => .endOfObject

/-- A value is complete inside these brackets. -/
def completed : List Bracket → Skipping ⊕ Unit
  | [] => .inr ()
  | bracket :: enclosing => .inl (.behind bracket enclosing)

/-- Passes over a value up to its end or up to its opening bracket. -/
def skipStart (enclosing : List Bracket) (first : Char) :
    Reader (Skipping ⊕ Unit) := do
  match first with
  | 'n' =>
      keyword ['u', 'l', 'l']
      pure (completed enclosing)
  | 't' =>
      keyword ['r', 'u', 'e']
      pure (completed enclosing)
  | 'f' =>
      keyword ['a', 'l', 's', 'e']
      pure (completed enclosing)
  | '"' =>
      skipText
      pure (completed enclosing)
  | '[' => pure (.inl (.opened .list enclosing))
  | '\x7b' => pure (.inl (.opened .object enclosing))
  | _ =>
      if first = '-' ∨ first.isDigit then
        let _ ← numeral .invalidNumber first
        pure (completed enclosing)
      else
        fail .expectedValue

/-- Passes over a key behind its opening quote, and over the colon. -/
def skipKey (enclosing : List Bracket) : Reader (Skipping ⊕ Unit) := do
  skipText
  colon
  pure (.inl (.value (.object :: enclosing)))

def skipStep (skipping : Skipping) (character : Char) :
    Reader (Skipping ⊕ Unit) := do
  if isSpace character then pure (.inl skipping)
  else
    match skipping with
    | .value enclosing => skipStart enclosing character
    | .opened .list enclosing =>
        if character = ']' then pure (completed enclosing)
        else skipStart (.list :: enclosing) character
    | .opened .object enclosing =>
        if character = '\x7d' then pure (completed enclosing)
        else if character = '"' then skipKey enclosing
        else fail .keyNotText
    | .behind .list enclosing =>
        if character = ']' then pure (completed enclosing)
        else if character = ',' then pure (.inl (.value (.list :: enclosing)))
        else fail .expectedCommaOrBracket
    | .behind .object enclosing =>
        if character = '\x7d' then pure (completed enclosing)
        else if character = ',' then
          match ← nextToken with
          | some '"' => skipKey enclosing
          | some _ => fail .keyNotText
          | none => fail .endOfObject
        else fail .expectedCommaOrBrace

def skipValue : Reader Unit :=
  scan skipStep Skipping.atEnd (.value [])

end BgpTestbed.Json
