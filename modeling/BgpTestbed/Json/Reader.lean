import BgpTestbed.Json.Fault

/-!
# Readers

A reader takes a value from the front of a text or stops at the first fault.
The text that it leaves is a suffix of the text that it was given, and the
type of a reading keeps this fact, so a loop that takes one character each
time round ends.  `run` forgets the fact; laws about readers are laws about
`run`.
-/

namespace BgpTestbed.Json

structure Reading (α : Type) (text : List Char) where
  value : α
  rest : List Char
  isSuffix : rest <:+ text

def Reader (α : Type) : Type :=
  (text : List Char) → Except Fault (Reading α text)

namespace Reader

variable {α β σ : Type}

protected def pure (value : α) : Reader α := fun text =>
  .ok { value, rest := text, isSuffix := List.suffix_rfl }

protected def bind (first : Reader α) (next : α → Reader β) : Reader β :=
  fun text =>
    match first text with
    | .error fault => .error fault
    | .ok reading =>
        match next reading.value reading.rest with
        | .error fault => .error fault
        | .ok last =>
            .ok { last with isSuffix := last.isSuffix.trans reading.isSuffix }

instance : Monad Reader where
  pure := Reader.pure
  bind := Reader.bind

def fail (fault : Fault) : Reader α := fun _ => .error fault

def ofExcept : Except Fault α → Reader α
  | .error fault => fail fault
  | .ok value => Reader.pure value

/-- The value that is read and the text that is left. -/
def run (reader : Reader α) (text : List Char) :
    Except Fault (α × List Char) :=
  (reader text).map fun reading => (reading.value, reading.rest)

/-- The text that is still to be read. -/
def ahead : Reader (List Char) := fun text =>
  .ok { value := text, rest := text, isSuffix := List.suffix_rfl }

def peek : Reader (Option Char) := fun text =>
  .ok { value := text.head?, rest := text, isSuffix := List.suffix_rfl }

def next : Reader (Option Char) := fun text =>
  .ok { value := text.head?, rest := text.tail,
        isSuffix := List.tail_suffix text }

/-- The longest run of characters that satisfy `wanted`. -/
def takeWhile (wanted : Char → Bool) : Reader (List Char) := fun text =>
  .ok { value := text.takeWhile wanted, rest := text.dropWhile wanted,
        isSuffix := List.dropWhile_suffix wanted }

def isSpace (character : Char) : Bool :=
  character == ' ' || character == '\n' || character == '\t' ||
    character == '\r'

def skipSpace : Reader Unit := do
  let _ ← takeWhile isSpace

/-- The first character after any space, which stays in front. -/
def token : Reader (Option Char) := do
  skipSpace
  peek

/-- Takes the next character if it is the wanted one. -/
def accept (wanted : Char) : Reader Bool := do
  if (← peek) = some wanted then
    let _ ← next
    pure true
  else
    pure false

private def scanFrom (step : σ → Char → Reader (σ ⊕ α)) (atEnd : σ → Fault)
    (origin : List Char) (state : σ) (text : List Char)
    (isSuffix : text <:+ origin) : Except Fault (Reading α origin) :=
  match text with
  | [] => .error (atEnd state)
  | character :: later =>
      match step state character later with
      | .error fault => .error fault
      | .ok ⟨result, rest, restSuffix⟩ =>
          have _shorter : rest.length < later.length + 1 :=
            Nat.lt_succ_of_le restSuffix.length_le
          have inOrigin : rest <:+ origin :=
            (restSuffix.trans (List.suffix_cons character later)).trans isSuffix
          match result with
          | .inr value => .ok ⟨value, rest, inOrigin⟩
          | .inl following => scanFrom step atEnd origin following rest inOrigin
termination_by text.length

/-- Takes one character after the other.  Each step may read further and
either goes on with a new state or ends the scan with a value. -/
def scan (step : σ → Char → Reader (σ ⊕ α)) (atEnd : σ → Fault)
    (state : σ) : Reader α := fun text =>
  scanFrom step atEnd text state text List.suffix_rfl

theorem run_pure (value : α) (text : List Char) :
    (pure value : Reader α).run text = .ok (value, text) := rfl

theorem run_bind (first : Reader α) (following : α → Reader β)
    (text : List Char) :
    (first >>= following).run text =
      (first.run text).bind fun (value, rest) => (following value).run rest := by
  simp only [run, bind, Reader.bind, Except.map, Except.bind]
  cases first text with
  | error fault => rfl
  | ok reading =>
      simp only
      cases following reading.value reading.rest <;> rfl

theorem run_fail (fault : Fault) (text : List Char) :
    (fail fault : Reader α).run text = .error fault := rfl

theorem run_ofExcept (result : Except Fault α) (text : List Char) :
    (ofExcept result).run text = result.map fun value => (value, text) := by
  cases result <;> rfl

theorem run_ahead (text : List Char) : ahead.run text = .ok (text, text) := rfl

theorem run_peek (text : List Char) :
    peek.run text = .ok (text.head?, text) := rfl

theorem run_next (text : List Char) :
    next.run text = .ok (text.head?, text.tail) := rfl

theorem run_takeWhile (wanted : Char → Bool) (text : List Char) :
    (takeWhile wanted).run text =
      .ok (text.takeWhile wanted, text.dropWhile wanted) := rfl

theorem run_skipSpace (text : List Char) :
    skipSpace.run text = .ok ((), text.dropWhile isSpace) := rfl

theorem run_token (text : List Char) :
    token.run text =
      .ok ((text.dropWhile isSpace).head?, text.dropWhile isSpace) := rfl

theorem run_accept (wanted : Char) (text : List Char) :
    (accept wanted).run text =
      if text.head? = some wanted then .ok (true, text.tail)
      else .ok (false, text) := by
  simp only [accept, run_bind, run_peek, Except.bind]
  split
  · simp [run_bind, run_next, run_pure, Except.bind]
  · rfl

theorem run_scan_nil (step : σ → Char → Reader (σ ⊕ α)) (atEnd : σ → Fault)
    (state : σ) : (scan step atEnd state).run [] = .error (atEnd state) := by
  simp [run, scan, scanFrom, Except.map]

/-- The origin of a scan only bounds its rest. -/
private theorem map_scanFrom (step : σ → Char → Reader (σ ⊕ α))
    (atEnd : σ → Fault) (origin : List Char) (state : σ) (text : List Char)
    (isSuffix : text <:+ origin) :
    (scanFrom step atEnd origin state text isSuffix).map
        (fun reading => (reading.value, reading.rest)) =
      (scan step atEnd state).run text := by
  induction length : text.length using Nat.strongRecOn generalizing origin state text with
  | _ size ih =>
    cases text with
    | nil => simp [run, scan, scanFrom, Except.map]
    | cons character later =>
        simp only [run, scan]
        rw [scanFrom, scanFrom]
        cases stepped : step state character later with
        | error fault => rfl
        | ok reading =>
            obtain ⟨result, rest, restSuffix⟩ := reading
            have shorter : rest.length < size := by
              have := restSuffix.length_le
              simp only [List.length_cons] at length
              omega
            cases result with
            | inr value => rfl
            | inl following =>
                simp only
                rw [ih rest.length shorter origin following rest _ rfl,
                  ih rest.length shorter _ following rest _ rfl]

theorem run_scan_cons (step : σ → Char → Reader (σ ⊕ α))
    (atEnd : σ → Fault) (state : σ) (character : Char) (later : List Char) :
    (scan step atEnd state).run (character :: later) =
      ((step state character).run later).bind fun (result, rest) =>
        match result with
        | .inr value => .ok (value, rest)
        | .inl following => (scan step atEnd following).run rest := by
  simp only [run, scan]
  rw [scanFrom]
  cases step state character later with
  | error fault => rfl
  | ok reading =>
      obtain ⟨result, rest, restSuffix⟩ := reading
      cases result with
      | inr value => rfl
      | inl following => exact map_scanFrom step atEnd _ following rest _

end Reader

end BgpTestbed.Json
