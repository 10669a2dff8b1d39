import BgpTestbed.Files.Store

/-!
# Programs that run on files

A program that needs a store runs on the files of the store as its state.
What the programs of this library do on a file system is said by one equation
for each step.
-/

namespace BgpTestbed.Files

/-- Outcomes of runs can be compared. -/
instance decidableEqExcept {ε α : Type} [DecidableEq ε] [DecidableEq α] :
    DecidableEq (Except ε α)
  | .error first, .error second =>
      decidable_of_iff (first = second)
        ⟨congrArg Except.error, Except.error.inj⟩
  | .ok first, .ok second =>
      decidable_of_iff (first = second) ⟨congrArg Except.ok, Except.ok.inj⟩
  | .error _, .ok _ => .isFalse (nofun)
  | .ok _, .error _ => .isFalse (nofun)

variable {σ α β : Type}

/-- What a program returns on some files, and the files after it. -/
def runOn (files : σ) (program : StateM σ α) : α × σ :=
  program.run files

theorem runOn_pure (files : σ) (value : α) :
    runOn files (pure value) = (value, files) := rfl

theorem runOn_bind (files : σ) (first : StateM σ α)
    (following : α → StateM σ β) :
    runOn files (first >>= following) =
      runOn (runOn files first).2 (following (runOn files first).1) := rfl

theorem runOn_createDirectory (files : FileSystem) (path : String) :
    runOn files (Store.createDirectory path) =
      changed files (files.createDirectory path) := rfl

theorem runOn_writeText (files : FileSystem) (path text : String) :
    runOn files (writeText path text) =
      changed files (files.write path text.toUTF8) := rfl

/-- A change succeeds exactly if it leads to files. -/
theorem changed_eq_ok_iff {files after : σ} {result : Except FileFault σ} :
    changed files result = (.ok (), after) ↔ result = .ok after := by
  cases result with
  | error fault => simp [changed]
  | ok between => simp [changed]

theorem FileSystem.runOn_writeText_eq_ok_iff {files after : FileSystem}
    {path text : String} :
    runOn files (writeText path text) = (.ok (), after) ↔
      files.write path text.toUTF8 = .ok after := by
  rw [runOn_writeText, changed_eq_ok_iff]

/-- The text that a path leads to, or why there is none. -/
def FileSystem.readText (files : FileSystem) (path : String) :
    Except FileFault String :=
  match files.read path with
  | .error fault => .error fault
  | .ok content =>
      match String.fromUTF8? content with
      | some text => .ok text
      | none => .error .notText

theorem runOn_readText (files : FileSystem) (path : String) :
    runOn files (readText path) = (files.readText path, files) := by
  have reads : runOn files (Store.read path) = (files.read path, files) := rfl
  rw [Files.readText, runOn_bind, reads, FileSystem.readText]
  cases files.read path with
  | error fault => rfl
  | ok content =>
      simp only
      cases String.fromUTF8? content <;> rfl

private theorem fromUTF8?_toUTF8 (text : String) :
    String.fromUTF8? text.toUTF8 = some text := by
  rw [String.toUTF8_eq_toByteArray, String.fromUTF8?,
    dif_pos text.isValidUTF8]
  rfl

/-- A file that holds a text is read as this text. -/
theorem FileSystem.readText_eq_ok {files : FileSystem} {path text : String}
    (holds : files.read path = .ok text.toUTF8) :
    files.readText path = .ok text := by
  rw [readText, holds]
  simp only [fromUTF8?_toUTF8]

section Above

variable [Store (StateM σ)] (related : σ → σ → Prop)
  (refl : ∀ files, related files files)
  (trans : ∀ before between after, related before between →
    related between after → related before after)
  (creates : ∀ files path,
    related files (runOn files (Store.createDirectory path)).2)
  (asks : ∀ files path,
    related files (runOn files (Store.isDirectory path)).2)
include refl trans creates asks

/-- Creating directories does to files what its requests do. -/
theorem related_createAbove (files : σ) (paths : List String) :
    related files (runOn files (createAbove paths)).2 := by
  have settles (files : σ) (path : String) (fault : FileFault) :
      related files (runOn files (do
        if ← Store.isDirectory path then pure (Except.ok ())
        else pure (Except.error fault))).2 := by
    have asked := asks files path
    rw [runOn_bind]
    cases (runOn files (Store.isDirectory path)).1 <;> exact asked
  induction paths generalizing files with
  | nil => exact refl files
  | cons path above ih =>
      have first := creates files path
      rw [createAbove, runOn_bind]
      split
      · exact first
      · rw [runOn_bind]
        have second := trans _ _ _ first (ih _)
        split
        · exact second
        · rw [runOn_bind]
          have third := trans _ _ _ second (creates _ path)
          split
          · exact third
          · exact trans _ _ _ third (settles _ _ _)
      · exact trans _ _ _ first (settles _ _ _)

end Above

end BgpTestbed.Files
