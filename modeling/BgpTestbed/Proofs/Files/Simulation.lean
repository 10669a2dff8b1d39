import BgpTestbed.Proofs.Files.Runs

/-!
# Programs on two stores

A store simulates another one if every request has the same outcome on related
files and leaves related files.  Programs cannot tell such stores apart: they
return the same on both.
-/

namespace BgpTestbed.Files

variable {σ τ α β : Type} {related : σ → τ → Prop}

/-- On related files both programs return the same and leave related files. -/
def Agree (related : σ → τ → Prop) (first : StateM σ α)
    (second : StateM τ α) : Prop :=
  ∀ files others, related files others →
    (runOn files first).1 = (runOn others second).1 ∧
      related (runOn files first).2 (runOn others second).2

theorem agree_pure (value : α) :
    Agree related (pure value : StateM σ α) (pure value) :=
  fun _ _ isRelated => ⟨rfl, isRelated⟩

theorem Agree.bind {first : StateM σ α} {second : StateM τ α}
    {following : α → StateM σ β} {others : α → StateM τ β}
    (agree : Agree related first second)
    (continues : ∀ value, Agree related (following value) (others value)) :
    Agree related (first >>= following) (second >>= others) := by
  intro files other isRelated
  obtain ⟨sameValue, relatedLater⟩ := agree files other isRelated
  rw [runOn_bind, runOn_bind, sameValue]
  exact continues _ _ _ relatedLater

variable [Store (StateM σ)] [Store (StateM τ)]

/-- Every request has the same outcome on related files and leaves related
files. -/
structure Simulation (related : σ → τ → Prop) : Prop where
  isDirectory : ∀ path, Agree related
    (Store.isDirectory path : StateM σ Bool) (Store.isDirectory path)
  createDirectory : ∀ path, Agree related
    (Store.createDirectory path : StateM σ (Except FileFault Unit))
    (Store.createDirectory path)
  write : ∀ path content, Agree related
    (Store.write path content : StateM σ (Except FileFault Unit))
    (Store.write path content)
  read : ∀ path, Agree related
    (Store.read path : StateM σ (Except FileFault ByteArray))
    (Store.read path)

namespace Simulation

variable (simulation : Simulation related)
include simulation

theorem createAbove (paths : List String) :
    Agree related
      (Files.createAbove paths : StateM σ (Except FileFault Unit))
      (Files.createAbove paths) := by
  have settles (path : String) (fault : FileFault) : Agree related
      (do
        if ← Store.isDirectory path then pure (Except.ok ())
        else pure (Except.error fault) : StateM σ (Except FileFault Unit))
      (do
        if ← Store.isDirectory path then pure (Except.ok ())
        else pure (Except.error fault)) := by
    refine (simulation.isDirectory path).bind fun isThere => ?_
    cases isThere <;> exact agree_pure _
  induction paths with
  | nil => exact agree_pure _
  | cons path above ih =>
      refine (simulation.createDirectory path).bind fun outcome => ?_
      cases outcome with
      | ok => exact agree_pure _
      | error fault =>
          cases fault
          case notFound =>
            refine ih.bind fun aboveOutcome => ?_
            cases aboveOutcome with
            | error fault => exact agree_pure _
            | ok =>
                refine (simulation.createDirectory path).bind fun again => ?_
                cases again with
                | ok => exact agree_pure _
                | error fault => exact settles path fault
          all_goals exact settles path _

theorem createDirectories (path : String) :
    Agree related
      (Files.createDirectories path : StateM σ (Except FileFault Unit))
      (Files.createDirectories path) :=
  simulation.createAbove (ancestors path)

theorem readText (path : String) :
    Agree related
      (Files.readText path : StateM σ (Except FileFault String))
      (Files.readText path) := by
  refine (simulation.read path).bind fun outcome => ?_
  cases outcome with
  | error fault => exact agree_pure _
  | ok content =>
      simp only
      cases String.fromUTF8? content <;> exact agree_pure _

theorem writeText (path text : String) :
    Agree related
      (Files.writeText path text : StateM σ (Except FileFault Unit))
      (Files.writeText path text) :=
  simulation.write path text.toUTF8

end Simulation

end BgpTestbed.Files
