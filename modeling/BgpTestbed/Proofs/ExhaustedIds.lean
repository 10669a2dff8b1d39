import BgpTestbed.Proofs.SessionOrder

/-!
# IDs that run out

Synthesis fails exactly if there are more external names than IDs above the
highest one, and then reports the first name that is left without an ID.  The
names in front of it would have got IDs, but no router is put into the network
before all of them are numbered, so a network that is changed in place stays as
it was.
-/

namespace BgpTestbed.Network

/-- A program that changes a network in place and may fail on the way. -/
abbrev InPlace (α : Type) := ExceptT ExportError (StateM Network) α

/-- What a program returns, and the network that it leaves behind. -/
def runInPlace {α : Type} (network : Network) (program : InPlace α) :
    Except ExportError α × Network :=
  program.run.run network

/-- The router of an external peer, if its number is an ID. -/
def numberInPlace (external : (String × List Session) × Nat) :
    InPlace Router :=
  let ((name, sessions), id) := external
  if id < UInt32.size then
    pure (externalRouter name (UInt32.ofNat id) sessions)
  else throw (.routerIdOverflow name)

def insertInPlace (router : Router) : InPlace String := do
  modify fun network => network.insert router.name router
  pure router.name

/-- Numbers all external peers and then puts their routers in. -/
def synthesizeInPlace : InPlace (List String) := do
  let network ← get
  let routers ←
    (network.externals.entries.zipIdx (network.maximalId + 1)).mapM
      numberInPlace
  routers.mapM insertInPlace

section Runs

variable {α β : Type} (network : Network)

theorem runInPlace_pure (value : α) :
    network.runInPlace (pure value) = (.ok value, network) := rfl

/-- An error keeps what has been changed up to it. -/
theorem runInPlace_bind (first : InPlace α) (following : α → InPlace β) :
    network.runInPlace (first >>= following) =
      match network.runInPlace first with
      | (.error error, after) => (.error error, after)
      | (.ok value, after) => after.runInPlace (following value) := by
  change (first.run >>= ExceptT.bindCont following).run network = _
  rw [StateT.run_bind]
  change (match first.run.run network with
    | (result, after) => (ExceptT.bindCont following result).run after) = _
  rw [runInPlace]
  rcases first.run.run network with ⟨error | value, after⟩ <;> rfl

/-- Numbering reads the network at most. -/
theorem runInPlace_mapM_number (next : Nat)
    (externals : List (String × List Session)) :
    network.runInPlace ((externals.zipIdx next).mapM numberInPlace) =
      (numberExternals next externals, network) := by
  induction externals generalizing next with
  | nil => rfl
  | cons external later ih =>
      obtain ⟨name, sessions⟩ := external
      rw [List.zipIdx_cons, List.mapM_cons, runInPlace_bind, numberInPlace,
        numberExternals]
      by_cases isId : next < UInt32.size
      · rw [if_pos isId, if_pos isId, runInPlace_pure]
        simp only [runInPlace_bind, ih, runInPlace_pure]
        cases numberExternals (next + 1) later <;> rfl
      · rw [if_neg isId, if_neg isId]
        rfl

theorem runInPlace_mapM_insert (routers : List Router) :
    network.runInPlace (routers.mapM insertInPlace) =
      (.ok (routers.map Router.name), network.addRouters routers) := by
  induction routers generalizing network with
  | nil => rfl
  | cons router later ih =>
      have inserts : network.runInPlace (insertInPlace router) =
          (.ok router.name, network.insert router.name router) := rfl
      rw [List.mapM_cons, runInPlace_bind, inserts]
      simp only [runInPlace_bind, ih, runInPlace_pure, List.map_cons]
      rfl

/-- A network that is changed in place becomes what a call makes of it. -/
theorem runInPlace_synthesize :
    network.runInPlace synthesizeInPlace = network.synthesisCall := by
  have reads : network.runInPlace get = (.ok network, network) := rfl
  rw [synthesizeInPlace, runInPlace_bind, reads]
  simp only [runInPlace_bind, runInPlace_mapM_number]
  rw [synthesisCall, externalRouters]
  cases numberExternals (network.maximalId + 1) network.externals.entries with
  | error error => rfl
  | ok routers => exact network.runInPlace_mapM_insert routers

end Runs

/-- The highest ID of the network. -/
def IsTopId (network : Network) (id : UInt32) : Prop :=
  (∃ router ∈ network.values, router.id = id) ∧
    ∀ router ∈ network.values, router.id ≤ id

theorem IsTopId.toNat_eq {network : Network} {id : UInt32}
    (isTop : network.IsTopId id) : id.toNat = network.maximalId := by
  obtain ⟨⟨router, member, isId⟩, areBelow⟩ := isTop
  obtain ⟨top, isRouter, isMaximal⟩ := network.exists_id_eq_maximalId member
  have below := UInt32.le_iff_toNat_le.mp (areBelow top isRouter)
  have above := network.id_le_maximalId member
  rw [isId] at above
  omega

theorem exists_isTopId {network : Network} {router : Router}
    (member : router ∈ network.values) : ∃ id, network.IsTopId id := by
  obtain ⟨top, isRouter, isMaximal⟩ := network.exists_id_eq_maximalId member
  refine ⟨top.id, ⟨top, isRouter, rfl⟩, ?_⟩
  intro other isOther
  rw [UInt32.le_iff_toNat_le, isMaximal]
  exact network.id_le_maximalId isOther

/-- The external names in ascending order. -/
def externalNames (network : Network) : List String :=
  network.externals.keys

theorem mem_externalNames_iff (network : Network) (name : String) :
    name ∈ network.externalNames ↔ network.IsExternal name :=
  network.mem_keys_externals_iff name

/-- How many IDs are above the highest one. -/
def freeIds (top : UInt32) : Nat :=
  2 ^ 32 - 1 - top.toNat

theorem freeIds_eq {network : Network} {top : UInt32}
    (isTop : network.IsTopId top) :
    freeIds top = UInt32.size - (network.maximalId + 1) := by
  have size : UInt32.size = 2 ^ 32 := rfl
  rw [freeIds, isTop.toNat_eq]
  omega

/-- As many external names as there are free IDs can be numbered. -/
theorem exists_numbered_take (network : Network) (top : UInt32) :
    ∃ routers,
      numberExternals (top.toNat + 1)
          (network.externals.entries.take (freeIds top)) = .ok routers ∧
        routers.map Router.name = network.externalNames.take (freeIds top) := by
  have free : UInt32.size - (top.toNat + 1) = freeIds top := by
    have size : UInt32.size = 2 ^ 32 := rfl
    rw [freeIds]
    omega
  refine ⟨numbered (top.toNat + 1) (network.externals.entries.take
    (freeIds top)), ?_, ?_⟩
  · have noneLeft :
        (network.externals.entries.take (freeIds top))[freeIds top]? = none :=
      List.getElem?_take_eq_none (Nat.le_refl _)
    rw [numberExternals_eq, free, noneLeft]
  · rw [map_name_numbered, List.map_take]
    rfl

/-- A failing synthesis reports the name behind those that free IDs are left
for. -/
theorem synthesisCall_cases (network : Network) :
    (∃ top name, network.IsTopId top ∧
      network.externalNames[freeIds top]? = some name ∧
      network.synthesisCall = (.error (.routerIdOverflow name), network)) ∨
    ((∀ top, network.IsTopId top →
        network.externalNames.length ≤ freeIds top) ∧
      ∃ names after, network.synthesisCall = (.ok names, after)) := by
  have call := network.synthesisCall_eq
  cases overflow :
      network.externals.keys[UInt32.size - (network.maximalId + 1)]? with
  | some name =>
      rw [overflow] at call
      have isExternal := (network.mem_keys_externals_iff name).mp
        (List.mem_of_getElem? overflow)
      obtain ⟨⟨router, member, _⟩, _⟩ := isExternal
      obtain ⟨top, isTop⟩ := exists_isTopId member
      rw [← freeIds_eq isTop] at overflow
      exact .inl ⟨top, name, isTop, overflow, call⟩
  | none =>
      rw [overflow] at call
      refine .inr ⟨?_, _, _, call⟩
      intro top isTop
      rw [← freeIds_eq isTop] at overflow
      exact List.getElem?_eq_none_iff.mp overflow

/-- Synthesis fails exactly if some name is external and the highest ID with
the number of external names exceeds all IDs.  It reports the name behind those
that could be numbered, and leaves the network as it was. -/
theorem synthesis_failsWhole (network : Network) :
    network.externalNames.Pairwise (· < ·) ∧
    (∀ name, name ∈ network.externalNames ↔ network.IsExternal name) ∧
    network.runInPlace synthesizeInPlace = network.synthesisCall ∧
    ((∃ error after,
        network.runInPlace synthesizeInPlace = (.error error, after)) ↔
      (∃ name, network.IsExternal name) ∧ ∃ top, network.IsTopId top ∧
        2 ^ 32 - 1 < top.toNat + network.externalNames.length) ∧
    ∀ error after,
      network.runInPlace synthesizeInPlace = (.error error, after) →
        after = network ∧ ∃ top name, network.IsTopId top ∧
          network.externalNames[2 ^ 32 - 1 - top.toNat]? = some name ∧
          error = .routerIdOverflow name ∧
          ∃ routers,
            numberExternals (top.toNat + 1) (network.externals.entries.take
              (2 ^ 32 - 1 - top.toNat)) = .ok routers ∧
            routers.map Router.name =
              network.externalNames.take (2 ^ 32 - 1 - top.toNat) := by
  rw [runInPlace_synthesize]
  refine ⟨network.externals.keys_isSorted, network.mem_externalNames_iff, rfl,
    ?_⟩
  rcases network.synthesisCall_cases with
    ⟨top, name, isTop, isLeft, call⟩ | ⟨allFree, names, final, call⟩
  · rw [call]
    have isBehind := (List.getElem?_eq_some_iff.mp isLeft).1
    rw [freeIds] at isBehind
    have isExternal := (network.mem_externalNames_iff name).mp
      (List.mem_of_getElem? isLeft)
    constructor
    · exact iff_of_true ⟨_, _, rfl⟩
        ⟨⟨name, isExternal⟩, top, isTop, by omega⟩
    · intro error after fails
      cases fails
      exact ⟨rfl, top, name, isTop, isLeft, rfl,
        network.exists_numbered_take top⟩
  · rw [call]
    constructor
    · apply iff_of_false
      · rintro ⟨error, after, fails⟩
        cases fails
      · rintro ⟨_, top, isTop, exceeds⟩
        have free := allFree top isTop
        have below := top.toNat_lt
        rw [freeIds] at free
        omega
    · intro error after fails
      cases fails

/-- Two IDs are left for four external names. -/
def twoIdsLeft : Network :=
  .ofList [
    ("B", { Router.fresh "B" 4294967293 with
      sessions := [.unfiltered "Z" ⟨10, 0, 0, 2⟩ ⟨10, 0, 0, 1⟩,
        .unfiltered "A" ⟨10, 0, 1, 2⟩ ⟨10, 0, 1, 1⟩] }),
    ("C", { Router.fresh "C" 7 with
      sessions := [.unfiltered "X" ⟨10, 0, 2, 2⟩ ⟨10, 0, 2, 1⟩,
        .unfiltered "B" ⟨10, 0, 3, 2⟩ ⟨10, 0, 3, 1⟩,
        .unfiltered "D" ⟨10, 0, 4, 2⟩ ⟨10, 0, 4, 1⟩] })]

theorem synthesis_failsWhole_twoIdsLeft :
    twoIdsLeft.externalNames = ["A", "D", "X", "Z"] ∧
      twoIdsLeft.runInPlace synthesizeInPlace =
        (.error (.routerIdOverflow "X"), twoIdsLeft) := by
  have names : twoIdsLeft.externalNames = ["A", "D", "X", "Z"] := by
    decide +kernel
  have fails : (twoIdsLeft.runInPlace synthesizeInPlace).1 =
      .error (.routerIdOverflow "X") := by
    decide +kernel
  obtain ⟨_, _, _, _, failsWhole⟩ := synthesis_failsWhole twoIdsLeft
  have kept := (failsWhole _ (twoIdsLeft.runInPlace synthesizeInPlace).2
    (Prod.ext fails rfl)).1
  exact ⟨names, Prod.ext fails kept⟩

end BgpTestbed.Network
