import BgpTestbed.Proofs.InterfacePeers

/-!
# Synthesis repeated

Synthesis adds nothing exactly if every peer is a router of the network.  A
network that it has completed is of this kind, so all further calls succeed
and leave it as it is, also when no ID is left.
-/

namespace BgpTestbed.Network

/-- One call of synthesis: the names that it adds or why it fails, and the
network after it. -/
def synthesisCall (network : Network) :
    Except ExportError (List String) × Network :=
  match network.externalRouters with
  | .error error => (.error error, network)
  | .ok routers => (.ok (routers.map Router.name), network.addRouters routers)

/-- What calls in a row return, and the network after the last of them. -/
def synthesisCalls :
    Nat → Network → List (Except ExportError (List String)) × Network
  | 0, network => ([], network)
  | count + 1, network =>
      let (result, following) := network.synthesisCall
      let (later, last) := synthesisCalls count following
      (result :: later, last)

theorem externalEnds_eq_nil_iff (network : Network) :
    network.externalEnds = [] ↔ network.Closed := by
  rw [List.eq_nil_iff_forall_not_mem]
  constructor
  · intro noEnds key router found session listed
    by_contra absent
    apply noEnds (session.peer, session.otherEnd key)
    rw [mem_externalEnds_iff]
    exact ⟨absent, key, router, found, session, listed, rfl, rfl⟩
  · rintro closed ⟨name, session⟩ isEnd
    rw [mem_externalEnds_iff] at isEnd
    obtain ⟨absent, key, router, found, original, listed, rfl, _⟩ := isEnd
    exact absent (closed key router found original listed)

/-- No ID is needed where no router is added. -/
theorem externalRouters_of_closed {network : Network}
    (closed : network.Closed) : network.externalRouters = .ok [] := by
  have noEnds := network.externalEnds_eq_nil_iff.mpr closed
  have noExternals : network.externals.entries = [] := by
    rw [externals, noEnds]
    rfl
  rw [externalRouters, noExternals, numberExternals]

theorem synthesisCall_of_closed {network : Network}
    (closed : network.Closed) : network.synthesisCall = (.ok [], network) := by
  rw [synthesisCall, externalRouters_of_closed closed]
  rfl

/-- Every call finds the network that the first one found. -/
theorem synthesisCalls_of_closed {network : Network}
    (closed : network.Closed) (count : Nat) :
    network.synthesisCalls count = (List.replicate count (.ok []), network) := by
  induction count with
  | zero => rfl
  | succ count ih =>
      rw [synthesisCalls, synthesisCall_of_closed closed]
      simp only [ih, List.replicate_succ]

theorem synthesisCall_of_synthesize {network complete : Network}
    (succeeds : network.synthesize = .ok complete) :
    ∃ names, (∀ name, name ∈ names ↔ network.IsExternal name) ∧
      network.synthesisCall = (.ok names, complete) := by
  obtain ⟨routers, isAdded, rfl⟩ := synthesize_eq_ok succeeds
  refine ⟨routers.map Router.name, mem_names_iff isAdded, ?_⟩
  rw [synthesisCall, isAdded]

/-- After the first call that succeeds all peers are routers of the network,
and no further call fails, adds a name or changes the network. -/
theorem synthesize_settles (network complete : Network)
    (succeeds : network.synthesize = .ok complete) :
    complete.Closed ∧
      (∀ count, complete.synthesisCalls count =
        (List.replicate count (.ok []), complete)) ∧
      ∃ names, (∀ name, name ∈ names ↔ network.IsExternal name) ∧
        ∀ count, network.synthesisCalls (count + 1) =
          (.ok names :: List.replicate count (.ok []), complete) := by
  have closed := closed_of_synthesize succeeds
  have settled := synthesisCalls_of_closed closed
  obtain ⟨names, areExternal, first⟩ := synthesisCall_of_synthesize succeeds
  refine ⟨closed, settled, names, areExternal, ?_⟩
  intro count
  rw [synthesisCalls, first]
  simp only [settled]

/-- One ID is left, and there is one external peer besides a session of the
router with itself. -/
def oneIdLeft : Network :=
  .ofList [("A", { Router.fresh "A" 4294967294 with
    sessions := [.unfiltered "X" ⟨10, 0, 0, 2⟩ ⟨10, 0, 0, 1⟩,
      .unfiltered "A" ⟨10, 0, 0, 1⟩ ⟨10, 0, 0, 1⟩,
      .unfiltered "X" ⟨10, 0, 1, 2⟩ ⟨10, 0, 1, 1⟩] })]

theorem synthesize_settles_oneIdLeft :
    ∃ complete, oneIdLeft.synthesize = .ok complete ∧
      complete.maximalId = 4294967295 ∧ complete.Closed ∧
      ∀ count, complete.synthesisCalls count =
        (List.replicate count (.ok []), complete) := by
  have lastId : oneIdLeft.synthesize.toOption.map maximalId =
      some 4294967295 := by
    decide +kernel
  cases succeeds : oneIdLeft.synthesize with
  | error error => simp [succeeds, Except.toOption] at lastId
  | ok complete =>
      have isLast : complete.maximalId = 4294967295 := by
        simpa [succeeds, Except.toOption] using lastId
      obtain ⟨closed, settled, _⟩ := synthesize_settles _ complete succeeds
      exact ⟨complete, rfl, isLast, closed, settled⟩

end BgpTestbed.Network
