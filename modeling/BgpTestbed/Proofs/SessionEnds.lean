import BgpTestbed.Proofs.OpenConfigurations
import BgpTestbed.Proofs.Synthesis

/-!
# Both ends of a session

A session has two ends if the router of its peer has a session back, with the
same two addresses the other way round.  Synthesis gives a second end to every
session towards an external peer, and the configurations of both routers show
the two ends alike.
-/

namespace BgpTestbed

open Daemon Text

/-- Addresses have no spaces, so a line of a neighbor tells where the setting
starts. -/
theorem neighborLine_inj {first second : Address} {setting other : String} :
    " neighbor " ++ first.text ++ " " ++ setting =
        " neighbor " ++ second.text ++ " " ++ other ↔
      first = second ∧ setting = other := by
  constructor
  · intro same
    have oneWord (address : Address) : Lacks ' ' address.text :=
      lacks_address_of_not_isDigit (by decide) (by decide) address
    simp only [String.append_assoc, String.append_right_inj] at same
    have parts := congrArg splitFirst same
    rw [splitFirst_append (oneWord first),
      splitFirst_append (oneWord second), Prod.mk.injEq] at parts
    exact ⟨Address.text_injective parts.1, parts.2⟩
  · rintro ⟨rfl, rfl⟩
    rfl

theorem Session.sendCommunity_mem_establishing_iff (internal : List String)
    (session : Session) :
    "send-community both" ∈ session.establishing internal ↔
      session.peer ∈ internal := by
  have notRemoteAs : "send-community both" ≠ "remote-as " ++ session.peer := by
    intro same
    have opens : Opens "remote-as " "send-community both" := by
      rw [same]
      exact opens_append (List.prefix_refl _) _
    exact absurd opens (by decide)
  rw [establishing, List.mem_cons]
  by_cases isInternal : session.peer ∈ internal <;>
    simp [isInternal, notRemoteAs]

theorem Session.sendCommunity_not_mem_filtering (session : Session) :
    "send-community both" ∉ session.filtering := by
  have opens : ∀ setting ∈ session.filtering, Opens "route-map " setting := by
    simp only [filtering, List.forall_mem_append, List.forall_mem_map,
      String.append_assoc]
    exact ⟨fun _ _ => opens_append (List.prefix_refl _) _,
      fun _ _ => opens_append (List.prefix_refl _) _⟩
  exact fun member => absurd (opens _ member) (by decide)

namespace Router

variable (internal : List String) (router : Router)

/-- Communities are sent to an address exactly if a session with an internal
peer has it. -/
theorem sendCommunity_mem_lines_iff (address : Address) :
    " neighbor " ++ address.text ++ " send-community both" ∈
        (Configuration.ofRouter .concrete internal router).lines ↔
      ∃ session ∈ router.sessions, session.peer ∈ internal ∧
        session.peerAddress = address := by
  have split : " neighbor " ++ address.text ++ " send-community both" =
      " neighbor " ++ address.text ++ " " ++ "send-community both" := by
    rw [String.append_assoc, String.append_assoc]
    rfl
  have opens : Opens " neighbor "
      (" neighbor " ++ address.text ++ " " ++ "send-community both") := by
    rw [String.append_assoc, String.append_assoc]
    exact opens_append (List.prefix_refl _) _
  rw [← router.map_shown_openLines internal .concrete, List.mem_map, split]
  constructor
  · rintro ⟨line, member, shown⟩
    cases line with
    | fixed line =>
        rw [← shown] at opens
        have closed := (router.hasOpenLines internal).closed line member
        exact absurd opens closed.notNeighbor
    | process =>
        rw [← shown] at opens
        exact absurd opens (not_opens_append (by decide) _)
    | interface session =>
        rw [← shown] at opens
        exact absurd opens (not_opens_append (by decide) _)
    | neighbor session setting =>
        obtain ⟨sameAddress, rfl⟩ := neighborLine_inj.mp shown
        obtain ⟨listed, isEstablishing | isFiltering⟩ :=
          (router.neighbor_mem_openLines_iff internal _ _).mp member
        · exact ⟨session, listed,
            (session.sendCommunity_mem_establishing_iff internal).mp
              isEstablishing, sameAddress⟩
        · exact absurd isFiltering session.sendCommunity_not_mem_filtering
  · rintro ⟨session, listed, isInternal, rfl⟩
    refine ⟨.neighbor session "send-community both", ?_, rfl⟩
    rw [neighbor_mem_openLines_iff, session.sendCommunity_mem_establishing_iff]
    exact ⟨listed, .inl isInternal⟩

end Router

namespace Session

variable (session : Session) (key : String)

theorem otherEnd_peer : (session.otherEnd key).peer = key := rfl

theorem otherEnd_peerAddress :
    (session.otherEnd key).peerAddress = session.localAddress := rfl

theorem otherEnd_localAddress :
    (session.otherEnd key).localAddress = session.peerAddress := rfl

end Session

/-- The router of the peer has a session back to the router of this name. -/
def Network.Mirrored (network : Network) (name : String)
    (session : Session) : Prop :=
  ∃ far, network.find? session.peer = some far ∧
    ∃ back ∈ far.sessions, back.peer = name ∧
      back.peerAddress = session.localAddress ∧
      back.localAddress = session.peerAddress

/-- The configurations of two routers show a session of the near one towards
the far one, which alone counts the other as internal.  The lines of the near
one are fixed block by block, and communities go to the address of the far one
only if an internal peer has this address too. -/
structure ShownAtBothEnds (internal : List String) (near far : Router)
    (session : Session) : Prop where
  farName : Text.HasLines (far.configuration .concrete internal)
    ["router bgp " ++ session.peer]
  farInterface : ∃ index : Nat,
    Text.HasLines (far.configuration .concrete internal)
      ["interface eth" ++ toString index,
        " ip address " ++ session.peerAddress.text ++ "/24"]
  farSession : Text.HasLines (far.configuration .concrete internal)
    [" neighbor " ++ session.localAddress.text ++ " remote-as " ++ near.name,
      " neighbor " ++ session.localAddress.text ++ " send-community both"]
  nearInterface : ∃ index : Nat,
    Text.HasLines (near.configuration .concrete internal)
      ["interface eth" ++ toString index,
        " ip address " ++ session.localAddress.text ++ "/24"]
  nearSessions : Text.HasLines (near.configuration .concrete internal)
    (near.sessions.flatMap fun session =>
      (Daemon.neighborOf .concrete internal near session).sessionLines)
  nearSession :
    (Daemon.neighborOf .concrete internal near session).sessionLines =
      [" neighbor " ++ session.peerAddress.text ++ " remote-as " ++
        session.peer]
  nearLines : ∃ lines,
    near.configuration .concrete internal = Text.ofLines lines ∧
      near.HasSections .concrete internal lines ∧
      (" neighbor " ++ session.peerAddress.text ++ " send-community both" ∈
          lines ↔
        ∃ other ∈ near.sessions, other.peer ∈ internal ∧
          other.peerAddress = session.peerAddress)

theorem hasLines_concreteInterface (internal : List String) {router : Router}
    {session : Session} (member : session ∈ router.sessions) :
    ∃ index : Nat, Text.HasLines (router.configuration .concrete internal)
      ["interface eth" ++ toString index,
        " ip address " ++ session.localAddress.text ++ "/24"] := by
  obtain ⟨index, isAt⟩ := List.mem_iff_getElem?.mp member
  have shown :=
    router.configuration_hasLines_interface .concrete internal isAt
  have name : "interface eth" = "interface " ++ "eth" := rfl
  refine ⟨index, ?_⟩
  rw [interfaceName, Naming.interfaceAddress_concrete] at shown
  rwa [name, String.append_assoc, String.append_assoc]

/-- Communities go to internal peers, and the far router has the near one among
them but not the other way round. -/
theorem shownAtBothEnds_of_back {internal : List String} {near far : Router}
    {session : Session} (isInternal : near.name ∈ internal)
    (isExternal : session.peer ∉ internal) (hasName : far.name = session.peer)
    (listed : session ∈ near.sessions)
    (back : session.otherEnd near.name ∈ far.sessions) :
    ShownAtBothEnds internal near far session where
  farName := by
    have shown := far.configuration_hasLines_name .concrete internal
    rw [Naming.router, hasName] at shown
    exact shown
  farInterface := by
    have shown := hasLines_concreteInterface internal back
    rw [Session.otherEnd_localAddress] at shown
    exact shown
  farSession := by
    have shown := far.configuration_hasLines_session .concrete internal back
    rw [Router.sessionLines_neighborOf, Session.otherEnd_peer,
      if_pos isInternal, Naming.peerAddress,
      Session.otherEnd_peerAddress] at shown
    exact shown
  nearInterface := hasLines_concreteInterface internal listed
  nearSessions := near.configuration_hasLines_sessions .concrete internal
  nearSession := by
    rw [Router.sessionLines_neighborOf, if_neg isExternal, Naming.peerAddress]
  nearLines := ⟨_, near.configuration_eq_ofLines .concrete internal,
    near.hasSections_lines .concrete internal,
    near.sendCommunity_mem_lines_iff internal session.peerAddress⟩

namespace Network

variable {network : Network} {routers : List Router}

/-- Keys stay keys of the same routers, so sessions between them are mirrored
after synthesis if they were before. -/
theorem mirrored_addRouters_iff
    (succeeds : network.externalRouters = .ok routers) (name : String)
    {session : Session} (isKey : session.peer ∈ network.keys) :
    (network.addRouters routers).Mirrored name session ↔
      network.Mirrored name session := by
  simp only [Mirrored, find?_addRouters_of_key succeeds isKey]

/-- The sessions of a synthesized router are the other ends of sessions of the
network. -/
theorem isExternal_of_find?_addRouters
    (succeeds : network.externalRouters = .ok routers) {name : String}
    {far : Router} (absent : name ∉ network.keys)
    (found : (network.addRouters routers).find? name = some far) :
    network.IsExternal name ∧ far.name = name ∧
      far.sessions = network.sessionsOf name := by
  have isKey := ((network.addRouters routers).mem_keys_iff name).mpr
    ⟨far, found⟩
  have isName := ((network.mem_keys_addRouters routers name).mp
    isKey).resolve_left absent
  have isExternal := (mem_names_iff succeeds name).mp isName
  obtain ⟨id, isSynthesized⟩ :=
    find?_addRouters_of_isExternal succeeds isExternal
  rw [found] at isSynthesized
  cases isSynthesized
  exact ⟨isExternal, rfl, rfl⟩

/-- After synthesis both ends of every session with an external peer agree:
each one is mirrored, the configurations of both routers show it alike, and
sessions among the old routers are mirrored as they were before. -/
theorem synthesize_mirrors (network complete : Network)
    (named : ∀ entry ∈ network.entries, entry.2.name = entry.1)
    (succeeds : network.synthesize = .ok complete) :
    (∀ near ∈ network.values, complete.find? near.name = some near ∧
      ∀ session ∈ near.sessions,
        (session.peer ∉ network.keys →
          complete.Mirrored near.name session ∧
          ∃ far, complete.find? session.peer = some far ∧
            ShownAtBothEnds network.keys near far session) ∧
        (session.peer ∈ network.keys →
          (complete.Mirrored near.name session ↔
            network.Mirrored near.name session))) ∧
    ∀ name far, name ∉ network.keys → complete.find? name = some far →
      far.name = name ∧ ∀ session ∈ far.sessions,
        complete.Mirrored name session ∧
        ∃ near ∈ network.values, near.name = session.peer ∧
          ∃ original ∈ near.sessions, original.peer = name ∧
            original.peerAddress = session.localAddress ∧
            original.localAddress = session.peerAddress := by
  obtain ⟨routers, isAdded, rfl⟩ := synthesize_eq_ok succeeds
  have hasKey : ∀ key router, network.find? key = some router →
      router.name = key := by
    intro key router found
    exact named (key, router) ((network.mem_entries_iff key router).mpr found)
  constructor
  · intro near inNetwork
    obtain ⟨key, found⟩ := (network.mem_values_iff near).mp inNetwork
    cases hasKey key near found
    have isKey := (network.mem_keys_iff near.name).mpr ⟨near, found⟩
    refine ⟨(find?_addRouters_of_key isAdded isKey).trans found, ?_⟩
    intro session listed
    refine ⟨fun absent => ?_, mirrored_addRouters_iff isAdded near.name⟩
    have isExternal : network.IsExternal session.peer :=
      ⟨⟨near, inNetwork, session, listed, rfl⟩, absent⟩
    obtain ⟨id, isFar⟩ := find?_addRouters_of_isExternal isAdded isExternal
    have back : session.otherEnd near.name ∈
        network.sessionsOf session.peer := by
      rw [mem_sessionsOf_iff, mem_externalEnds_iff]
      exact ⟨absent, near.name, near, found, session, listed, rfl, rfl⟩
    exact ⟨⟨_, isFar, _, back, rfl, rfl, rfl⟩, _, isFar,
      shownAtBothEnds_of_back isKey absent rfl listed back⟩
  · intro name far absent found
    obtain ⟨isExternal, hasName, isSessions⟩ :=
      isExternal_of_find?_addRouters isAdded absent found
    refine ⟨hasName, fun session member => ?_⟩
    rw [isSessions, mem_sessionsOf_iff, mem_externalEnds_iff] at member
    obtain ⟨_, key, near, isNear, original, listed, isPeer, rfl⟩ := member
    cases hasKey key near isNear
    have isKey := (network.mem_keys_iff near.name).mpr ⟨near, isNear⟩
    have inNetwork := (network.mem_values_iff near).mpr ⟨_, isNear⟩
    have foundNear :=
      (find?_addRouters_of_key isAdded isKey).trans isNear
    exact ⟨⟨near, foundNear, original, listed, isPeer, rfl, rfl⟩,
      near, inNetwork, rfl, original, listed, isPeer, rfl, rfl⟩

/-- A border router with parallel sessions to the external peer `X`, one of
them listed twice, and a session to `B`. -/
def borderRouter : Router :=
  let address (subnet last : UInt8) : Address :=
    { first := 10, second := 0, third := subnet, fourth := last }
  { Router.fresh "A" 9 with
    sessions := [.unfiltered "X" (address 1 2) (address 1 1),
      .unfiltered "B" (address 2 2) (address 2 1),
      .unfiltered "X" (address 3 2) (address 3 1),
      { Session.unfiltered "X" (address 1 2) (address 1 1) with
        inFilter := some "in" }] }

/-- Both routers have sessions with `X`. -/
def sharedBorder : Network :=
  let address (last : UInt8) : Address :=
    { first := 10, second := 0, third := 4, fourth := last }
  .ofList [("B", { Router.fresh "B" 4 with
      sessions := [.unfiltered "X" (address 2) (address 1)] }),
    ("A", borderRouter)]

theorem synthesize_mirrors_sharedBorder :
    (∀ entry ∈ sharedBorder.entries, entry.2.name = entry.1) ∧
      ∃ complete, sharedBorder.synthesize = .ok complete ∧
        ∀ session ∈ borderRouter.sessions, session.peer ≠ "B" →
          complete.Mirrored "A" session ∧
          ∃ far, complete.find? session.peer = some far ∧
            ShownAtBothEnds ["A", "B"] borderRouter far session := by
  have named : ∀ entry ∈ sharedBorder.entries, entry.2.name = entry.1 := by
    decide +kernel
  have keys : sharedBorder.keys = ["A", "B"] := by decide +kernel
  have listed : borderRouter ∈ sharedBorder.values := by decide +kernel
  have isOk : sharedBorder.synthesize.toOption.isSome = true := by
    decide +kernel
  have peers : ∀ session ∈ borderRouter.sessions, session.peer ≠ "B" →
      session.peer ∉ ["A", "B"] := by
    decide +kernel
  refine ⟨named, ?_⟩
  cases succeeds : sharedBorder.synthesize with
  | error error => simp [succeeds, Except.toOption] at isOk
  | ok complete =>
      refine ⟨complete, rfl, fun session member different => ?_⟩
      have mirrors := (synthesize_mirrors _ _ named succeeds).1 _ listed
      have atBothEnds := (mirrors.2 session member).1
      rw [keys] at atBothEnds
      exact atBothEnds (peers session member different)

end Network

end BgpTestbed
