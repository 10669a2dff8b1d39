import BgpTestbed.Externals
import BgpTestbed.Proofs.NameMap
import BgpTestbed.Proofs.Occurrences

/-!
# What synthesis adds to a network

Synthesis adds one router for every name that is listed as a peer and is no
key.  The main result fixes everything about the routers that it adds, and
that it leaves all others as they are.
-/

namespace BgpTestbed.Network

/-- Some router lists the name as a peer, and no router has it as its key. -/
def IsExternal (network : Network) (name : String) : Prop :=
  (∃ router ∈ network.values, ∃ session ∈ router.sessions,
    session.peer = name) ∧ name ∉ network.keys

/-- The sessions towards a peer: the key of the router on the near side, its
local address and its peer address, in the order of the network. -/
def references (network : Network) (name : String) :
    List (String × Address × Address) :=
  network.entries.flatMap fun (key, router) =>
    (router.sessions.filter fun session => session.peer == name).map
      fun session => (key, session.localAddress, session.peerAddress)

/-- The session that answers a reference, with the addresses swapped. -/
def answer (reference : String × Address × Address) : Session where
  peer := reference.1
  peerAddress := reference.2.1
  localAddress := reference.2.2
  inFilter := none
  outFilter := none

theorem mem_externalEnds_iff (network : Network) (name : String)
    (session : Session) :
    (name, session) ∈ network.externalEnds ↔
      name ∉ network.keys ∧
        ∃ key router, network.find? key = some router ∧
          ∃ original ∈ router.sessions,
            original.peer = name ∧ original.otherEnd key = session := by
  simp only [externalEnds, List.mem_flatMap, List.mem_map, List.mem_filter,
    Bool.not_eq_true', Prod.mk.injEq, Prod.exists]
  constructor
  · intro ⟨key, router, member, original, ⟨listed, isExternal⟩, isPeer, isEnd⟩
    have absent : original.peer ∉ network.keys := by
      rw [← NameMap.contains_iff, isExternal]
      exact Bool.false_ne_true
    exact ⟨isPeer ▸ absent, key, router,
      (network.mem_entries_iff key router).mp member,
      original, listed, isPeer, isEnd⟩
  · intro ⟨absent, key, router, found, original, listed, isPeer, isEnd⟩
    refine ⟨key, router, (network.mem_entries_iff key router).mpr found,
      original, ⟨listed, ?_⟩, isPeer, isEnd⟩
    rw [isPeer, Bool.eq_false_iff, ne_eq, NameMap.contains_iff]
    exact absent

theorem mem_names_externalEnds_iff (network : Network) (name : String) :
    name ∈ network.externalEnds.map Prod.fst ↔ network.IsExternal name := by
  simp only [List.mem_map, Prod.exists, exists_and_right, exists_eq_right,
    mem_externalEnds_iff, IsExternal, NameMap.mem_values_iff]
  constructor
  · intro ⟨_, absent, key, router, found, original, listed, isPeer, _⟩
    exact ⟨⟨router, ⟨key, found⟩, original, listed, isPeer⟩, absent⟩
  · intro ⟨⟨router, ⟨key, found⟩, original, listed, isPeer⟩, absent⟩
    exact ⟨original.otherEnd key, absent, key, router, found, original,
      listed, isPeer, rfl⟩

/-- Before repetitions are dropped, the sessions of an external peer are the
answers to the references to it. -/
theorem externalEnds_of_name (network : Network) {name : String}
    (absent : name ∉ network.keys) :
    (network.externalEnds.filter fun (peer, _) => peer == name).map
        Prod.snd =
      (network.references name).map answer := by
  have sameTest : ∀ session : Session,
      (session.peer == name && !network.contains session.peer) =
        (session.peer == name) := by
    intro session
    by_cases isPeer : session.peer = name
    · have notKey : network.contains name = false := by
        rw [Bool.eq_false_iff, ne_eq, NameMap.contains_iff]
        exact absent
      simp [isPeer, notKey]
    · simp [isPeer]
  simp only [externalEnds, references, List.filter_flatMap, List.map_flatMap,
    List.filter_map, List.filter_filter, List.map_map, Function.comp_def,
    sameTest]
  rfl

theorem mem_sessionsOf_iff (network : Network) (name : String)
    (session : Session) :
    session ∈ network.sessionsOf name ↔
      (name, session) ∈ network.externalEnds := by
  simp [sessionsOf, List.mem_eraseDups]

theorem answer_injective (first second : String × Address × Address)
    (same : answer first = answer second) : first = second := by
  obtain ⟨_, _, _⟩ := first
  obtain ⟨_, _, _⟩ := second
  simpa [answer] using same

theorem sessionsOf_eq (network : Network) {name : String}
    (absent : name ∉ network.keys) :
    network.sessionsOf name = (network.references name).eraseDups.map answer := by
  rw [sessionsOf, externalEnds_of_name network absent,
    eraseDups_map answer_injective]

theorem mem_keys_externals_iff (network : Network) (name : String) :
    name ∈ network.externals.keys ↔ network.IsExternal name := by
  rw [externals, NameMap.ofList_eq_insertAll, NameMap.mem_keys_insertAll,
    ← mem_names_externalEnds_iff, List.map_map]
  simp [NameMap.keys, NameMap.empty, Function.comp_def]

/-- All entries under one name are equal, so it does not matter that the last
one wins. -/
theorem eq_sessionsOf_of_mem_externals (network : Network) {name : String}
    {sessions : List Session}
    (member : (name, sessions) ∈ network.externals.entries) :
    sessions = network.sessionsOf name := by
  have found := (network.externals.mem_entries_iff name sessions).mp member
  rw [externals, NameMap.find?_ofList] at found
  have inList := List.mem_reverse.mp (mem_of_lookup_eq_some found)
  obtain ⟨⟨peer, _⟩, _, same⟩ := List.mem_map.mp inList
  cases same
  rfl

theorem isExternal_of_mem_externals (network : Network) {name : String}
    {sessions : List Session}
    (member : (name, sessions) ∈ network.externals.entries) :
    network.IsExternal name :=
  (network.mem_keys_externals_iff name).mp
    (List.mem_map.mpr ⟨_, member, rfl⟩)

/-- A network with a router has a router of maximal ID. -/
theorem max?_ids (network : Network) {router : Router}
    (member : router ∈ network.values) :
    (network.values.map fun router => router.id.toNat).max? =
      some network.maximalId := by
  have isId : router.id.toNat ∈
      network.values.map fun router => router.id.toNat :=
    List.mem_map.mpr ⟨router, member, rfl⟩
  obtain ⟨maximum, isMaximum⟩ :=
    Option.isSome_iff_exists.mp (List.isSome_max?_of_mem isId)
  rw [maximalId, List.foldl_max, isMaximum, Option.getD_some, Nat.zero_max]

theorem id_le_maximalId (network : Network) {router : Router}
    (member : router ∈ network.values) :
    router.id.toNat ≤ network.maximalId :=
  (List.max?_eq_some_iff.mp (network.max?_ids member)).2 _
    (List.mem_map.mpr ⟨router, member, rfl⟩)

theorem exists_id_eq_maximalId (network : Network) {router : Router}
    (member : router ∈ network.values) :
    ∃ top ∈ network.values, top.id.toNat = network.maximalId :=
  List.mem_map.mp (List.max?_eq_some_iff.mp (network.max?_ids member)).1

/-- The routers that are numbered from `next` on, whether or not their numbers
are IDs. -/
def numbered (next : Nat) (externals : List (String × List Session)) :
    List Router :=
  (externals.zipIdx next).map fun ((name, sessions), id) =>
    externalRouter name (UInt32.ofNat id) sessions

/-- Numbering fails at the first name that is left without an ID. -/
theorem numberExternals_eq (next : Nat)
    (externals : List (String × List Session)) :
    numberExternals next externals =
      match externals[UInt32.size - next]? with
      | some (name, _) => .error (.routerIdOverflow name)
      | none => .ok (numbered next externals) := by
  induction externals generalizing next with
  | nil => simp [numberExternals, numbered]
  | cons external later ih =>
      obtain ⟨name, sessions⟩ := external
      rw [numberExternals]
      by_cases fits : next < UInt32.size
      · have behind : UInt32.size - next = UInt32.size - (next + 1) + 1 := by
          omega
        rw [if_pos fits, ih, behind, List.getElem?_cons_succ]
        cases later[UInt32.size - (next + 1)]? with
        | none => simp [numbered]
        | some _ => rfl
      · have atHead : UInt32.size - next = 0 := by omega
        rw [if_neg fits, atHead, List.getElem?_cons_zero]

theorem map_name_numbered (next : Nat)
    (externals : List (String × List Session)) :
    (numbered next externals).map Router.name = externals.map Prod.fst := by
  calc (numbered next externals).map Router.name
      = ((externals.zipIdx next).map Prod.fst).map Prod.fst := by
        rw [numbered, List.map_map, List.map_map]
        rfl
    _ = externals.map Prod.fst := by rw [List.zipIdx_map_fst]

theorem getElem?_numbered (next : Nat)
    (externals : List (String × List Session)) (index : Nat) :
    (numbered next externals)[index]? =
      externals[index]?.map fun (name, sessions) =>
        externalRouter name (UInt32.ofNat (next + index)) sessions := by
  rw [numbered, List.getElem?_map, List.getElem?_zipIdx, Option.map_map]
  rfl

/-- Synthesis succeeds only with an ID for every name. -/
theorem externalRouters_eq_ok (network : Network) {routers : List Router}
    (succeeds : network.externalRouters = .ok routers) :
    routers = numbered (network.maximalId + 1) network.externals.entries ∧
      network.externals.entries.length ≤
        UInt32.size - (network.maximalId + 1) := by
  rw [externalRouters, numberExternals_eq] at succeeds
  cases overflow :
      network.externals.entries[UInt32.size - (network.maximalId + 1)]? with
  | some external => simp [overflow] at succeeds
  | none =>
      simp only [overflow, Except.ok.injEq] at succeeds
      exact ⟨succeeds.symm, List.getElem?_eq_none_iff.mp overflow⟩

theorem addRouters_eq_insertAll (network : Network) (routers : List Router) :
    network.addRouters routers =
      network.insertAll (routers.map fun router => (router.name, router)) := by
  rw [addRouters, NameMap.insertAll, List.foldl_map]

theorem map_key_of_named (routers : List Router) :
    (routers.map fun router => (router.name, router)).map Prod.fst =
      routers.map Router.name := by
  rw [List.map_map]
  rfl

theorem find?_addRouters_of_mem (network : Network) {routers : List Router}
    (distinct : (routers.map Router.name).Nodup) {router : Router}
    (member : router ∈ routers) :
    (network.addRouters routers).find? router.name = some router := by
  rw [addRouters_eq_insertAll]
  exact NameMap.find?_insertAll_of_mem _ (map_key_of_named routers ▸ distinct)
    (List.mem_map.mpr ⟨router, member, rfl⟩)

theorem find?_addRouters_of_not_mem (network : Network)
    {routers : List Router} {name : String}
    (other : name ∉ routers.map Router.name) :
    (network.addRouters routers).find? name = network.find? name := by
  rw [addRouters_eq_insertAll]
  exact NameMap.find?_insertAll_of_not_mem _
    (map_key_of_named routers ▸ other)

theorem mem_keys_addRouters (network : Network) (routers : List Router)
    (name : String) :
    name ∈ (network.addRouters routers).keys ↔
      name ∈ network.keys ∨ name ∈ routers.map Router.name := by
  rw [addRouters_eq_insertAll, NameMap.mem_keys_insertAll, map_key_of_named]

section Succeeded

variable {network : Network} {routers : List Router}
  (succeeds : network.externalRouters = .ok routers)
include succeeds

theorem map_name_externalRouters :
    routers.map Router.name = network.externals.keys := by
  rw [(network.externalRouters_eq_ok succeeds).1, map_name_numbered]
  rfl

theorem names_isSorted : (routers.map Router.name).Pairwise (· < ·) := by
  rw [map_name_externalRouters succeeds]
  exact network.externals.keys_isSorted

theorem mem_names_iff (name : String) :
    name ∈ routers.map Router.name ↔ network.IsExternal name := by
  rw [map_name_externalRouters succeeds, mem_keys_externals_iff]

/-- A key is no external name, so no entry is replaced. -/
theorem find?_addRouters_of_key {key : String} (isKey : key ∈ network.keys) :
    (network.addRouters routers).find? key = network.find? key := by
  apply find?_addRouters_of_not_mem
  intro isName
  exact ((mem_names_iff succeeds key).mp isName).2 isKey

theorem getElem?_externalRouters {position : Nat} {router : Router}
    (isAt : routers[position]? = some router) :
    network.maximalId + 1 + position < UInt32.size ∧
      network.IsExternal router.name ∧
      router = externalRouter router.name
        (UInt32.ofNat (network.maximalId + 1 + position))
        (network.sessionsOf router.name) := by
  obtain ⟨isNumbered, haveIds⟩ := network.externalRouters_eq_ok succeeds
  rw [isNumbered, getElem?_numbered, Option.map_eq_some_iff] at isAt
  obtain ⟨⟨name, sessions⟩, isEntry, rfl⟩ := isAt
  have member := List.mem_of_getElem? isEntry
  have isBefore := (List.getElem?_eq_some_iff.mp isEntry).1
  refine ⟨by omega, network.isExternal_of_mem_externals member, ?_⟩
  rw [network.eq_sessionsOf_of_mem_externals member]
  rfl

theorem find?_addRouters_of_isExternal {name : String}
    (isExternal : network.IsExternal name) :
    ∃ id, (network.addRouters routers).find? name =
      some (externalRouter name id (network.sessionsOf name)) := by
  have distinct : (routers.map Router.name).Nodup :=
    (names_isSorted succeeds).imp String.ne_of_lt
  obtain ⟨router, member, rfl⟩ :=
    List.mem_map.mp ((mem_names_iff succeeds name).mpr isExternal)
  obtain ⟨position, isAt⟩ := List.mem_iff_getElem?.mp member
  obtain ⟨_, _, isRouter⟩ := getElem?_externalRouters succeeds isAt
  refine ⟨UInt32.ofNat (network.maximalId + 1 + position), ?_⟩
  rw [find?_addRouters_of_mem network distinct member]
  exact congrArg some isRouter

theorem toNat_id_externalRouters {position : Nat} {router : Router}
    (isAt : routers[position]? = some router) :
    router.id.toNat = network.maximalId + 1 + position := by
  obtain ⟨isId, _, isRouter⟩ := getElem?_externalRouters succeeds isAt
  rw [isRouter]
  exact UInt32.toNat_ofNat_of_lt isId

/-- IDs count on from the maximal one, so each exceeds all earlier ones. -/
theorem ids_isSorted : (routers.map Router.id).Pairwise (· < ·) := by
  rw [List.pairwise_iff_getElem]
  intro earlier later isEarlier isLater before
  rw [List.length_map] at isEarlier isLater
  have earlierId := toNat_id_externalRouters succeeds
    (List.getElem?_eq_getElem isEarlier)
  have laterId := toNat_id_externalRouters succeeds
    (List.getElem?_eq_getElem isLater)
  rw [List.getElem_map, List.getElem_map, UInt32.lt_iff_toNat_lt]
  omega

theorem id_lt_id_externalRouters {added router : Router}
    (member : added ∈ routers) (inNetwork : router ∈ network.values) :
    router.id < added.id := by
  obtain ⟨position, isAt⟩ := List.mem_iff_getElem?.mp member
  have isId := toNat_id_externalRouters succeeds isAt
  have below := network.id_le_maximalId inNetwork
  rw [UInt32.lt_iff_toNat_lt]
  omega

end Succeeded

theorem synthesize_eq_ok {network complete : Network}
    (succeeds : network.synthesize = .ok complete) :
    ∃ routers, network.externalRouters = .ok routers ∧
      complete = network.addRouters routers := by
  rw [synthesize] at succeeds
  cases result : network.externalRouters with
  | error error => simp [result, Except.map] at succeeds
  | ok routers =>
      simp only [result, Except.map, Except.ok.injEq] at succeeds
      exact ⟨routers, rfl, succeeds.symm⟩

/-- Synthesis keeps every router under its key. -/
theorem find?_of_synthesize {network complete : Network}
    (succeeds : network.synthesize = .ok complete) {key : String}
    {router : Router} (found : network.find? key = some router) :
    complete.find? key = some router := by
  obtain ⟨routers, isAdded, rfl⟩ := synthesize_eq_ok succeeds
  have isKey := (network.mem_keys_iff key).mpr ⟨router, found⟩
  exact (find?_addRouters_of_key isAdded isKey).trans found

/-- The router that belongs under the external name at a position: its ID
counts on from the maximal one, and it has one session for each different
reference to its name. -/
structure IsSynthesized (network : Network) (position : Nat) (name : String)
    (router : Router) : Prop where
  idAbove : ∃ top ∈ network.values,
    (∀ other ∈ network.values, other.id ≤ top.id) ∧
      router.id.toNat = top.id.toNat + 1 + position ∧
      top.id.toNat + 1 + position < UInt32.size
  hasName : router.name = name
  declaresNetwork : router.networks = [.concrete
    { address := { first := 172, second := 0, third := 0, fourth := 0 }
      length := 24 }]
  hasNoPolicy : router.prefixLists = [] ∧ router.communityLists = [] ∧
    router.asPathLists = [] ∧ router.routeMaps = [] ∧ router.policyLists = []
  answersReferences : ∃ distinct,
    FirstOccurrences (network.references name) distinct ∧
      router.sessions = distinct.map answer
  sessionsDiffer : router.sessions.Nodup

theorem isSynthesized_of_getElem? {network : Network} {routers : List Router}
    (succeeds : network.externalRouters = .ok routers) {position : Nat}
    {router : Router} (isAt : routers[position]? = some router) :
    network.IsSynthesized position router.name router := by
  obtain ⟨isId, isExternal, isRouter⟩ := getElem?_externalRouters succeeds isAt
  obtain ⟨⟨referring, inNetwork, _⟩, absent⟩ := isExternal
  obtain ⟨top, topInNetwork, topId⟩ :=
    network.exists_id_eq_maximalId inNetwork
  have routerId := toNat_id_externalRouters succeeds isAt
  have occurrences :=
    eraseDups_firstOccurrences (network.references router.name)
  have isSessions : router.sessions =
      (network.references router.name).eraseDups.map answer := by
    rw [← network.sessionsOf_eq absent]
    exact congrArg Router.sessions isRouter
  refine {
    idAbove := ⟨top, topInNetwork, ?_, by omega, by omega⟩
    hasName := rfl
    declaresNetwork := ?_
    hasNoPolicy := ?_
    answersReferences := ⟨_, occurrences, isSessions⟩
    sessionsDiffer := ?_ }
  · intro other otherInNetwork
    rw [UInt32.le_iff_toNat_le, topId]
    exact network.id_le_maximalId otherInNetwork
  · rw [isRouter]
    rfl
  · rw [isRouter]
    exact ⟨rfl, rfl, rfl, rfl, rfl⟩
  · rw [isSessions, List.Nodup, List.pairwise_map]
    refine occurrences.nodup.imp ?_
    intro first second different same
    exact different (answer_injective first second same)

/-- A complete network has its old routers as they were and, under the
external names, the added ones. -/
structure IsCompletion (network : Network) (names : List String)
    (complete : Network) : Prop where
  namesAscend : names.Pairwise (· < ·)
  namesExternal : ∀ name, name ∈ names ↔ network.IsExternal name
  keepsRouters : ∀ key router, network.find? key = some router →
    complete.find? key = some router
  hasKeys : ∀ key, key ∈ complete.keys ↔ key ∈ network.keys ∨ key ∈ names
  addsRouters : ∀ position name, names[position]? = some name →
    ∃ router, complete.find? name = some router ∧
      network.IsSynthesized position name router
  idsDiffer : (names.map fun name =>
    (complete.find? name).map Router.id).Nodup
  idsExceed : ∀ name ∈ names, ∀ added, complete.find? name = some added →
    ∀ router ∈ network.values, router.id < added.id

/-- A successful synthesis completes the network in exactly one way. -/
theorem synthesize_isCompletion (network : Network) (routers : List Router)
    (succeeds : network.externalRouters = .ok routers) :
    network.synthesize = .ok (network.addRouters routers) ∧
      network.IsCompletion (routers.map Router.name)
        (network.addRouters routers) := by
  have distinct : (routers.map Router.name).Nodup :=
    (names_isSorted succeeds).imp String.ne_of_lt
  refine ⟨by rw [synthesize, succeeds]; rfl, {
    namesAscend := names_isSorted succeeds
    namesExternal := mem_names_iff succeeds
    keepsRouters := ?_
    hasKeys := mem_keys_addRouters network routers
    addsRouters := ?_
    idsDiffer := ?_
    idsExceed := ?_ }⟩
  · intro key router found
    rw [find?_addRouters_of_key succeeds
      ((network.mem_keys_iff key).mpr ⟨router, found⟩)]
    exact found
  · intro position name isAt
    rw [List.getElem?_map, Option.map_eq_some_iff] at isAt
    obtain ⟨router, isAt, rfl⟩ := isAt
    exact ⟨router, find?_addRouters_of_mem network distinct
      (List.mem_of_getElem? isAt), isSynthesized_of_getElem? succeeds isAt⟩
  · have sameIds : (routers.map Router.name).map
        (fun name => ((network.addRouters routers).find? name).map Router.id) =
          (routers.map Router.id).map some := by
      rw [List.map_map, List.map_map]
      refine List.map_congr_left fun router member => ?_
      simp only [Function.comp_apply,
        find?_addRouters_of_mem network distinct member, Option.map_some]
    rw [sameIds, List.Nodup, List.pairwise_map]
    exact (ids_isSorted succeeds).imp fun before same =>
      UInt32.ne_of_lt before (Option.some.inj same)
  · intro name isName added found router inNetwork
    obtain ⟨listed, member, rfl⟩ := List.mem_map.mp isName
    rw [find?_addRouters_of_mem network distinct member] at found
    cases found
    exact id_lt_id_externalRouters succeeds member inNetwork

/-- Two routers share the external peers `X` and `A`; the second name is that
of the first router, whose key differs from it. -/
def sharedPeers : Network :=
  let address (last : UInt8) : Address :=
    { first := 10, second := 0, third := 0, fourth := last }
  .ofList [
    ("b", { Router.fresh "B" 4 with
      sessions := [.unfiltered "X" (address 8) (address 7),
        .unfiltered "A" (address 1) (address 9)] }),
    ("a", { Router.fresh "A" 9 with
      sessions := [.unfiltered "X" (address 2) (address 1),
        { Session.unfiltered "X" (address 2) (address 1) with
          inFilter := some "in" },
        .unfiltered "b" (address 9) (address 1),
        .unfiltered "X" (address 4) (address 3)] })]

theorem synthesize_isCompletion_sharedPeers :
    ∃ routers, sharedPeers.externalRouters = .ok routers ∧
      routers.map Router.name = ["A", "X"] ∧
      sharedPeers.IsCompletion ["A", "X"]
        (sharedPeers.addRouters routers) := by
  have names : sharedPeers.externalRouters.toOption.map
      (fun routers => routers.map Router.name) = some ["A", "X"] := by
    decide +kernel
  cases succeeds : sharedPeers.externalRouters with
  | error error => simp [succeeds, Except.toOption] at names
  | ok routers =>
      have isNames : routers.map Router.name = ["A", "X"] := by
        simpa [succeeds, Except.toOption] using names
      have complete := (synthesize_isCompletion sharedPeers _ succeeds).2
      rw [isNames] at complete
      exact ⟨routers, rfl, isNames, complete⟩

end BgpTestbed.Network
