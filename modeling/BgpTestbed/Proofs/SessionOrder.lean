import BgpTestbed.Proofs.Numbering
import BgpTestbed.Proofs.RepeatedSynthesis

/-!
# The order of sessions

The graph of a network is given by which sessions its routers have.  In which
order a router lists them, how often, and with which filters matters neither to
synthesis nor to the nodes, hosts and links of a topology.
-/

namespace BgpTestbed

open Emulator

/-- What a session says apart from its filters. -/
def Session.ends (session : Session) : String × Address × Address :=
  (session.peer, session.peerAddress, session.localAddress)

/-- The routers differ at most in the order, the repetition and the filters of
their sessions. -/
structure Router.SameSessions (first second : Router) : Prop where
  sameOthers : { first with sessions := [] } = { second with sessions := [] }
  sameEnds : ∀ ends, ends ∈ first.sessions.map Session.ends ↔
    ends ∈ second.sessions.map Session.ends

instance (first second : Router) : Decidable (first.SameSessions second) :=
  decidable_of_iff
    ({ first with sessions := [] } = { second with sessions := [] } ∧
      (∀ ends ∈ first.sessions.map Session.ends,
        ends ∈ second.sessions.map Session.ends) ∧
      ∀ ends ∈ second.sessions.map Session.ends,
        ends ∈ first.sessions.map Session.ends)
    ⟨fun ⟨sameOthers, forward, backward⟩ =>
      ⟨sameOthers, fun ends => ⟨forward ends, backward ends⟩⟩,
    fun same => ⟨same.sameOthers, fun ends => (same.sameEnds ends).mp,
      fun ends => (same.sameEnds ends).mpr⟩⟩

/-- Both networks have the same keys, and under each key routers with the same
sessions. -/
structure Network.SameGraph (first second : Network) : Prop where
  sameKeys : first.keys = second.keys
  sameRouters : ∀ key router other, first.find? key = some router →
    second.find? key = some other → router.SameSessions other

instance (first second : Network) : Decidable (first.SameGraph second) :=
  decidable_of_iff
    (first.keys = second.keys ∧ ∀ entry ∈ first.entries,
      ∀ other ∈ second.entries, entry.1 = other.1 →
        entry.2.SameSessions other.2)
    ⟨fun ⟨sameKeys, sameRouters⟩ => ⟨sameKeys,
      fun key router other found isOther => sameRouters (key, router)
        ((first.mem_entries_iff key router).mpr found) (key, other)
        ((second.mem_entries_iff key other).mpr isOther) rfl⟩,
    fun same => ⟨same.sameKeys,
      fun entry member other isOther sameKey =>
        same.sameRouters entry.1 entry.2 other.2
          ((first.mem_entries_iff entry.1 entry.2).mp member)
          (sameKey ▸ (second.mem_entries_iff other.1 other.2).mp isOther)⟩⟩

/-- Both results are the same error, or values that belong together. -/
def SameResult {ε α : Type} (related : α → α → Prop) :
    Except ε α → Except ε α → Prop
  | .error error, .error other => error = other
  | .ok value, .ok other => related value other
  | _, _ => False

namespace Emulator

/-- The addresses of the interfaces that have the numbered node as their
peer. -/
def Node.addressesTowards (node : Node) (id : Nat) : List String :=
  (node.interfaces.filter fun interface => node.peers.any fun peer =>
    peer.interface == interface.name && peer.node == id).map
      NodeInterface.address

/-- What identifies a node: its number, its model and its name. -/
def Node.identity (node : Node) : Nat × Model × String :=
  (node.id, node.model, node.hostname)

/-- Both topologies have the same nodes, the same hosts with the same addresses
on both sides of their links, and links between the same pairs of nodes. -/
structure Topology.SameShape (first second : Topology) : Prop where
  sameNodes : first.nodes.map Node.identity = second.nodes.map Node.identity
  sameHosts : (first.nodes.filter fun node => node.model = .host) =
    second.nodes.filter fun node => node.model = .host
  sameHostAddresses : ∀ host ∈ first.nodes, host.model = .host →
    first.nodes.map (fun node => node.addressesTowards host.id) =
      second.nodes.map fun node => node.addressesTowards host.id
  sameLinks : (first.links.map fun link => (link.first, link.second)).Perm
    (second.links.map fun link => (link.first, link.second))

end Emulator

/-- In both networks routers and hosts get the same numbers, hosts the same
subnets, and topologies the same shape, however names are shown and whichever
peers are internal. -/
structure Network.SameEmulation (first second : Network) : Prop where
  sameIds : first.assignRouterIds = second.assignRouterIds
  sameHosts : ∀ next, first.assignHosts next = second.assignHosts next
  sameTopologies : ∀ naming otherNaming internal otherInternal,
    SameResult Topology.SameShape (first.topology naming internal)
      (second.topology otherNaming otherInternal)

/-- Ascending lists of the same names are equal. -/
theorem eq_of_ascending {first second : List String}
    (firstAscends : first.Pairwise (· < ·))
    (secondAscends : second.Pairwise (· < ·))
    (same : ∀ name, name ∈ first ↔ name ∈ second) : first = second := by
  have permuted : first.Perm second :=
    (List.perm_ext_iff_of_nodup (firstAscends.imp String.ne_of_lt)
      (secondAscends.imp String.ne_of_lt)).mpr same
  refine permuted.eq_of_pairwise ?_ firstAscends secondAscends
  intro one other _ _ before after
  exact absurd (String.lt_trans before after) (String.lt_irrefl one)

namespace Router.SameSessions

variable {first second : Router}

theorem symm (same : first.SameSessions second) :
    second.SameSessions first where
  sameOthers := same.sameOthers.symm
  sameEnds ends := (same.sameEnds ends).symm

theorem networks_eq (same : first.SameSessions second) :
    first.networks = second.networks := by
  have sameNetworks := congrArg Router.networks same.sameOthers
  exact sameNetworks

theorem id_eq (same : first.SameSessions second) : first.id = second.id := by
  have sameId := congrArg Router.id same.sameOthers
  exact sameId

/-- Every session of one router is one of the other up to its filters. -/
theorem exists_session (same : first.SameSessions second) {session : Session}
    (listed : session ∈ first.sessions) :
    ∃ other ∈ second.sessions, other.ends = session.ends :=
  List.mem_map.mp
    ((same.sameEnds session.ends).mp (List.mem_map_of_mem listed))

end Router.SameSessions

/-- Sessions with the same ends have the same far end. -/
theorem Session.otherEnd_eq_of_ends {first second : Session}
    (same : first.ends = second.ends) (key : String) :
    first.otherEnd key = second.otherEnd key := by
  simp only [Session.ends, Prod.mk.injEq] at same
  obtain ⟨_, samePeerAddress, sameLocalAddress⟩ := same
  rw [Session.otherEnd, Session.otherEnd, samePeerAddress, sameLocalAddress]

namespace Network

variable {first second : Network}

namespace SameGraph

theorem symm (same : first.SameGraph second) : second.SameGraph first where
  sameKeys := same.sameKeys.symm
  sameRouters key router other found isOther :=
    (same.sameRouters key other router isOther found).symm

theorem exists_router (same : first.SameGraph second) {key : String}
    {router : Router} (found : first.find? key = some router) :
    ∃ other, second.find? key = some other ∧ router.SameSessions other := by
  have isKey := (first.mem_keys_iff key).mpr ⟨router, found⟩
  rw [same.sameKeys] at isKey
  obtain ⟨other, isOther⟩ := (second.mem_keys_iff key).mp isKey
  exact ⟨other, isOther, same.sameRouters key router other found isOther⟩

theorem length_entries (same : first.SameGraph second) :
    first.entries.length = second.entries.length := by
  rw [← first.length_keys, ← second.length_keys, same.sameKeys]

/-- A view of routers that is blind to the order of their sessions sees no
difference. -/
theorem map_entries (same : first.SameGraph second) {β : Type}
    (view : String → Router → β)
    (blind : ∀ key router other, router.SameSessions other →
      view key router = view key other) :
    first.entries.map (fun entry => view entry.1 entry.2) =
      second.entries.map fun entry => view entry.1 entry.2 := by
  apply List.ext_getElem
  · rw [List.length_map, List.length_map, same.length_entries]
  · intro index inFirst inSecond
    rw [List.length_map] at inFirst inSecond
    have sameKey : first.entries[index].1 = second.entries[index].1 := by
      have keyAt := congrArg (fun keys => keys[index]?) same.sameKeys
      simpa [NameMap.keys, inFirst, inSecond] using keyAt
    have found : first.find? first.entries[index].1 =
        some first.entries[index].2 :=
      (first.mem_entries_iff _ _).mp (List.getElem_mem inFirst)
    have isOther : second.find? first.entries[index].1 =
        some second.entries[index].2 := by
      rw [sameKey]
      exact (second.mem_entries_iff _ _).mp (List.getElem_mem inSecond)
    rw [List.getElem_map, List.getElem_map, ← sameKey]
    exact blind _ _ _ (same.sameRouters _ _ _ found isOther)

private theorem mem_externalEnds (same : first.SameGraph second)
    {name : String} {session : Session}
    (isEnd : (name, session) ∈ first.externalEnds) :
    (name, session) ∈ second.externalEnds := by
  rw [mem_externalEnds_iff] at isEnd ⊢
  obtain ⟨absent, key, router, found, original, listed, rfl, rfl⟩ := isEnd
  obtain ⟨other, isOther, sameSessions⟩ := same.exists_router found
  obtain ⟨twin, isTwin, sameEnds⟩ := sameSessions.exists_session listed
  rw [same.sameKeys] at absent
  exact ⟨absent, key, other, isOther, twin, isTwin, congrArg Prod.fst sameEnds,
    Session.otherEnd_eq_of_ends sameEnds key⟩

theorem mem_externalEnds_iff (same : first.SameGraph second) (name : String)
    (session : Session) :
    (name, session) ∈ first.externalEnds ↔
      (name, session) ∈ second.externalEnds :=
  ⟨same.mem_externalEnds, same.symm.mem_externalEnds⟩

theorem keys_externals (same : first.SameGraph second) :
    first.externals.keys = second.externals.keys := by
  refine eq_of_ascending first.externals.keys_isSorted
    second.externals.keys_isSorted fun name => ?_
  simp only [mem_keys_externals_iff, ← mem_names_externalEnds_iff,
    List.mem_map, Prod.exists, same.mem_externalEnds_iff]

/-- Sessions are told apart by what they say, so only their order may differ. -/
theorem sessionsOf_perm (same : first.SameGraph second) (name : String) :
    (first.sessionsOf name).Perm (second.sessionsOf name) := by
  have distinct (network : Network) : (network.sessionsOf name).Nodup :=
    (eraseDups_firstOccurrences _).nodup
  refine (List.perm_ext_iff_of_nodup (distinct first) (distinct second)).mpr ?_
  intro session
  rw [mem_sessionsOf_iff, mem_sessionsOf_iff, same.mem_externalEnds_iff]

theorem maximalId_eq (same : first.SameGraph second) :
    first.maximalId = second.maximalId := by
  have sameIds := same.map_entries (fun _ router => router.id.toNat)
    fun _ _ _ sameSessions => congrArg UInt32.toNat sameSessions.id_eq
  rw [maximalId, maximalId, NameMap.values, NameMap.values, List.map_map,
    List.map_map]
  exact congrArg (List.foldl max 0) sameIds

end SameGraph

/-- External names with the numbers that are due to them. -/
def externalNumbers (network : Network) : List (String × Nat) :=
  network.externals.keys.zipIdx (network.maximalId + 1)

theorem SameGraph.externalNumbers_eq (same : first.SameGraph second) :
    first.externalNumbers = second.externalNumbers := by
  rw [externalNumbers, externalNumbers, same.keys_externals, same.maximalId_eq]

/-- The router that is added under an external name with its number. -/
def routerFor (network : Network) (external : String × Nat) : Router :=
  externalRouter external.1 (UInt32.ofNat external.2)
    (network.sessionsOf external.1)

theorem entries_externals (network : Network) :
    network.externals.entries =
      network.externals.keys.map fun name =>
        (name, network.sessionsOf name) := by
  rw [NameMap.keys, List.map_map]
  refine (List.map_id _).symm.trans (List.map_congr_left ?_)
  rintro ⟨name, sessions⟩ member
  rw [network.eq_sessionsOf_of_mem_externals member]
  rfl

/-- Synthesis depends on the external names, their numbers and their sessions
alone. -/
theorem externalRouters_eq (network : Network) :
    network.externalRouters =
      match network.externals.keys[UInt32.size - (network.maximalId + 1)]? with
      | some name => .error (.routerIdOverflow name)
      | none => .ok (network.externalNumbers.map network.routerFor) := by
  rw [externalRouters, numberExternals_eq, entries_externals,
    List.getElem?_map]
  cases network.externals.keys[UInt32.size - (network.maximalId + 1)]? with
  | some name => rfl
  | none =>
      simp only [Option.map_none, numbered, externalNumbers, List.zipIdx_map,
        List.map_map]
      rfl

theorem names_externalNumbers (network : Network) :
    (network.externalNumbers.map network.routerFor).map Router.name =
      network.externals.keys := by
  rw [List.map_map, externalNumbers]
  exact List.zipIdx_map_fst _ _

theorem exists_externalNumber (network : Network) {name : String}
    (isExternal : name ∈ network.externals.keys) :
    ∃ external ∈ network.externalNumbers, external.1 = name := by
  rwa [← List.zipIdx_map_fst (network.maximalId + 1) network.externals.keys,
    List.mem_map] at isExternal

theorem find?_addRouters_routerFor (network : Network)
    {external : String × Nat} (member : external ∈ network.externalNumbers) :
    (network.addRouters (network.externalNumbers.map network.routerFor)).find?
      external.1 = some (network.routerFor external) := by
  have distinct : ((network.externalNumbers.map network.routerFor).map
      Router.name).Nodup := by
    rw [names_externalNumbers]
    exact network.externals.keys_nodup
  exact network.find?_addRouters_of_mem distinct (List.mem_map_of_mem member)

/-- Adding the external routers leaves every other router as it is. -/
theorem find?_addRouters_externalNumbers (network : Network) {key : String}
    (isNew : ∀ external ∈ network.externalNumbers, external.1 ≠ key) :
    (network.addRouters (network.externalNumbers.map network.routerFor)).find?
      key = network.find? key := by
  apply network.find?_addRouters_of_not_mem
  rw [List.map_map, List.mem_map]
  rintro ⟨external, member, sameName⟩
  exact isNew external member sameName

namespace SameGraph

/-- Added routers have the same sessions in some order. -/
theorem sameSessions_routerFor (same : first.SameGraph second)
    (external : String × Nat) :
    (first.routerFor external).SameSessions (second.routerFor external) where
  sameOthers := rfl
  sameEnds ends := by
    have permuted := (same.sessionsOf_perm external.1).map Session.ends
    exact permuted.mem_iff

/-- Both networks stay alike when their external routers are added. -/
theorem addRouters (same : first.SameGraph second) :
    (first.addRouters (first.externalNumbers.map first.routerFor)).SameGraph
      (second.addRouters (second.externalNumbers.map second.routerFor)) where
  sameKeys := by
    refine eq_of_ascending (NameMap.keys_isSorted _) (NameMap.keys_isSorted _)
      fun key => ?_
    rw [mem_keys_addRouters, mem_keys_addRouters, names_externalNumbers,
      names_externalNumbers, same.sameKeys, same.keys_externals]
  sameRouters key router other found isOther := by
    by_cases isAdded : ∃ external ∈ first.externalNumbers, external.1 = key
    · obtain ⟨external, member, rfl⟩ := isAdded
      rw [first.find?_addRouters_routerFor member] at found
      rw [same.externalNumbers_eq] at member
      rw [second.find?_addRouters_routerFor member] at isOther
      cases found
      cases isOther
      exact same.sameSessions_routerFor external
    · have isOld : ∀ external ∈ first.externalNumbers, external.1 ≠ key := by
        intro external member sameName
        exact isAdded ⟨external, member, sameName⟩
      rw [first.find?_addRouters_externalNumbers isOld] at found
      rw [same.externalNumbers_eq] at isOld
      rw [second.find?_addRouters_externalNumbers isOld] at isOther
      exact same.sameRouters key router other found isOther

theorem declarations_eq (same : first.SameGraph second) :
    first.declarations = second.declarations := by
  have declared (network : Network) : network.declarations =
      (network.entries.map fun entry =>
        entry.2.networks.head?.map fun network => (entry.1, network)).filterMap
          id := by
    rw [declarations, List.filterMap_map]
    rfl
  rw [declared, declared]
  congr 1
  refine same.map_entries
    (fun key router => router.networks.head?.map fun network => (key, network))
    fun key router other sameSessions => ?_
  rw [sameSessions.networks_eq]

theorem hosts_eq (same : first.SameGraph second) :
    first.hosts first.firstHostId = second.hosts second.firstHostId := by
  rw [Network.hosts, Network.hosts, same.declarations_eq, firstHostId,
    firstHostId, same.length_entries]

theorem number_eq (same : first.SameGraph second) :
    first.number = second.number := by
  funext key
  rw [number, number, same.sameKeys]

private theorem lists (same : first.SameGraph second) {key other : String}
    (isListed : first.Lists key other) : second.Lists key other := by
  obtain ⟨router, found, session, listed, rfl⟩ := isListed
  obtain ⟨twin, isTwin, sameSessions⟩ := same.exists_router found
  obtain ⟨twinSession, twinListed, sameEnds⟩ :=
    sameSessions.exists_session listed
  exact ⟨twin, isTwin, twinSession, twinListed, congrArg Prod.fst sameEnds⟩

theorem lists_iff (same : first.SameGraph second) (key other : String) :
    first.Lists key other ↔ second.Lists key other :=
  ⟨same.lists, same.symm.lists⟩

theorem routerLinks_perm (same : first.SameGraph second) :
    first.meetings.eraseDups.Perm second.meetings.eraseDups := by
  have distinct (network : Network) : network.meetings.eraseDups.Nodup :=
    (eraseDups_firstOccurrences _).nodup
  refine (List.perm_ext_iff_of_nodup (distinct first) (distinct second)).mpr ?_
  intro pair
  simp only [List.mem_eraseDups, mem_meetings_iff, same.sameKeys,
    same.lists_iff, numberPair, same.number_eq]

end SameGraph

namespace HasHosts

variable {network : Network} {hosts : List (String × Host)}
  (hasHosts : network.HasHosts hosts) {naming : Naming}
  {internal : List String}
include hasHosts

theorem map_identity_nodes :
    (network.topologyWith naming internal hosts).nodes.map Node.identity =
      network.keys.map (fun key => (network.number key, Model.router, key)) ++
        hosts.map fun entry =>
          (entry.2.id, Model.host, entry.1 ++ "-host") := by
  rw [hasHosts.nodes_topologyWith, List.map_append, List.map_map, List.map_map,
    NameMap.keys, List.map_map]
  rfl

theorem filter_host_nodes :
    ((network.topologyWith naming internal hosts).nodes.filter
        fun node => node.model = .host) =
      hosts.map fun entry =>
        hostNode entry.1 (network.number entry.1) entry.2 := by
  rw [hasHosts.nodes_topologyWith, List.filter_append,
    List.filter_eq_nil_iff.mpr, List.filter_eq_self.mpr, List.nil_append]
  · intro node member
    obtain ⟨entry, _, rfl⟩ := List.mem_map.mp member
    exact decide_eq_true rfl
  · intro node member
    obtain ⟨entry, _, rfl⟩ := List.mem_map.mp member
    exact of_decide_eq_false rfl

end HasHosts

/-- The interface towards the host comes after those of the sessions. -/
private theorem routerInterfaces_eq (naming : Naming) (router : Router)
    (host? : Option Host) :
    routerInterfaces naming router host? =
      routerInterfaces naming router none ++ host?.toList.map fun host =>
        { name := interfaceName router.sessions.length
          address := host.routerSubnet.text } := by
  simp [routerInterfaces]

private theorem filter_sessionInterfaces (naming : Naming) (router : Router) :
    (routerInterfaces naming router none).filter (fun interface =>
      interfaceName router.sessions.length == interface.name) = [] := by
  rw [List.filter_eq_nil_iff]
  intro interface member
  rw [routerInterfaces, Option.toList_none, List.map_nil,
    List.append_nil] at member
  obtain ⟨⟨session, index⟩, isAt, rfl⟩ := List.mem_map.mp member
  have inside := (List.mem_zipIdx' isAt).1
  rw [beq_iff_eq, interfaceName_inj]
  omega

/-- A router has an interface towards its own host and towards no other. -/
theorem addressesTowards_routerNode (network : Network) (naming : Naming)
    (internal : List String) (hosts : List (String × Host)) (key : String)
    (router : Router) {id : Nat} (above : network.entries.length < id) :
    (routerNode naming internal network.nodeIds hosts (network.number key) key
      router).addressesTowards id =
      ((hosts.lookup key).toList.filter fun host => host.id == id).map
        fun host => host.routerSubnet.text := by
  have noSessionPeer (name : String) :
      (network.sessionPeers router).any (fun peer =>
        peer.interface == name && peer.node == id) = false := by
    rw [List.any_eq_false]
    intro peer member
    obtain ⟨⟨session, index⟩, isKept, rfl⟩ := List.mem_map.mp member
    have isKey := List.contains_iff_mem.mp (List.mem_filter.mp isKept).2
    have below := network.number_le isKey
    have notHost : network.number session.peer ≠ id := by omega
    simp [notHost]
  simp only [Node.addressesTowards, routerNode, routerPeers_eq,
    List.any_append, noSessionPeer, Bool.false_or,
    routerInterfaces_eq naming router (hosts.lookup key)]
  cases hosts.lookup key with
  | none => simp
  | some host =>
      by_cases isId : host.id = id
      · simp only [Option.toList_some, List.map_cons, List.map_nil,
          List.any_cons, List.any_nil, Bool.or_false, isId, beq_self_eq_true,
          Bool.and_true, List.filter_append, filter_sessionInterfaces,
          List.nil_append, List.filter_cons, List.filter_nil, ite_true]
      · simp [isId]

/-- Which addresses lead to a host is settled by the keys and the hosts. -/
theorem HasHosts.map_addressesTowards {network : Network}
    {hosts : List (String × Host)} (hasHosts : network.HasHosts hosts)
    (naming : Naming) (internal : List String) {id : Nat}
    (above : network.entries.length < id) :
    (network.topologyWith naming internal hosts).nodes.map
        (fun node => node.addressesTowards id) =
      network.keys.map (fun key =>
        ((hosts.lookup key).toList.filter fun host => host.id == id).map
          fun host => host.routerSubnet.text) ++
      hosts.map fun entry =>
        (hostNode entry.1 (network.number entry.1) entry.2).addressesTowards
          id := by
  rw [hasHosts.nodes_topologyWith, List.map_append, List.map_map, List.map_map,
    NameMap.keys, List.map_map]
  congr 1
  refine List.map_congr_left fun entry _ => ?_
  exact network.addressesTowards_routerNode naming internal hosts entry.1
    entry.2 above

namespace SameGraph

theorem sameShape (same : first.SameGraph second)
    {hosts : List (String × Host)} (hasHosts : first.HasHosts hosts)
    (otherHasHosts : second.HasHosts hosts) (naming otherNaming : Naming)
    (internal otherInternal : List String) :
    Topology.SameShape (first.topologyWith naming internal hosts)
      (second.topologyWith otherNaming otherInternal hosts) where
  sameNodes := by
    rw [hasHosts.map_identity_nodes, otherHasHosts.map_identity_nodes,
      same.sameKeys, same.number_eq]
  sameHosts := by
    rw [hasHosts.filter_host_nodes, otherHasHosts.filter_host_nodes,
      same.number_eq]
  sameHostAddresses := by
    intro host member isHost
    have inHosts : host ∈
        (first.topologyWith naming internal hosts).nodes.filter
          fun node => node.model = .host :=
      List.mem_filter.mpr ⟨member, decide_eq_true isHost⟩
    rw [hasHosts.filter_host_nodes] at inHosts
    obtain ⟨⟨key, held⟩, isHeld, rfl⟩ := List.mem_map.mp inHosts
    have above : first.entries.length < held.id := hasHosts.lt_id isHeld
    have otherAbove : second.entries.length < held.id :=
      otherHasHosts.lt_id isHeld
    rw [hostNode, hasHosts.map_addressesTowards naming internal above,
      otherHasHosts.map_addressesTowards otherNaming otherInternal otherAbove,
      same.sameKeys, same.number_eq]
  sameLinks := by
    have sameHostLinks : first.hostLinks first.declaringKeys =
        second.hostLinks second.declaringKeys := by
      rw [← hasHosts.map_fst, ← otherHasHosts.map_fst, hostLinks, hostLinks,
        same.number_eq, same.length_entries]
    rw [hasHosts.links_topologyWith, otherHasHosts.links_topologyWith,
      map_ends_numberedLinks, map_ends_numberedLinks, sameHostLinks]
    exact same.routerLinks_perm.append_left _

theorem sameEmulation (same : first.SameGraph second) :
    first.SameEmulation second where
  sameIds := by
    rw [assignRouterIds, assignRouterIds, same.sameKeys]
  sameHosts next := by
    rw [assignHosts, assignHosts, same.declarations_eq]
  sameTopologies naming otherNaming internal otherInternal := by
    have sameHosts := same.hosts_eq
    rw [Network.topology, Network.topology]
    cases succeeds : first.hosts first.firstHostId with
    | error error =>
        rw [← sameHosts, succeeds]
        exact rfl
    | ok hosts =>
        have otherSucceeds := sameHosts.symm.trans succeeds
        rw [otherSucceeds]
        exact same.sameShape (hasHosts_of_hosts succeeds)
          (hasHosts_of_hosts otherSucceeds) naming otherNaming internal
          otherInternal

end SameGraph

/-- A call adds all external routers or reports the first name that is left
without an ID. -/
theorem synthesisCall_eq (network : Network) :
    network.synthesisCall =
      match network.externals.keys[UInt32.size - (network.maximalId + 1)]? with
      | some name => (.error (.routerIdOverflow name), network)
      | none => (.ok network.externals.keys, network.addRouters
          (network.externalNumbers.map network.routerFor)) := by
  rw [synthesisCall, externalRouters_eq]
  cases network.externals.keys[UInt32.size - (network.maximalId + 1)]? with
  | some name => rfl
  | none => simp only [names_externalNumbers]

/-- Synthesis does not notice in which order and how often sessions are listed:
it adds the same routers, whose sessions are the same up to their order, or
fails alike, and what it leaves behind is emulated alike. -/
theorem synthesisCall_sameGraph (first second : Network)
    (same : first.SameGraph second) :
    first.synthesisCall.1 = second.synthesisCall.1 ∧
    first.synthesisCall.2.SameGraph second.synthesisCall.2 ∧
    (∀ names, first.synthesisCall.1 = .ok names → ∀ name ∈ names,
      ∃ router other, first.synthesisCall.2.find? name = some router ∧
        second.synthesisCall.2.find? name = some other ∧
        router.id = other.id ∧ router.sessions.Perm other.sessions) ∧
    first.synthesisCall.2.SameEmulation second.synthesisCall.2 := by
  have firstCall := first.synthesisCall_eq
  have secondCall := second.synthesisCall_eq
  rw [← same.keys_externals, ← same.maximalId_eq] at secondCall
  cases overflow :
      first.externals.keys[UInt32.size - (first.maximalId + 1)]? with
  | some name =>
      rw [overflow] at firstCall secondCall
      rw [firstCall, secondCall]
      exact ⟨rfl, same, nofun, same.sameEmulation⟩
  | none =>
      rw [overflow] at firstCall secondCall
      rw [firstCall, secondCall]
      refine ⟨rfl, same.addRouters, ?_, same.addRouters.sameEmulation⟩
      intro names areNames name isName
      cases areNames
      obtain ⟨external, member, rfl⟩ := first.exists_externalNumber isName
      have found := first.find?_addRouters_routerFor member
      rw [same.externalNumbers_eq] at member
      exact ⟨_, _, found, second.find?_addRouters_routerFor member, rfl,
        same.sessionsOf_perm external.1⟩

/-- The first router lists `X` twice and the second router once. -/
def orderlySessions : Network :=
  .ofList [
    ("A", { Router.fresh "A" 1 with
      networks := [.concrete ⟨⟨10, 1, 0, 0⟩, 22, by decide⟩]
      sessions := [.unfiltered "X" ⟨10, 0, 0, 2⟩ ⟨10, 0, 0, 1⟩,
        .unfiltered "X" ⟨10, 0, 1, 2⟩ ⟨10, 0, 1, 1⟩,
        .unfiltered "B" ⟨10, 0, 2, 2⟩ ⟨10, 0, 2, 1⟩] }),
    ("B", { Router.fresh "B" 7 with
      sessions := [.unfiltered "C" ⟨10, 0, 3, 2⟩ ⟨10, 0, 3, 1⟩] })]

/-- The same sessions in another order, two of them repeated with other
filters. -/
def shuffledSessions : Network :=
  .ofList [
    ("A", { Router.fresh "A" 1 with
      networks := [.concrete ⟨⟨10, 1, 0, 0⟩, 22, by decide⟩]
      sessions := [.unfiltered "B" ⟨10, 0, 2, 2⟩ ⟨10, 0, 2, 1⟩,
        .unfiltered "X" ⟨10, 0, 1, 2⟩ ⟨10, 0, 1, 1⟩,
        { Session.unfiltered "B" ⟨10, 0, 2, 2⟩ ⟨10, 0, 2, 1⟩ with
          outFilter := some "out" },
        .unfiltered "X" ⟨10, 0, 0, 2⟩ ⟨10, 0, 0, 1⟩] }),
    ("B", { Router.fresh "B" 7 with
      sessions := [.unfiltered "C" ⟨10, 0, 3, 2⟩ ⟨10, 0, 3, 1⟩,
        { Session.unfiltered "C" ⟨10, 0, 3, 2⟩ ⟨10, 0, 3, 1⟩ with
          inFilter := some "in" }] })]

theorem synthesisCall_sameGraph_shuffledSessions :
    orderlySessions.SameGraph shuffledSessions ∧
      orderlySessions.synthesisCall.1 = .ok ["C", "X"] ∧
      shuffledSessions.synthesisCall.1 = .ok ["C", "X"] ∧
      orderlySessions.synthesisCall.2.SameEmulation
        shuffledSessions.synthesisCall.2 := by
  have sameGraph : orderlySessions.SameGraph shuffledSessions := by
    decide +kernel
  have names : orderlySessions.synthesisCall.1 = .ok ["C", "X"] := by
    decide +kernel
  obtain ⟨sameNames, _, _, sameEmulation⟩ :=
    synthesisCall_sameGraph _ _ sameGraph
  exact ⟨sameGraph, names, sameNames.symm.trans names, sameEmulation⟩

end Network

end BgpTestbed
