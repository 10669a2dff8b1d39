import BgpTestbed.Proofs.Digits
import BgpTestbed.Proofs.Links
import BgpTestbed.Proofs.SessionEnds

/-!
# Peers of interfaces

An interface of a node has a peer if its session is with a router of the
network, and links and peers tell the same about which nodes are connected.
After synthesis every interface has a peer.
-/

namespace BgpTestbed

open Emulator

/-- An interface of the node has the other node as its peer. -/
def Emulator.Node.HasPeer (node other : Node) : Prop :=
  ∃ peer ∈ node.peers, peer.node = other.id

/-- A node is the host of the router under a key. -/
structure IsHostOf (key : String) (host : Node) : Prop where
  isHost : host.model = .host
  hasName : host.hostname = key ++ "-host"

/-- The peer behind those of the sessions: the host of a router, if the router
declares a network. -/
inductive HostPeers (topology : Topology) (key : String) (router : Router) :
    List InterfacePeer → Prop where
  | none (declaresNothing : router.networks = []) :
      HostPeers topology key router []
  | some {host : Node} (declares : router.networks ≠ [])
      (isNode : host ∈ topology.nodes) (isHost : IsHostOf key host) :
      HostPeers topology key router
        [{ interface := "eth" ++ toString router.sessions.length
           node := host.id }]

namespace Network

/-- Interfaces have the positions of their sessions, and those of sessions with
external peers have no peer. -/
def sessionPeers (network : Network) (router : Router) : List InterfacePeer :=
  (router.sessions.zipIdx.filter fun (session, _) =>
    network.keys.contains session.peer).map fun (session, index) =>
      { interface := "eth" ++ toString index
        node := network.number session.peer }

/-- The node of a router, with the peers of its interfaces. -/
structure IsNodeOf (network : Network) (topology : Topology) (key : String)
    (router : Router) (node : Node) : Prop where
  isNode : node ∈ topology.nodes
  hasId : node.id = network.number key
  isRouter : node.model = .router
  hasName : node.hostname = key
  hasPeers : ∃ hostPeers, HostPeers topology key router hostPeers ∧
    node.peers = network.sessionPeers router ++ hostPeers

end Network

/-- Peers of interfaces and links belong together.  A link joins a router to
its host, which are peers of each other, or to a different router, and then at
least one of them is a peer of the other. -/
structure PeersHaveLinks (topology : Topology) : Prop where
  covered : ∀ near ∈ topology.nodes, ∀ far ∈ topology.nodes,
    near.model = .router → far.model = .router → near ≠ far →
      near.HasPeer far → linkCount topology.links near.id far.id = 1
  ends : ∀ link ∈ topology.links, ∃ near ∈ topology.nodes,
    ∃ far ∈ topology.nodes, near ≠ far ∧ near.model = .router ∧
      link.Joins near.id far.id
  routers : ∀ link ∈ topology.links, ∀ near ∈ topology.nodes,
    ∀ far ∈ topology.nodes, near.model = .router → far.model = .router →
      link.Joins near.id far.id → near.HasPeer far ∨ far.HasPeer near
  hosts : ∀ link ∈ topology.links, ∀ near ∈ topology.nodes,
    ∀ far ∈ topology.nodes, far.model = .host →
      link.Joins near.id far.id → near.HasPeer far ∧ far.HasPeer near

/-- Every interface has one peer, which is a node. -/
structure InterfacesHavePeers (topology : Topology) : Prop where
  noneSkipped : ∀ node ∈ topology.nodes,
    node.peers.map InterfacePeer.interface =
      node.interfaces.map NodeInterface.name
  onePeer : ∀ node ∈ topology.nodes, ∀ interface ∈ node.interfaces,
    node.peers.countP (fun peer => peer.interface = interface.name) = 1
  areNodes : ∀ node ∈ topology.nodes, ∀ peer ∈ node.peers,
    ∃ other ∈ topology.nodes, other.id = peer.node

namespace Network

/-- A topology of a network: its text is made of its nodes and links, its router
nodes are those of the routers of the network, and their peers belong together
with the links. -/
structure HasPeers (network : Network) (topology : Topology) : Prop where
  isText : topology.text = Text.ofLines
    (topology.nodes.flatMap Node.lines ++ topology.links.flatMap Link.lines ++
      closingLines)
  idsDiffer : (topology.nodes.map Node.id).Nodup
  hasNodes : ∀ key router, network.find? key = some router →
    ∃ node, network.IsNodeOf topology key router node
  onlyRouters : ∀ node ∈ topology.nodes, node.model = .router →
    ∃ router, network.find? node.hostname = some router ∧
      network.IsNodeOf topology node.hostname router node
  peersHaveLinks : PeersHaveLinks topology

/-- A topology with the routers that synthesis adds to a network: no interface
is left without a peer, and at a link of an added router each end is a peer of
the other. -/
structure HasAllPeers (network : Network) (topology : Topology) : Prop where
  interfacesHavePeers : InterfacesHavePeers topology
  synthesized : ∀ link ∈ topology.links, ∀ near ∈ topology.nodes,
    ∀ far ∈ topology.nodes, near.model = .router → far.model = .router →
      link.Joins near.id far.id →
      near.hostname ∉ network.keys ∨ far.hostname ∉ network.keys →
        near.HasPeer far ∧ far.HasPeer near

end Network

theorem interfaceName_inj {first second : Nat} :
    interfaceName first = interfaceName second ↔ first = second := by
  rw [interfaceName, interfaceName, String.append_right_inj,
    toString_number_inj]

/-- The names of the first interfaces of a node. -/
def interfaceNames (count : Nat) : List String :=
  (List.range count).map interfaceName

theorem interfaceNames_nodup (count : Nat) : (interfaceNames count).Nodup :=
  List.nodup_range.map fun _ _ => interfaceName_inj.mp

theorem map_interfaceName_zipIdx {α : Type} (items : List α) :
    items.zipIdx.map (fun item => interfaceName item.2) =
      interfaceNames items.length := by
  rw [interfaceNames, List.range_eq_range', ← List.zipIdx_map_snd 0 items,
    List.map_map]
  rfl

/-- The interface towards a host stands behind the others. -/
theorem interfaceNames_append (count : Nat) (host? : Option Host) :
    interfaceNames count ++ host?.toList.map (fun _ => interfaceName count) =
      interfaceNames (count + host?.toList.length) := by
  cases host? with
  | none => simp
  | some host => simp [interfaceNames, List.range_succ]

theorem map_name_routerInterfaces (naming : Naming) (router : Router)
    (host? : Option Host) :
    (routerInterfaces naming router host?).map NodeInterface.name =
      interfaceNames (router.sessions.length + host?.toList.length) := by
  rw [← interfaceNames_append, ← map_interfaceName_zipIdx, routerInterfaces,
    List.map_append, List.map_map, List.map_map]
  rfl

namespace Network

variable {network : Network}

theorem routerPeers_eq (router : Router) (host? : Option Host) :
    routerPeers network.nodeIds router host? =
      network.sessionPeers router ++ host?.toList.map fun host =>
        { interface := interfaceName router.sessions.length
          node := host.id } := by
  have ofSession (session : Session) (index : Nat) :
      ((network.nodeIds.lookup session.peer).map fun node =>
        InterfacePeer.mk (interfaceName index) node) =
      if network.keys.contains session.peer then
        some ⟨interfaceName index, network.number session.peer⟩
      else none := by
    rw [network.lookup_nodeIds]
    split <;> rfl
  simp only [routerPeers, ofSession]
  rw [sessionPeers, ← filterMap_ite]
  rfl

theorem exists_sessionPeer_iff (router : Router) {key : String}
    (isKey : key ∈ network.keys) :
    (∃ peer ∈ network.sessionPeers router,
      peer.node = network.number key) ↔
        ∃ session ∈ router.sessions, session.peer = key := by
  simp only [sessionPeers, List.mem_map, List.mem_filter, Prod.exists]
  constructor
  · rintro ⟨_, ⟨session, index, ⟨isAt, isPeerKey⟩, rfl⟩, sameNumber⟩
    rw [List.contains_iff_mem] at isPeerKey
    exact ⟨session, List.fst_mem_of_mem_zipIdx isAt,
      (network.number_inj isPeerKey).mp sameNumber⟩
  · rintro ⟨session, listed, rfl⟩
    obtain ⟨index, isAt⟩ := List.mem_iff_getElem?.mp listed
    exact ⟨_, ⟨session, index, ⟨List.mem_zipIdx_iff_getElem?.mpr isAt,
      List.contains_iff_mem.mpr isKey⟩, rfl⟩, rfl⟩

namespace HasHosts

variable {hosts : List (String × Host)} (hasHosts : network.HasHosts hosts)
  {naming : Naming} {internal : List String}
include hasHosts

/-- The numbers of hosts are no numbers of routers. -/
theorem id_ne_number {hostKey key : String} {host : Host}
    (isHost : (hostKey, host) ∈ hosts) (isKey : key ∈ network.keys) :
    host.id ≠ network.number key := by
  have above := hasHosts.lt_id isHost
  have below := network.number_le isKey
  omega

/-- Among the routers those that a router lists are its peers. -/
theorem hasPeer_router_iff {key other : String} {router far : Router}
    (found : network.find? key = some router)
    (isFar : network.find? other = some far) :
    (routerNode naming internal network.nodeIds hosts (network.number key)
      key router).HasPeer
        (routerNode naming internal network.nodeIds hosts
          (network.number other) other far) ↔ network.Lists key other := by
  have isKey := (network.mem_keys_iff other).mpr ⟨far, isFar⟩
  have lists_iff : network.Lists key other ↔
      ∃ session ∈ router.sessions, session.peer = other := by
    simp [Lists, found]
  rw [lists_iff, ← exists_sessionPeer_iff router isKey]
  simp only [Node.HasPeer, routerNode, routerPeers_eq, List.mem_append,
    List.mem_map, Option.mem_toList]
  constructor
  · rintro ⟨peer, isSessionPeer | ⟨host, isHost, rfl⟩, hasNumber⟩
    · exact ⟨peer, isSessionPeer, hasNumber⟩
    · have member := (hasHosts.lookup_eq_some_iff key host).mp isHost
      exact absurd hasNumber (hasHosts.id_ne_number member isKey)
  · rintro ⟨peer, isSessionPeer, hasNumber⟩
    exact ⟨peer, .inl isSessionPeer, hasNumber⟩

theorem hasPeer_host {key : String} {host : Host}
    (member : (key, host) ∈ hosts) (router : Router) :
    (routerNode naming internal network.nodeIds hosts (network.number key)
      key router).HasPeer (hostNode key (network.number key) host) := by
  have isHost := (hasHosts.lookup_eq_some_iff key host).mpr member
  refine ⟨⟨interfaceName router.sessions.length, host.id⟩, ?_, rfl⟩
  simp [routerNode, routerPeers_eq, isHost]

/-- The last peer of a router is its host. -/
theorem hostPeers {key : String} {router : Router}
    (found : network.find? key = some router) :
    HostPeers (network.topologyWith naming internal hosts) key router
      ((hosts.lookup key).toList.map fun host =>
        { interface := interfaceName router.sessions.length
          node := host.id }) := by
  have hostFor := hasHosts.hostFor found
  cases isHost : hosts.lookup key with
  | none =>
      rw [isHost] at hostFor
      cases hostFor with
      | none declaresNothing => exact .none declaresNothing
  | some host =>
      have member := (hasHosts.lookup_eq_some_iff key host).mp isHost
      rw [isHost] at hostFor
      cases hostFor with
      | some declares derives =>
          have isNode := hasHosts.mem_nodes_of_host naming internal member
          refine .some ?_ isNode ⟨rfl, rfl⟩
          rw [declares]
          exact List.cons_ne_nil _ _

theorem isNodeOf {key : String} {router : Router}
    (found : network.find? key = some router) :
    network.IsNodeOf (network.topologyWith naming internal hosts) key router
      (routerNode naming internal network.nodeIds hosts (network.number key)
        key router) where
  isNode := hasHosts.mem_nodes_of_find? naming internal found
  hasId := rfl
  isRouter := rfl
  hasName := rfl
  hasPeers := ⟨_, hasHosts.hostPeers found, routerPeers_eq router _⟩

/-- A link stands between a router and its host or between two routers that
meet. -/
theorem link_cases {link : Link}
    (member : link ∈ (network.topologyWith naming internal hosts).links) :
    (∃ key host, (key, host) ∈ hosts ∧
      link.Joins (network.number key) host.id) ∨
    ∃ first ∈ network.keys, ∃ second ∈ network.keys,
      first ≠ second ∧ network.Lists first second ∧
        link.Joins (network.number first) (network.number second) := by
  have isPair : (link.first, link.second) ∈
      network.hostLinks network.declaringKeys ++
        network.meetings.eraseDups := by
    rw [← map_ends_numberedLinks (_ ++ _),
      ← hasHosts.links_topologyWith naming internal]
    exact List.mem_map.mpr ⟨link, member, rfl⟩
  rcases List.mem_append.mp isPair with isHostLink | isMeeting
  · obtain ⟨key, host, isHost, same⟩ :=
      (hasHosts.mem_hostLinks_iff _).mp isHostLink
    exact .inl ⟨key, host, isHost, .inl (Prod.mk.inj same)⟩
  · rw [List.mem_eraseDups, mem_meetings_iff] at isMeeting
    obtain ⟨first, isFirst, second, isSecond, different, lists, same⟩ :=
      isMeeting
    obtain ⟨sameFirst, sameSecond⟩ := Prod.mk.inj same
    refine .inr ⟨first, isFirst, second, isSecond, different, lists, ?_⟩
    rw [Link.Joins]
    omega

/-- Only routers that meet are joined. -/
theorem lists_of_joins {link : Link}
    (member : link ∈ (network.topologyWith naming internal hosts).links)
    {key other : String} (isKey : key ∈ network.keys)
    (isOther : other ∈ network.keys)
    (joins : link.Joins (network.number key) (network.number other)) :
    network.Lists key other ∨ network.Lists other key := by
  rcases hasHosts.link_cases member with
    ⟨hostKey, host, isHost, joinsHost⟩ |
      ⟨first, isFirst, second, isSecond, _, lists, joinsMeeting⟩
  · have notKey := hasHosts.id_ne_number isHost isKey
    have notOther := hasHosts.id_ne_number isHost isOther
    rw [Link.Joins] at joins joinsHost
    omega
  · have sameEnds : (network.number first = network.number key ∧
          network.number second = network.number other) ∨
        (network.number first = network.number other ∧
          network.number second = network.number key) := by
      rw [Link.Joins] at joins joinsMeeting
      omega
    rw [network.number_inj isFirst, network.number_inj isFirst,
      network.number_inj isSecond, network.number_inj isSecond] at sameEnds
    rcases sameEnds with ⟨rfl, rfl⟩ | ⟨rfl, rfl⟩
    · exact .inl lists
    · exact .inr lists

/-- A host is joined to its router alone. -/
theorem eq_number_of_joins {link : Link}
    (member : link ∈ (network.topologyWith naming internal hosts).links)
    {key : String} {host : Host} {id : Nat} (isHost : (key, host) ∈ hosts)
    (joins : link.Joins id host.id) : id = network.number key := by
  rcases hasHosts.link_cases member with
    ⟨otherKey, other, isOther, joinsOther⟩ |
      ⟨first, isFirst, second, isSecond, _, _, joinsMeeting⟩
  · have notRouter :=
      hasHosts.id_ne_number isHost (hasHosts.isKey isOther)
    have sameEnds : id = network.number otherKey ∧ host.id = other.id := by
      rw [Link.Joins] at joins joinsOther
      omega
    cases hasHosts.entry_eq_of_id isHost isOther sameEnds.2
    exact sameEnds.1
  · have notFirst := hasHosts.id_ne_number isHost isFirst
    have notSecond := hasHosts.id_ne_number isHost isSecond
    rw [Link.Joins] at joins joinsMeeting
    omega

private theorem router_of_node {node : Node}
    (member : node ∈ (network.topologyWith naming internal hosts).nodes)
    (isRouter : node.model = .router) :
    ∃ key router, network.find? key = some router ∧
      node = routerNode naming internal network.nodeIds hosts
        (network.number key) key router := by
  rcases hasHosts.mem_nodes_iff.mp member with isNode | ⟨_, _, _, rfl⟩
  · exact isNode
  · cases isRouter

private theorem host_of_node {node : Node}
    (member : node ∈ (network.topologyWith naming internal hosts).nodes)
    (isHost : node.model = .host) :
    ∃ key host, (key, host) ∈ hosts ∧
      node = hostNode key (network.number key) host := by
  rcases hasHosts.mem_nodes_iff.mp member with ⟨_, _, _, rfl⟩ | isNode
  · cases isHost
  · exact isNode

theorem peersHaveLinks :
    PeersHaveLinks (network.topologyWith naming internal hosts) where
  covered := by
    intro near isNear far isFar nearIsRouter farIsRouter different hasPeer
    obtain ⟨key, router, found, rfl⟩ :=
      hasHosts.router_of_node isNear nearIsRouter
    obtain ⟨other, farRouter, foundFar, rfl⟩ :=
      hasHosts.router_of_node isFar farIsRouter
    have keysDiffer : key ≠ other := by
      rintro rfl
      rw [found] at foundFar
      cases foundFar
      exact different rfl
    exact hasHosts.linkCount_of_lists
      ((network.mem_keys_iff key).mpr ⟨router, found⟩)
      ((network.mem_keys_iff other).mpr ⟨farRouter, foundFar⟩) keysDiffer
      (.inl ((hasHosts.hasPeer_router_iff found foundFar).mp hasPeer))
  ends := by
    intro link member
    rcases hasHosts.link_cases member with
      ⟨key, host, isHost, joins⟩ |
        ⟨first, isFirst, second, isSecond, different, _, joins⟩
    · obtain ⟨router, found⟩ :=
        (network.mem_keys_iff key).mp (hasHosts.isKey isHost)
      have isNear := hasHosts.mem_nodes_of_find? naming internal found
      have isFar := hasHosts.mem_nodes_of_host naming internal isHost
      refine ⟨_, isNear, _, isFar, fun same => ?_, rfl, joins⟩
      cases congrArg Node.model same
    · obtain ⟨near, foundNear⟩ := (network.mem_keys_iff first).mp isFirst
      obtain ⟨far, foundFar⟩ := (network.mem_keys_iff second).mp isSecond
      have isNear := hasHosts.mem_nodes_of_find? naming internal foundNear
      have isFar := hasHosts.mem_nodes_of_find? naming internal foundFar
      exact ⟨_, isNear, _, isFar,
        fun same => different (congrArg Node.hostname same), rfl, joins⟩
  routers := by
    intro link member near isNear far isFar nearIsRouter farIsRouter joins
    obtain ⟨key, router, found, rfl⟩ :=
      hasHosts.router_of_node isNear nearIsRouter
    obtain ⟨other, farRouter, foundFar, rfl⟩ :=
      hasHosts.router_of_node isFar farIsRouter
    rw [hasHosts.hasPeer_router_iff found foundFar,
      hasHosts.hasPeer_router_iff foundFar found]
    exact hasHosts.lists_of_joins member
      ((network.mem_keys_iff key).mpr ⟨router, found⟩)
      ((network.mem_keys_iff other).mpr ⟨farRouter, foundFar⟩) joins
  hosts := by
    intro link member near isNear far isFar farIsHost joins
    obtain ⟨key, host, isHost, rfl⟩ := hasHosts.host_of_node isFar farIsHost
    obtain ⟨router, found⟩ :=
      (network.mem_keys_iff key).mp (hasHosts.isKey isHost)
    have hasNumber := hasHosts.eq_number_of_joins member isHost joins
    have isRouterNode := hasHosts.mem_nodes_of_find? naming internal found
    cases hasHosts.node_eq_of_id isNear isRouterNode hasNumber
    exact ⟨hasHosts.hasPeer_host isHost router, _, List.mem_cons_self, rfl⟩

end HasHosts

/-- Every session is with a router of the network. -/
def Closed (network : Network) : Prop :=
  ∀ key router, network.find? key = some router →
    ∀ session ∈ router.sessions, session.peer ∈ network.keys

section Synthesized

variable {complete : Network} (succeeds : network.synthesize = .ok complete)
include succeeds

theorem find?_of_key {key : String} (isKey : key ∈ network.keys) :
    complete.find? key = network.find? key := by
  obtain ⟨router, found⟩ := (network.mem_keys_iff key).mp isKey
  rw [find?_of_synthesize succeeds found, found]

/-- The router of an external peer answers the sessions with it. -/
private theorem exists_answer {key : String} {near : Router}
    {session : Session} (found : network.find? key = some near)
    (listed : session ∈ near.sessions)
    (absent : session.peer ∉ network.keys) :
    ∃ far, complete.find? session.peer = some far ∧
      session.otherEnd key ∈ far.sessions := by
  obtain ⟨routers, isAdded, rfl⟩ := synthesize_eq_ok succeeds
  have inNetwork := (network.mem_values_iff near).mpr ⟨key, found⟩
  obtain ⟨id, isFar⟩ := find?_addRouters_of_isExternal isAdded
    ⟨⟨near, inNetwork, session, listed, rfl⟩, absent⟩
  have back : session.otherEnd key ∈ network.sessionsOf session.peer := by
    rw [mem_sessionsOf_iff, mem_externalEnds_iff]
    exact ⟨absent, key, near, found, session, listed, rfl, rfl⟩
  exact ⟨_, isFar, back⟩

/-- The router of an external peer has sessions only with routers that list
it. -/
private theorem exists_original {name : String} {far : Router}
    {session : Session} (absent : name ∉ network.keys)
    (found : complete.find? name = some far)
    (listed : session ∈ far.sessions) :
    ∃ near, network.find? session.peer = some near ∧
      ∃ original ∈ near.sessions, original.peer = name := by
  obtain ⟨routers, isAdded, rfl⟩ := synthesize_eq_ok succeeds
  obtain ⟨_, _, isSessions⟩ :=
    isExternal_of_find?_addRouters isAdded absent found
  rw [isSessions, mem_sessionsOf_iff, mem_externalEnds_iff] at listed
  obtain ⟨_, key, near, isNear, original, isListed, isPeer, rfl⟩ := listed
  exact ⟨near, isNear, original, isListed, isPeer⟩

theorem closed_of_synthesize : complete.Closed := by
  intro key router found session listed
  rw [NameMap.mem_keys_iff]
  by_cases isKey : key ∈ network.keys
  · rw [find?_of_key succeeds isKey] at found
    by_cases isPeerKey : session.peer ∈ network.keys
    · obtain ⟨far, foundFar⟩ := (network.mem_keys_iff _).mp isPeerKey
      exact ⟨far, find?_of_synthesize succeeds foundFar⟩
    · obtain ⟨far, foundFar, _⟩ := exists_answer succeeds found listed isPeerKey
      exact ⟨far, foundFar⟩
  · obtain ⟨near, isNear, _⟩ := exists_original succeeds isKey found listed
    exact ⟨near, find?_of_synthesize succeeds isNear⟩

/-- A synthesized router lists the routers that list it. -/
theorem lists_comm_of_synthesize {key other : String}
    (absent : key ∉ network.keys) :
    complete.Lists key other ↔ complete.Lists other key := by
  constructor
  · rintro ⟨far, found, session, listed, rfl⟩
    obtain ⟨near, isNear, original⟩ :=
      exists_original succeeds absent found listed
    exact ⟨near, find?_of_synthesize succeeds isNear, original⟩
  · rintro ⟨near, found, session, listed, rfl⟩
    have isKey : other ∈ network.keys := by
      by_contra notKey
      obtain ⟨old, isOld, _⟩ := exists_original succeeds notKey found listed
      exact absent ((network.mem_keys_iff _).mpr ⟨old, isOld⟩)
    rw [find?_of_key succeeds isKey] at found
    obtain ⟨far, isFar, back⟩ := exists_answer succeeds found listed absent
    exact ⟨far, isFar, _, back, rfl⟩

end Synthesized

theorem map_interface_sessionPeers (closed : network.Closed) {key : String}
    {router : Router} (found : network.find? key = some router) :
    (network.sessionPeers router).map InterfacePeer.interface =
      interfaceNames router.sessions.length := by
  have allKept : router.sessions.zipIdx.filter (fun (session, _) =>
      network.keys.contains session.peer) = router.sessions.zipIdx := by
    refine List.filter_eq_self.mpr fun (session, index) isAt => ?_
    exact List.contains_iff_mem.mpr
      (closed key router found session (List.fst_mem_of_mem_zipIdx isAt))
  rw [sessionPeers, allKept, List.map_map, ← map_interfaceName_zipIdx]
  rfl

namespace HasHosts

variable {hosts : List (String × Host)} (hasHosts : network.HasHosts hosts)
  {naming : Naming} {internal : List String}
include hasHosts

private theorem noneSkipped (closed : network.Closed) {node : Node}
    (member : node ∈ (network.topologyWith naming internal hosts).nodes) :
    node.peers.map InterfacePeer.interface =
        node.interfaces.map NodeInterface.name ∧
      (node.interfaces.map NodeInterface.name).Nodup := by
  rcases hasHosts.mem_nodes_iff.mp member with
    ⟨key, router, found, rfl⟩ | ⟨key, host, _, rfl⟩
  · have names := map_name_routerInterfaces naming router (hosts.lookup key)
    have ofSessions := map_interface_sessionPeers closed found
    simp only [routerNode, names]
    refine ⟨?_, interfaceNames_nodup _⟩
    rw [routerPeers_eq, List.map_append, ofSessions, List.map_map,
      ← interfaceNames_append]
    rfl
  · exact ⟨rfl, List.nodup_singleton _⟩

/-- Peers have numbers of nodes. -/
theorem peersAreNodes {node : Node}
    (member : node ∈ (network.topologyWith naming internal hosts).nodes)
    {peer : InterfacePeer} (isPeer : peer ∈ node.peers) :
    ∃ other ∈ (network.topologyWith naming internal hosts).nodes,
      other.id = peer.node := by
  rcases hasHosts.mem_nodes_iff.mp member with
    ⟨key, router, found, rfl⟩ | ⟨key, host, isHost, rfl⟩
  · simp only [routerNode, routerPeers_eq, List.mem_append, List.mem_map,
      Option.mem_toList] at isPeer
    rcases isPeer with isSessionPeer | ⟨host, isHost, rfl⟩
    · obtain ⟨⟨session, index⟩, isKept, rfl⟩ :=
        List.mem_map.mp isSessionPeer
      have isKey := List.contains_iff_mem.mp (List.mem_filter.mp isKept).2
      obtain ⟨far, foundFar⟩ := (network.mem_keys_iff session.peer).mp isKey
      exact ⟨_, hasHosts.mem_nodes_of_find? naming internal foundFar, rfl⟩
    · have member := (hasHosts.lookup_eq_some_iff key host).mp isHost
      exact ⟨_, hasHosts.mem_nodes_of_host naming internal member, rfl⟩
  · obtain ⟨router, found⟩ :=
      (network.mem_keys_iff key).mp (hasHosts.isKey isHost)
    cases List.mem_singleton.mp isPeer
    exact ⟨_, hasHosts.mem_nodes_of_find? naming internal found, rfl⟩

theorem interfacesHavePeers (closed : network.Closed) :
    InterfacesHavePeers (network.topologyWith naming internal hosts) where
  noneSkipped node member := (hasHosts.noneSkipped closed member).1
  onePeer := by
    intro node member interface isInterface
    obtain ⟨sameNames, distinct⟩ := hasHosts.noneSkipped closed member
    have isName : interface.name ∈ node.interfaces.map NodeInterface.name :=
      List.mem_map_of_mem isInterface
    calc node.peers.countP (fun peer => peer.interface = interface.name)
        = (node.peers.map InterfacePeer.interface).count interface.name := by
          rw [List.count, List.countP_map]
          rfl
      _ = 1 := by
          rw [sameNames]
          exact List.count_eq_one_of_mem distinct isName
  areNodes _ member _ isPeer := hasHosts.peersAreNodes member isPeer

theorem hasPeers :
    network.HasPeers (network.topologyWith naming internal hosts) where
  isText := Topology.text_eq_ofLines _
  idsDiffer := by
    rw [hasHosts.map_id_nodes]
    exact List.nodup_range'
  hasNodes key router found := ⟨_, hasHosts.isNodeOf found⟩
  onlyRouters := by
    intro node member isRouter
    obtain ⟨key, router, found, rfl⟩ := hasHosts.router_of_node member isRouter
    exact ⟨router, found, hasHosts.isNodeOf found⟩
  peersHaveLinks := hasHosts.peersHaveLinks

end HasHosts

/-- Of two routers that are joined, one of which is synthesized, each lists the
other. -/
theorem hasAllPeers_of_synthesize {complete : Network}
    {hosts : List (String × Host)} {naming : Naming} {internal : List String}
    (succeeds : network.synthesize = .ok complete)
    (hasHosts : complete.HasHosts hosts) :
    network.HasAllPeers (complete.topologyWith naming internal hosts) where
  interfacesHavePeers :=
    hasHosts.interfacesHavePeers (closed_of_synthesize succeeds)
  synthesized := by
    intro link member near isNear far isFar nearIsRouter farIsRouter joins
      oneIsAdded
    obtain ⟨key, router, found, rfl⟩ :=
      hasHosts.router_of_node isNear nearIsRouter
    obtain ⟨other, farRouter, foundFar, rfl⟩ :=
      hasHosts.router_of_node isFar farIsRouter
    have lists := hasHosts.lists_of_joins member
      ((complete.mem_keys_iff key).mpr ⟨router, found⟩)
      ((complete.mem_keys_iff other).mpr ⟨farRouter, foundFar⟩) joins
    have both : complete.Lists key other ↔ complete.Lists other key := by
      rcases oneIsAdded with isAdded | isAdded
      · exact lists_comm_of_synthesize succeeds isAdded
      · exact (lists_comm_of_synthesize succeeds isAdded).symm
    rw [hasHosts.hasPeer_router_iff found foundFar,
      hasHosts.hasPeer_router_iff foundFar found]
    rcases lists with nearLists | farLists
    · exact ⟨nearLists, both.mp nearLists⟩
    · exact ⟨both.mpr farLists, farLists⟩

/-- The peers of a topology belong to its interfaces and its links, and after
synthesis no interface is without one. -/
theorem topology_hasPeers (network : Network) (naming : Naming)
    (internal : List String) :
    (∀ topology, network.topology naming internal = .ok topology →
      network.HasPeers topology) ∧
    ∀ complete topology, network.synthesize = .ok complete →
      complete.topology naming internal = .ok topology →
        complete.HasPeers topology ∧ network.HasAllPeers topology := by
  refine ⟨fun topology describes => ?_,
    fun complete topology succeeds describes => ?_⟩
  · obtain ⟨hosts, hasHosts, rfl⟩ := topology_eq_ok describes
    exact hasHosts.hasPeers
  · obtain ⟨hosts, hasHosts, rfl⟩ := topology_eq_ok describes
    exact ⟨hasHosts.hasPeers, hasAllPeers_of_synthesize succeeds hasHosts⟩

theorem topology_hasPeers_entwined :
    (∃ topology, entwined.topology .concrete ["A", "B", "C"] = .ok topology ∧
      entwined.HasPeers topology) ∧
    ∃ complete topology, entwined.synthesize = .ok complete ∧
      complete.topology .concrete ["A", "B", "C"] = .ok topology ∧
      complete.HasPeers topology ∧ entwined.HasAllPeers topology := by
  have hasPeers := topology_hasPeers entwined .concrete ["A", "B", "C"]
  have isOk : (entwined.topology .concrete ["A", "B", "C"]).toOption.isSome =
      true := by
    decide +kernel
  have bothOk : (entwined.synthesize.toOption.bind fun complete =>
      (complete.topology .concrete ["A", "B", "C"]).toOption).isSome =
        true := by
    decide +kernel
  constructor
  · cases describes : entwined.topology .concrete ["A", "B", "C"] with
    | error error => simp [describes, Except.toOption] at isOk
    | ok topology => exact ⟨topology, rfl, hasPeers.1 topology describes⟩
  · cases succeeds : entwined.synthesize with
    | error error => simp [succeeds, Except.toOption] at bothOk
    | ok complete =>
        cases describes : complete.topology .concrete ["A", "B", "C"] with
        | error error =>
            simp [succeeds, describes, Except.toOption] at bothOk
        | ok topology =>
            exact ⟨complete, topology, rfl, describes,
              hasPeers.2 complete topology succeeds describes⟩

end Network

end BgpTestbed
