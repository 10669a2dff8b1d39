import BgpTestbed.Proofs.InterfacePeers

/-!
# The numbers of nodes

Numbers are handed out in two passes, first to the routers and then to the
hosts, and the second pass goes on where the first one stops.  A topology has
one node for each number, in order, and names no other number.
-/

namespace BgpTestbed

open Emulator

namespace NameMap

variable {α : Type}

/-- An entry behind all others is put at the end. -/
theorem entries_insert_of_above {map : NameMap α} {name : String}
    (above : ∀ entry ∈ map.entries, entry.1 < name) (value : α) :
    (map.insert name value).entries = map.entries ++ [(name, value)] := by
  change insertEntry name value map.entries = map.entries ++ [(name, value)]
  generalize map.entries = entries at above
  induction entries with
  | nil => rfl
  | cons head later ih =>
      obtain ⟨headBelow, laterBelow⟩ := List.forall_mem_cons.mp above
      have notBefore : ¬ name < head.1 := String.lt_asymm headBelow
      have different : name ≠ head.1 := (String.ne_of_lt headBelow).symm
      rw [insertEntry, if_neg notBefore, if_neg different, ih laterBelow]
      rfl

end NameMap

namespace Network

/-- Keys that come behind all entries of a map and ascend. -/
structure Follows {α : Type} (keys : List String) (map : NameMap α) :
    Prop where
  ascend : keys.Pairwise (· < ·)
  behind : ∀ key ∈ keys, ∀ entry ∈ map.entries, entry.1 < key

/-- Putting in the first of the keys keeps the others behind. -/
theorem Follows.insert {α : Type} {key : String} {later : List String}
    {map : NameMap α} (follows : Follows (key :: later) map) (value : α) :
    (map.insert key value).entries = map.entries ++ [(key, value)] ∧
      Follows later (map.insert key value) := by
  obtain ⟨keyBelow, laterAscend⟩ := List.pairwise_cons.mp follows.ascend
  have appended := NameMap.entries_insert_of_above
    (follows.behind key List.mem_cons_self) value
  refine ⟨appended, laterAscend, ?_⟩
  intro other isLater entry member
  rw [appended] at member
  rcases List.mem_append.mp member with isOld | isNew
  · exact follows.behind other (List.mem_cons_of_mem key isLater) entry isOld
  · rw [List.mem_singleton.mp isNew]
    exact keyBelow other isLater

theorem follows_empty {α : Type} {keys : List String}
    (ascend : keys.Pairwise (· < ·)) :
    Follows keys (NameMap.empty : NameMap α) where
  ascend
  behind := by
    intro key _ entry member
    cases member

/-- Routers are numbered in the order in which they are met. -/
private theorem foldl_assignRouterId {keys : List String} {ids : NameMap Nat}
    (follows : Follows keys ids) (next : Nat) :
    (keys.foldl assignRouterId (ids, next)).1.entries =
        ids.entries ++ keys.zipIdx next ∧
      (keys.foldl assignRouterId (ids, next)).2 = next + keys.length := by
  induction keys generalizing ids next with
  | nil => simp
  | cons key later ih =>
      obtain ⟨appended, laterFollows⟩ := follows.insert next
      obtain ⟨entries, count⟩ := ih laterFollows (next + 1)
      rw [List.foldl_cons, assignRouterId]
      constructor
      · rw [entries, appended, List.zipIdx_cons, List.append_assoc]
        rfl
      · rw [count, List.length_cons]
        omega

/-- Hosts are numbered in the order in which they are met, up to the first
router that cannot have one. -/
private theorem foldlM_assignHost {declarations : List (String × Prefix)}
    {hosts : NameMap Host}
    (follows : Follows (declarations.map Prod.fst) hosts) (next : Nat) :
    (declarations.foldlM assignHost (hosts, next)).map
        (fun assigned => (assigned.1.entries, assigned.2)) =
      (hostsFrom next declarations).map fun added =>
        (hosts.entries ++ added, next + added.length) := by
  induction declarations generalizing hosts next with
  | nil => simp [hostsFrom, Except.map, pure, Except.pure]
  | cons declaration later ih =>
      obtain ⟨key, declared⟩ := declaration
      rw [List.foldlM_cons, assignHost, hostsFrom]
      cases declared.hostSubnets with
      | error error => rfl
      | ok subnets =>
          obtain ⟨routerSubnet, hostSubnet⟩ := subnets
          obtain ⟨appended, laterFollows⟩ :=
            follows.insert { id := next, routerSubnet, hostSubnet }
          change (later.foldlM assignHost (hosts.insert key
            { id := next, routerSubnet, hostSubnet }, next + 1)).map _ = _
          rw [ih laterFollows (next + 1), appended]
          cases hostsFrom (next + 1) later with
          | error error => rfl
          | ok added =>
              simp only [Except.map, List.append_assoc, List.singleton_append,
                List.length_cons, Except.ok.injEq, Prod.mk.injEq, true_and]
              omega

variable (network : Network)

theorem assignRouterIds_eq :
    network.assignRouterIds.1.entries = network.nodeIds ∧
      network.assignRouterIds.2 = network.keys.length + 1 := by
  obtain ⟨entries, count⟩ :=
    foldl_assignRouterId (follows_empty network.keys_isSorted) 1
  refine ⟨entries, ?_⟩
  rw [assignRouterIds, count, Nat.add_comm]

theorem assignHosts_eq (next : Nat) :
    (network.assignHosts next).map
        (fun assigned => (assigned.1.entries, assigned.2)) =
      (network.hosts next).map fun hosts => (hosts, next + hosts.length) := by
  have ascend : (network.declarations.map Prod.fst).Pairwise (· < ·) := by
    rw [map_fst_declarations]
    exact network.declaringKeys_isSorted
  exact foldlM_assignHost (follows_empty ascend) next

/-- The first lines of the block of a node. -/
def openingLines (id : Nat) (model : String) : List String :=
  ["node n" ++ toString id ++ " \x7b", "    type router", "    model " ++ model]

/-- The nodes of a topology have the numbers that routers and hosts are given,
each number one node in ascending order, and peers and links name no other
numbers. -/
structure HasNumbers (network : Network) (topology : Topology)
    (ids : NameMap Nat) (hosts : NameMap Host) : Prop where
  assignsRouters :
    network.assignRouterIds = (ids, network.keys.length + 1)
  routerIds : ids.entries =
    network.keys.zip (List.range' 1 network.keys.length)
  assignsHosts : network.assignHosts (network.keys.length + 1) = .ok
    (hosts, network.keys.length + network.declaringKeys.length + 1)
  hostIds : hosts.entries.map (fun (key, host) => (key, host.id)) =
    network.declaringKeys.zip
      (List.range' (network.keys.length + 1) network.declaringKeys.length)
  usesNumbers :
    network.nodeIds = ids.entries ∧
      network.hosts network.firstHostId = .ok hosts.entries
  isText : topology.text = Text.ofLines
    (topology.nodes.flatMap Node.lines ++ topology.links.flatMap Link.lines ++
      closingLines)
  nodeBlocks :
    topology.nodes.map (fun node => (node.id, node.lines.take 3)) =
      (List.range' 1 network.keys.length).map
          (fun id => (id, openingLines id "router")) ++
        (List.range' (network.keys.length + 1)
            network.declaringKeys.length).map
          fun id => (id, openingLines id "host")
  hostnames : topology.nodes.map Node.hostname =
    network.keys ++ network.declaringKeys.map fun key => key ++ "-host"
  peersAreNodes : ∀ node ∈ topology.nodes, ∀ peer ∈ node.peers,
    ∃ other ∈ topology.nodes, other.id = peer.node
  linksJoinNodes : ∀ link ∈ topology.links,
    (∃ node ∈ topology.nodes, node.id = link.first) ∧
      ∃ node ∈ topology.nodes, node.id = link.second
  routersHaveIds : ∀ key ∈ network.keys, ∃ id, ids.find? key = some id
  hostRoutersHaveIds : ∀ key ∈ hosts.keys, ∃ id, ids.find? key = some id

/-- The opening of a block shows the number and the model of its node. -/
private theorem take_lines (node : Node) :
    node.lines.take 3 = openingLines node.id node.model.text := by
  have opening : "node " ++ nodeName node.id = "node n" ++ toString node.id := by
    rw [nodeName, ← String.append_assoc]
    rfl
  rw [openingLines, ← opening]
  rfl

theorem length_keys : network.keys.length = network.entries.length :=
  List.length_map _

namespace HasHosts

variable {network} {hosts : List (String × Host)}
  (hasHosts : network.HasHosts hosts) {naming : Naming}
  {internal : List String}
include hasHosts

theorem length_eq : hosts.length = network.declaringKeys.length := by
  rw [← hasHosts.map_fst, List.length_map]

private theorem nodeBlocks :
    (network.topologyWith naming internal hosts).nodes.map
        (fun node => (node.id, node.lines.take 3)) =
      (List.range' 1 network.keys.length).map
          (fun id => (id, openingLines id "router")) ++
        (List.range' (network.keys.length + 1)
            network.declaringKeys.length).map
          fun id => (id, openingLines id "host") := by
  rw [hasHosts.nodes_topologyWith, List.map_append, List.map_map, List.map_map]
  congr 1
  · rw [network.length_keys, ← network.map_number_keys, NameMap.keys,
      List.map_map, List.map_map]
    simp only [take_lines]
    rfl
  · rw [network.length_keys, ← hasHosts.length_eq, ← hasHosts.map_id,
      List.map_map]
    simp only [take_lines]
    rfl

private theorem hostnames :
    (network.topologyWith naming internal hosts).nodes.map Node.hostname =
      network.keys ++ network.declaringKeys.map fun key => key ++ "-host" := by
  rw [hasHosts.nodes_topologyWith, List.map_append, List.map_map, List.map_map,
    ← hasHosts.map_fst, List.map_map]
  rfl

private theorem linksJoinNodes {link : Link}
    (member : link ∈ (network.topologyWith naming internal hosts).links) :
    (∃ node ∈ (network.topologyWith naming internal hosts).nodes,
      node.id = link.first) ∧
    ∃ node ∈ (network.topologyWith naming internal hosts).nodes,
      node.id = link.second := by
  obtain ⟨near, isNear, far, isFar, _, _, joins⟩ :=
    hasHosts.peersHaveLinks.ends link member
  rcases joins with ⟨first, second⟩ | ⟨first, second⟩
  · exact ⟨⟨near, isNear, first.symm⟩, ⟨far, isFar, second.symm⟩⟩
  · exact ⟨⟨far, isFar, first.symm⟩, ⟨near, isNear, second.symm⟩⟩

end HasHosts

/-- Routers and hosts are numbered without a gap, and their numbers are those of
the nodes of the topology. -/
theorem topology_hasNumbers (naming : Naming) (internal : List String)
    (topology : Topology)
    (describes : network.topology naming internal = .ok topology) :
    ∃ ids hosts, network.HasNumbers topology ids hosts := by
  obtain ⟨hosts, succeeds, rfl⟩ := exists_hosts_of_topology describes
  have hasHosts := hasHosts_of_hosts succeeds
  obtain ⟨idEntries, nextId⟩ := network.assignRouterIds_eq
  have first : network.firstHostId = network.keys.length + 1 := by
    rw [network.length_keys]
    rfl
  have assigns := network.assignHosts_eq (network.keys.length + 1)
  rw [← first, succeeds] at assigns
  cases assigned : network.assignHosts network.firstHostId with
  | error error =>
      rw [assigned] at assigns
      cases assigns
  | ok result =>
      obtain ⟨hostMap, next⟩ := result
      rw [assigned] at assigns
      simp only [Except.map, Except.ok.injEq, Prod.mk.injEq] at assigns
      obtain ⟨rfl, rfl⟩ := assigns
      have routersHaveIds : ∀ key ∈ network.keys,
          ∃ id, network.assignRouterIds.1.find? key = some id := by
        intro key isKey
        refine ⟨network.number key, ?_⟩
        rw [NameMap.find?, idEntries]
        exact network.lookup_nodeIds_of_key isKey
      refine ⟨network.assignRouterIds.1, hostMap, {
        assignsRouters := by rw [← nextId]
        routerIds := idEntries.trans List.zipIdx_eq_zip_range'
        assignsHosts := ?_
        hostIds := ?_
        usesNumbers := ⟨idEntries.symm, succeeds⟩
        isText := Topology.text_eq_ofLines _
        nodeBlocks := hasHosts.nodeBlocks
        hostnames := hasHosts.hostnames
        peersAreNodes := fun _ member _ isPeer =>
          hasHosts.peersAreNodes member isPeer
        linksJoinNodes := fun _ member => hasHosts.linksJoinNodes member
        routersHaveIds
        hostRoutersHaveIds := ?_ }⟩
      · have count := hasHosts.length_eq
        rw [← first, assigned]
        congr 2
        omega
      · rw [network.length_keys]
        exact hasHosts.numbers.trans List.zipIdx_eq_zip_range'
      · intro key member
        obtain ⟨host, found⟩ := (hostMap.mem_keys_iff key).mp member
        exact routersHaveIds key
          (hasHosts.isKey ((hostMap.mem_entries_iff key host).mpr found))

/-- The second and the third router have hosts, the first one lists the third
and an external peer. -/
def partlyHosted : Network :=
  .ofList [
    ("C", { Router.fresh "C" 7 with
      networks := [.concrete ⟨⟨10, 3, 0, 1⟩, 32, by decide⟩,
        .symbolic "$net$"] }),
    ("A", { Router.fresh "A" 9 with
      sessions := [.unfiltered "C" ⟨10, 0, 0, 2⟩ ⟨10, 0, 0, 1⟩,
        .unfiltered "X" ⟨10, 0, 1, 2⟩ ⟨10, 0, 1, 1⟩] }),
    ("B", { Router.fresh "B" 8 with
      networks := [.concrete ⟨⟨10, 2, 0, 0⟩, 18, by decide⟩] })]

theorem topology_hasNumbers_partlyHosted :
    ∃ topology, partlyHosted.topology .placeholder ["A"] = .ok topology ∧
      topology.nodes.map Node.hostname = ["A", "B", "C", "B-host", "C-host"] ∧
      ∃ ids hosts, partlyHosted.HasNumbers topology ids hosts := by
  have names : (partlyHosted.topology .placeholder ["A"]).toOption.map
      (fun topology => topology.nodes.map Node.hostname) =
        some ["A", "B", "C", "B-host", "C-host"] := by
    decide +kernel
  cases describes : partlyHosted.topology .placeholder ["A"] with
  | error error => simp [describes, Except.toOption] at names
  | ok topology =>
      have areNames : topology.nodes.map Node.hostname =
          ["A", "B", "C", "B-host", "C-host"] := by
        simpa [describes, Except.toOption] using names
      exact ⟨topology, rfl, areNames,
        topology_hasNumbers partlyHosted .placeholder ["A"] topology describes⟩

end Network

end BgpTestbed
