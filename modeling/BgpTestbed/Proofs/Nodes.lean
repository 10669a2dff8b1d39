import BgpTestbed.Emulator.Topology
import BgpTestbed.Proofs.NameMap
import Mathlib.Data.List.Nodup

/-!
# The nodes of a topology

The number of a router is its place among the ascending keys, counted from 1,
and the numbers of hosts follow in the order of their routers.  A topology has
one node for each of these numbers.
-/

namespace BgpTestbed

open Emulator

/-- A lookup among numbered items gives the place of the first such item. -/
theorem lookup_zipIdx_of_mem {α : Type} [BEq α] [LawfulBEq α] {items : List α}
    {item : α} (start : Nat) (member : item ∈ items) :
    (items.zipIdx start).lookup item = some (items.idxOf item + start) := by
  induction items generalizing start with
  | nil => cases member
  | cons head later ih =>
      rw [List.zipIdx_cons]
      by_cases isHead : item = head
      · subst isHead
        simp
      · have isLater := (List.mem_cons.mp member).resolve_left isHead
        rw [List.lookup_cons, beq_eq_false_iff_ne.mpr isHead,
          List.idxOf_cons_ne later (Ne.symm isHead)]
        simp only [ih (start + 1) isLater]
        congr 1
        omega

namespace Network

variable (network : Network)

/-- The number of the router under a key. -/
def number (key : String) : Nat :=
  network.keys.idxOf key + 1

theorem lookup_nodeIds_of_key {key : String} (isKey : key ∈ network.keys) :
    network.nodeIds.lookup key = some (network.number key) :=
  lookup_zipIdx_of_mem 1 isKey

theorem lookup_nodeIds (key : String) : network.nodeIds.lookup key =
    if network.keys.contains key then some (network.number key) else none := by
  split
  next isKey =>
    exact network.lookup_nodeIds_of_key (List.contains_iff_mem.mp isKey)
  next absent =>
    rw [List.contains_iff_mem] at absent
    rwa [lookup_eq_none_iff_not_mem, nodeIds, List.zipIdx_map_fst]

theorem number_inj {first second : String} (isKey : first ∈ network.keys) :
    network.number first = network.number second ↔ first = second := by
  rw [number, number, Nat.add_right_cancel_iff]
  exact List.idxOf_inj isKey

theorem number_le {key : String} (isKey : key ∈ network.keys) :
    network.number key ≤ network.entries.length := by
  have inKeys := List.idxOf_lt_length_of_mem isKey
  rw [NameMap.keys, List.length_map] at inKeys
  exact inKeys

theorem mem_keys_of_mem {key : String} {router : Router}
    (member : (key, router) ∈ network.entries) : key ∈ network.keys :=
  List.mem_map_of_mem member

/-- Numbers count the entries of a network in their order. -/
theorem map_number_keys :
    network.keys.map network.number =
      List.range' 1 network.entries.length := by
  apply List.ext_getElem
  · simp [NameMap.keys]
  · intro index inKeys inRange
    rw [List.length_map] at inKeys
    rw [List.getElem_map, number, network.keys_nodup.idxOf_getElem index inKeys,
      List.getElem_range']
    omega

theorem zip_nodeIds :
    network.entries.zip network.nodeIds =
      network.entries.map fun entry =>
        (entry, (entry.1, network.number entry.1)) := by
  have pairs : network.nodeIds =
      network.entries.map fun entry => (entry.1, network.number entry.1) := by
    apply List.ext_getElem
    · simp [nodeIds, NameMap.keys]
    · intro index inIds inEntries
      rw [List.length_map] at inEntries
      have inKeys : index < network.keys.length := by
        rwa [NameMap.keys, List.length_map]
      have isKey : network.keys[index] = network.entries[index].1 := by
        simp [NameMap.keys]
      rw [List.getElem_map, ← isKey, number,
        network.keys_nodup.idxOf_getElem index inKeys]
      simp [nodeIds, Nat.add_comm]
  rw [pairs, List.zip_map_right, List.zip_eq_zipWith, List.zipWith_self,
    List.map_map]
  rfl

/-- The ascending keys of the routers that declare a network. -/
def declaringKeys : List String :=
  (network.entries.filter fun entry => !entry.2.networks.isEmpty).map Prod.fst

theorem map_fst_declarations :
    network.declarations.map Prod.fst = network.declaringKeys := by
  rw [declarations, declaringKeys]
  induction network.entries with
  | nil => rfl
  | cons entry later ih =>
      obtain ⟨key, router⟩ := entry
      cases declares : router.networks with
      | nil => simpa [declares] using ih
      | cons declared others => simpa [declares] using ih

theorem declaringKeys_isSorted : network.declaringKeys.Pairwise (· < ·) :=
  network.keys_isSorted.sublist (List.filter_sublist.map Prod.fst)

theorem declaringKeys_nodup : network.declaringKeys.Nodup :=
  network.declaringKeys_isSorted.imp String.ne_of_lt

theorem mem_declaringKeys_iff (key : String) :
    key ∈ network.declaringKeys ↔
      ∃ router, network.find? key = some router ∧ router.networks ≠ [] := by
  simp [declaringKeys, NameMap.mem_entries_iff]

theorem mem_declarations_iff (key : String) (declared : Prefix) :
    (key, declared) ∈ network.declarations ↔
      ∃ router, network.find? key = some router ∧
        router.networks.head? = some declared := by
  simp only [declarations, List.mem_filterMap, Option.map_eq_some_iff,
    Prod.exists, Prod.mk.injEq]
  constructor
  · rintro ⟨key, router, member, declared, isFirst, rfl, rfl⟩
    exact ⟨router, (network.mem_entries_iff key router).mp member, isFirst⟩
  · rintro ⟨router, found, isFirst⟩
    exact ⟨key, router, (network.mem_entries_iff key router).mpr found,
      declared, isFirst, rfl, rfl⟩

variable {network}

/-- The hosts of a network: they are numbered behind the routers, and their
subnets come from the first declarations. -/
structure HasHosts (network : Network) (hosts : List (String × Host)) :
    Prop where
  numbers : hosts.map (fun entry => (entry.1, entry.2.id)) =
    network.declaringKeys.zipIdx (network.entries.length + 1)
  subnets : ∀ key host, (key, host) ∈ hosts → ∃ router declared,
    network.find? key = some router ∧
      router.networks.head? = some declared ∧
      declared.hostSubnets = .ok (host.routerSubnet, host.hostSubnet)

/-- What hosts a network has is settled by one pass over its declarations. -/
theorem hostsFrom_eq_ok {next : Nat}
    {declarations : List (String × Prefix)} {hosts : List (String × Host)}
    (succeeds : hostsFrom next declarations = .ok hosts) :
    hosts.map (fun entry => (entry.1, entry.2.id)) =
        (declarations.map Prod.fst).zipIdx next ∧
      ∀ key host, (key, host) ∈ hosts → ∃ declared,
        (key, declared) ∈ declarations ∧
          declared.hostSubnets = .ok (host.routerSubnet, host.hostSubnet) := by
  induction declarations generalizing next hosts with
  | nil =>
      cases succeeds
      exact ⟨rfl, nofun⟩
  | cons declaration later ih =>
      obtain ⟨key, declared⟩ := declaration
      rw [hostsFrom] at succeeds
      cases derives : declared.hostSubnets with
      | error error =>
          rw [derives] at succeeds
          cases succeeds
      | ok subnets =>
          rw [derives] at succeeds
          simp only at succeeds
          cases continues : hostsFrom (next + 1) later with
          | error error =>
              rw [continues] at succeeds
              cases succeeds
          | ok others =>
              rw [continues] at succeeds
              cases succeeds
              obtain ⟨numbers, come⟩ := ih continues
              refine ⟨by simp [numbers, List.zipIdx_cons], ?_⟩
              intro place host member
              rcases List.mem_cons.mp member with isHead | isLater
              · cases isHead
                exact ⟨declared, List.mem_cons_self, derives⟩
              · obtain ⟨other, isDeclared, derivesOther⟩ :=
                  come place host isLater
                exact ⟨other, List.mem_cons_of_mem _ isDeclared, derivesOther⟩

theorem hasHosts_of_hosts {hosts : List (String × Host)}
    (succeeds : network.hosts network.firstHostId = .ok hosts) :
    network.HasHosts hosts := by
  obtain ⟨numbers, come⟩ := hostsFrom_eq_ok succeeds
  refine ⟨?_, ?_⟩
  · rw [numbers, map_fst_declarations, firstHostId]
  · intro key host member
    obtain ⟨declared, isDeclared, derives⟩ := come key host member
    obtain ⟨router, found, isFirst⟩ :=
      (network.mem_declarations_iff key declared).mp isDeclared
    exact ⟨router, declared, found, isFirst, derives⟩

theorem exists_hosts_of_topology {naming : Naming} {internal : List String}
    {topology : Topology}
    (describes : network.topology naming internal = .ok topology) :
    ∃ hosts, network.hosts network.firstHostId = .ok hosts ∧
      topology = network.topologyWith naming internal hosts := by
  rw [Network.topology] at describes
  cases succeeds : network.hosts network.firstHostId with
  | error error =>
      rw [succeeds] at describes
      cases describes
  | ok hosts =>
      rw [succeeds] at describes
      cases describes
      exact ⟨hosts, rfl, rfl⟩

/-- A topology that exists is that of the hosts of its network. -/
theorem topology_eq_ok {naming : Naming} {internal : List String}
    {topology : Topology}
    (describes : network.topology naming internal = .ok topology) :
    ∃ hosts, network.HasHosts hosts ∧
      topology = network.topologyWith naming internal hosts := by
  obtain ⟨hosts, succeeds, isTopology⟩ := exists_hosts_of_topology describes
  exact ⟨hosts, hasHosts_of_hosts succeeds, isTopology⟩

/-- A router has a host if it declares a network, and none otherwise. -/
inductive HostFor (router : Router) : Option Host → Prop where
  | none (declaresNothing : router.networks = []) : HostFor router none
  | some {declared : Prefix} {others : List Prefix} {host : Host}
      (declares : router.networks = declared :: others)
      (derives : declared.hostSubnets =
        .ok (host.routerSubnet, host.hostSubnet)) :
      HostFor router (some host)

namespace HasHosts

variable {hosts : List (String × Host)} (hasHosts : network.HasHosts hosts)
include hasHosts

theorem map_fst : hosts.map Prod.fst = network.declaringKeys := by
  calc hosts.map Prod.fst
      = (hosts.map fun entry => (entry.1, entry.2.id)).map Prod.fst := by
        rw [List.map_map]
        rfl
    _ = network.declaringKeys := by
        rw [hasHosts.numbers, List.zipIdx_map_fst]

theorem map_id : hosts.map (fun entry => entry.2.id) =
    List.range' (network.entries.length + 1) hosts.length := by
  have sameLength : hosts.length = network.declaringKeys.length := by
    rw [← hasHosts.map_fst, List.length_map]
  calc hosts.map (fun entry => entry.2.id)
      = (hosts.map fun entry => (entry.1, entry.2.id)).map Prod.snd := by
        rw [List.map_map]
        rfl
    _ = List.range' (network.entries.length + 1) hosts.length := by
        rw [hasHosts.numbers, List.zipIdx_map_snd, sameLength]

theorem entry_eq_of_id {first second : String × Host}
    (isFirst : first ∈ hosts) (isSecond : second ∈ hosts)
    (same : first.2.id = second.2.id) : first = second := by
  have distinct := List.nodup_range' (s := network.entries.length + 1)
    (n := hosts.length)
  rw [← hasHosts.map_id] at distinct
  exact List.inj_on_of_nodup_map distinct isFirst isSecond same

theorem lookup_eq_some_iff (key : String) (host : Host) :
    hosts.lookup key = some host ↔ (key, host) ∈ hosts := by
  refine ⟨mem_of_lookup_eq_some, lookup_eq_some_of_mem ?_⟩
  rw [hasHosts.map_fst]
  exact network.declaringKeys_nodup

theorem isKey {key : String} {host : Host} (member : (key, host) ∈ hosts) :
    key ∈ network.keys := by
  obtain ⟨router, _, found, _⟩ := hasHosts.subnets key host member
  exact (network.mem_keys_iff key).mpr ⟨router, found⟩

theorem lt_id {key : String} {host : Host} (member : (key, host) ∈ hosts) :
    network.entries.length < host.id := by
  have isId : host.id ∈ hosts.map fun entry => entry.2.id :=
    List.mem_map.mpr ⟨(key, host), member, rfl⟩
  rw [hasHosts.map_id, List.mem_range'] at isId
  obtain ⟨offset, _, isSum⟩ := isId
  omega

theorem hostFor {key : String} {router : Router}
    (found : network.find? key = some router) :
    HostFor router (hosts.lookup key) := by
  cases isHost : hosts.lookup key with
  | some host =>
      obtain ⟨owner, declared, foundOwner, isFirst, derives⟩ :=
        hasHosts.subnets key host ((hasHosts.lookup_eq_some_iff key host).mp isHost)
      rw [found, Option.some.injEq] at foundOwner
      subst foundOwner
      obtain ⟨others, declares⟩ := List.head?_eq_some_iff.mp isFirst
      exact .some declares derives
  | none =>
      rw [lookup_eq_none_iff_not_mem, hasHosts.map_fst] at isHost
      refine .none ?_
      by_contra declares
      exact isHost
        ((network.mem_declaringKeys_iff key).mpr ⟨router, found, declares⟩)

theorem nodes_topologyWith (naming : Naming) (internal : List String) :
    (network.topologyWith naming internal hosts).nodes =
      network.entries.map (fun entry =>
        routerNode naming internal network.nodeIds hosts
          (network.number entry.1) entry.1 entry.2) ++
      hosts.map fun entry =>
        hostNode entry.1 (network.number entry.1) entry.2 := by
  simp only [topologyWith, zip_nodeIds, List.map_map]
  congr 1
  rw [← List.filterMap_eq_map]
  apply List.filterMap_congr
  rintro ⟨key, host⟩ member
  simp only [network.lookup_nodeIds_of_key (hasHosts.isKey member)]
  rfl

theorem mem_nodes_iff {naming : Naming} {internal : List String}
    {node : Node} :
    node ∈ (network.topologyWith naming internal hosts).nodes ↔
      (∃ key router, network.find? key = some router ∧
        node = routerNode naming internal network.nodeIds hosts
          (network.number key) key router) ∨
      ∃ key host, (key, host) ∈ hosts ∧
        node = hostNode key (network.number key) host := by
  simp only [hasHosts.nodes_topologyWith, List.mem_append, List.mem_map,
    Prod.exists, network.mem_entries_iff, eq_comm]

/-- Nodes are numbered without a gap. -/
theorem map_id_nodes (naming : Naming) (internal : List String) :
    (network.topologyWith naming internal hosts).nodes.map Node.id =
      List.range' 1 (network.entries.length + hosts.length) := by
  have routerIds : network.entries.map (fun entry =>
      network.number entry.1) = List.range' 1 network.entries.length := by
    rw [← map_number_keys, NameMap.keys, List.map_map]
    rfl
  have hostIds := hasHosts.map_id
  rw [hasHosts.nodes_topologyWith, List.map_append, List.map_map, List.map_map]
  calc network.entries.map (fun entry => network.number entry.1) ++
        hosts.map (fun entry => entry.2.id)
      = List.range' 1 network.entries.length ++
          List.range' (1 + network.entries.length) hosts.length := by
        rw [routerIds, hostIds, Nat.add_comm]
    _ = List.range' 1 (network.entries.length + hosts.length) :=
        List.range'_append_1

/-- The number of a node tells it apart from all others. -/
theorem node_eq_of_id {naming : Naming} {internal : List String}
    {first second : Node}
    (isFirst : first ∈ (network.topologyWith naming internal hosts).nodes)
    (isSecond : second ∈ (network.topologyWith naming internal hosts).nodes)
    (same : first.id = second.id) : first = second := by
  have distinct := List.nodup_range' (s := 1)
    (n := network.entries.length + hosts.length)
  rw [← hasHosts.map_id_nodes naming internal] at distinct
  exact List.inj_on_of_nodup_map distinct isFirst isSecond same

theorem mem_nodes_of_find? (naming : Naming) (internal : List String)
    {key : String} {router : Router}
    (found : network.find? key = some router) :
    routerNode naming internal network.nodeIds hosts (network.number key) key
        router ∈
      (network.topologyWith naming internal hosts).nodes :=
  hasHosts.mem_nodes_iff.mpr (.inl ⟨key, router, found, rfl⟩)

theorem mem_nodes_of_host (naming : Naming) (internal : List String)
    {key : String} {host : Host} (member : (key, host) ∈ hosts) :
    hostNode key (network.number key) host ∈
      (network.topologyWith naming internal hosts).nodes :=
  hasHosts.mem_nodes_iff.mpr (.inr ⟨key, host, member, rfl⟩)

end HasHosts

end Network

end BgpTestbed
