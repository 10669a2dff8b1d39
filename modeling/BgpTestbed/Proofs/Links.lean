import BgpTestbed.Proofs.Nodes
import BgpTestbed.Proofs.Occurrences
import BgpTestbed.Proofs.TopologyLines

/-!
# Links between nodes

Links are numbered from 1.  Those between routers and their hosts come first;
behind them stands one link for each two routers of which one lists the other
as a peer, in the order in which the sessions are met.
-/

namespace BgpTestbed

open Emulator

/-- A link joins two nodes, whichever of them it names first. -/
def Emulator.Link.Joins (link : Link) (one other : Nat) : Prop :=
  (link.first = one ∧ link.second = other) ∨
    (link.first = other ∧ link.second = one)

instance (link : Link) (one other : Nat) : Decidable (link.Joins one other) :=
  inferInstanceAs (Decidable (_ ∨ _))

/-- Links between pairs of nodes, numbered in order. -/
def numberedLinks (pairs : List (Nat × Nat)) : List Link :=
  (pairs.zipIdx 1).map fun ((first, second), id) => { id, first, second }

/-- How many links join two nodes. -/
def linkCount (links : List Link) (one other : Nat) : Nat :=
  links.countP fun link => link.Joins one other

/-- Links that name the lower number first join two nodes as often as the pair
of both numbers occurs. -/
theorem linkCount_numberedLinks {pairs : List (Nat × Nat)}
    (ordered : ∀ pair ∈ pairs, pair.1 < pair.2) (one other : Nat) :
    linkCount (numberedLinks pairs) one other =
      pairs.count (min one other, max one other) := by
  calc linkCount (numberedLinks pairs) one other
      = ((pairs.zipIdx 1).map Prod.fst).countP fun pair =>
          (pair.1 = one ∧ pair.2 = other) ∨ (pair.1 = other ∧ pair.2 = one) := by
        rw [linkCount, numberedLinks, List.countP_map, List.countP_map]
        rfl
    _ = pairs.count (min one other, max one other) := by
        rw [List.zipIdx_map_fst]
        refine List.countP_congr fun pair member => ?_
        have lower := ordered pair member
        simp only [decide_eq_true_eq, beq_iff_eq, Prod.ext_iff]
        omega

theorem map_id_numberedLinks (pairs : List (Nat × Nat)) :
    (numberedLinks pairs).map Link.id = List.range' 1 pairs.length := by
  rw [numberedLinks, List.map_map]
  exact List.zipIdx_map_snd 1 pairs

theorem map_ends_numberedLinks (pairs : List (Nat × Nat)) :
    (numberedLinks pairs).map (fun link => (link.first, link.second)) =
      pairs := by
  rw [numberedLinks, List.map_map]
  exact List.zipIdx_map_fst 1 pairs

namespace Network

/-- The router under the first key has a session with the second key. -/
def Lists (network : Network) (first second : String) : Prop :=
  ∃ router, network.find? first = some router ∧
    ∃ session ∈ router.sessions, session.peer = second

/-- The numbers of two routers, the lower one in front. -/
def numberPair (network : Network) (first second : String) : Nat × Nat :=
  (min (network.number first) (network.number second),
    max (network.number first) (network.number second))

/-- The pairs of different routers between which there are sessions, once for
each session, routers by key and sessions as they are listed. -/
def meetings (network : Network) : List (Nat × Nat) :=
  network.entries.flatMap fun (key, router) =>
    (router.sessions.filter fun session =>
      network.keys.contains session.peer && session.peer != key).map
        fun session => network.numberPair key session.peer

variable (network : Network)

/-- What one session adds to the pairs of a router. -/
private theorem sessionPair_eq {key : String} (isKey : key ∈ network.keys)
    (session : Session) :
    (do
      let first ← network.nodeIds.lookup key
      let second ← network.nodeIds.lookup session.peer
      if first = second then none
      else some (min first second, max first second)) =
      if network.keys.contains session.peer && session.peer != key then
        some (network.numberPair key session.peer)
      else none := by
  rw [network.lookup_nodeIds_of_key isKey, network.lookup_nodeIds]
  cases isPeerKey : network.keys.contains session.peer with
  | false => simp
  | true =>
      by_cases same : session.peer = key
      · simp [same]
      · have different : network.number key ≠ network.number session.peer :=
          fun sameNumber =>
            same ((network.number_inj isKey).mp sameNumber).symm
        simp [same, different, numberPair]

theorem filterMap_ite {α β : Type} (kept : α → Bool) (value : α → β)
    (items : List α) :
    (items.filterMap fun item =>
      if kept item then some (value item) else none) =
        (items.filter kept).map value := by
  induction items with
  | nil => rfl
  | cons item later ih => cases keeps : kept item <;> simp [keeps, ih]

/-- Router pairs are the meetings without repetition. -/
theorem routerPairs_eq :
    network.routerPairs network.nodeIds = network.meetings.eraseDups := by
  rw [routerPairs, meetings]
  congr 1
  refine List.flatMap_congr fun ⟨key, router⟩ member => ?_
  simp only [network.sessionPair_eq (network.mem_keys_of_mem member)]
  exact filterMap_ite _ _ router.sessions

theorem mem_meetings_iff (pair : Nat × Nat) :
    pair ∈ network.meetings ↔ ∃ first ∈ network.keys, ∃ second ∈ network.keys,
      first ≠ second ∧ network.Lists first second ∧
        pair = network.numberPair first second := by
  simp only [meetings, List.mem_flatMap, List.mem_map, List.mem_filter,
    Bool.and_eq_true, List.contains_iff_mem, bne_iff_ne, Prod.exists]
  constructor
  · rintro ⟨key, router, member, session, ⟨listed, isKey, different⟩, rfl⟩
    have found := (network.mem_entries_iff key router).mp member
    exact ⟨key, network.mem_keys_of_mem member, session.peer, isKey,
      Ne.symm different, ⟨router, found, session, listed, rfl⟩, rfl⟩
  · rintro ⟨first, _, second, isKey, different,
      ⟨router, found, session, listed, rfl⟩, rfl⟩
    exact ⟨first, router, (network.mem_entries_iff first router).mpr found,
      session, ⟨listed, isKey, Ne.symm different⟩, rfl⟩

theorem numberPair_comm (first second : String) :
    network.numberPair first second = network.numberPair second first := by
  simp only [numberPair, Nat.min_comm, Nat.max_comm]

/-- Keys are told apart by their numbers, and so are pairs of keys up to their
order. -/
theorem eq_or_swapped_of_numberPair {first second other another : String}
    (isFirst : first ∈ network.keys) (isSecond : second ∈ network.keys)
    (same : network.numberPair first second =
      network.numberPair other another) :
    (first = other ∧ second = another) ∨
      (first = another ∧ second = other) := by
  simp only [← network.number_inj isFirst, ← network.number_inj isSecond]
  simp only [numberPair, Prod.mk.injEq] at same
  omega

/-- Two routers meet if one of them lists the other. -/
theorem numberPair_mem_meetings_iff {first second : String}
    (isFirst : first ∈ network.keys) (isSecond : second ∈ network.keys)
    (different : first ≠ second) :
    network.numberPair first second ∈ network.meetings ↔
      network.Lists first second ∨ network.Lists second first := by
  rw [mem_meetings_iff]
  constructor
  · rintro ⟨other, _, another, _, _, lists, same⟩
    rcases network.eq_or_swapped_of_numberPair isFirst isSecond same with
      ⟨rfl, rfl⟩ | ⟨rfl, rfl⟩
    · exact .inl lists
    · exact .inr lists
  · rintro (lists | lists)
    · exact ⟨first, isFirst, second, isSecond, different, lists, rfl⟩
    · exact ⟨second, isSecond, first, isFirst, different.symm, lists,
        network.numberPair_comm first second⟩

theorem numberPair_fst_lt_snd {first second : String}
    (isFirst : first ∈ network.keys) (different : first ≠ second) :
    (network.numberPair first second).1 <
      (network.numberPair first second).2 := by
  have differ : network.number first ≠ network.number second :=
    fun same => different ((network.number_inj isFirst).mp same)
  simp only [numberPair]
  omega

/-- Pairs of the routers under some keys and their hosts, numbered behind the
routers. -/
def hostLinks (hostKeys : List String) : List (Nat × Nat) :=
  (hostKeys.zipIdx (network.entries.length + 1)).map
    fun (key, id) => (network.number key, id)

/-- The links of a topology: those of the routers under some keys to their
hosts, and those between pairs of routers. -/
structure HasLinks (network : Network) (topology : Topology)
    (hostKeys : List String) (pairs : List (Nat × Nat)) : Prop where
  isText : topology.text = Text.ofLines
    (topology.nodes.flatMap Node.lines ++ topology.links.flatMap Link.lines ++
      closingLines)
  inOrder : topology.links.map (fun link => (link.first, link.second)) =
    network.hostLinks hostKeys ++ pairs
  numbers : topology.links.map Link.id =
    List.range' 1 topology.links.length
  lowerFirst : ∀ link ∈ topology.links, link.first < link.second
  routerNodes : ∀ key ∈ network.keys, ∃ node ∈ topology.nodes,
    node.id = network.number key ∧ node.model = .router ∧ node.hostname = key
  hostNodes : ∀ key id,
    (key, id) ∈ hostKeys.zipIdx (network.entries.length + 1) →
      ∃ node ∈ topology.nodes,
        node.id = id ∧ node.model = .host ∧ node.hostname = key ++ "-host"
  hostKeysAscend : hostKeys.Pairwise (· < ·)
  hasHost_iff : ∀ key, key ∈ hostKeys ↔
    ∃ router, network.find? key = some router ∧ router.networks ≠ []
  linked : ∀ first ∈ network.keys, ∀ second ∈ network.keys, first ≠ second →
    network.Lists first second ∨ network.Lists second first →
      linkCount topology.links (network.number first)
        (network.number second) = 1
  onlyMeetings : ∀ pair ∈ pairs, ∃ first ∈ network.keys,
    ∃ second ∈ network.keys, first ≠ second ∧ network.Lists first second ∧
      pair = network.numberPair first second
  firstMeetings : FirstOccurrences network.meetings pairs

namespace HasHosts

variable {network} {hosts : List (String × Host)}
  (hasHosts : network.HasHosts hosts)
include hasHosts

/-- Hosts stand behind their routers as their keys are listed. -/
theorem hostPairs_eq :
    hostPairs network.nodeIds hosts =
      network.hostLinks network.declaringKeys := by
  calc hostPairs network.nodeIds hosts
      = hosts.map fun entry => (network.number entry.1, entry.2.id) := by
        rw [hostPairs, ← List.filterMap_eq_map]
        refine List.filterMap_congr fun ⟨key, host⟩ member => ?_
        simp only [network.lookup_nodeIds_of_key (hasHosts.isKey member)]
        rfl
    _ = (hosts.map fun entry => (entry.1, entry.2.id)).map
          fun (key, id) => (network.number key, id) := by
        rw [List.map_map]
        rfl
    _ = network.hostLinks network.declaringKeys := by
        rw [hasHosts.numbers, hostLinks]

theorem links_topologyWith (naming : Naming) (internal : List String) :
    (network.topologyWith naming internal hosts).links =
      numberedLinks (network.hostLinks network.declaringKeys ++
        network.meetings.eraseDups) := by
  rw [← hasHosts.hostPairs_eq, ← network.routerPairs_eq]
  rfl

theorem mem_hostLinks_iff (pair : Nat × Nat) :
    pair ∈ network.hostLinks network.declaringKeys ↔
      ∃ key host, (key, host) ∈ hosts ∧
        pair = (network.number key, host.id) := by
  rw [hostLinks, ← hasHosts.numbers, List.map_map]
  simp only [List.mem_map, Prod.exists, Function.comp_apply, eq_comm]

/-- Numbers of routers are below those of hosts. -/
private theorem fst_le_lt_snd {pair : Nat × Nat}
    (member : pair ∈ network.hostLinks network.declaringKeys) :
    pair.1 ≤ network.entries.length ∧ network.entries.length < pair.2 := by
  obtain ⟨key, host, isHost, rfl⟩ := (hasHosts.mem_hostLinks_iff pair).mp member
  exact ⟨network.number_le (hasHosts.isKey isHost), hasHosts.lt_id isHost⟩

theorem fst_lt_snd {pair : Nat × Nat}
    (member : pair ∈ network.hostLinks network.declaringKeys ++
      network.meetings.eraseDups) : pair.1 < pair.2 := by
  rcases List.mem_append.mp member with isHostLink | isMeeting
  · have apart := hasHosts.fst_le_lt_snd isHostLink
    omega
  · rw [List.mem_eraseDups, mem_meetings_iff] at isMeeting
    obtain ⟨first, isFirst, second, _, different, _, rfl⟩ := isMeeting
    exact network.numberPair_fst_lt_snd isFirst different

/-- Two routers of which one lists the other are joined by one link. -/
theorem linkCount_of_lists {naming : Naming} {internal : List String}
    {first second : String} (isFirst : first ∈ network.keys)
    (isSecond : second ∈ network.keys) (different : first ≠ second)
    (lists : network.Lists first second ∨ network.Lists second first) :
    linkCount (network.topologyWith naming internal hosts).links
      (network.number first) (network.number second) = 1 := by
  have notHostLink : network.numberPair first second ∉
      network.hostLinks network.declaringKeys := by
    intro isHostLink
    have apart := (hasHosts.fst_le_lt_snd isHostLink).2
    have firstBelow := network.number_le isFirst
    have secondBelow := network.number_le isSecond
    simp only [numberPair] at apart
    omega
  have isMeeting : network.numberPair first second ∈
      network.meetings.eraseDups := by
    rw [List.mem_eraseDups]
    exact (network.numberPair_mem_meetings_iff isFirst isSecond different).mpr
      lists
  have distinct := (eraseDups_firstOccurrences network.meetings).nodup
  rw [hasHosts.links_topologyWith,
    linkCount_numberedLinks fun _ => hasHosts.fst_lt_snd]
  calc List.count (network.numberPair first second)
        (network.hostLinks network.declaringKeys ++
          network.meetings.eraseDups)
      = 0 + 1 := by
        rw [List.count_append, List.count_eq_zero_of_not_mem notHostLink,
          List.count_eq_one_of_mem distinct isMeeting]
    _ = 1 := Nat.zero_add 1

end HasHosts

/-- A topology has one link for each host and one for every two different
routers of which one lists the other. -/
theorem topology_hasLinks (naming : Naming) (internal : List String)
    (topology : Topology)
    (describes : network.topology naming internal = .ok topology) :
    ∃ hostKeys pairs, network.HasLinks topology hostKeys pairs := by
  obtain ⟨hosts, hasHosts, rfl⟩ := topology_eq_ok describes
  have areLinks := hasHosts.links_topologyWith naming internal
  have firstMeetings := eraseDups_firstOccurrences network.meetings
  refine ⟨network.declaringKeys, network.meetings.eraseDups, {
    isText := Topology.text_eq_ofLines _
    inOrder := ?_
    numbers := ?_
    lowerFirst := ?_
    routerNodes := ?_
    hostNodes := ?_
    hostKeysAscend := network.declaringKeys_isSorted
    hasHost_iff := network.mem_declaringKeys_iff
    linked := ?_
    onlyMeetings := ?_
    firstMeetings := firstMeetings }⟩
  · rw [areLinks, map_ends_numberedLinks]
  · rw [areLinks, map_id_numberedLinks]
    simp only [numberedLinks, List.length_map, List.length_zipIdx]
  · intro link member
    have isPair := List.mem_map_of_mem
      (f := fun link : Link => (link.first, link.second)) member
    rw [areLinks, map_ends_numberedLinks] at isPair
    exact hasHosts.fst_lt_snd isPair
  · intro key isKey
    obtain ⟨router, found⟩ := (network.mem_keys_iff key).mp isKey
    exact ⟨_, hasHosts.mem_nodes_of_find? naming internal found, rfl, rfl, rfl⟩
  · intro key id isNumbered
    rw [← hasHosts.numbers] at isNumbered
    obtain ⟨⟨key, host⟩, member, same⟩ := List.mem_map.mp isNumbered
    cases same
    exact ⟨_, hasHosts.mem_nodes_of_host naming internal member, rfl, rfl, rfl⟩
  · intro first isFirst second isSecond different lists
    exact hasHosts.linkCount_of_lists isFirst isSecond different lists
  · intro pair isPair
    exact (network.mem_meetings_iff pair).mp
      ((firstMeetings.sameMembers pair).mp isPair)

/-- The first router has a host and sessions with itself, with an external peer
and twice with the second router, which has one back.  The third has a session
with the first, but not the other way round. -/
def entwined : Network :=
  .ofList [
    ("A", { Router.fresh "A" 1 with
      networks := [.concrete ⟨⟨10, 1, 0, 0⟩, 20, by decide⟩]
      sessions := [.unfiltered "A" ⟨10, 0, 0, 2⟩ ⟨10, 0, 0, 1⟩,
        .unfiltered "X" ⟨10, 0, 1, 2⟩ ⟨10, 0, 1, 1⟩,
        .unfiltered "B" ⟨10, 0, 2, 2⟩ ⟨10, 0, 2, 1⟩,
        .unfiltered "B" ⟨10, 0, 3, 2⟩ ⟨10, 0, 3, 1⟩] }),
    ("B", { Router.fresh "B" 2 with
      sessions := [.unfiltered "A" ⟨10, 0, 2, 1⟩ ⟨10, 0, 2, 2⟩] }),
    ("C", { Router.fresh "C" 3 with
      sessions := [.unfiltered "A" ⟨10, 0, 4, 1⟩ ⟨10, 0, 4, 2⟩] })]

theorem topology_hasLinks_entwined :
    ∃ topology, entwined.topology .concrete [] = .ok topology ∧
      topology.links = [⟨1, 1, 4⟩, ⟨2, 1, 2⟩, ⟨3, 1, 3⟩] ∧
      ∃ hostKeys pairs, entwined.HasLinks topology hostKeys pairs := by
  have links : (entwined.topology .concrete []).toOption.map Topology.links =
      some [⟨1, 1, 4⟩, ⟨2, 1, 2⟩, ⟨3, 1, 3⟩] := by
    decide +kernel
  cases describes : entwined.topology .concrete [] with
  | error error => simp [describes, Except.toOption] at links
  | ok topology =>
      have areLinks : topology.links = [⟨1, 1, 4⟩, ⟨2, 1, 2⟩, ⟨3, 1, 3⟩] := by
        simpa [describes, Except.toOption] using links
      exact ⟨topology, rfl, areLinks,
        topology_hasLinks entwined .concrete [] topology describes⟩

end Network

end BgpTestbed
