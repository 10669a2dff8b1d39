import BgpTestbed.Proofs.InterfacePeers

/-!
# Networks that no host can be attached to

A topology does not exist if the first network of some router leaves no
addresses for a host.  The first such router, by key, decides how the topology
fails.  Synthesized routers always leave room for a host, so a network fails
after synthesis as it does before.
-/

namespace BgpTestbed

namespace Prefix

/-- The network is a single address, or two more addresses fit behind its base
address. -/
def AdmitsHost : Prefix → Prop
  | .concrete subnet =>
      subnet.length = 32 ∨ subnet.address.fourth.toNat ≤ 253
  | .symbolic _ => False

instance (declared : Prefix) : Decidable declared.AdmitsHost :=
  match declared with
  | .concrete subnet => inferInstanceAs
      (Decidable (subnet.length = 32 ∨ subnet.address.fourth.toNat ≤ 253))
  | .symbolic _ => .isFalse not_false

/-- The error of a network that admits no host. -/
def refusal : Prefix → ExportError
  | .concrete subnet => .addressOverflow subnet
  | .symbolic text => .unsupportedPrefix text

/-- The addresses of a router and its host exist if the network admits a
host. -/
theorem hostSubnets_cases (declared : Prefix) :
    (declared.AdmitsHost ∧ ∃ subnets, declared.hostSubnets = .ok subnets) ∨
      (¬ declared.AdmitsHost ∧
        declared.hostSubnets = .error declared.refusal) := by
  cases declared with
  | symbolic text => exact .inr ⟨not_false, rfl⟩
  | concrete subnet =>
      by_cases isSingle : subnet.length = 32
      · refine .inl ⟨.inl isSingle, (subnet, subnet), ?_⟩
        rw [hostSubnets, if_pos isSingle]
      · rw [hostSubnets, if_neg isSingle]
        by_cases leavesRoom : subnet.address.fourth.toNat ≤ 253
        · have firstFits : subnet.address.fourth.toNat + 1 < 256 := by omega
          have secondFits : subnet.address.fourth.toNat + 2 < 256 := by omega
          left
          refine ⟨.inr leavesRoom, ?_⟩
          simp only [Subnet.advance?, firstFits, secondFits, ite_true]
          exact ⟨_, rfl⟩
        · have secondFails : ¬ subnet.address.fourth.toNat + 2 < 256 := by
            omega
          right
          constructor
          · rintro (single | roomy)
            · exact isSingle single
            · exact leavesRoom roomy
          · have noSecond : subnet.advance? 2 = none := if_neg secondFails
            rw [noSecond]
            cases subnet.advance? 1 <;> rfl

end Prefix

/-- The first network of the router, if there is any, admits a host. -/
def Router.AdmitsHost (router : Router) : Prop :=
  ∀ declared, router.networks.head? = some declared → declared.AdmitsHost

namespace Network

/-- Among the routers whose first network admits no host, this network is that
of the router with the lowest key. -/
structure IsFirstRefused (network : Network) (key : String)
    (declared : Prefix) : Prop where
  declares : ∃ router, network.find? key = some router ∧
    router.networks.head? = some declared
  refuses : ¬ declared.AdmitsHost
  isFirst : ∀ other router, network.find? other = some router →
    other < key → router.AdmitsHost

/-- Hosts exist if all declarations admit one, and otherwise the first that
does not tells why there are none. -/
private theorem hostsFrom_cases {declarations : List (String × Prefix)}
    (ascend : (declarations.map Prod.fst).Pairwise (· < ·)) (next : Nat) :
    ((∀ entry ∈ declarations, entry.2.AdmitsHost) ∧
      ∃ hosts, hostsFrom next declarations = .ok hosts) ∨
    ∃ refused ∈ declarations, ¬ refused.2.AdmitsHost ∧
      (∀ entry ∈ declarations, entry.1 < refused.1 → entry.2.AdmitsHost) ∧
      hostsFrom next declarations = .error refused.2.refusal := by
  induction declarations generalizing next with
  | nil => exact .inl ⟨List.forall_mem_nil _, [], rfl⟩
  | cons declaration later ih =>
      obtain ⟨key, declared⟩ := declaration
      obtain ⟨keyBelow, laterAscend⟩ := List.pairwise_cons.mp ascend
      rw [hostsFrom]
      rcases declared.hostSubnets_cases with
        ⟨admits, subnets, derives⟩ | ⟨refuses, fails⟩
      · rw [derives]
        rcases ih laterAscend (next + 1) with
          ⟨laterAdmit, hosts, continues⟩ |
            ⟨refused, isLater, refuses, isFirst, continues⟩
        · left
          rw [continues]
          exact ⟨List.forall_mem_cons.mpr ⟨admits, laterAdmit⟩, _, rfl⟩
        · right
          rw [continues]
          refine ⟨refused, List.mem_cons_of_mem _ isLater, refuses, ?_, rfl⟩
          intro entry member before
          rcases List.mem_cons.mp member with rfl | isLaterEntry
          · exact admits
          · exact isFirst entry isLaterEntry before
      · right
        rw [fails]
        refine ⟨(key, declared), List.mem_cons_self, refuses, ?_, rfl⟩
        -- No declaration stands in front of the first one.
        intro entry member before
        rcases List.mem_cons.mp member with rfl | isLater
        · exact absurd before (String.lt_irrefl key)
        · have behind := keyBelow entry.1 (List.mem_map_of_mem isLater)
          exact absurd (String.lt_trans before behind) (String.lt_irrefl _)

/-- Only one network can be the first that is refused. -/
theorem IsFirstRefused.unique {network : Network} {key other : String}
    {declared another : Prefix} (refused : network.IsFirstRefused key declared)
    (otherRefused : network.IsFirstRefused other another) :
    declared = another := by
  obtain ⟨router, found, isDeclared⟩ := refused.declares
  obtain ⟨second, foundSecond, isAnother⟩ := otherRefused.declares
  have notBefore : ¬ key < other := by
    intro before
    have admits := otherRefused.isFirst key router found before
    exact refused.refuses (admits declared isDeclared)
  have notBehind : ¬ other < key := by
    intro before
    have admits := refused.isFirst other second foundSecond before
    exact otherRefused.refuses (admits another isAnother)
  have sameKey : key = other := String.le_antisymm
    (String.not_lt.mp notBehind) (String.not_lt.mp notBefore)
  subst sameKey
  rw [found] at foundSecond
  cases foundSecond
  exact Option.some.inj (isDeclared.symm.trans isAnother)

variable (network : Network) (naming : Naming) (internal : List String)

theorem topology_cases :
    ((∀ key router, network.find? key = some router → router.AdmitsHost) ∧
      ∃ topology, network.topology naming internal = .ok topology) ∨
    ∃ key declared, network.IsFirstRefused key declared ∧
      network.topology naming internal = .error declared.refusal := by
  have ascend : (network.declarations.map Prod.fst).Pairwise (· < ·) := by
    rw [map_fst_declarations]
    exact network.declaringKeys_isSorted
  have admits_iff : ∀ (key : String) (router : Router),
      network.find? key = some router →
      (router.AdmitsHost ↔ ∀ declared, (key, declared) ∈ network.declarations →
        declared.AdmitsHost) := by
    intro key router found
    simp only [Router.AdmitsHost, mem_declarations_iff, found,
      Option.some.injEq, exists_eq_left']
  rw [Network.topology, Network.hosts]
  rcases hostsFrom_cases ascend network.firstHostId with
    ⟨allAdmit, hosts, succeeds⟩ |
    ⟨refused, isDeclared, refuses, isFirst, fails⟩
  · left
    rw [succeeds]
    refine ⟨fun key router found => ?_, _, rfl⟩
    rw [admits_iff key router found]
    exact fun declared member => allAdmit (key, declared) member
  · right
    rw [fails]
    refine ⟨refused.1, refused.2, ?_, rfl⟩
    refine ⟨(network.mem_declarations_iff _ _).mp isDeclared, refuses, ?_⟩
    intro other router found before
    rw [admits_iff other router found]
    exact fun declared member => isFirst (other, declared) member before

theorem topology_eq_error_iff (error : ExportError) :
    network.topology naming internal = .error error ↔
      ∃ key declared, network.IsFirstRefused key declared ∧
        error = declared.refusal := by
  rcases network.topology_cases naming internal with
    ⟨allAdmit, topology, succeeds⟩ | ⟨key, declared, refused, fails⟩
  · rw [succeeds]
    constructor
    · intro isError
      cases isError
    · rintro ⟨key, declared, refused, _⟩
      obtain ⟨router, found, isDeclared⟩ := refused.declares
      exact absurd (allAdmit key router found declared isDeclared)
        refused.refuses
  · rw [fails]
    constructor
    · intro isError
      exact ⟨key, declared, refused, (Except.error.inj isError).symm⟩
    · rintro ⟨other, another, otherRefused, rfl⟩
      rw [refused.unique otherRefused]

theorem topology_isOk_iff :
    (∃ topology, network.topology naming internal = .ok topology) ↔
      ∀ router ∈ network.values, router.AdmitsHost := by
  have everyRouter : (∀ router ∈ network.values, router.AdmitsHost) ↔
      ∀ key router, network.find? key = some router → router.AdmitsHost := by
    constructor
    · intro allAdmit key router found
      exact allAdmit router ((network.mem_values_iff router).mpr ⟨key, found⟩)
    · intro allAdmit router member
      obtain ⟨key, found⟩ := (network.mem_values_iff router).mp member
      exact allAdmit key router found
  rw [everyRouter]
  rcases network.topology_cases naming internal with
    ⟨allAdmit, succeeds⟩ | ⟨key, declared, refused, fails⟩
  · exact iff_of_true succeeds allAdmit
  · apply iff_of_false
    · rintro ⟨topology, succeeds⟩
      rw [fails] at succeeds
      cases succeeds
    · intro allAdmit
      obtain ⟨router, found, isDeclared⟩ := refused.declares
      exact refused.refuses (allAdmit key router found declared isDeclared)

section Synthesized

variable {network} {complete : Network}
  (succeeds : network.synthesize = .ok complete)
include succeeds

/-- The subnet that synthesized routers declare ends in a zero. -/
theorem admitsHost_of_added {key : String} {router : Router}
    (absent : key ∉ network.keys)
    (found : complete.find? key = some router) : router.AdmitsHost := by
  obtain ⟨routers, isAdded, rfl⟩ := synthesize_eq_ok succeeds
  obtain ⟨isExternal, _, _⟩ :=
    isExternal_of_find?_addRouters isAdded absent found
  obtain ⟨id, isSynthesized⟩ := find?_addRouters_of_isExternal isAdded isExternal
  rw [found] at isSynthesized
  cases isSynthesized
  intro declared isFirst
  cases isFirst
  exact .inr (Nat.zero_le 253)

theorem isFirstRefused_synthesize_iff (key : String) (declared : Prefix) :
    complete.IsFirstRefused key declared ↔
      network.IsFirstRefused key declared := by
  constructor
  · rintro ⟨⟨router, found, isDeclared⟩, refuses, isFirst⟩
    have isKey : key ∈ network.keys := by
      by_contra absent
      exact refuses (admitsHost_of_added succeeds absent found declared isDeclared)
    rw [find?_of_key succeeds isKey] at found
    refine ⟨⟨router, found, isDeclared⟩, refuses, ?_⟩
    intro other second foundSecond before
    exact isFirst other second (find?_of_synthesize succeeds foundSecond) before
  · rintro ⟨⟨router, found, isDeclared⟩, refuses, isFirst⟩
    refine ⟨⟨router, find?_of_synthesize succeeds found, isDeclared⟩, refuses, ?_⟩
    intro other second foundSecond before
    by_cases isKey : other ∈ network.keys
    · rw [find?_of_key succeeds isKey] at foundSecond
      exact isFirst other second foundSecond before
    · exact admitsHost_of_added succeeds isKey foundSecond

theorem admitsHost_synthesize_iff :
    (∀ router ∈ complete.values, router.AdmitsHost) ↔
      ∀ router ∈ network.values, router.AdmitsHost := by
  simp only [NameMap.mem_values_iff]
  constructor
  · rintro allAdmit router ⟨key, found⟩
    exact allAdmit router ⟨key, find?_of_synthesize succeeds found⟩
  · rintro allAdmit router ⟨key, found⟩
    by_cases isKey : key ∈ network.keys
    · rw [find?_of_key succeeds isKey] at found
      exact allAdmit router ⟨key, found⟩
    · exact admitsHost_of_added succeeds isKey found

end Synthesized

/-- Both networks have the same keys, and under each key routers with the same
first network. -/
def SameFirstNetworks (network other : Network) : Prop :=
  ∀ key, (network.find? key).map (fun router => router.networks.head?) =
    (other.find? key).map fun router => router.networks.head?

variable {network}

theorem SameFirstNetworks.symm {other : Network}
    (same : network.SameFirstNetworks other) :
    other.SameFirstNetworks network :=
  fun key => (same key).symm

private theorem SameFirstNetworks.exists_router {other : Network}
    (same : network.SameFirstNetworks other) {key : String} {router : Router}
    (found : network.find? key = some router) :
    ∃ second, other.find? key = some second ∧
      second.networks.head? = router.networks.head? := by
  have isFirst := same key
  rw [found, Option.map_some] at isFirst
  exact Option.map_eq_some_iff.mp isFirst.symm

/-- Only the first network of each router decides which one is refused. -/
theorem SameFirstNetworks.isFirstRefused {other : Network}
    (same : network.SameFirstNetworks other) {key : String}
    {declared : Prefix} (refused : network.IsFirstRefused key declared) :
    other.IsFirstRefused key declared := by
  obtain ⟨⟨router, found, isDeclared⟩, refuses, isFirst⟩ := refused
  obtain ⟨second, foundSecond, sameFirst⟩ := same.exists_router found
  refine ⟨⟨second, foundSecond, sameFirst.trans isDeclared⟩, refuses, ?_⟩
  intro earlier router foundEarlier before
  obtain ⟨original, foundOriginal, sameEarlier⟩ :=
    same.symm.exists_router foundEarlier
  have admits := isFirst earlier original foundOriginal before
  rw [Router.AdmitsHost, sameEarlier] at admits
  exact admits

/-- After synthesis the topology exists if the first networks of all original
routers admit hosts.  Otherwise it fails for the first of them that does not,
as the topology of the original network does, whatever else is declared. -/
theorem synthesize_topology_cases (network complete : Network)
    (succeeds : network.synthesize = .ok complete) (naming : Naming)
    (internal : List String) :
    ((∃ topology, complete.topology naming internal = .ok topology) ↔
      ∀ router ∈ network.values, router.AdmitsHost) ∧
    (∀ error, complete.topology naming internal = .error error ↔
      ∃ key declared, network.IsFirstRefused key declared ∧
        error = declared.refusal) ∧
    (∀ error, complete.topology naming internal = .error error ↔
      network.topology naming internal = .error error) ∧
    ∀ other otherComplete : Network, network.SameFirstNetworks other →
      other.synthesize = .ok otherComplete →
        ∀ error, otherComplete.topology naming internal = .error error ↔
          complete.topology naming internal = .error error := by
  have fails_iff : ∀ error,
      complete.topology naming internal = .error error ↔
        ∃ key declared, network.IsFirstRefused key declared ∧
          error = declared.refusal := by
    intro error
    simp only [topology_eq_error_iff, isFirstRefused_synthesize_iff succeeds]
  refine ⟨?_, fails_iff, ?_, ?_⟩
  · rw [topology_isOk_iff, admitsHost_synthesize_iff succeeds]
  · intro error
    rw [fails_iff, topology_eq_error_iff]
  · intro other otherComplete same otherSucceeds error
    rw [fails_iff]
    simp only [topology_eq_error_iff,
      isFirstRefused_synthesize_iff otherSucceeds]
    constructor
    · rintro ⟨key, declared, refused, isRefusal⟩
      exact ⟨key, declared, same.symm.isFirstRefused refused, isRefusal⟩
    · rintro ⟨key, declared, refused, isRefusal⟩
      exact ⟨key, declared, same.isFirstRefused refused, isRefusal⟩

/-- The external peer `A` comes before the routers.  The second network of `B`
and the first ones of `C` and `D` admit no host. -/
def refusing : Network :=
  .ofList [
    ("B", { Router.fresh "B" 1 with
      networks := [.concrete ⟨⟨10, 0, 0, 253⟩, 25, by decide⟩,
        .symbolic "$second$"]
      sessions := [.unfiltered "A" ⟨10, 0, 1, 2⟩ ⟨10, 0, 1, 1⟩] }),
    ("C", { Router.fresh "C" 2 with
      networks := [.concrete ⟨⟨10, 0, 0, 254⟩, 31, by decide⟩,
        .concrete ⟨⟨10, 0, 0, 0⟩, 26, by decide⟩] }),
    ("D", { Router.fresh "D" 3 with networks := [.symbolic "$net$"] })]

theorem synthesize_topology_cases_refusing :
    ∃ complete, refusing.synthesize = .ok complete ∧
      complete.topology .concrete ["B", "C", "D"] =
        .error (.addressOverflow ⟨⟨10, 0, 0, 254⟩, 31, by decide⟩) ∧
      ((∃ topology,
          complete.topology .concrete ["B", "C", "D"] = .ok topology) ↔
        ∀ router ∈ refusing.values, router.AdmitsHost) := by
  have isOk : refusing.synthesize.toOption.isSome = true := by
    decide +kernel
  have fails : refusing.topology .concrete ["B", "C", "D"] =
      .error (.addressOverflow ⟨⟨10, 0, 0, 254⟩, 31, by decide⟩) := by
    rw [Network.topology]
    have noHosts : refusing.hosts refusing.firstHostId =
        .error (.addressOverflow ⟨⟨10, 0, 0, 254⟩, 31, by decide⟩) := by
      decide +kernel
    rw [noHosts]
    rfl
  cases succeeds : refusing.synthesize with
  | error error => simp [succeeds, Except.toOption] at isOk
  | ok complete =>
      obtain ⟨isOk_iff, _, sameError, _⟩ := synthesize_topology_cases refusing
        complete succeeds .concrete ["B", "C", "D"]
      exact ⟨complete, rfl, (sameError _).mpr fails, isOk_iff⟩

end Network

end BgpTestbed
