import Mathlib.Data.List.Nodup
import BgpTestbed.Proofs.AddressText
import BgpTestbed.Proofs.ConfigurationLines
import BgpTestbed.Proofs.Synthesis

/-!
# Router IDs in the testbed after synthesis

Synthesis hands out IDs above all others, but the testbed keeps only their
lower three octets.  Different IDs may therefore become one address there: the
new ones count on modulo `2 ^ 24` and can run into an old one or, if there are
more than `2 ^ 24` of them, into each other.
-/

namespace BgpTestbed

/-- The line of its configuration that shows the ID of a router. -/
def Router.idLine (router : Router) : String :=
  " bgp router-id " ++ (testbedRouterId router.id).text

theorem Router.configuration_hasLines_id (router : Router) (naming : Naming)
    (internal : List String) :
    Text.HasLines (router.configuration naming internal) [router.idLine] := by
  refine ⟨_, router.configuration_eq_ofLines naming internal, ?_⟩
  refine List.IsInfix.trans ?_ (router.process_infix_lines naming internal)
  exact ⟨["router bgp " ++ naming.router router, " no synchronization"], _, rfl⟩

/-- Consecutive numbers up to the modulus differ, and more than these do
not. -/
theorem mods_nodup_iff (start count : Nat) {modulus : Nat}
    (positive : 0 < modulus) :
    ((List.range' start count).map (· % modulus)).Nodup ↔ count ≤ modulus := by
  constructor
  · intro distinct
    by_contra tooMany
    have atFirst : ((List.range' start count).map (· % modulus))[0]? =
        some (start % modulus) := by
      rw [List.getElem?_map, List.getElem?_range' (by omega), Nat.mul_zero,
        Nat.add_zero, Option.map_some]
    have atModulus : ((List.range' start count).map (· % modulus))[modulus]? =
        some (start % modulus) := by
      rw [List.getElem?_map, List.getElem?_range' (by omega), Nat.one_mul,
        Option.map_some, Nat.add_mod_right]
    have inRange :
        0 < ((List.range' start count).map (· % modulus)).length := by
      rw [List.length_map, List.length_range']
      omega
    have samePosition := (List.getElem?_inj inRange distinct).mp
      (atFirst.trans atModulus.symm)
    omega
  · intro fits
    rw [List.Nodup, List.pairwise_map]
    refine List.Pairwise.imp_of_mem ?_ List.pairwise_lt_range'
    intro first second isFirst isSecond before same
    rw [List.mem_range'_1] at isFirst isSecond
    have divides := Nat.sub_mod_eq_zero_of_mod_eq same.symm
    rw [Nat.mod_eq_of_lt (by omega)] at divides
    omega

namespace Network

/-- The addresses that stand for the IDs of the routers in the testbed. -/
def testbedIds (network : Network) : List Address :=
  network.values.map fun router => testbedRouterId router.id

/-- Lines differ where the addresses in them do. -/
theorem idLines_nodup_iff (network : Network) :
    (network.values.map Router.idLine).Nodup ↔ network.testbedIds.Nodup := by
  have lineInjective : Function.Injective fun address : Address =>
      " bgp router-id " ++ address.text := by
    intro first second same
    exact Address.text_injective ((String.append_right_inj _).mp same)
  have areLines : network.values.map Router.idLine =
      network.testbedIds.map fun address =>
        " bgp router-id " ++ address.text := by
    rw [testbedIds, List.map_map]
    rfl
  rw [areLines, List.nodup_map_iff lineInjective]

section Succeeded

variable {network : Network} {routers : List Router}
  (succeeds : network.externalRouters = .ok routers)
include succeeds

theorem entries_addRouters_perm :
    (network.addRouters routers).entries.Perm
      (network.entries ++ routers.map fun router => (router.name, router)) := by
  have distinct : (routers.map Router.name).Nodup :=
    (names_isSorted succeeds).imp String.ne_of_lt
  have addedDistinct :
      (routers.map fun router => (router.name, router)).Nodup := by
    refine List.Nodup.of_map Prod.fst ?_
    rw [map_key_of_named]
    exact distinct
  have apart : ∀ router ∈ routers, router.name ∉ network.keys := by
    intro router member
    have isName := List.mem_map_of_mem (f := Router.name) member
    exact ((mem_names_iff succeeds _).mp isName).2
  refine (List.perm_ext_iff_of_nodup (NameMap.entries_nodup _)
    (network.entries_nodup.append addedDistinct ?_)).mpr ?_
  · intro entry isOld isAdded
    obtain ⟨router, member, rfl⟩ := List.mem_map.mp isAdded
    exact apart router member (List.mem_map_of_mem (f := Prod.fst) isOld)
  · rintro ⟨key, router⟩
    rw [NameMap.mem_entries_iff, List.mem_append, NameMap.mem_entries_iff]
    constructor
    · intro found
      by_cases isAdded : key ∈ routers.map Router.name
      · obtain ⟨added, member, rfl⟩ := List.mem_map.mp isAdded
        rw [find?_addRouters_of_mem network distinct member] at found
        cases found
        exact .inr (List.mem_map_of_mem member)
      · rw [find?_addRouters_of_not_mem network isAdded] at found
        exact .inl found
    · rintro (found | isAdded)
      · exact (find?_addRouters_of_key succeeds
          ((network.mem_keys_iff key).mpr ⟨router, found⟩)).trans found
      · obtain ⟨added, member, same⟩ := List.mem_map.mp isAdded
        cases same
        exact find?_addRouters_of_mem network distinct member

theorem testbedIds_addRouters_perm :
    (network.addRouters routers).testbedIds.Perm
      (network.testbedIds ++
        routers.map fun router => testbedRouterId router.id) := by
  have addedValues :
      (routers.map fun router => (router.name, router)).map Prod.snd =
        routers := by
    rw [List.map_map]
    exact List.map_id routers
  have values : (network.addRouters routers).values.Perm
      (network.values ++ routers) := by
    have entries := (entries_addRouters_perm succeeds).map Prod.snd
    rwa [List.map_append, addedValues] at entries
  rw [testbedIds, testbedIds, ← List.map_append]
  exact values.map _

/-- The new IDs count on from the maximal one. -/
theorem map_toNat_id_externalRouters :
    routers.map (fun router => router.id.toNat) =
      List.range' (network.maximalId + 1) routers.length := by
  apply List.ext_getElem
  · rw [List.length_map, List.length_range']
  · intro position isAt _
    rw [List.length_map] at isAt
    rw [List.getElem_map, List.getElem_range', Nat.one_mul]
    exact toNat_id_externalRouters succeeds (List.getElem?_eq_getElem isAt)

/-- Old addresses stay apart, so a clash is among the new ones or between an
old and a new one. -/
theorem testbedIds_addRouters_nodup_iff (distinct : network.testbedIds.Nodup) :
    (network.addRouters routers).testbedIds.Nodup ↔
      routers.length ≤ 2 ^ 24 ∧
      ∀ router ∈ network.values, ∀ position < routers.length,
        (network.maximalId + 1 + position) % 2 ^ 24 ≠
          router.id.toNat % 2 ^ 24 := by
  have newDistinct :
      (routers.map fun router => testbedRouterId router.id).Nodup ↔
        routers.length ≤ 2 ^ 24 := by
    rw [← mods_nodup_iff (network.maximalId + 1) routers.length (by decide),
      ← map_toNat_id_externalRouters succeeds, List.map_map, List.Nodup,
      List.pairwise_map, List.Nodup, List.pairwise_map]
    simp only [ne_eq, testbedRouterId_eq_iff, Function.comp_apply]
  rw [(testbedIds_addRouters_perm succeeds).nodup_iff, List.nodup_append,
    newDistinct]
  constructor
  · rintro ⟨_, few, apart⟩
    refine ⟨few, ?_⟩
    intro router inNetwork position isBefore same
    have isAt := List.getElem?_eq_getElem isBefore
    refine apart _ (List.mem_map_of_mem inNetwork) _
      (List.mem_map_of_mem (List.mem_of_getElem? isAt)) ?_
    rw [testbedRouterId_eq_iff, toNat_id_externalRouters succeeds isAt, same]
  · rintro ⟨few, apart⟩
    refine ⟨distinct, few, ?_⟩
    intro old isOld new isNew same
    obtain ⟨router, inNetwork, rfl⟩ := List.mem_map.mp isOld
    obtain ⟨added, member, rfl⟩ := List.mem_map.mp isNew
    obtain ⟨position, isAt⟩ := List.mem_iff_getElem?.mp member
    have isBefore := (List.getElem?_eq_some_iff.mp isAt).1
    rw [testbedRouterId_eq_iff, toNat_id_externalRouters succeeds isAt] at same
    exact apart router inNetwork position isBefore same.symm

end Succeeded

/-- After a synthesis the addresses of the router IDs, and so the lines that
show them, differ exactly if no new ID agrees with an old one modulo `2 ^ 24`
and there are at most `2 ^ 24` new ones. -/
theorem synthesize_testbedIds_nodup_iff (network complete : Network)
    (succeeds : network.synthesize = .ok complete)
    (distinct : network.testbedIds.Nodup) :
    ∃ names : List String, names.Pairwise (· < ·) ∧
      (∀ name, name ∈ names ↔ network.IsExternal name) ∧
      (complete.testbedIds.Nodup ↔
        names.length ≤ 2 ^ 24 ∧
        ∀ router ∈ network.values, ∀ position < names.length,
          (network.maximalId + 1 + position) % 2 ^ 24 ≠
            router.id.toNat % 2 ^ 24) ∧
      (network.maximalId + names.length < 2 ^ 24 →
        complete.testbedIds.Nodup) ∧
      (complete.testbedIds.Nodup ↔
        (complete.values.map Router.idLine).Nodup) ∧
      ∀ router ∈ complete.values, ∀ naming internal,
        Text.HasLines (router.configuration naming internal)
          [router.idLine] := by
  obtain ⟨routers, isAdded, rfl⟩ := synthesize_eq_ok succeeds
  have staysDistinct := testbedIds_addRouters_nodup_iff isAdded distinct
  refine ⟨routers.map Router.name, names_isSorted isAdded,
    mem_names_iff isAdded, ?_, ?_, (idLines_nodup_iff _).symm, ?_⟩
  · rw [List.length_map]
    exact staysDistinct
  · rw [List.length_map]
    intro small
    refine staysDistinct.mpr ⟨by omega, ?_⟩
    intro router inNetwork position isBefore
    have below := network.id_le_maximalId inNetwork
    omega
  · intro router _ naming internal
    exact router.configuration_hasLines_id naming internal

/-- The highest ID of the lower three octets and the lowest one are taken, so
the next ID has the address of the lowest one. -/
def fullOctets : Network :=
  .ofList [("A", .fresh "A" 0),
    ("B", { Router.fresh "B" 16777215 with
      sessions := [.unfiltered "X" ⟨10, 0, 0, 2⟩ ⟨10, 0, 0, 1⟩] })]

/-- Synthesis does not keep addresses of IDs apart. -/
theorem testbedIds_clash_fullOctets :
    fullOctets.testbedIds = [⟨192, 0, 0, 0⟩, ⟨192, 255, 255, 255⟩] ∧
      fullOctets.synthesize.toOption.map testbedIds =
        some [⟨192, 0, 0, 0⟩, ⟨192, 255, 255, 255⟩, ⟨192, 0, 0, 0⟩] ∧
      ¬ ∀ network complete : Network, network.synthesize = .ok complete →
        network.testbedIds.Nodup → complete.testbedIds.Nodup := by
  have before : fullOctets.testbedIds =
      [⟨192, 0, 0, 0⟩, ⟨192, 255, 255, 255⟩] := by
    decide +kernel
  have after : fullOctets.synthesize.toOption.map testbedIds =
      some [⟨192, 0, 0, 0⟩, ⟨192, 255, 255, 255⟩, ⟨192, 0, 0, 0⟩] := by
    decide +kernel
  refine ⟨before, after, ?_⟩
  intro staysDistinct
  cases succeeds : fullOctets.synthesize with
  | error error => simp [succeeds, Except.toOption] at after
  | ok complete =>
      have isAfter : complete.testbedIds =
          [⟨192, 0, 0, 0⟩, ⟨192, 255, 255, 255⟩, ⟨192, 0, 0, 0⟩] := by
        simpa [succeeds, Except.toOption] using after
      have distinct := staysDistinct fullOctets complete succeeds
        (by rw [before]; decide)
      rw [isAfter] at distinct
      exact absurd distinct (by decide)

/-- The IDs of the two external peers pass a multiple of `2 ^ 24` and stop
just below an ID that is taken. -/
def passingOctets : Network :=
  .ofList [("A", .fresh "A" 2), ("B", { Router.fresh "B" 33554431 with
    sessions := [.unfiltered "Y" ⟨10, 0, 0, 2⟩ ⟨10, 0, 0, 1⟩,
      .unfiltered "X" ⟨10, 0, 1, 2⟩ ⟨10, 0, 1, 1⟩] })]

theorem synthesize_testbedIds_nodup_iff_passingOctets :
    passingOctets.testbedIds.Nodup ∧
      ∃ complete, passingOctets.synthesize = .ok complete ∧
        complete.testbedIds.Nodup ∧
        (complete.values.map Router.idLine).Nodup := by
  have distinct : passingOctets.testbedIds.Nodup := by decide +kernel
  have after : passingOctets.synthesize.toOption.map testbedIds =
      some [⟨192, 0, 0, 2⟩, ⟨192, 255, 255, 255⟩, ⟨192, 0, 0, 0⟩,
        ⟨192, 0, 0, 1⟩] := by
    decide +kernel
  refine ⟨distinct, ?_⟩
  cases succeeds : passingOctets.synthesize with
  | error error => simp [succeeds, Except.toOption] at after
  | ok complete =>
      have isAfter : complete.testbedIds = [⟨192, 0, 0, 2⟩,
          ⟨192, 255, 255, 255⟩, ⟨192, 0, 0, 0⟩, ⟨192, 0, 0, 1⟩] := by
        simpa [succeeds, Except.toOption] using after
      have staysDistinct : complete.testbedIds.Nodup := by
        rw [isAfter]
        decide
      obtain ⟨_, _, _, _, _, sameForLines, _⟩ :=
        synthesize_testbedIds_nodup_iff _ complete succeeds distinct
      exact ⟨complete, rfl, staysDistinct, sameForLines.mp staysDistinct⟩

end Network

end BgpTestbed
