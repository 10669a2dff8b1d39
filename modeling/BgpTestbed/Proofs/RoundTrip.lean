import BgpTestbed.Proofs.Inputs
import BgpTestbed.Proofs.SpelledNetworks

/-!
# Networks read back

A network is read back from what is written if no symbolic text of it reads as
a subnet.  The reader itself returns no other networks, so reading settles a
network: from then on writing and reading change nothing.
-/

namespace BgpTestbed

open Files
open Json
open Json.Reader
open Json.Codec

private theorem Prefix.ensures_read :
    codec.read.Ensures Prefix.Unambiguous :=
  ensures_map fun text _ => Prefix.ofText_unambiguous text

/-- A router that is read declares no text that reads as a subnet. -/
theorem Router.ensures_read : codec.read.Ensures Router.Unambiguous := by
  apply ensures_map
  refine (Fields.ensures_read _ _).weaken ?_
  intro values returned
  obtain ⟨id, name, networks, rest⟩ := values
  obtain ⟨_, _, networksReturned, _⟩ := returned
  intro declared member
  rcases networksReturned with isRead | isFallback
  · exact ensures_readList Prefix.ensures_read networks isRead declared member
  · cases isFallback
    cases member

namespace Network

private theorem ensures_readEntry {network : Network}
    (unambiguous : network.Unambiguous) (key : String) :
    (readEntry network key).Ensures Unambiguous := by
  apply ensures_behind
  intro _
  refine ensures_bind Router.ensures_read ?_
  intro router routerUnambiguous
  apply ensures_pure
  intro other member
  obtain ⟨name, found⟩ := (NameMap.mem_values_iff _ other).mp member
  rw [NameMap.find?_insert] at found
  split at found
  · cases found
    exact routerUnambiguous
  · exact unambiguous other ((NameMap.mem_values_iff _ other).mpr ⟨name, found⟩)

theorem ensures_read : codec.read.Ensures Unambiguous := by
  apply ensures_behind
  intro opening
  split
  · exact ensures_fail _ _
  · apply ensures_readMembers
      (fun network key unambiguous => ensures_readEntry unambiguous key)
    intro router member
    cases member
  · exact ensures_mismatch _ _ _

/-- The text reads as the network, and so does every file that holds it. -/
def ReadsAs (text : String) (network : Network) : Prop :=
  codec.decode text = .ok network ∧
    ∀ (files : FileSystem) (path : String),
      files.read path = .ok text.toUTF8 →
        runOn files (readNetwork path) = (.ok network, files)

theorem readsAs_of_decode {text : String} {network : Network}
    (decodes : codec.decode text = .ok network) :
    ReadsAs text network := by
  refine ⟨decodes, ?_⟩
  intro files path holds
  rw [runOn_readNetwork, readAt, FileSystem.readText_eq_ok holds]
  simp only [decodes]

/-- Both texts of an unambiguous network read as this network, the indented
one being its representation where no other is given.  Every network that is
read, of whatever text, is unambiguous, so it is read again of its own text
and its text does not change any more. -/
theorem read_roundTrip :
    (∀ network : Network, network.Unambiguous →
      ReadsAs (codec.compact network) network ∧
      ReadsAs (codec.pretty network) network) ∧
    (∀ (network : Network) (files : FileSystem),
      runOn files (readRepresentation none network) =
        (.ok (codec.pretty network), files)) ∧
    ∀ (text : String) (network : Network),
      codec.decode text = .ok network →
        network.Unambiguous ∧
        ReadsAs (codec.pretty network) network ∧
        (codec.decode (codec.pretty network)).map codec.pretty =
          .ok (codec.pretty network) := by
  have reads : ∀ network : Network, network.Unambiguous →
      ReadsAs (codec.compact network) network ∧
      ReadsAs (codec.pretty network) network := by
    intro network unambiguous
    have decodes (layout : Layout) :=
      decode_of_spelledAs unambiguous (spelledAs_write unambiguous layout)
    constructor
    · exact readsAs_of_decode (decodes .compact)
    · exact readsAs_of_decode (decodes .pretty)
  refine ⟨reads, ?_, ?_⟩
  · intro network files
    exact runOn_readRepresentation files none network
  · intro text network decodes
    have unambiguous := ensures_read network (returns_of_decode decodes)
    obtain ⟨_, readsPretty⟩ := reads network unambiguous
    refine ⟨unambiguous, readsPretty, ?_⟩
    rw [readsPretty.1]
    rfl

/-- A network with a key that needs escapes, host bits and a symbolic text. -/
def escapedNetwork : Network :=
  .ofList [("A \"\\\n\x01é", { Router.fresh "A" 4294967295 with
    networks := [
      .concrete { address := ⟨10, 0, 0, 1⟩, length := 8 },
      .symbolic "$net$"]
    routeMaps := [
      { name := "m", priority := 0, policy := "", localPreference := some 7
        deleteCommunity := none, setCommunities := ["/"] }] })]

/-- Another text of the network: other escapes, leading zeros in a subnet, a
record as a list, and members in another order with an unknown one. -/
def looseText : String :=
  " \x7b \"A \\u0022\\\\\\n\\u0001\\u00e9\" :\t\x7b\"name\":\"A\"," ++
  "\"note\":[null], \"networks\":[\"010.0.0.1/08\",\"$net$\"]," ++
  "\"router_id\":4294967295,\"route_maps\":[[\"m\",0,\"\",7,null,[\"\\/\"]]]\x7d\x7d\n"

theorem read_roundTrip_escapedNames :
    (escapedNetwork.Unambiguous ∧
      ReadsAs (codec.compact escapedNetwork) escapedNetwork) ∧
    codec.decode looseText = .ok escapedNetwork ∧
    ReadsAs (codec.pretty escapedNetwork) escapedNetwork := by
  have unambiguous : escapedNetwork.Unambiguous := by decide +kernel
  have decodes : codec.decode looseText = .ok escapedNetwork := by
    decide +kernel
  obtain ⟨reads, _, settles⟩ := read_roundTrip
  obtain ⟨readsCompact, _⟩ := reads escapedNetwork unambiguous
  obtain ⟨_, readsPretty, _⟩ :=
    settles looseText escapedNetwork decodes
  exact ⟨⟨unambiguous, readsCompact⟩, decodes, readsPretty⟩

end Network

end BgpTestbed
