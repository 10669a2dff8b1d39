import BgpTestbed.CommandLine
import BgpTestbed.Proofs.ExportPlan
import BgpTestbed.Proofs.RoundTrip

/-!
# Tolerant reading

All texts that spell one network are read as this network, so everything that
is generated from them is the same.
-/

namespace BgpTestbed

open Files
open Json

namespace Network

/-- What is generated from a text: the files of an export that takes the
network itself as its representation. -/
def generated (settings : Settings) (text : String) :
    Except Fault (List PlannedFile) :=
  (codec.decode text).map fun network =>
    network.plan settings (codec.pretty network)

/-- Whatever the order of its members, the layout of its records, the fields
that it leaves out, the members of other names and the space in it: a text
that spells an unambiguous network is read as this network.  Of two such texts
the same configurations and the same topology are generated, and exports that
differ in this input only do not differ at all. -/
theorem read_spellings (network : Network)
    (unambiguous : network.Unambiguous) :
    (∀ text, network.SpelledAs text → ReadsAs text network) ∧
    ∀ first second, network.SpelledAs first → network.SpelledAs second →
      (∀ settings, ∃ planned,
        generated settings first = .ok planned ∧
          generated settings second = .ok planned) ∧
      ∀ (files : FileSystem) (request : CommandLine.Request)
        (firstPath secondPath : String),
        files.read firstPath = .ok first.toUTF8 →
        files.read secondPath = .ok second.toUTF8 →
          runOn files (CommandLine.perform
              { request with input := firstPath }) =
            runOn files (CommandLine.perform
              { request with input := secondPath }) := by
  have reads : ∀ text, network.SpelledAs text → ReadsAs text network := by
    intro text spelled
    exact readsAs_of_decode (decode_of_spelledAs unambiguous spelled)
  refine ⟨reads, ?_⟩
  intro first second firstSpelled secondSpelled
  obtain ⟨firstDecodes, firstReads⟩ := reads first firstSpelled
  obtain ⟨secondDecodes, secondReads⟩ := reads second secondSpelled
  constructor
  · intro settings
    refine ⟨network.plan settings (codec.pretty network), ?_, ?_⟩
    · rw [generated, firstDecodes]
      rfl
    · rw [generated, secondDecodes]
      rfl
  · intro files request firstPath secondPath firstHolds secondHolds
    rw [CommandLine.perform, CommandLine.perform, runOn_bind, runOn_bind,
      firstReads files firstPath firstHolds,
      secondReads files secondPath secondHolds]

/-- Two routers with a session and a symbolic text. -/
def sparseNetwork : Network :=
  .ofList [
    ("A", { Router.fresh "a" 1 with
      sessions := [.unfiltered "B" ⟨10, 0, 0, 2⟩ ⟨10, 0, 0, 1⟩] }),
    ("B", { Router.fresh "b" 2 with networks := [.symbolic "$n$"] })]

/-- A member with space around its colon. -/
private def spaced (name : String) (value : List Char) : NamedMember where
  key := name.toList.flatMap escapedChar
  beforeColon := [' ']
  afterColon := ['\n', '\t']
  value
  beforeIsBlank := List.all_eq_true.mp rfl
  afterIsBlank := List.all_eq_true.mp rfl
  name
  denotes := denotes_escaped name.toList

private def objectText (members : List NamedMember) : List Char :=
  Layout.pretty.enclosed '\x7b' '\x7d' 0
    (members.map fun member => member.text)

private def listText (items : List (List Char)) : List Char :=
  Layout.compact.enclosed '[' ']' 0 items

/-- A session of which the last field comes first and the other filter is left
out. -/
private def sessionMembers : List NamedMember :=
  [spaced "out_filter" ['n', 'u', 'l', 'l'],
    spaced "source_ip" (quotedText "10.0.0.1"),
    spaced "peer_ip" (quotedText "10.0.0.2"), spaced "name" (quotedText "B")]

/-- A router with an unknown member. -/
private def routerMembers : List NamedMember :=
  [spaced "peers" (listText [objectText sessionMembers]),
    spaced "name" (quotedText "a"),
    spaced "x" (listText [['-', '1', '.', '5'], objectText []]),
    spaced "router_id" ['1']]

private theorem denotes_escapedKey :
    Denotes ['\\', 'u', '0', '0', '4', '2'] "B".toList := by
  have isZero : ('0', 0) ∈ hexDigits := by decide
  have isFour : ('4', 4) ∈ hexDigits := by decide
  have isTwo : ('2', 2) ∈ hexDigits := by decide
  have isCode := HexCode.digits isZero isZero isFour isTwo
  exact Denotes.code isCode (by decide) .done

/-- The key is `B` as well. -/
private def repeatedMember : NamedMember where
  key := ['\\', 'u', '0', '0', '4', '2']
  beforeColon := []
  afterColon := []
  value := listText [['9'], quotedText "c"]
  beforeIsBlank := isBlank_nil
  afterIsBlank := isBlank_nil
  name := "B"
  denotes := denotes_escapedKey

private def networkMembers : List NamedMember :=
  [repeatedMember,
    spaced "B" (listText [['2'], quotedText "b", listText [quotedText "$n$"]]),
    spaced "A" (objectText routerMembers)]

/-- A text with a key that comes twice, the first time with an escape, with
routers in both layouts and with an unknown member. -/
def sparseText : String :=
  String.ofList ([' '] ++ (objectText networkMembers ++ ['\n']))

private theorem recordOf_objectText {slots : List Slot}
    {members : List NamedMember} (covers : Covers slots members) :
    RecordOf slots (objectText members) :=
  .object covers (Layout.pretty.isEnclosed _ _ 0 _)

private theorem recordOf_listText {slots : List Slot} {texts : List (List Char)}
    (lists : Lists slots texts) : RecordOf slots (listText texts) :=
  .list lists (Layout.compact.isEnclosed _ _ 0 _)

private theorem sessionSpelled :
    RecordOf (Session.unfiltered "B" ⟨10, 0, 0, 2⟩ ⟨10, 0, 0, 1⟩).slots
      (objectText sessionMembers) := by
  apply recordOf_objectText
  apply Covers.of_names
  · simp only [Session.slots, List.forall_mem_cons]
    refine ⟨.inl ⟨_, rfl, textOf_quotedText _⟩, ?_⟩
    refine ⟨.inl ⟨_, rfl, textOf_quotedText "10.0.0.2"⟩, ?_⟩
    refine ⟨.inl ⟨_, rfl, textOf_quotedText "10.0.0.1"⟩, ?_⟩
    refine ⟨.inr ⟨rfl, by decide⟩, ?_⟩
    refine ⟨.inl ⟨_, rfl, rfl⟩, ?_⟩
    exact List.forall_mem_nil _
  · exact fun member isMember => .inl <| by
      revert member
      decide +kernel

private theorem unknownValue :
    IsValue (listText [['-', '1', '.', '5'], objectText []]) := by
  have one : IsDigits ['1'] := ⟨by decide, List.all_eq_true.mp rfl⟩
  have five : IsDigits ['5'] := ⟨by decide, List.all_eq_true.mp rfl⟩
  have isNumeral : IsNumeral (['-'] ++ (['1'] ++ (('.' :: ['5']) ++ []))) :=
    .parts (by decide) one (by decide) (.some five) .none
  have isObject : IsValue (objectText []) :=
    .object (Layout.pretty.isEnclosed _ _ 0 _) (List.forall_mem_nil _)
      (List.forall_mem_nil _)
  refine .list (Layout.compact.isEnclosed _ _ 0 _) ?_
  simp only [List.forall_mem_cons]
  exact ⟨.number isNumeral, isObject, List.forall_mem_nil _⟩

private theorem routerSpelled :
    RecordOf ({ Router.fresh "a" 1 with
      sessions := [.unfiltered "B" ⟨10, 0, 0, 2⟩ ⟨10, 0, 0, 1⟩] } :
        Router).slots (objectText routerMembers) := by
  apply recordOf_objectText
  apply Covers.of_names
  · simp only [Router.slots, List.forall_mem_cons]
    refine ⟨.inl ⟨_, rfl, rfl⟩, ?_⟩
    refine ⟨.inl ⟨_, rfl, textOf_quotedText _⟩, ?_⟩
    refine ⟨.inr ⟨rfl, by decide⟩, ?_⟩
    refine ⟨.inr ⟨rfl, by decide⟩, ?_⟩
    refine ⟨.inr ⟨rfl, by decide⟩, ?_⟩
    refine ⟨.inr ⟨rfl, by decide⟩, ?_⟩
    refine ⟨.inr ⟨rfl, by decide⟩, ?_⟩
    refine ⟨.inr ⟨rfl, by decide⟩, ?_⟩
    refine ⟨.inl ⟨_, rfl, ?_⟩, List.forall_mem_nil _⟩
    exact .list (.cons sessionSpelled .nil)
      (Layout.compact.isEnclosed _ _ 0 _)
  · simp only [routerMembers, List.forall_mem_cons]
    refine ⟨.inl (by decide +kernel), .inl (by decide +kernel), ?_⟩
    exact ⟨.inr unknownValue, .inl (by decide +kernel), List.forall_mem_nil _⟩

private theorem listSpelled :
    RecordOf ({ Router.fresh "b" 2 with networks := [.symbolic "$n$"] } :
        Router).slots
      (listText [['2'], quotedText "b", listText [quotedText "$n$"]]) := by
  apply recordOf_listText
  apply Lists.next rfl
  apply Lists.next (textOf_quotedText _)
  apply Lists.next
  · exact .list (.cons (textOf_quotedText _) .nil)
      (Layout.compact.isEnclosed _ _ 0 _)
  · apply Lists.omitted
    simp only [List.forall_mem_cons]
    exact ⟨rfl, rfl, rfl, rfl, rfl, rfl, List.forall_mem_nil _⟩

private theorem sparseSpelled : sparseNetwork.SpelledAs sparseText := by
  have readable : Router.codec.read.run repeatedMember.value =
      .ok (Router.fresh "c" 9, []) := by decide +kernel
  have entries : sparseNetwork.Entries networkMembers := by
    apply Entries.repeated (by decide) readable
    apply Entries.router (by decide +kernel) listSpelled
    exact Entries.router (by decide +kernel) routerSpelled .none
  have complete : ∀ key ∈ sparseNetwork.keys,
      key ∈ networkMembers.map NamedMember.name := by decide +kernel
  have enclosed : Enclosed '\x7b' '\x7d'
      (networkMembers.map fun member => member.text)
      (objectText networkMembers) := Layout.pretty.isEnclosed _ _ 0 _
  have beforeIsBlank : IsBlank [' '] := List.all_eq_true.mp rfl
  have afterIsBlank : IsBlank ['\n'] := List.all_eq_true.mp rfl
  exact .object entries complete enclosed beforeIsBlank afterIsBlank

/-- Two files with different texts of the network. -/
private def bothTexts : FileSystem where
  entries := [(["a"], .file sparseText.toUTF8),
    (["b"], .file (codec.compact sparseNetwork).toUTF8)]
  workingDirectory := []

private def exportOf (input : String) : CommandLine.Request where
  input
  representation := none
  settings := { naming := .concrete, outDirectory := "out" }

theorem read_spellings_sparse :
    (sparseNetwork.Unambiguous ∧ sparseNetwork.SpelledAs sparseText ∧
      sparseNetwork.SpelledAs (codec.compact sparseNetwork) ∧
      bothTexts.read "a" = .ok sparseText.toUTF8 ∧
      bothTexts.read "b" = .ok (codec.compact sparseNetwork).toUTF8) ∧
    ReadsAs sparseText sparseNetwork ∧
    runOn bothTexts (CommandLine.perform (exportOf "a")) =
      runOn bothTexts (CommandLine.perform (exportOf "b")) := by
  have unambiguous : sparseNetwork.Unambiguous := by decide +kernel
  have compact : sparseNetwork.SpelledAs (codec.compact sparseNetwork) :=
    spelledAs_write unambiguous .compact
  have firstReads : bothTexts.read "a" = .ok sparseText.toUTF8 := by
    have locates : bothTexts.locate "a" = .ok ["a"] := by decide +kernel
    rw [FileSystem.read, locates]
    rfl
  have secondReads : bothTexts.read "b" =
      .ok (codec.compact sparseNetwork).toUTF8 := by
    have locates : bothTexts.locate "b" = .ok ["b"] := by decide +kernel
    rw [FileSystem.read, locates]
    rfl
  obtain ⟨reads, same⟩ := read_spellings sparseNetwork unambiguous
  obtain ⟨_, sameRuns⟩ := same _ _ sparseSpelled compact
  exact ⟨⟨unambiguous, sparseSpelled, compact, firstReads, secondReads⟩,
    reads _ sparseSpelled,
    sameRuns bothTexts (exportOf "a") "a" "b" firstReads secondReads⟩

end Network

end BgpTestbed
