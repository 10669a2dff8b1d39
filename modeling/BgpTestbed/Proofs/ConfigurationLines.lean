import Mathlib.Algebra.Group.Nat.Defs
import BgpTestbed.Daemon.Configuration

/-!
# The lines of a configuration

A configuration is a text made of lines.  Its sections follow one another, and
the lines of every block of a section stand together in it.
-/

namespace BgpTestbed

namespace Text

theorem ofLines_flatten (blocks : List (List String)) :
    ofLines blocks.flatten = String.join (blocks.map ofLines) := by
  induction blocks with
  | nil => rfl
  | cons block later ih =>
      rw [List.flatten_cons, ofLines_append, ih, List.map_cons,
        String.join_cons]

theorem ofLines_eq_empty_iff (lines : List String) :
    ofLines lines = "" ↔ lines = [] := by
  cases lines with
  | nil => simp [ofLines_nil]
  | cons line later => simp [ofLines_cons, String.append_eq_empty_iff]

/-- The text is made of lines, among which the given ones stand together. -/
def HasLines (text : String) (block : List String) : Prop :=
  ∃ lines, text = ofLines lines ∧ block <:+: lines

end Text

namespace Daemon

/-- The lines of a section with the separator line, if there are any. -/
def closedLines (lines : List String) : List String :=
  if lines.isEmpty then [] else lines ++ ["!"]

theorem sectionText_eq_ofLines (blocks : List (List String)) :
    sectionText (blocks.map Text.ofLines) =
      Text.ofLines (closedLines blocks.flatten) := by
  rw [sectionText, ← Text.ofLines_flatten, closedLines]
  by_cases isEmpty : blocks.flatten = []
  · simp [isEmpty, Text.ofLines_nil]
  · have hasText : Text.ofLines blocks.flatten ≠ "" := by
      rwa [ne_eq, Text.ofLines_eq_empty_iff]
    simp only [String.isEmpty_iff, hasText, List.isEmpty_iff, isEmpty,
      ite_false, Text.ofLines_append]
    rfl

namespace Configuration

/-- All lines of a configuration, section by section. -/
def lines (configuration : Configuration) : List String :=
  configuration.sectionLines.flatMap fun blocks =>
    closedLines blocks.flatten

theorem text_eq_ofLines (configuration : Configuration) :
    configuration.text = Text.ofLines configuration.lines := by
  have sectionTexts : configuration.sections.blocks.map sectionText =
      (configuration.sectionLines.map fun blocks =>
        closedLines blocks.flatten).map Text.ofLines := by
    simp only [sections, List.map_map]
    exact List.map_congr_left fun blocks _ => sectionText_eq_ofLines blocks
  rw [text, Sections.text, sectionTexts, ← Text.ofLines_flatten]
  rfl

theorem block_infix_lines {configuration : Configuration}
    {blocks : List (List String)} {block : List String}
    (isSection : blocks ∈ configuration.sectionLines)
    (isBlock : block ∈ blocks) :
    block <:+: configuration.lines := by
  have inSection : block <:+: blocks.flatten :=
    List.infix_of_mem_flatten isBlock
  have inClosed : blocks.flatten <:+: closedLines blocks.flatten := by
    rw [closedLines]
    split
    case isTrue isEmpty =>
      simp [List.isEmpty_iff.mp isEmpty]
    case isFalse => exact (List.prefix_append _ _).isInfix
  have inLines : closedLines blocks.flatten <:+: configuration.lines :=
    List.infix_of_mem_flatten (List.mem_map.mpr ⟨blocks, isSection, rfl⟩)
  exact (inSection.trans inClosed).trans inLines

end Configuration

end Daemon

theorem testbedRouterId_octets (id : UInt32) :
    (testbedRouterId id).second.toNat = id.toNat / 2 ^ 16 % 2 ^ 8 ∧
      (testbedRouterId id).third.toNat = id.toNat / 2 ^ 8 % 2 ^ 8 ∧
      (testbedRouterId id).fourth.toNat = id.toNat % 2 ^ 8 := by
  refine ⟨?_, ?_, ?_⟩ <;>
    simp [testbedRouterId, Nat.shiftRight_eq_div_pow]

theorem testbedRouterId_toNat (id : UInt32) :
    id.toNat % 16777216 =
      (testbedRouterId id).second.toNat * 65536 +
        (testbedRouterId id).third.toNat * 256 +
        (testbedRouterId id).fourth.toNat := by
  obtain ⟨second, third, fourth⟩ := testbedRouterId_octets id
  omega

/-- The testbed tells IDs apart by their lower three octets only. -/
theorem testbedRouterId_eq_iff (first second : UInt32) :
    testbedRouterId first = testbedRouterId second ↔
      first.toNat % 2 ^ 24 = second.toNat % 2 ^ 24 := by
  constructor
  · intro same
    calc first.toNat % 2 ^ 24
        = (testbedRouterId first).second.toNat * 65536 +
            (testbedRouterId first).third.toNat * 256 +
            (testbedRouterId first).fourth.toNat := testbedRouterId_toNat first
      _ = (testbedRouterId second).second.toNat * 65536 +
            (testbedRouterId second).third.toNat * 256 +
            (testbedRouterId second).fourth.toNat := by rw [same]
      _ = second.toNat % 2 ^ 24 := (testbedRouterId_toNat second).symm
  · intro same
    obtain ⟨firstSecond, firstThird, firstFourth⟩ :=
      testbedRouterId_octets first
    obtain ⟨otherSecond, otherThird, otherFourth⟩ :=
      testbedRouterId_octets second
    rw [Address.mk.injEq]
    refine ⟨rfl, UInt8.toNat_inj.mp ?_, UInt8.toNat_inj.mp ?_,
      UInt8.toNat_inj.mp ?_⟩
    · omega
    · omega
    · omega

namespace Naming

variable (router : Router) (session : Session)

/-- All interfaces show the same length behind their addresses. -/
theorem interfaceAddress_concrete :
    concrete.interfaceAddress router session =
      session.localAddress.text ++ "/24" := by
  have length : "/" ++ toString peeringLength = "/24" := rfl
  rw [interfaceAddress, String.append_assoc, length]
  rfl

theorem interfaceAddress_placeholder :
    placeholder.interfaceAddress router session =
      router.name ++ "." ++ session.peer ++ ".$sourceIP$/24" := by
  have length : ".$sourceIP$" ++ ("/" ++ toString peeringLength) =
      ".$sourceIP$/24" := rfl
  rw [interfaceAddress, localAddress, String.append_assoc, String.append_assoc,
    length]

end Naming

namespace Router

open Daemon

variable (naming : Naming) (internal : List String) (router : Router)

theorem configuration_eq_ofLines :
    router.configuration naming internal =
      Text.ofLines (Configuration.ofRouter naming internal router).lines :=
  Configuration.text_eq_ofLines _

/-- Every session has an interface with its local address. -/
theorem configuration_hasLines_interface {index : Nat} {session : Session}
    (isAt : router.sessions[index]? = some session) :
    Text.HasLines (router.configuration naming internal)
      ["interface " ++ interfaceName index,
        " ip address " ++ naming.interfaceAddress router session] := by
  refine ⟨_, router.configuration_eq_ofLines naming internal, ?_⟩
  have inSessions : (session, index) ∈ router.sessions.zipIdx :=
    List.mk_mem_zipIdx_iff_getElem?.mpr isAt
  have isInterface := List.mem_map_of_mem
    (f := fun entry => Interface.mk (interfaceName entry.2)
      [naming.interfaceAddress router entry.1]) inSessions
  exact Configuration.block_infix_lines List.mem_cons_self
    (List.mem_map_of_mem isInterface)

theorem process_infix_lines :
    (processOf naming internal router).lines <:+:
      (Configuration.ofRouter naming internal router).lines :=
  Configuration.block_infix_lines
    (List.mem_cons_of_mem _ List.mem_cons_self) List.mem_cons_self

theorem configuration_hasLines_name :
    Text.HasLines (router.configuration naming internal)
      ["router bgp " ++ naming.router router] := by
  refine ⟨_, router.configuration_eq_ofLines naming internal, ?_⟩
  have isFirst : ["router bgp " ++ naming.router router] <:+:
      (processOf naming internal router).lines :=
    (List.prefix_append _ _).isInfix
  exact isFirst.trans (router.process_infix_lines naming internal)

/-- The lines that establish the sessions stand together, session by
session. -/
theorem configuration_hasLines_sessions :
    Text.HasLines (router.configuration naming internal)
      (router.sessions.flatMap fun session =>
        (neighborOf naming internal router session).sessionLines) := by
  refine ⟨_, router.configuration_eq_ofLines naming internal, ?_⟩
  have inProcess : (router.sessions.flatMap fun session =>
      (neighborOf naming internal router session).sessionLines) <:+:
        (processOf naming internal router).lines := by
    simp only [BgpProcess.lines, processOf, List.flatMap_map]
    exact List.infix_append _ _ _
  exact inProcess.trans (router.process_infix_lines naming internal)

/-- The lines that establish a session; the second one is for internal peers
only. -/
theorem sessionLines_neighborOf (session : Session) :
    (neighborOf naming internal router session).sessionLines =
      (" neighbor " ++ naming.peerAddress router session ++ " remote-as " ++
          session.peer) ::
        if session.peer ∈ internal then
          [" neighbor " ++ naming.peerAddress router session ++
            " send-community both"]
        else [] := by
  have remoteAs : " remote-as " = " " ++ "remote-as " := rfl
  have sendCommunity : " send-community both" =
      " " ++ "send-community both" := rfl
  simp only [Neighbor.sessionLines, Neighbor.line, neighborOf,
    Option.toList_some, List.map_cons, List.map_nil, List.cons_append,
    List.nil_append, List.contains_iff_mem, remoteAs, sendCommunity,
    String.append_assoc]

theorem configuration_hasLines_session {session : Session}
    (member : session ∈ router.sessions) :
    Text.HasLines (router.configuration naming internal)
      (neighborOf naming internal router session).sessionLines := by
  obtain ⟨lines, isText, inLines⟩ :=
    router.configuration_hasLines_sessions naming internal
  refine ⟨lines, isText, List.IsInfix.trans ?_ inLines⟩
  exact List.infix_of_mem_flatten (List.mem_map_of_mem member)

end Router

end BgpTestbed
