import BgpTestbed.Proofs.ConfigurationSections
import BgpTestbed.Proofs.LineReading

/-!
# Configurations with open names

A configuration and its template are made from the same list of lines, some of
which leave a name or an address open.  These are the line that names the
router, the address line of every interface and all lines of neighbors, and no
other line starts like one of them.
-/

namespace BgpTestbed

open Daemon Text

/-- A line of a configuration, which may leave open the name of the router or
the address at one end of a session. -/
inductive OpenLine where
  | fixed (line : String)
  | process
  | interface (session : Session)
  | neighbor (session : Session) (setting : String)
  deriving DecidableEq

namespace OpenLine

/-- The line with the name and the addresses as they are. -/
def concrete (router : Router) : OpenLine → String
  | fixed line => line
  | process => "router bgp " ++ router.name
  | interface session => " ip address " ++ session.localAddress.text ++ "/24"
  | neighbor session setting =>
      " neighbor " ++ session.peerAddress.text ++ " " ++ setting

/-- The line with placeholders. -/
def template (router : Router) : OpenLine → String
  | fixed line => line
  | process => "router bgp " ++ router.name ++ ".$router$"
  | interface session =>
      " ip address " ++ router.name ++ "." ++ session.peer ++ ".$sourceIP$/24"
  | neighbor session setting =>
      " neighbor " ++ router.name ++ "." ++ session.peer ++ ".$peerIP$ " ++
        setting

/-- The session whose interface the line gives an address. -/
def interface? : OpenLine → Option Session
  | interface session => some session
  | _ => none

/-- The session that the line is about, and what it sets. -/
def neighbor? : OpenLine → Option (Session × String)
  | neighbor session setting => some (session, setting)
  | _ => none

end OpenLine

/-- The settings that establish a session. -/
def Session.establishing (internal : List String) (session : Session) :
    List String :=
  ("remote-as " ++ session.peer) ::
    if session.peer ∈ internal then ["send-community both"] else []

/-- The settings that apply the filters of a session, one for each filter that
is not empty. -/
def Session.filtering (session : Session) : List String :=
  ((session.inFilter.toList.filter (· ≠ "")).map fun name =>
      "route-map " ++ name ++ " in") ++
    (session.outFilter.toList.filter (· ≠ "")).map fun name =>
      "route-map " ++ name ++ " out"

/-- The line does not start like one that leaves something open. -/
structure IsClosedLine (line : String) : Prop where
  notProcess : ¬ Opens "router bgp " line
  notInterface : ¬ Opens " ip address " line
  notNeighbor : ¬ Opens " neighbor " line

/-- Lines of the configuration of a router with all open ones in their
places. -/
structure Router.HasOpenLines (internal : List String) (router : Router)
    (lines : List OpenLine) : Prop where
  interfaces : ∀ index session, router.sessions[index]? = some session →
    lines[2 * index]? = some (.fixed ("interface eth" ++ toString index)) ∧
      lines[2 * index + 1]? = some (.interface session)
  noOtherInterface : lines.filterMap OpenLine.interface? = router.sessions
  process : lines.count .process = 1
  neighbors : lines.filterMap OpenLine.neighbor? =
    (router.sessions.flatMap fun session =>
      (session.establishing internal).map fun setting => (session, setting)) ++
    router.sessions.flatMap fun session =>
      session.filtering.map fun setting => (session, setting)
  closed : ∀ line, .fixed line ∈ lines → IsClosedLine line

namespace OpenLine

/-- The line as a naming shows it. -/
def shown (naming : Naming) (router : Router) : OpenLine → String
  | fixed line => line
  | process => "router bgp " ++ naming.router router
  | interface session =>
      " ip address " ++ naming.interfaceAddress router session
  | neighbor session setting =>
      " neighbor " ++ naming.peerAddress router session ++ " " ++ setting

section Shown

variable (naming : Naming) (router : Router) (session : Session)

@[simp] theorem shown_fixed (line : String) :
    shown naming router (fixed line) = line := rfl

@[simp] theorem shown_process :
    shown naming router process = "router bgp " ++ naming.router router := rfl

@[simp] theorem shown_interface :
    shown naming router (interface session) =
      " ip address " ++ naming.interfaceAddress router session := rfl

@[simp] theorem shown_neighbor (setting : String) :
    shown naming router (neighbor session setting) =
      " neighbor " ++ naming.peerAddress router session ++ " " ++ setting := rfl

end Shown

theorem shown_concrete (router : Router) :
    shown .concrete router = concrete router := by
  funext line
  cases line with
  | fixed line => rfl
  | process => rfl
  | interface session =>
      rw [shown_interface, Naming.interfaceAddress_concrete,
        ← String.append_assoc]
      rfl
  | neighbor session setting => rfl

theorem shown_placeholder (router : Router) :
    shown .placeholder router = template router := by
  funext line
  cases line with
  | fixed line => rfl
  | process => exact String.append_assoc.symm
  | interface session =>
      change _ = " ip address " ++ router.name ++ "." ++ session.peer ++
        ".$sourceIP$/24"
      rw [shown_interface, Naming.interfaceAddress_placeholder]
      simp only [String.append_assoc]
  | neighbor session setting =>
      have space : ".$peerIP$" ++ (" " ++ setting) = ".$peerIP$ " ++ setting :=
        String.append_assoc.symm
      change _ = " neighbor " ++ router.name ++ "." ++ session.peer ++
        ".$peerIP$ " ++ setting
      simp only [shown_neighbor, Naming.peerAddress, space,
        String.append_assoc]

theorem map_shown_fixed (naming : Naming) (router : Router)
    (lines : List String) :
    (lines.map fixed).map (shown naming router) = lines := by
  rw [List.map_map]
  exact List.map_id' _

theorem filterMap_fixed {α : Type} {select : OpenLine → Option α}
    (skips : ∀ line, select (.fixed line) = none) (lines : List String) :
    (lines.map fixed).filterMap select = [] := by
  rw [List.filterMap_map]
  exact List.filterMap_eq_nil_iff.mpr fun line _ => skips line

end OpenLine

namespace Router

variable (internal : List String) (router : Router)

def interfaceLines : List OpenLine :=
  router.sessions.zipIdx.flatMap fun (session, index) =>
    [.fixed ("interface eth" ++ toString index), .interface session]

/-- The lines between the name of the BGP process and its neighbors. -/
def processSettings : List String :=
  " no synchronization" ::
    (" bgp router-id " ++ (testbedRouterId router.id).text) ::
      router.networks.map fun declared => " network " ++ declared.text

def processLines : List OpenLine :=
  .process :: (router.processSettings.map .fixed ++
    (router.sessions.flatMap fun session =>
      (session.establishing internal).map (.neighbor session)) ++
    router.sessions.flatMap fun session =>
      session.filtering.map (.neighbor session))

/-- The lines of lists and route maps. -/
def policyLines : List String :=
  closedLines (router.prefixLists.map PrefixList.line) ++
    closedLines (router.communityLists.map CommunityList.line) ++
    closedLines (router.asPathLists.map AsPathList.line) ++
    closedLines (router.routeMaps.flatMap fun routeMap =>
      (entryOf router routeMap).lines)

/-- The separator behind the interfaces, if there are any. -/
def interfaceSeparator : List String :=
  if router.sessions.isEmpty then [] else ["!"]

def openLines : List OpenLine :=
  router.interfaceLines ++ router.interfaceSeparator.map .fixed ++
    router.processLines internal ++ ("!" :: router.policyLines).map .fixed

variable (naming : Naming)

private theorem map_shown_interfaceLines :
    router.interfaceLines.map (OpenLine.shown naming router) =
      (interfacesOf naming router).flatMap Interface.lines := by
  have name : "interface eth" = "interface " ++ "eth" := by simp
  simp only [interfaceLines, interfacesOf, List.map_flatMap, List.flatMap_map,
    Interface.lines, interfaceName, name, String.append_assoc,
    OpenLine.shown_fixed, OpenLine.shown_interface, List.map_cons,
    List.map_nil]

private theorem sessionLines_eq_shown (session : Session) :
    (neighborOf naming internal router session).sessionLines =
      (session.establishing internal).map fun setting =>
        OpenLine.shown naming router (.neighbor session setting) := by
  by_cases isInternal : session.peer ∈ internal <;>
    simp [Neighbor.sessionLines, neighborOf, Session.establishing,
      Neighbor.line, isInternal]

private theorem routeMapLines_eq_shown (session : Session) :
    (neighborOf naming internal router session).routeMapLines =
      session.filtering.map fun setting =>
        OpenLine.shown naming router (.neighbor session setting) := by
  have routeMap (rest : String) :
      " " ++ ("route-map " ++ rest) = " route-map " ++ rest :=
    String.append_assoc.symm
  simp only [routeMapLines_neighborOf, Session.filteringLines,
    Session.filtering, OpenLine.shown_neighbor, List.map_append,
    List.map_map, Function.comp_def, String.append_assoc, routeMap]

private theorem map_shown_processLines :
    (router.processLines internal).map (OpenLine.shown naming router) =
      (processOf naming internal router).lines := by
  simp only [processLines, processSettings, processOf, BgpProcess.lines,
    List.map_cons, List.map_append, List.map_flatMap, List.map_map,
    Function.comp_def, List.flatMap_map, sessionLines_eq_shown,
    routeMapLines_eq_shown]
  rfl

private theorem closedLines_interfaces :
    closedLines ((interfacesOf naming router).flatMap Interface.lines) =
      (interfacesOf naming router).flatMap Interface.lines ++
        router.interfaceSeparator := by
  rw [interfacesOf, List.flatMap_map, interfaceSeparator]
  cases router.sessions with
  | nil => rfl
  | cons session later => rfl

private theorem closedLines_process :
    closedLines (processOf naming internal router).lines =
      (processOf naming internal router).lines ++ ["!"] := rfl

/-- The naming decides nothing but what the lines leave open. -/
theorem map_shown_openLines :
    (router.openLines internal).map (OpenLine.shown naming router) =
      (Configuration.ofRouter naming internal router).lines := by
  have isShown : (router.openLines internal).map
      (OpenLine.shown naming router) =
        closedLines ((interfacesOf naming router).flatMap Interface.lines) ++
          (closedLines (processOf naming internal router).lines ++
            router.policyLines) := by
    rw [closedLines_interfaces, closedLines_process, openLines]
    simp only [List.map_append, OpenLine.map_shown_fixed,
      map_shown_interfaceLines, map_shown_processLines, List.append_assoc,
      List.singleton_append]
  rw [isShown]
  simp only [policyLines, Configuration.lines, Configuration.sectionLines,
    Configuration.ofRouter, List.flatMap_cons, List.flatMap_nil,
    List.flatMap_map, List.flatten_singleton, ← List.flatMap_def,
    ← List.map_eq_flatMap, List.append_nil, List.append_assoc]

private theorem getElem?_interfaceLines {sessions : List Session}
    {index : Nat} {session : Session} (isAt : sessions[index]? = some session)
    (start : Nat) (rest : List OpenLine) :
    let lines := ((sessions.zipIdx start).flatMap fun (session, index) =>
      [OpenLine.fixed ("interface eth" ++ toString index),
        .interface session]) ++ rest
    lines[2 * index]? =
        some (.fixed ("interface eth" ++ toString (start + index))) ∧
      lines[2 * index + 1]? = some (.interface session) := by
  induction sessions generalizing index start with
  | nil => cases isAt
  | cons first later ih =>
      rw [List.zipIdx_cons, List.flatMap_cons]
      cases index with
      | zero =>
          cases isAt
          exact ⟨rfl, rfl⟩
      | succ index =>
          have next : start + (index + 1) = start + 1 + index := by omega
          rw [next]
          exact ih isAt (start + 1)

/-- The lines of interfaces come first, two for each session. -/
private theorem getElem?_openLines {index : Nat} {session : Session}
    (isAt : router.sessions[index]? = some session) :
    (router.openLines internal)[2 * index]? =
        some (.fixed ("interface eth" ++ toString index)) ∧
      (router.openLines internal)[2 * index + 1]? =
        some (.interface session) := by
  have inFront := getElem?_interfaceLines isAt 0
    (router.interfaceSeparator.map .fixed ++
      (router.processLines internal ++
        ("!" :: router.policyLines).map .fixed))
  rw [Nat.zero_add] at inFront
  rw [openLines, List.append_assoc, List.append_assoc]
  exact inFront

/-- What is selected among all lines stands in those of interfaces and of the
BGP process. -/
private theorem filterMap_openLines {α : Type} {select : OpenLine → Option α}
    (skips : ∀ line, select (.fixed line) = none) :
    (router.openLines internal).filterMap select =
      router.interfaceLines.filterMap select ++
        (router.processLines internal).filterMap select := by
  rw [openLines, List.filterMap_append, List.filterMap_append,
    List.filterMap_append, OpenLine.filterMap_fixed skips,
    OpenLine.filterMap_fixed skips, List.append_nil, List.append_nil]

private theorem filterMap_interface_openLines :
    (router.openLines internal).filterMap OpenLine.interface? =
      router.sessions := by
  have inInterfaces : router.interfaceLines.filterMap OpenLine.interface? =
      router.sessions := by
    rw [interfaceLines, List.filterMap_flatMap]
    change router.sessions.zipIdx.flatMap (fun entry => [entry.1]) = _
    rw [← List.map_eq_flatMap, List.zipIdx_map_fst]
  have noNeighbors (session : Session) (settings : List String) :
      (settings.map (.neighbor session)).filterMap OpenLine.interface? =
        [] := by
    rw [List.filterMap_map]
    exact List.filterMap_eq_nil_iff.mpr fun _ _ => rfl
  have inProcess :
      (router.processLines internal).filterMap OpenLine.interface? = [] := by
    rw [processLines, List.filterMap_cons_none rfl, List.filterMap_append,
      List.filterMap_append, OpenLine.filterMap_fixed fun _ => rfl]
    simp [List.filterMap_flatMap, noNeighbors]
  rw [filterMap_openLines _ _ fun _ => rfl, inInterfaces, inProcess,
    List.append_nil]

private theorem filterMap_neighbor_openLines :
    (router.openLines internal).filterMap OpenLine.neighbor? =
      (router.sessions.flatMap fun session =>
        (session.establishing internal).map fun setting =>
          (session, setting)) ++
      router.sessions.flatMap fun session =>
        session.filtering.map fun setting => (session, setting) := by
  have inInterfaces :
      router.interfaceLines.filterMap OpenLine.neighbor? = [] := by
    simp [interfaceLines, List.filterMap_flatMap, OpenLine.neighbor?]
  have areNeighbors (session : Session) (settings : List String) :
      (settings.map (.neighbor session)).filterMap OpenLine.neighbor? =
        settings.map fun setting => (session, setting) := by
    rw [List.filterMap_map]
    exact congrFun List.filterMap_eq_map settings
  rw [filterMap_openLines _ _ fun _ => rfl, inInterfaces, List.nil_append,
    processLines, List.filterMap_cons_none rfl, List.filterMap_append,
    List.filterMap_append, OpenLine.filterMap_fixed fun _ => rfl,
    List.nil_append]
  simp only [List.filterMap_flatMap, areNeighbors]

private theorem count_process_openLines :
    (router.openLines internal).count .process = 1 := by
  have notFixed (lines : List String) :
      (lines.map OpenLine.fixed).count OpenLine.process = 0 := by
    simp [List.count_eq_zero]
  have inInterfaces : router.interfaceLines.count OpenLine.process = 0 := by
    simp [List.count_eq_zero, interfaceLines]
  have inNeighbors (settings : Session → List String) :
      (router.sessions.flatMap fun session =>
        (settings session).map (OpenLine.neighbor session)).count
          OpenLine.process = 0 := by
    simp [List.count_eq_zero]
  simp only [openLines, processLines, List.count_append, List.count_cons_self,
    notFixed, inInterfaces, inNeighbors]

/-- Only the start of a line matters. -/
theorem isClosedLine_append {opening : String}
    (apart : Apart "router bgp " opening ∧ Apart " ip address " opening ∧
      Apart " neighbor " opening) (rest : String) :
    IsClosedLine (opening ++ rest) where
  notProcess := not_opens_append apart.1 rest
  notInterface := not_opens_append apart.2.1 rest
  notNeighbor := not_opens_append apart.2.2 rest

theorem isClosedLine_separator : IsClosedLine "!" := by
  constructor <;> decide

private theorem isClosedLine_of_mem_closedLines {lines : List String}
    (closed : ∀ line ∈ lines, IsClosedLine line) :
    ∀ line ∈ closedLines lines, IsClosedLine line := by
  rw [closedLines]
  split
  · exact List.forall_mem_nil _
  · rw [List.forall_mem_append]
    exact ⟨closed, List.forall_mem_singleton.mpr isClosedLine_separator⟩

private theorem isClosedLine_of_mem_entry {entry : RouteMapEntry} :
    ∀ line ∈ entry.lines, IsClosedLine line := by
  simp only [RouteMapEntry.lines, RouteMapEntry.matchLines,
    RouteMapEntry.setLines, List.forall_mem_cons, List.forall_mem_append,
    List.forall_mem_map, String.append_assoc]
  refine ⟨isClosedLine_append (by decide) _, ⟨⟨?_, ?_⟩, ?_⟩, ⟨?_, ?_⟩, ?_⟩
  all_goals exact fun _ _ => isClosedLine_append (by decide) _

private theorem isClosedLine_of_mem_policyLines :
    ∀ line ∈ router.policyLines, IsClosedLine line := by
  simp only [policyLines, List.forall_mem_append]
  refine ⟨⟨⟨?_, ?_⟩, ?_⟩, ?_⟩
  all_goals apply isClosedLine_of_mem_closedLines
  · rw [List.forall_mem_map]
    intro list _
    unfold PrefixList.line
    simp only [String.append_assoc]
    exact isClosedLine_append (by decide) _
  · rw [List.forall_mem_map]
    intro list _
    unfold CommunityList.line
    simp only [String.append_assoc]
    exact isClosedLine_append (by decide) _
  · rw [List.forall_mem_map]
    intro list _
    unfold AsPathList.line
    simp only [String.append_assoc]
    exact isClosedLine_append (by decide) _
  · rw [List.forall_mem_flatMap]
    exact fun _ _ => isClosedLine_of_mem_entry

private theorem isClosedLine_of_mem_processSettings :
    ∀ line ∈ router.processSettings, IsClosedLine line := by
  simp only [processSettings, List.forall_mem_cons, List.forall_mem_map]
  refine ⟨?_, isClosedLine_append (by decide) _,
    fun _ _ => isClosedLine_append (by decide) _⟩
  constructor <;> decide

private theorem isClosedLine_of_mem_openLines {line : String}
    (member : .fixed line ∈ router.openLines internal) : IsClosedLine line := by
  simp only [openLines, interfaceLines, processLines, interfaceSeparator,
    List.mem_append, List.mem_cons, List.mem_map, List.mem_flatMap,
    OpenLine.fixed.injEq, exists_eq_right, reduceCtorEq, false_or, and_false,
    exists_false, or_false, Prod.exists, List.not_mem_nil] at member
  rcases member with ((isName | isSeparator) | isSetting) | isSeparator | isPolicy
  · obtain ⟨_, index, _, rfl⟩ := isName
    exact isClosedLine_append (by decide) _
  · split at isSeparator
    · cases isSeparator
    · rw [List.mem_singleton.mp isSeparator]
      exact isClosedLine_separator
  · exact router.isClosedLine_of_mem_processSettings line isSetting
  · rw [isSeparator]
    exact isClosedLine_separator
  · exact router.isClosedLine_of_mem_policyLines line isPolicy

theorem hasOpenLines :
    router.HasOpenLines internal (router.openLines internal) where
  interfaces _ _ isAt := router.getElem?_openLines internal isAt
  noOtherInterface := router.filterMap_interface_openLines internal
  process := router.count_process_openLines internal
  neighbors := router.filterMap_neighbor_openLines internal
  closed _ member := router.isClosedLine_of_mem_openLines internal member

theorem process_mem_openLines : .process ∈ router.openLines internal := by
  rw [← List.count_pos_iff, (router.hasOpenLines internal).process]
  exact Nat.one_pos

theorem interface_mem_openLines_iff (session : Session) :
    .interface session ∈ router.openLines internal ↔
      session ∈ router.sessions := by
  rw [← (router.hasOpenLines internal).noOtherInterface, List.mem_filterMap]
  constructor
  · exact fun member => ⟨_, member, rfl⟩
  · rintro ⟨line, member, isInterface⟩
    cases line <;> cases isInterface
    exact member

theorem neighbor_mem_openLines_iff (session : Session) (setting : String) :
    .neighbor session setting ∈ router.openLines internal ↔
      session ∈ router.sessions ∧ (setting ∈ session.establishing internal ∨
        setting ∈ session.filtering) := by
  have isLine : .neighbor session setting ∈ router.openLines internal ↔
      (session, setting) ∈
        (router.openLines internal).filterMap OpenLine.neighbor? := by
    rw [List.mem_filterMap]
    constructor
    · exact fun member => ⟨_, member, rfl⟩
    · rintro ⟨line, member, isNeighbor⟩
      cases line <;> cases isNeighbor
      exact member
  rw [isLine, (router.hasOpenLines internal).neighbors]
  simp only [List.mem_append, List.mem_flatMap, List.mem_map, Prod.mk.injEq]
  constructor
  · rintro (⟨_, listed, _, isSetting, rfl, rfl⟩ |
      ⟨_, listed, _, isSetting, rfl, rfl⟩)
    · exact ⟨listed, .inl isSetting⟩
    · exact ⟨listed, .inr isSetting⟩
  · rintro ⟨listed, isSetting | isSetting⟩
    · exact .inl ⟨session, listed, setting, isSetting, rfl, rfl⟩
    · exact .inr ⟨session, listed, setting, isSetting, rfl, rfl⟩

theorem splitAtNewlines_configuration
    (noNewline : LacksIn '\n' router.strings) (naming : Naming) :
    splitAtNewlines (router.configuration naming internal) =
      (router.openLines internal).map (OpenLine.shown naming router) ++
        [""] := by
  have lacks : LacksIn '\n'
      (Configuration.ofRouter naming internal router).lines :=
    router.lacksIn_configuration (by decide) internal noNewline
  rw [router.configuration_eq_ofLines, splitAtNewlines_ofLines lacks,
    map_shown_openLines]

end Router

end BgpTestbed
