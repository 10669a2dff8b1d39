import BgpTestbed.Proofs.RouterStrings

/-!
# Sections of a configuration

A configuration is made of blocks of lines, and a line with an exclamation
mark follows each of them.  A block stands there only if it has lines, so a
reader who splits the text at newlines and the lines at separators gets the
blocks back.
-/

namespace BgpTestbed

section Pieces

variable {α : Type} {separator : α} {pieces : List (List α)}

/-- The pieces with a separator behind each of them. -/
def terminated (separator : α) (pieces : List (List α)) : List α :=
  pieces.flatMap (· ++ [separator])

theorem terminated_append (pieces more : List (List α)) :
    terminated separator (pieces ++ more) =
      terminated separator pieces ++ terminated separator more :=
  List.flatMap_append

theorem getLast?_terminated (pieces : List (List α)) :
    (terminated separator pieces).getLast? =
      if pieces.isEmpty then none else some separator := by
  rcases List.eq_nil_or_concat pieces with rfl | ⟨front, last, rfl⟩
  · rfl
  · rw [List.concat_eq_append, terminated_append]
    simp [terminated]

/-- The first piece has something to start with. -/
theorem head?_terminated_ne (lacks : ∀ piece ∈ pieces, separator ∉ piece)
    (notEmpty : [] ∉ pieces) :
    (terminated separator pieces).head? ≠ some separator := by
  cases pieces with
  | nil => simp [terminated]
  | cons piece later =>
      cases piece with
      | nil => exact absurd List.mem_cons_self notEmpty
      | cons first rest =>
          intro isFirst
          apply lacks _ List.mem_cons_self
          have same : first = separator := by simpa [terminated] using isFirst
          rw [same]
          exact List.mem_cons_self

variable [DecidableEq α]

theorem splitOn_terminated (lacks : ∀ piece ∈ pieces, separator ∉ piece) :
    (terminated separator pieces).splitOn separator = pieces ++ [[]] := by
  induction pieces with
  | nil => exact List.splitOn_nil separator
  | cons piece later ih =>
      obtain ⟨lacksHere, lacksLater⟩ := List.forall_mem_cons.mp lacks
      calc (terminated separator (piece :: later)).splitOn separator
          = (piece ++ separator :: terminated separator later).splitOn
              separator := by
            simp [terminated]
        _ = piece :: (later ++ [[]]) := by
            rw [List.splitOn_append_cons_self_of_not_mem lacksHere,
              ih lacksLater]

theorem count_terminated (lacks : ∀ piece ∈ pieces, separator ∉ piece) :
    (terminated separator pieces).count separator = pieces.length := by
  induction pieces with
  | nil => rfl
  | cons piece later ih =>
      obtain ⟨lacksHere, lacksLater⟩ := List.forall_mem_cons.mp lacks
      have noneHere := List.count_eq_zero.mpr lacksHere
      have inLater := ih lacksLater
      rw [terminated] at inLater
      rw [terminated, List.flatMap_cons, List.count_append, List.count_append,
        inLater, noneHere, List.count_singleton_self, List.length_cons]
      omega

/-- Between two adjacent separators an empty piece would stand. -/
theorem not_adjacent_of_splitOn {items : List α}
    (splits : items.splitOn separator = pieces ++ [[]])
    (notEmpty : [] ∉ pieces) (front rest : List α) :
    items ≠ front ++ separator :: separator :: rest := by
  rintro rfl
  have parts : pieces ++ [[]] = front.splitOn separator ++
      [] :: rest.splitOn separator := by
    rw [← splits, List.splitOn_append_cons_self]
    exact congrArg _ (List.splitOn_append_cons_self [] rest)
  have arePieces := congrArg List.dropLast parts
  rw [List.dropLast_concat, List.dropLast_append_cons,
    List.dropLast_cons_of_ne_nil (List.splitOn_ne_nil _ _)] at arePieces
  apply notEmpty
  rw [arePieces]
  simp

end Pieces

namespace Text

/-- The parts of a text between newlines. -/
def splitAtNewlines (text : String) : List String :=
  (text.toList.splitOn '\n').map String.ofList

/-- Every line ends with a newline, and nothing follows the last one. -/
theorem splitAtNewlines_ofLines {lines : List String}
    (lacks : LacksIn '\n' lines) :
    splitAtNewlines (ofLines lines) = lines ++ [""] := by
  have characters : (ofLines lines).toList =
      terminated '\n' (lines.map String.toList) := by
    simp [ofLines, terminated, List.flatMap_map]
  have lacksNewline : ∀ line ∈ lines.map String.toList, '\n' ∉ line :=
    List.forall_mem_map.mpr lacks
  rw [splitAtNewlines, characters, splitOn_terminated lacksNewline,
    List.map_append, List.map_map]
  simp [Function.comp_def]

/-- The line starts with something other than a separator. -/
def Opened (line : String) : Prop :=
  ∃ first ∈ line.toList.head?, first ≠ '!'

instance (line : String) : Decidable (Opened line) :=
  Option.decidableExistsMem line.toList.head?

theorem Opened.append {line : String} (opened : Opened line) (rest : String) :
    Opened (line ++ rest) := by
  obtain ⟨first, isFirst, differs⟩ := opened
  refine ⟨first, ?_, differs⟩
  rw [String.toList_append, List.head?_append, Option.mem_def.mp isFirst]
  rfl

theorem Opened.ne_separator {line : String} (opened : Opened line) :
    line ≠ "!" := by
  rintro rfl
  exact absurd opened (by decide)

end Text

open Daemon Text

/-- The lines of some items as one block, which only exists if there are
items. -/
def blockOf {α : Type} (items : List α) (linesOf : α → List String) :
    List (List String) :=
  if items.isEmpty then [] else [items.flatMap linesOf]

/-- The lines that establish a session. -/
def Session.establishingLines (internal : List String) (address : String)
    (session : Session) : List String :=
  (" neighbor " ++ address ++ " remote-as " ++ session.peer) ::
    if session.peer ∈ internal then
      [" neighbor " ++ address ++ " send-community both"]
    else []

/-- The lines that apply the filters of a session, one for each filter that is
not empty. -/
def Session.filteringLines (address : String) (session : Session) :
    List String :=
  ((session.inFilter.toList.filter (· ≠ "")).map fun name =>
      " neighbor " ++ address ++ " route-map " ++ name ++ " in") ++
    (session.outFilter.toList.filter (· ≠ "")).map fun name =>
      " neighbor " ++ address ++ " route-map " ++ name ++ " out"

namespace Router

variable (naming : Naming) (internal : List String) (router : Router)

/-- The block of the BGP process: no filter is applied to any session before
all sessions are established. -/
def processBlock : List String :=
  ["router bgp " ++ naming.router router, " no synchronization",
    " bgp router-id " ++ (testbedRouterId router.id).text] ++
  (router.networks.map fun declared => " network " ++ declared.text) ++
  (router.sessions.flatMap fun session =>
    session.establishingLines internal (naming.peerAddress router session)) ++
  router.sessions.flatMap fun session =>
    session.filteringLines (naming.peerAddress router session)

/-- The blocks of a configuration in order. -/
def blocks : List (List String) :=
  (blockOf router.sessions.zipIdx fun (session, index) =>
    ["interface eth" ++ toString index,
      " ip address " ++ naming.interfaceAddress router session]) ++
  [router.processBlock naming internal] ++
  (blockOf router.prefixLists fun list =>
    ["ip prefix-list " ++ list.name ++ " " ++ list.action.text ++ " " ++
      list.pattern]) ++
  (blockOf router.communityLists fun list =>
    ["ip community-list standard " ++ list.name ++ " " ++ list.action.text ++
      " " ++ " ".intercalate list.communities]) ++
  (blockOf router.asPathLists fun list =>
    ["ip as-path access-list " ++ list.name ++ " " ++ list.action.text ++
      " " ++ list.regex]) ++
  blockOf router.routeMaps fun routeMap =>
    ("route-map " ++ routeMap.name ++ " permit " ++
        toString routeMap.priority.toNat) ::
      ((entryOf router routeMap).matchLines ++
        (entryOf router routeMap).setLines)

/-- Lines that are the blocks of a configuration with separators behind
them. -/
structure HasSections (lines : List String) : Prop where
  separators : lines.count "!" = 1 +
    [router.sessions.isEmpty, router.prefixLists.isEmpty,
      router.communityLists.isEmpty, router.asPathLists.isEmpty,
      router.routeMaps.isEmpty].count false
  endsSeparated : lines.getLast? = some "!"
  startsWithBlock : lines.head? ≠ some "!"
  notAdjacent : ∀ front rest, lines ≠ front ++ "!" :: "!" :: rest
  blocks : lines.splitOn "!" = router.blocks naming internal ++ [[]]

/-- The lines that apply the filters of a session. -/
theorem routeMapLines_neighborOf (session : Session) :
    (neighborOf naming internal router session).routeMapLines =
      session.filteringLines (naming.peerAddress router session) := by
  have isNamed : (fun name : String => !name.isEmpty) = (· ≠ "") := by
    funext name
    rw [Bool.eq_iff_iff]
    simp
  have opening : " route-map " = " " ++ "route-map " := rfl
  simp only [Neighbor.routeMapLines, Neighbor.line, neighborOf,
    Session.filteringLines, Session.routeMapIn, Session.routeMapOut,
    Option.toList_filter, isNamed, opening, String.append_assoc]

private theorem lines_processOf :
    (processOf naming internal router).lines =
      router.processBlock naming internal := by
  simp only [processBlock, processOf, BgpProcess.lines, List.flatMap_map,
    List.map_map, sessionLines_neighborOf, routeMapLines_neighborOf]
  rfl

/-- A section with at least one line for each item is closed exactly if it has
items. -/
private theorem closedLines_eq_terminated {α : Type} (items : List α)
    (linesOf : α → List String) (notEmpty : ∀ item, linesOf item ≠ []) :
    closedLines (items.map linesOf).flatten =
      terminated "!" (blockOf items linesOf) := by
  rw [← List.flatMap_def, closedLines, blockOf]
  cases items with
  | nil => rfl
  | cons item later =>
      have hasLines : linesOf item ++ later.flatMap linesOf ≠ [] := by
        simp [notEmpty]
      simp [terminated, notEmpty]

theorem lines_ofRouter_eq_terminated :
    (Configuration.ofRouter naming internal router).lines =
      terminated "!" (router.blocks naming internal) := by
  have interfaces : closedLines
      ((interfacesOf naming router).map Interface.lines).flatten =
        terminated "!" (blockOf router.sessions.zipIdx
          fun (session, index) =>
            ["interface eth" ++ toString index,
              " ip address " ++ naming.interfaceAddress router session]) := by
    have name : "interface eth" = "interface " ++ "eth" := by simp
    rw [← closedLines_eq_terminated _ _ (by simp), interfacesOf, List.map_map]
    simp only [Interface.lines, interfaceName, name, String.append_assoc,
      Function.comp_def, List.map_cons, List.map_nil]
  have process : closedLines
      [(processOf naming internal router).lines].flatten =
        terminated "!" [router.processBlock naming internal] := by
    rw [List.flatten_singleton, router.lines_processOf naming internal]
    simp [closedLines, terminated, processBlock]
  have routeMaps : closedLines
      ((router.routeMaps.map (entryOf router)).map
        RouteMapEntry.lines).flatten =
        terminated "!" (blockOf router.routeMaps fun routeMap =>
          (entryOf router routeMap).lines) := by
    rw [← closedLines_eq_terminated _ _ (by simp [RouteMapEntry.lines]),
      List.map_map]
    rfl
  have singles {α : Type} (items : List α) (line : α → String) :
      closedLines (items.map fun item => [line item]).flatten =
        terminated "!" (blockOf items fun item => [line item]) :=
    closedLines_eq_terminated items _ fun _ => List.cons_ne_nil _ _
  simp only [blocks, terminated_append, Configuration.lines,
    Configuration.sectionLines, Configuration.ofRouter, List.flatMap_cons,
    List.flatMap_nil, List.append_nil, interfaces, process, routeMaps,
    singles, List.append_assoc]
  rfl

/-- A block has lines, and none of them is a separator. -/
def IsOpenedBlock (block : List String) : Prop :=
  block ≠ [] ∧ ∀ line ∈ block, Opened line

private theorem isOpenedBlock_of_mem_blockOf {α : Type} {items : List α}
    {linesOf : α → List String} (opened : ∀ item, IsOpenedBlock (linesOf item))
    {block : List String} (member : block ∈ blockOf items linesOf) :
    IsOpenedBlock block := by
  cases items with
  | nil => cases member
  | cons item later =>
      rw [List.mem_singleton.mp member]
      constructor
      · simp [(opened item).1]
      · rw [List.forall_mem_flatMap]
        exact fun other _ => (opened other).2

private theorem isOpenedBlock_processBlock :
    IsOpenedBlock (router.processBlock naming internal) := by
  constructor
  · simp [processBlock]
  · simp only [processBlock, Session.establishingLines,
      Session.filteringLines, List.forall_mem_append, List.forall_mem_cons,
      List.forall_mem_map, List.forall_mem_flatMap, String.append_assoc]
    have neighbor : ∀ rest, Opened (" neighbor " ++ rest) :=
      Opened.append (by decide)
    refine ⟨⟨⟨⟨?_, ?_, ?_, List.forall_mem_nil _⟩, ?_⟩, ?_⟩, ?_⟩
    · exact Opened.append (by decide) _
    · decide
    · exact Opened.append (by decide) _
    · exact fun _ _ => Opened.append (by decide) _
    · intro session _
      refine ⟨neighbor _, ?_⟩
      split
      · exact List.forall_mem_singleton.mpr (neighbor _)
      · exact List.forall_mem_nil _
    · exact fun session _ =>
        ⟨fun _ _ => neighbor _, fun _ _ => neighbor _⟩

private theorem isOpenedBlock_routeMap (routeMap : RouteMap) :
    IsOpenedBlock (("route-map " ++ routeMap.name ++ " permit " ++
        toString routeMap.priority.toNat) ::
      ((entryOf router routeMap).matchLines ++
        (entryOf router routeMap).setLines)) := by
  constructor
  · exact List.cons_ne_nil _ _
  · simp only [RouteMapEntry.matchLines, RouteMapEntry.setLines,
      List.forall_mem_append, List.forall_mem_cons, List.forall_mem_map,
      String.append_assoc]
    refine ⟨Opened.append (by decide) _, ⟨⟨?_, ?_⟩, ?_⟩, ⟨?_, ?_⟩, ?_⟩
    all_goals exact fun _ _ => Opened.append (by decide) _

theorem isOpenedBlock_of_mem_blocks {block : List String}
    (member : block ∈ router.blocks naming internal) :
    IsOpenedBlock block := by
  have single {line : String} (opened : Opened line) : IsOpenedBlock [line] :=
    ⟨List.cons_ne_nil _ _, List.forall_mem_singleton.mpr opened⟩
  simp only [blocks, List.mem_append, List.mem_singleton,
    String.append_assoc, or_assoc] at member
  rcases member with isInterfaces | rfl | isPrefixes | isCommunities | isPaths |
    isRouteMaps
  · refine isOpenedBlock_of_mem_blockOf (fun entry => ?_) isInterfaces
    refine ⟨List.cons_ne_nil _ _, ?_⟩
    simp only [List.forall_mem_cons]
    exact ⟨Opened.append (by decide) _, Opened.append (by decide) _,
      List.forall_mem_nil _⟩
  · exact router.isOpenedBlock_processBlock naming internal
  · exact isOpenedBlock_of_mem_blockOf
      (fun _ => single (Opened.append (by decide) _)) isPrefixes
  · exact isOpenedBlock_of_mem_blockOf
      (fun _ => single (Opened.append (by decide) _)) isCommunities
  · exact isOpenedBlock_of_mem_blockOf
      (fun _ => single (Opened.append (by decide) _)) isPaths
  · simp only [← String.append_assoc] at isRouteMaps
    exact isOpenedBlock_of_mem_blockOf router.isOpenedBlock_routeMap isRouteMaps

private theorem length_blockOf {α : Type} (items : List α)
    (linesOf : α → List String) :
    (blockOf items linesOf).length = [items.isEmpty].count false := by
  cases items with
  | nil => rfl
  | cons item later => rfl

private theorem length_blocks :
    (router.blocks naming internal).length = 1 +
      [router.sessions.isEmpty, router.prefixLists.isEmpty,
        router.communityLists.isEmpty, router.asPathLists.isEmpty,
        router.routeMaps.isEmpty].count false := by
  have sameEmpty :
      router.sessions.zipIdx.isEmpty = router.sessions.isEmpty := by
    cases router.sessions with
    | nil => rfl
    | cons session later => rfl
  simp only [blocks, List.length_append, length_blockOf, List.length_singleton,
    sameEmpty, List.count_cons, List.count_nil]
  omega

/-- A separator stands behind each block, and nowhere else. -/
theorem hasSections_lines :
    router.HasSections naming internal
      (Configuration.ofRouter naming internal router).lines := by
  have opened : ∀ block ∈ router.blocks naming internal,
      IsOpenedBlock block :=
    fun block => router.isOpenedBlock_of_mem_blocks naming internal
  have noSeparator : ∀ block ∈ router.blocks naming internal,
      "!" ∉ block := by
    intro block member isLine
    exact ((opened block member).2 "!" isLine).ne_separator rfl
  have notEmpty : [] ∉ router.blocks naming internal :=
    fun isBlock => (opened [] isBlock).1 rfl
  have splits := splitOn_terminated noSeparator
  rw [router.lines_ofRouter_eq_terminated naming internal]
  constructor
  case separators =>
    rw [count_terminated noSeparator, router.length_blocks naming internal]
  case endsSeparated =>
    rw [getLast?_terminated]
    simp [Router.blocks]
  case startsWithBlock => exact head?_terminated_ne noSeparator notEmpty
  case notAdjacent => exact not_adjacent_of_splitOn splits notEmpty
  case blocks => exact splits

/-- The text of a configuration is made of its blocks, with a separator line
behind each of them. -/
theorem configuration_hasSections (noNewline : LacksIn '\n' router.strings) :
    ∃ lines, splitAtNewlines (router.configuration naming internal) =
        lines ++ [""] ∧
      router.HasSections naming internal lines := by
  have lacks : LacksIn '\n'
      (Configuration.ofRouter naming internal router).lines :=
    router.lacksIn_configuration (by decide) internal noNewline
  refine ⟨_, ?_, router.hasSections_lines naming internal⟩
  rw [router.configuration_eq_ofLines]
  exact splitAtNewlines_ofLines lacks

/-- A router with three of the five kinds of lists and with one filter that is
empty. -/
def partialRouter : Router :=
  { Router.fresh "A" 9 with
    networks := [.concrete ⟨⟨10, 1, 0, 0⟩, 17, by decide⟩]
    prefixLists := [{ name := "!", action := .deny, pattern := "any" }]
    routeMaps := [{ name := "import", priority := 10, policy := "none"
                    localPreference := some 200, deleteCommunity := none
                    setCommunities := ["!"] }]
    sessions := [
      { peer := "!", peerAddress := ⟨10, 0, 0, 2⟩
        localAddress := ⟨10, 0, 0, 1⟩, inFilter := some "import"
        outFilter := some "" },
      { peer := "B", peerAddress := ⟨10, 0, 1, 2⟩
        localAddress := ⟨10, 0, 1, 1⟩, inFilter := none
        outFilter := some "!" }] }

theorem configuration_hasSections_partial :
    LacksIn '\n' partialRouter.strings ∧
    ∃ lines, splitAtNewlines (partialRouter.configuration .placeholder ["B"]) =
        lines ++ [""] ∧
      partialRouter.HasSections .placeholder ["B"] lines ∧
      lines.count "!" = 4 := by
  have noNewline : LacksIn '\n' partialRouter.strings := by
    decide
  obtain ⟨lines, splits, sections⟩ :=
    configuration_hasSections .placeholder ["B"] partialRouter noNewline
  exact ⟨noNewline, lines, splits, sections, sections.separators⟩

end Router

end BgpTestbed
