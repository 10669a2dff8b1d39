import BgpTestbed.Proofs.Nodes
import BgpTestbed.Proofs.RouterStrings
import BgpTestbed.Proofs.SessionEnds
import BgpTestbed.Proofs.TopologyLines

/-!
# Configurations inside nodes

The node of a router carries the configuration of the router as it was before
synthesis, line by line, and has the interfaces of this configuration, with
one more for its host.
-/

namespace BgpTestbed

open Daemon Emulator

namespace Text

/-- A text that no line is left open in. -/
def EndsLine (text : List Char) : Prop :=
  text = [] ∨ text.getLast? = some '\n'

private theorem endsLine_of_cons {character : Char} {rest : List Char}
    (ends : EndsLine (character :: rest)) : EndsLine rest := by
  cases rest with
  | nil => exact .inl rfl
  | cons second later => simpa [EndsLine] using ends

private theorem flatMap_lineChars {text : List Char} (noReturn : '\r' ∉ text)
    (ends : EndsLine text) :
    (lineChars text).flatMap (· ++ ['\n']) = text := by
  fun_induction lineChars text with
  | case1 => rfl
  | case2 rest ih =>
      rw [List.flatMap_cons,
        ih (fun member => noReturn (List.mem_cons_of_mem _ member))
          (endsLine_of_cons ends)]
      rfl
  | case3 rest ih => exact absurd List.mem_cons_self noReturn
  | case4 character rest notNewline _ noLines ih =>
      -- Without a newline the text would end in an open line.
      have isEmpty := ih (fun member => noReturn (List.mem_cons_of_mem _ member))
        (endsLine_of_cons ends)
      rw [noLines, List.flatMap_nil] at isEmpty
      subst isEmpty
      simp only [EndsLine, List.cons_ne_nil, List.getLast?_singleton,
        Option.some.injEq, false_or] at ends
      exact absurd ends notNewline
  | case5 character rest _ _ line later isLines ih =>
      have restored := ih
        (fun member => noReturn (List.mem_cons_of_mem _ member))
        (endsLine_of_cons ends)
      rw [isLines, List.flatMap_cons] at restored
      rw [List.flatMap_cons, List.cons_append, List.cons_append, restored]

/-- Without carriage returns a text of complete lines is made of its lines. -/
theorem ofLines_lines {text : String} (noReturn : Lacks '\r' text)
    (ends : EndsLine text.toList) : ofLines (lines text) = text := by
  rw [← String.toList_inj]
  calc (ofLines (lines text)).toList
      = (lineChars text.toList).flatMap (· ++ ['\n']) := by
        simp [ofLines, lines, List.flatMap_map]
    _ = text.toList := flatMap_lineChars noReturn ends

theorem endsLine_ofLines (lines : List String) :
    EndsLine (ofLines lines).toList := by
  rcases List.eq_nil_or_concat lines with rfl | ⟨front, last, rfl⟩
  · exact .inl rfl
  · right
    rw [List.concat_eq_append, ofLines_append, ofLines_cons, ofLines_nil]
    simp

theorem lacks_ofLines {character : Char} {lines : List String}
    (notNewline : character ≠ '\n') (lacks : LacksIn character lines) :
    Lacks character (ofLines lines) := by
  induction lines with
  | nil => simp [ofLines_nil, Lacks]
  | cons line later ih =>
      obtain ⟨lacksHere, lacksLater⟩ := lacksIn_cons.mp lacks
      rw [ofLines_cons, lacks_append, lacks_append]
      exact ⟨⟨lacksHere, by simpa [Lacks] using notNewline⟩, ih lacksLater⟩

/-- A line without its first character. -/
def dropFirst (line : String) : String :=
  String.ofList (line.toList.drop 1)

theorem map_dropFirst_indented (lines : List String) :
    (lines.map fun line => "\t" ++ line).map dropFirst = lines := by
  rw [List.map_map, List.map_congr_left, List.map_id]
  intro line _
  simp [dropFirst]

end Text

/-- Interfaces with these addresses in the daemon configuration, numbered in
order. -/
def daemonInterfaceLines (addresses : List String) : List String :=
  addresses.zipIdx.flatMap fun (address, index) =>
    ["interface eth" ++ toString index, " ip address " ++ address]

/-- An interface of a node at a position. -/
def nodeInterfaceLines (index : Nat) (address : String) : List String :=
  ["\tinterface eth" ++ toString index, "\t ip address " ++ address, "\t!"]

/-- The block of a node that carries the daemon's configuration file. -/
def configFileLines (content : List String) : List String :=
  ["    custom-config \x7b",
    "\tcustom-config-id service:zebra:/usr/local/etc/quagga/Quagga.conf",
    "\tcustom-command /usr/local/etc/quagga/Quagga.conf", "\tconfig \x7b"] ++
    content ++ ["\t\x7d", "    \x7d"]

/-- The interface towards the host stands behind those towards the peers, if
the router declares a network. -/
inductive HostInterfaceLines (router : Router) : List String → Prop where
  | none (declaresNothing : router.networks = []) :
      HostInterfaceLines router []
  | some {declared : Prefix} {others : List Prefix}
      {routerSubnet hostSubnet : Subnet}
      (declares : router.networks = declared :: others)
      (derives : declared.hostSubnets = .ok (routerSubnet, hostSubnet)) :
      HostInterfaceLines router
        (nodeInterfaceLines router.sessions.length routerSubnet.text)

/-- A node shows a router: its interfaces are those of the configuration of
the router and, at the next position, one towards the host if the router
declares a network, and it carries the lines of this configuration, each
behind a tab. -/
structure ShowsRouter (naming : Naming) (internal : List String)
    (key : String) (router : Router) (node : Node) : Prop where
  isBlock : ∃ (addresses hostLines : List String),
    addresses.length = router.sessions.length ∧
    (∃ rest, router.configuration naming internal =
      Text.ofLines (closedLines (daemonInterfaceLines addresses) ++
        ("router bgp " ++ naming.router router) :: rest)) ∧
    HostInterfaceLines router hostLines ∧
    node.lines =
      ["node n" ++ toString node.id ++ " \x7b", "    type router",
        "    model router",
        "    network-config \x7b", "\thostname " ++ key, "\t!"] ++
      (addresses.zipIdx.flatMap fun (address, index) =>
        nodeInterfaceLines index address) ++
      hostLines ++
      ["    \x7d"] ++ Node.placementLines ++
      node.peers.map InterfacePeer.line ++
      ["    services \x7bzebra BGP vtysh IPForward\x7d"] ++
      CustomConfig.routingService.blockLines ++
      configFileLines ((Text.lines (router.configuration naming internal)).map
        fun line => "\t" ++ line) ++
      ["\x7d", ""]
  restores : Text.LacksIn '\r' router.strings →
    Text.ofLines (((Text.lines (router.configuration naming internal)).map
      fun line => "\t" ++ line).map Text.dropFirst) =
        router.configuration naming internal

section RouterNode

variable {naming : Naming} {internal : List String} {router : Router}

/-- The addresses of the interfaces towards peers. -/
def Naming.interfaceAddresses (naming : Naming) (router : Router) :
    List String :=
  router.sessions.map (naming.interfaceAddress router)

private theorem flatMap_interfacesOf :
    (interfacesOf naming router).flatMap Interface.lines =
      daemonInterfaceLines (naming.interfaceAddresses router) := by
  have name : "interface eth" = "interface " ++ "eth" := by simp
  simp only [interfacesOf, Naming.interfaceAddresses, daemonInterfaceLines,
    List.zipIdx_map, List.flatMap_map, Interface.lines, interfaceName, name,
    String.append_assoc, List.map_cons, List.map_nil]
  rfl

/-- The interfaces come first in a configuration, and the BGP process next. -/
private theorem configuration_opens :
    ∃ rest, router.configuration naming internal =
      Text.ofLines (closedLines
        (daemonInterfaceLines (naming.interfaceAddresses router)) ++
          ("router bgp " ++ naming.router router) :: rest) := by
  obtain ⟨processRest, isProcess⟩ : ∃ rest,
      closedLines (processOf naming internal router).lines =
        ("router bgp " ++ naming.router router) :: rest := ⟨_, rfl⟩
  obtain ⟨rest, areLines⟩ : ∃ rest,
      (Configuration.ofRouter naming internal router).lines =
        closedLines ((interfacesOf naming router).map Interface.lines).flatten ++
          (closedLines [(processOf naming internal router).lines].flatten ++
            rest) := ⟨_, rfl⟩
  refine ⟨processRest ++ rest, ?_⟩
  rw [router.configuration_eq_ofLines, areLines, ← List.flatMap_def,
    flatMap_interfacesOf, List.flatten_singleton, isProcess, List.cons_append]

private theorem configuration_restores
    (noReturn : Text.LacksIn '\r' router.strings) :
    Text.ofLines (((Text.lines (router.configuration naming internal)).map
      fun line => "\t" ++ line).map Text.dropFirst) =
        router.configuration naming internal := by
  rw [Text.map_dropFirst_indented, router.configuration_eq_ofLines]
  apply Text.ofLines_lines
  · exact Text.lacks_ofLines (by decide)
      (router.lacksIn_configuration (by decide) internal noReturn)
  · exact Text.endsLine_ofLines _

/-- The interface towards the host has the number of sessions. -/
theorem flatMap_routerInterfaces (host? : Option Host) :
    (routerInterfaces naming router host?).flatMap NodeInterface.lines =
      ((naming.interfaceAddresses router).zipIdx.flatMap
        fun (address, index) => nodeInterfaceLines index address) ++
      host?.toList.flatMap fun host =>
        nodeInterfaceLines router.sessions.length host.routerSubnet.text := by
  have name : "\tinterface eth" = "\tinterface " ++ "eth" := by simp
  simp only [routerInterfaces, Naming.interfaceAddresses, nodeInterfaceLines,
    NodeInterface.lines, interfaceName, name, List.zipIdx_map,
    List.flatMap_append, List.flatMap_map, String.append_assoc]
  rfl

/-- Only the interfaces and the last block of a node depend on the naming. -/
theorem lines_routerNode (ids : List (String × Nat))
    (hosts : List (String × Host)) (id : Nat) (key : String) :
    (routerNode naming internal ids hosts id key router).lines =
      ["node n" ++ toString id ++ " \x7b", "    type router",
        "    model router",
        "    network-config \x7b", "\thostname " ++ key, "\t!"] ++
      (routerInterfaces naming router (hosts.lookup key)).flatMap
        NodeInterface.lines ++
      ["    \x7d"] ++ Node.placementLines ++
      (routerPeers ids router (hosts.lookup key)).map InterfacePeer.line ++
      ["    services \x7bzebra BGP vtysh IPForward\x7d"] ++
      CustomConfig.routingService.blockLines ++
      configFileLines ((Text.lines (router.configuration naming internal)).map
        fun line => "\t" ++ line) ++
      ["\x7d", ""] := by
  have opening : "node " ++ nodeName id = "node n" ++ toString id := by
    rw [nodeName, ← String.append_assoc]
    rfl
  have services : "    services " ++ routerServices =
      "    services \x7bzebra BGP vtysh IPForward\x7d" := rfl
  have fileBlock (content : String) :
      (CustomConfig.file daemonConfigPath content).blockLines =
        configFileLines ((Text.lines content).map fun line => "\t" ++ line) :=
    rfl
  unfold Node.lines Node.networkLines Node.serviceLines
  simp only [routerNode, opening, services, fileBlock, Option.toList_some,
    List.map_cons, List.map_nil, List.flatMap_cons, List.flatMap_nil,
    List.append_nil, List.append_assoc]
  rfl

theorem routerNode_shows {key : String} {hosts : List (String × Host)}
    (hostFor : Network.HostFor router (hosts.lookup key))
    (ids : List (String × Nat)) (id : Nat) :
    ShowsRouter naming internal key router
      (routerNode naming internal ids hosts id key router) := by
  have hostLines : HostInterfaceLines router
      ((hosts.lookup key).toList.flatMap fun host =>
        nodeInterfaceLines router.sessions.length host.routerSubnet.text) := by
    generalize hosts.lookup key = host? at hostFor
    cases hostFor with
    | none declaresNothing => exact .none declaresNothing
    | some declares derives =>
        rw [Option.toList_some, List.flatMap_singleton]
        exact .some declares derives
  refine ⟨⟨naming.interfaceAddresses router, _, ?_, configuration_opens,
    hostLines, ?_⟩, configuration_restores⟩
  · exact List.length_map _
  · rw [lines_routerNode, flatMap_routerInterfaces]
    simp only [List.append_assoc]
    rfl

end RouterNode

namespace Network

/-- After synthesis the node of every old router shows this router as it was
before. -/
theorem topology_shows_routers (network complete : Network) (naming : Naming)
    (internal : List String) (topology : Topology)
    (synthesizes : network.synthesize = .ok complete)
    (describes : complete.topology naming internal = .ok topology) :
    ∀ key router, network.find? key = some router →
      ∃ node ∈ topology.nodes,
        complete.nodeIds.lookup key = some node.id ∧
        (∀ other ∈ topology.nodes, other.id = node.id → other = node) ∧
        Text.HasLines topology.text node.lines ∧
        ShowsRouter naming internal key router node := by
  intro key router found
  have foundAfter := find?_of_synthesize synthesizes found
  have isKey := (complete.mem_keys_iff key).mpr ⟨router, foundAfter⟩
  obtain ⟨hosts, hasHosts, rfl⟩ := topology_eq_ok describes
  have isNode := hasHosts.mem_nodes_of_find? naming internal foundAfter
  refine ⟨_, isNode, complete.lookup_nodeIds_of_key isKey, ?_,
    Topology.text_hasLines_node isNode,
    routerNode_shows (hasHosts.hostFor foundAfter) _ _⟩
  intro other isOther same
  exact hasHosts.node_eq_of_id isOther isNode same

/-- A router with a host, two parallel sessions with the external peer `X` and
a route map whose name holds a newline. -/
def newlineRouter : Router :=
  { Router.fresh "A" 9 with
    networks := [.concrete ⟨⟨10, 1, 0, 0⟩, 16, by decide⟩]
    routeMaps := [{ name := "first\nsecond", priority := 10, policy := "none"
                    localPreference := some 200, deleteCommunity := none
                    setCommunities := [] }]
    sessions := [.unfiltered "X" ⟨10, 0, 0, 2⟩ ⟨10, 0, 0, 1⟩,
      .unfiltered "X" ⟨10, 0, 1, 2⟩ ⟨10, 0, 1, 1⟩] }

def newlineNetwork : Network :=
  .ofList [("A", newlineRouter)]

theorem topology_shows_routers_newline :
    ∃ complete topology,
      newlineNetwork.synthesize = .ok complete ∧
      complete.topology .placeholder ["A"] = .ok topology ∧
      ∃ node ∈ topology.nodes,
        complete.nodeIds.lookup "A" = some node.id ∧
        Text.HasLines topology.text node.lines ∧
        ShowsRouter .placeholder ["A"] "A" newlineRouter node := by
  have found : newlineNetwork.find? "A" = some newlineRouter := by
    decide +kernel
  have succeeds : (newlineNetwork.synthesize.toOption.bind fun complete =>
      (complete.topology .placeholder ["A"]).toOption).isSome = true := by
    decide +kernel
  cases synthesizes : newlineNetwork.synthesize with
  | error error => simp [synthesizes, Except.toOption] at succeeds
  | ok complete =>
      cases describes : complete.topology .placeholder ["A"] with
      | error error =>
          simp [synthesizes, describes, Except.toOption] at succeeds
      | ok topology =>
          obtain ⟨node, isNode, hasId, _, hasLines, shows⟩ :=
            topology_shows_routers newlineNetwork complete .placeholder ["A"]
              topology synthesizes describes "A" newlineRouter found
          exact ⟨complete, topology, rfl, describes, node, isNode, hasId,
            hasLines, shows⟩

end Network

end BgpTestbed
