import BgpTestbed.Proofs.EmbeddedConfiguration
import BgpTestbed.Proofs.OpenConfigurations
import BgpTestbed.Proofs.SessionOrder

/-!
# Topologies with open addresses

A topology and its template have the same hosts, links and nodes but for the
addresses of sessions and the configurations that the nodes of routers carry.
-/

namespace BgpTestbed

open Emulator Text

/-- A part of a node, which may leave open the address at the near end of a
session or the configuration of a router. -/
inductive NodePart where
  | fixed (line : String)
  | interface (index : Nat) (router : Router) (session : Session)
  | configuration (router : Router)
  deriving DecidableEq

namespace NodePart

/-- The lines of a part as a naming shows them. -/
def lines (naming : Naming) (internal : List String) :
    NodePart → List String
  | fixed line => [line]
  | interface index router session =>
      nodeInterfaceLines index (naming.interfaceAddress router session)
  | configuration router =>
      (Text.lines (router.configuration naming internal)).map
        fun line => "\t" ++ line

def isOpen : NodePart → Bool
  | fixed _ => false
  | _ => true

end NodePart

/-- The node without the addresses of its interfaces and without the lines
that it carries. -/
def Emulator.Node.outline (node : Node) : Node :=
  { node with
    interfaces := node.interfaces.map fun interface =>
      { interface with address := "" }
    customConfigs := node.customConfigs.map fun config =>
      { config with lines := [] } }

/-- What the node of a router leaves open. -/
def Router.openParts (router : Router) : List NodePart :=
  (router.sessions.zipIdx.map fun (session, index) =>
    .interface index router session) ++ [.configuration router]

/-- What each node leaves open: nodes of routers come first, and those of
hosts leave nothing open. -/
def Network.openParts (network : Network) : List (List NodePart) :=
  network.values.map Router.openParts ++
    network.declaringKeys.map fun _ => []

/-- A topology of a network and its template have the same nodes, hosts and
links, and their texts consist of the same parts of which only those of routers
are open. -/
structure Network.HasTemplate (network : Network) (internal : List String)
    (topology template : Topology) : Prop where
  sameOutlines : topology.nodes.map Node.outline =
    template.nodes.map Node.outline
  sameHosts : (topology.nodes.filter fun node => node.model = .host) =
    template.nodes.filter fun node => node.model = .host
  sameLinks : topology.links = template.links
  sameParts : ∃ parts : List (List NodePart),
    topology.nodes.map Node.lines =
      parts.map (List.flatMap (NodePart.lines .concrete internal)) ∧
    template.nodes.map Node.lines =
      parts.map (List.flatMap (NodePart.lines .placeholder internal)) ∧
    parts.map (List.filter NodePart.isOpen) = network.openParts
  texts : ∀ either ∈ [topology, template], either.text =
    ofLines (either.nodes.flatMap Node.lines ++
      either.links.flatMap Link.lines ++ closingLines)

namespace NodePart

theorem flatMap_lines_fixed (naming : Naming) (internal : List String)
    (items : List String) :
    (items.map fixed).flatMap (lines naming internal) = items := by
  rw [List.flatMap_map]
  exact List.flatMap_singleton' items

theorem filter_isOpen_fixed (items : List String) :
    (items.map fixed).filter isOpen = [] := by
  rw [List.filter_map, List.map_eq_nil_iff, List.filter_eq_nil_iff]
  exact fun _ _ => Bool.false_ne_true

end NodePart

section RouterParts

variable (ids : List (String × Nat)) (hosts : List (String × Host))
  (id : Nat) (key : String) (router : Router)

/-- The lines in front of the interfaces of a router. -/
def routerOpening : List String :=
  ["node n" ++ toString id ++ " \x7b", "    type router",
    "    model router", "    network-config \x7b", "\thostname " ++ key, "\t!"]

def routerHostInterface : List String :=
  (hosts.lookup key).toList.flatMap fun host =>
    nodeInterfaceLines router.sessions.length host.routerSubnet.text

/-- The lines between the interfaces of a router and its configuration. -/
def routerServiceLines : List String :=
  ["    \x7d"] ++ Node.placementLines ++
    (routerPeers ids router (hosts.lookup key)).map InterfacePeer.line ++
    ["    services \x7bzebra BGP vtysh IPForward\x7d"] ++
    CustomConfig.routingService.blockLines

/-- The lines in front of the configuration that a node carries. -/
def configFileOpening : List String :=
  ["    custom-config \x7b",
    "\tcustom-config-id service:zebra:/usr/local/etc/quagga/Quagga.conf",
    "\tcustom-command /usr/local/etc/quagga/Quagga.conf", "\tconfig \x7b"]

def routerParts : List NodePart :=
  (routerOpening id key).map .fixed ++
    (router.sessions.zipIdx.map fun (session, index) =>
      .interface index router session) ++
    (routerHostInterface hosts key router ++
      routerServiceLines ids hosts key router ++ configFileOpening).map
        .fixed ++
    [.configuration router] ++
    ["\t\x7d", "    \x7d", "\x7d", ""].map .fixed

theorem lines_routerNode_eq_parts (naming : Naming) (internal : List String) :
    (routerNode naming internal ids hosts id key router).lines =
      (routerParts ids hosts id key router).flatMap
        (NodePart.lines naming internal) := by
  have interfaces :
      (router.sessions.zipIdx.map fun (session, index) =>
        NodePart.interface index router session).flatMap
          (NodePart.lines naming internal) =
      (naming.interfaceAddresses router).zipIdx.flatMap
        fun entry => nodeInterfaceLines entry.2 entry.1 := by
    rw [Naming.interfaceAddresses, List.zipIdx_map, List.flatMap_map,
      List.flatMap_map]
    rfl
  have carried : [NodePart.configuration router].flatMap
      (NodePart.lines naming internal) =
        (Text.lines (router.configuration naming internal)).map
          fun line => "\t" ++ line :=
    List.flatMap_singleton _ _
  have areParts : (routerParts ids hosts id key router).flatMap
      (NodePart.lines naming internal) =
        routerOpening id key ++
        ((naming.interfaceAddresses router).zipIdx.flatMap
          fun entry => nodeInterfaceLines entry.2 entry.1) ++
        (routerHostInterface hosts key router ++
          routerServiceLines ids hosts key router ++ configFileOpening) ++
        ((Text.lines (router.configuration naming internal)).map
          fun line => "\t" ++ line) ++
        ["\t\x7d", "    \x7d", "\x7d", ""] := by
    simp only [routerParts, List.flatMap_append,
      NodePart.flatMap_lines_fixed, interfaces, carried]
  rw [lines_routerNode, flatMap_routerInterfaces, areParts]
  simp only [routerOpening, routerHostInterface, routerServiceLines,
    configFileLines, configFileOpening, List.append_assoc, List.cons_append,
    List.nil_append]

theorem filter_isOpen_routerParts :
    (routerParts ids hosts id key router).filter NodePart.isOpen =
      router.openParts := by
  have interfaces : (router.sessions.zipIdx.map fun (session, index) =>
      NodePart.interface index router session).filter NodePart.isOpen =
        router.sessions.zipIdx.map fun (session, index) =>
          .interface index router session := by
    rw [List.filter_eq_self, List.forall_mem_map]
    exact fun _ _ => rfl
  simp only [routerParts, List.filter_append, NodePart.filter_isOpen_fixed,
    interfaces, List.nil_append, List.append_nil]
  rfl

theorem outline_routerNode (naming other : Naming) (internal : List String) :
    (routerNode naming internal ids hosts id key router).outline =
      (routerNode other internal ids hosts id key router).outline := by
  have names (naming : Naming) :
      (routerInterfaces naming router (hosts.lookup key)).map
        (fun interface => { interface with address := "" }) =
      (router.sessions.zipIdx.map fun (_, index) =>
        { name := interfaceName index, address := "" }) ++
        (hosts.lookup key).toList.map fun _ =>
          { name := interfaceName router.sessions.length, address := "" } := by
    rw [routerInterfaces, List.map_append, List.map_map, List.map_map]
    rfl
  simp only [Node.outline, routerNode, names, List.map_cons, List.map_nil,
    CustomConfig.file, CustomConfig.addContent]

end RouterParts

/-- The parts of the nodes of all routers and hosts. -/
def Network.nodeParts (network : Network) (hosts : List (String × Host)) :
    List (List NodePart) :=
  network.entries.map (fun entry =>
    routerParts network.nodeIds hosts (network.number entry.1) entry.1
      entry.2) ++
    hosts.map fun entry =>
      (hostNode entry.1 (network.number entry.1) entry.2).lines.map .fixed

namespace Network.HasHosts

variable {network : Network} {hosts : List (String × Host)}
  (hasHosts : network.HasHosts hosts) (naming : Naming)
  (internal : List String)
include hasHosts

theorem map_outline_nodes (other : Naming) :
    (network.topologyWith naming internal hosts).nodes.map Node.outline =
      (network.topologyWith other internal hosts).nodes.map Node.outline := by
  simp only [hasHosts.nodes_topologyWith, List.map_append, List.map_map,
    Function.comp_def, outline_routerNode _ _ _ _ _ naming other internal]

theorem lines_nodes :
    (network.topologyWith naming internal hosts).nodes.map Node.lines =
      (network.nodeParts hosts).map
        (List.flatMap (NodePart.lines naming internal)) := by
  simp only [hasHosts.nodes_topologyWith, nodeParts, List.map_append,
    List.map_map, Function.comp_def, lines_routerNode_eq_parts,
    NodePart.flatMap_lines_fixed]

theorem filter_isOpen_nodeParts :
    (network.nodeParts hosts).map (List.filter NodePart.isOpen) =
      network.openParts := by
  rw [openParts, ← hasHosts.map_fst, NameMap.values]
  simp only [nodeParts, List.map_append, List.map_map, Function.comp_def,
    filter_isOpen_routerParts, NodePart.filter_isOpen_fixed]

theorem hasTemplate :
    network.HasTemplate internal
      (network.topologyWith .concrete internal hosts)
      (network.topologyWith .placeholder internal hosts) where
  sameOutlines := hasHosts.map_outline_nodes .concrete internal .placeholder
  sameHosts := by
    rw [hasHosts.filter_host_nodes, hasHosts.filter_host_nodes]
  sameLinks := rfl
  sameParts := ⟨network.nodeParts hosts,
    hasHosts.lines_nodes .concrete internal,
    hasHosts.lines_nodes .placeholder internal,
    hasHosts.filter_isOpen_nodeParts⟩
  texts either _ := either.text_eq_ofLines

end Network.HasHosts

theorem Network.topology_hasTemplate (network : Network)
    (internal : List String) :
    SameResult (network.HasTemplate internal)
      (network.topology .concrete internal)
      (network.topology .placeholder internal) := by
  rw [Network.topology, Network.topology]
  cases succeeds : network.hosts network.firstHostId with
  | error error => exact rfl
  | ok hosts => exact (hasHosts_of_hosts succeeds).hasTemplate internal

/-- A template differs from what it is a template of in names and addresses of
sessions alone: a configuration line by line, and a topology part by part. -/
theorem Naming.opens_names_only (internal : List String) :
    (∀ router : Router, LacksIn '\n' router.strings →
      ∃ lines, router.HasOpenLines internal lines ∧
        splitAtNewlines (router.configuration .concrete internal) =
          lines.map (OpenLine.concrete router) ++ [""] ∧
        splitAtNewlines (router.configuration .placeholder internal) =
          lines.map (OpenLine.template router) ++ [""]) ∧
    ∀ network : Network, SameResult (network.HasTemplate internal)
      (network.topology .concrete internal)
      (network.topology .placeholder internal) := by
  refine ⟨fun router noNewline => ?_,
    fun network => network.topology_hasTemplate internal⟩
  have splits := router.splitAtNewlines_configuration internal noNewline
  refine ⟨router.openLines internal, router.hasOpenLines internal, ?_, ?_⟩
  · rw [splits, OpenLine.shown_concrete]
  · rw [splits, OpenLine.shown_placeholder]

/-- A router with a host, two parallel sessions with the internal peer `B`, of
which one has an empty filter, and a session with a peer that is not
internal. -/
def twinRouter : Router :=
  { Router.fresh "A" 9 with
    networks := [.ofText "10.1.0.0/17"]
    sessions := [
      { peer := "B", peerAddress := ⟨10, 0, 0, 2⟩
        localAddress := ⟨10, 0, 0, 1⟩, inFilter := some "import"
        outFilter := some "" },
      .unfiltered "B" ⟨10, 0, 1, 2⟩ ⟨10, 0, 1, 1⟩,
      { peer := "$peerIP$", peerAddress := ⟨10, 0, 2, 2⟩
        localAddress := ⟨10, 0, 2, 1⟩, inFilter := none
        outFilter := some "export" }] }

def twinNetwork : Network :=
  .ofList [("A", twinRouter), ("B", .fresh "B" 4)]

theorem Naming.opens_names_only_twins :
    LacksIn '\n' twinRouter.strings ∧
    (∃ lines, twinRouter.HasOpenLines ["A", "B"] lines ∧
      (lines.filterMap OpenLine.neighbor?).length = 7 ∧
      splitAtNewlines (twinRouter.configuration .concrete ["A", "B"]) =
        lines.map (OpenLine.concrete twinRouter) ++ [""] ∧
      splitAtNewlines (twinRouter.configuration .placeholder ["A", "B"]) =
        lines.map (OpenLine.template twinRouter) ++ [""]) ∧
    ∃ topology template,
      twinNetwork.topology .concrete ["A", "B"] = .ok topology ∧
      twinNetwork.topology .placeholder ["A", "B"] = .ok template ∧
      twinNetwork.HasTemplate ["A", "B"] topology template := by
  have noNewline : LacksIn '\n' twinRouter.strings := by
    decide
  obtain ⟨sameLines, sameParts⟩ := Naming.opens_names_only ["A", "B"]
  have isDescribed :
      (twinNetwork.topology .concrete ["A", "B"]).toOption.isSome = true := by
    decide +kernel
  have related := sameParts twinNetwork
  refine ⟨noNewline, ?_, ?_⟩
  · obtain ⟨lines, hasOpen, concrete, template⟩ :=
      sameLines twinRouter noNewline
    refine ⟨lines, hasOpen, ?_, concrete, template⟩
    rw [hasOpen.neighbors]
    decide
  · cases isTopology : twinNetwork.topology .concrete ["A", "B"] with
    | error error => simp [isTopology, Except.toOption] at isDescribed
    | ok topology =>
        cases isTemplate : twinNetwork.topology .placeholder ["A", "B"] with
        | error error =>
            rw [isTopology, isTemplate] at related
            exact related.elim
        | ok template =>
            rw [isTopology, isTemplate] at related
            exact ⟨topology, template, rfl, rfl, related⟩

end BgpTestbed
