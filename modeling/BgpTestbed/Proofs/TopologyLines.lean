import BgpTestbed.Emulator.Topology
import BgpTestbed.Proofs.ConfigurationLines

/-!
# The lines of a topology

The text of a topology is made of lines: those of its nodes, those of its
links, and the fixed ones behind them.  A line may hold any text, so a block
is known by the lines that it is made of and not by where its braces stand.
-/

namespace BgpTestbed.Emulator

open Text

def NodeInterface.lines (interface : NodeInterface) : List String :=
  ["\tinterface " ++ interface.name, "\t ip address " ++ interface.address,
    "\t!"]

def InterfacePeer.line (peer : InterfacePeer) : String :=
  "    interface-peer \x7b" ++ peer.interface ++ " " ++ nodeName peer.node ++
    "\x7d"

/-- The lines that a custom configuration carries are indented by a tab. -/
def CustomConfig.embedded (config : CustomConfig) : List String :=
  config.lines.map fun line => "\t" ++ line

def CustomConfig.blockLines (config : CustomConfig) : List String :=
  ["    custom-config \x7b", "\tcustom-config-id " ++ config.id,
    "\tcustom-command " ++ config.command, "\tconfig \x7b"] ++
    config.embedded ++ ["\t\x7d", "    \x7d"]

namespace Node

def networkLines (node : Node) : List String :=
  ["    network-config \x7b", "\thostname " ++ node.hostname, "\t!"] ++
    node.interfaces.flatMap NodeInterface.lines ++ ["    \x7d"]

def placementLines : List String :=
  ["    canvas c1", "    iconcoords \x7b150.0 150.0\x7d",
    "    labelcoords \x7b150.0 178.0\x7d"]

def serviceLines (node : Node) : List String :=
  node.services.toList.map fun services => "    services " ++ services

def lines (node : Node) : List String :=
  ["node " ++ nodeName node.id ++ " \x7b", "    type router",
    "    model " ++ node.model.text] ++ node.networkLines ++
    placementLines ++ node.peers.map InterfacePeer.line ++ node.serviceLines ++
    node.customConfigs.flatMap CustomConfig.blockLines ++ ["\x7d", ""]

end Node

def Link.lines (link : Link) : List String :=
  ["link l" ++ toString link.id ++ " \x7b",
    "    nodes \x7b" ++ nodeName link.first ++ " " ++ nodeName link.second ++
      "\x7d",
    "    bandwidth 0", "\x7d", ""]

/-- The lines behind nodes and links. -/
def closingLines : List String :=
  ["canvas c1 \x7b", "    name \x7bCanvas1\x7d", "\x7d", "",
    "option global \x7b"] ++
    (globalOptions.map fun (name, value) => "    " ++ name ++ " " ++ value) ++
    ["\x7d", "", "option session \x7b", "\x7d"]

def Topology.lines (topology : Topology) : List String :=
  topology.nodes.flatMap Node.lines ++ topology.links.flatMap Link.lines ++
    closingLines

/-- A text in which every item gives some lines. -/
private theorem join_map_eq_ofLines {α : Type} {ofItem : α → String}
    {linesOf : α → List String}
    (same : ∀ item, ofItem item = ofLines (linesOf item)) (items : List α) :
    String.join (items.map ofItem) = ofLines (items.flatMap linesOf) := by
  have texts : ofItem = ofLines ∘ linesOf := funext same
  rw [texts, ← List.map_map, ← ofLines_flatten, List.flatMap_def]

private theorem NodeInterface.text_eq_ofLines (interface : NodeInterface) :
    interface.text = ofLines interface.lines := by
  rw [← String.toList_inj]
  simp [NodeInterface.text, NodeInterface.lines, ofLines]

private theorem InterfacePeer.text_eq_ofLines (peer : InterfacePeer) :
    peer.text = ofLines [peer.line] := by
  have closing : "\x7d\n" = "\x7d" ++ "\n" := by simp
  unfold InterfacePeer.text InterfacePeer.line
  simp only [closing, ofLines_cons, ofLines_nil, String.append_assoc,
    String.append_empty]

private theorem CustomConfig.text_eq_ofLines (config : CustomConfig) :
    config.text = ofLines config.blockLines := by
  have opening : "    custom-config \x7b\n\tcustom-config-id " =
      "    custom-config \x7b" ++ "\n" ++ "\tcustom-config-id " := by simp
  have command : "\n\tcustom-command " = "\n" ++ "\tcustom-command " := by simp
  have content : "\n\tconfig \x7b\n" = "\n" ++ "\tconfig \x7b" ++ "\n" := by simp
  have closing : "\t\x7d\n    \x7d\n" = ofLines ["\t\x7d", "    \x7d"] := by
    simp [ofLines]
  unfold CustomConfig.text CustomConfig.blockLines CustomConfig.embedded
  simp only [opening, command, content, closing, ofLines_append, ofLines_cons,
    ofLines_nil, String.append_assoc, String.empty_append]

private theorem Link.text_eq_ofLines (link : Link) :
    link.text = ofLines link.lines := by
  have opening : " \x7b\n    nodes \x7b" = " \x7b" ++ "\n" ++ "    nodes \x7b" :=
    by simp
  have closing : "\x7d\n    bandwidth 0\n\x7d\n\n" =
      "\x7d" ++ "\n" ++ ofLines ["    bandwidth 0", "\x7d", ""] := by
    simp [ofLines]
  simp only [Link.text, Link.lines, opening, closing, ofLines_cons,
    ofLines_nil, String.append_assoc, String.append_empty]

namespace Node

private theorem networkText_eq_ofLines (node : Node) :
    node.networkText = ofLines node.networkLines := by
  have opening : "    network-config \x7b\n\thostname " =
      "    network-config \x7b" ++ "\n" ++ "\thostname " := by simp
  have separator : "\n\t!\n" = "\n" ++ "\t!" ++ "\n" := by simp
  have closing : "    \x7d\n" = ofLines ["    \x7d"] := by
    simp [ofLines]
  unfold networkText networkLines
  rw [join_map_eq_ofLines NodeInterface.text_eq_ofLines]
  simp only [opening, separator, closing, ofLines_append, ofLines_cons,
    ofLines_nil, String.append_assoc, String.empty_append]

private theorem placementText_eq_ofLines :
    placementText = ofLines placementLines := by
  simp [placementText, placementLines, ofLines]

private theorem peers_eq_ofLines (node : Node) :
    String.join (node.peers.map InterfacePeer.text) =
      ofLines (node.peers.map InterfacePeer.line) := by
  rw [join_map_eq_ofLines InterfacePeer.text_eq_ofLines, List.map_eq_flatMap]

private theorem services_eq_ofLines (node : Node) :
    String.join (node.services.toList.map fun services =>
      "    services " ++ services ++ "\n") = ofLines node.serviceLines := by
  rw [ofLines, serviceLines, List.map_map]
  rfl

theorem text_eq_ofLines (node : Node) : node.text = ofLines node.lines := by
  have opening : " \x7b\n    type router\n    model " =
      " \x7b" ++ "\n" ++ "    type router" ++ "\n" ++ "    model " := by simp
  have closing : "\x7d\n\n" = ofLines ["\x7d", ""] := by
    simp [ofLines]
  have configs := join_map_eq_ofLines CustomConfig.text_eq_ofLines
    node.customConfigs
  unfold text lines
  rw [networkText_eq_ofLines, placementText_eq_ofLines, peers_eq_ofLines,
    services_eq_ofLines, configs]
  simp only [opening, closing, ofLines_append, ofLines_cons,
    ofLines_nil, String.append_assoc, String.empty_append]

end Node

private theorem closing_eq_ofLines :
    canvasText ++ optionsText = ofLines closingLines := by
  have canvas : canvasText = ofLines ["canvas c1 \x7b",
    "    name \x7bCanvas1\x7d", "\x7d", ""] := by
    simp [canvasText, ofLines]
  have opening : "option global \x7b\n" = ofLines ["option global \x7b"] := by
    simp [ofLines]
  have closing : "\x7d\n\noption session \x7b\n\x7d\n" =
    ofLines ["\x7d", "", "option session \x7b", "\x7d"] := by
    simp [ofLines]
  unfold optionsText closingLines
  rw [canvas, opening, closing, ← ofLines_append, ← ofLines_append,
    ← ofLines_append]
  rfl

namespace Topology

theorem text_eq_ofLines (topology : Topology) :
    topology.text = ofLines topology.lines := by
  unfold text lines
  rw [join_map_eq_ofLines Node.text_eq_ofLines,
    join_map_eq_ofLines Link.text_eq_ofLines, String.append_assoc,
    closing_eq_ofLines, ← ofLines_append, ← ofLines_append]

/-- The lines of a node stand together in the text. -/
theorem text_hasLines_node {topology : Topology} {node : Node}
    (member : node ∈ topology.nodes) :
    HasLines topology.text node.lines := by
  refine ⟨topology.lines, topology.text_eq_ofLines, ?_⟩
  have inNodes : node.lines <:+: topology.nodes.flatMap Node.lines :=
    List.infix_of_mem_flatten (List.mem_map_of_mem member)
  rw [lines, List.append_assoc]
  exact inNodes.trans (List.prefix_append _ _).isInfix

end Topology

end BgpTestbed.Emulator
