import BgpTestbed.Emulator.CustomConfig

/-!
# Nodes of the emulated network
-/

namespace BgpTestbed.Emulator

inductive Model where
  | router
  | host
  deriving DecidableEq, Repr

def Model.text : Model → String
  | .router => "router"
  | .host => "host"

def nodeName (id : Nat) : String :=
  "n" ++ toString id

/-- An interface with its address and the length of its network. -/
structure NodeInterface where
  name : String
  address : String
  deriving DecidableEq, Repr

/-- An interface and the node at the other end of its link. -/
structure InterfacePeer where
  interface : String
  node : Nat
  deriving DecidableEq, Repr

structure Node where
  id : Nat
  model : Model
  hostname : String
  interfaces : List NodeInterface
  peers : List InterfacePeer
  services : Option String
  customConfigs : List CustomConfig
  deriving DecidableEq, Repr

def NodeInterface.text (interface : NodeInterface) : String :=
  "\tinterface " ++ interface.name ++ "\n\t ip address " ++
    interface.address ++ "\n\t!\n"

def InterfacePeer.text (peer : InterfacePeer) : String :=
  "    interface-peer \x7b" ++ peer.interface ++ " " ++ nodeName peer.node ++
    "\x7d\n"

namespace Node

inductive Setting where
  | interface (interface : NodeInterface)
  | peer (peer : InterfacePeer)
  | services (services : String)
  | customConfig (config : CustomConfig)
  deriving DecidableEq, Repr

def bare (id : Nat) (model : Model) (hostname : String) : Node where
  id
  model
  hostname
  interfaces := []
  peers := []
  services := none
  customConfigs := []

/-- Later services replace earlier ones; everything else adds up. -/
def set (node : Node) : Setting → Node
  | .interface interface =>
      { node with interfaces := node.interfaces ++ [interface] }
  | .peer peer => { node with peers := node.peers ++ [peer] }
  | .services services => { node with services := some services }
  | .customConfig config =>
      { node with customConfigs := node.customConfigs ++ [config] }

/-- The network configuration inside a node. -/
def networkText (node : Node) : String :=
  "    network-config \x7b\n\thostname " ++ node.hostname ++ "\n\t!\n" ++
    String.join (node.interfaces.map NodeInterface.text) ++ "    \x7d\n"

/-- Every node is drawn at the same place. -/
def placementText : String :=
  "    canvas c1\n    iconcoords \x7b150.0 150.0\x7d\n    labelcoords \x7b150.0 178.0\x7d\n"

def text (node : Node) : String :=
  "node " ++ nodeName node.id ++ " \x7b\n    type router\n    model " ++
    node.model.text ++ "\n" ++ node.networkText ++ placementText ++
    String.join (node.peers.map InterfacePeer.text) ++
    String.join (node.services.toList.map fun services =>
      "    services " ++ services ++ "\n") ++
    String.join (node.customConfigs.map CustomConfig.text) ++ "\x7d\n\n"

end Node

end BgpTestbed.Emulator
