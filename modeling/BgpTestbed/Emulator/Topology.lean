import BgpTestbed.Daemon.Configuration
import BgpTestbed.Emulator.Blocks
import BgpTestbed.Hosts

/-!
# Topologies

Every router and every host is a node.  A router has one interface per
session and, behind those, one towards its host; an interface has a peer if
the peer is a node.  Links join routers to their hosts and then, once per
pair, routers to routers.
-/

namespace BgpTestbed

namespace Emulator

structure Topology where
  nodes : List Node
  links : List Link
  deriving DecidableEq, Repr

def Topology.text (topology : Topology) : String :=
  String.join (topology.nodes.map Node.text) ++
    String.join (topology.links.map Link.text) ++ canvasText ++ optionsText

/-- The services of every router. -/
def routerServices : String := "\x7bzebra BGP vtysh IPForward\x7d"

def routerInterfaces (naming : Naming) (router : Router)
    (host? : Option Host) : List NodeInterface :=
  (router.sessions.zipIdx.map fun (session, index) =>
      { name := interfaceName index
        address := naming.interfaceAddress router session }) ++
    host?.toList.map fun host =>
      { name := interfaceName router.sessions.length
        address := host.routerSubnet.text }

def routerPeers (ids : List (String × Nat)) (router : Router)
    (host? : Option Host) : List InterfacePeer :=
  (router.sessions.zipIdx.filterMap fun (session, index) =>
      (ids.lookup session.peer).map fun node =>
        { interface := interfaceName index, node }) ++
    host?.toList.map fun host =>
      { interface := interfaceName router.sessions.length, node := host.id }

def routerNode (naming : Naming) (internal : List String)
    (ids : List (String × Nat)) (hosts : List (String × Host))
    (id : Nat) (key : String) (router : Router) : Node where
  id
  model := .router
  hostname := key
  interfaces := routerInterfaces naming router (hosts.lookup key)
  peers := routerPeers ids router (hosts.lookup key)
  services := some routerServices
  customConfigs := [.routingService,
    .file daemonConfigPath (router.configuration naming internal)]

def hostNode (key : String) (router : Nat) (host : Host) : Node where
  id := host.id
  model := .host
  hostname := key ++ "-host"
  interfaces := [{ name := interfaceName 0, address := host.hostSubnet.text }]
  peers := [{ interface := interfaceName 0, node := router }]
  services := none
  customConfigs := []

end Emulator

open Emulator

namespace Network

/-- Pairs of a router and its host. -/
def hostPairs (ids : List (String × Nat)) (hosts : List (String × Host)) :
    List (Nat × Nat) :=
  hosts.filterMap fun (key, host) =>
    (ids.lookup key).map fun router => (router, host.id)

/-- Pairs of different routers of which one has a session with the other, in
order of first occurrence, the lower number in front. -/
def routerPairs (network : Network) (ids : List (String × Nat)) :
    List (Nat × Nat) :=
  (network.entries.flatMap fun (key, router) =>
    router.sessions.filterMap fun session => do
      let first ← ids.lookup key
      let second ← ids.lookup session.peer
      if first = second then none
      else some (min first second, max first second)).eraseDups

def topologyWith (network : Network) (naming : Naming)
    (internal : List String) (hosts : List (String × Host)) : Topology :=
  let ids := network.nodeIds
  let routerNodes := (network.entries.zip ids).map
    fun ((key, router), (_, id)) =>
      routerNode naming internal ids hosts id key router
  let hostNodes := hosts.filterMap fun (key, host) =>
    (ids.lookup key).map fun router => hostNode key router host
  let pairs := hostPairs ids hosts ++ network.routerPairs ids
  { nodes := routerNodes ++ hostNodes
    links := (pairs.zipIdx 1).map fun ((first, second), id) =>
      { id, first, second } }

/-- The topology of a network, which exists if every router that declares a
network can have a host. -/
def topology (network : Network) (naming : Naming) (internal : List String) :
    Except ExportError Topology :=
  (network.hosts network.firstHostId).map
    (network.topologyWith naming internal)

end Network

/-- What is told while the topology of a network is made. -/
def topologyEvents (network : Network) (hosts : List (String × Host)) :
    List Event :=
  network.values.flatMap Daemon.events ++
    [.topologyGenerated network.entries.length hosts.length]

end BgpTestbed
