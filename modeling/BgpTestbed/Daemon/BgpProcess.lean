import BgpTestbed.Address
import BgpTestbed.Daemon.Neighbor

/-!
# The BGP process

All sessions are established before route maps are applied to any of them.
-/

namespace BgpTestbed.Daemon

structure BgpProcess where
  name : String
  routerId : Option Address
  networks : List String
  neighbors : List Neighbor
  deriving DecidableEq, Repr

namespace BgpProcess

inductive Setting where
  | routerId (address : Address)
  | network (network : String)
  | neighbor (neighbor : Neighbor)
  deriving DecidableEq, Repr

def named (name : String) : BgpProcess where
  name
  routerId := none
  networks := []
  neighbors := []

/-- A later router ID replaces an earlier one; networks and neighbors add
up. -/
def set (process : BgpProcess) : Setting → BgpProcess
  | .routerId address => { process with routerId := some address }
  | .network network =>
      { process with networks := process.networks ++ [network] }
  | .neighbor neighbor =>
      { process with neighbors := process.neighbors ++ [neighbor] }

def lines (process : BgpProcess) : List String :=
  ["router bgp " ++ process.name, " no synchronization"] ++
    (process.routerId.toList.map fun address =>
      " bgp router-id " ++ address.text) ++
    (process.networks.map fun network => " network " ++ network) ++
    process.neighbors.flatMap Neighbor.sessionLines ++
    process.neighbors.flatMap Neighbor.routeMapLines

def text (process : BgpProcess) : String :=
  Text.ofLines process.lines

end BgpProcess

end BgpTestbed.Daemon
