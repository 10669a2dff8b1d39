import BgpTestbed.Text.Lines

/-!
# BGP neighbors

The lines of a neighbor come in two groups: those that establish the session,
and those that apply route maps to it.
-/

namespace BgpTestbed.Daemon

structure Neighbor where
  address : String
  remoteAs : Option String
  sendsCommunity : Bool
  routeMapIn : Option String
  routeMapOut : Option String
  deriving DecidableEq, Repr

namespace Neighbor

inductive Setting where
  | remoteAs (name : String)
  | sendCommunity
  | routeMapIn (name : String)
  | routeMapOut (name : String)
  deriving DecidableEq, Repr

/-- A neighbor of which nothing but the address is known. -/
def addressed (address : String) : Neighbor where
  address
  remoteAs := none
  sendsCommunity := false
  routeMapIn := none
  routeMapOut := none

/-- A later setting of one kind replaces an earlier one. -/
def set (neighbor : Neighbor) : Setting → Neighbor
  | .remoteAs name => { neighbor with remoteAs := some name }
  | .sendCommunity => { neighbor with sendsCommunity := true }
  | .routeMapIn name => { neighbor with routeMapIn := some name }
  | .routeMapOut name => { neighbor with routeMapOut := some name }

/-- A line of the neighbor, which starts with its address. -/
def line (neighbor : Neighbor) (setting : String) : String :=
  " neighbor " ++ neighbor.address ++ " " ++ setting

def sessionLines (neighbor : Neighbor) : List String :=
  (neighbor.remoteAs.toList.map fun name =>
      neighbor.line ("remote-as " ++ name)) ++
    if neighbor.sendsCommunity then [neighbor.line "send-community both"]
    else []

def routeMapLines (neighbor : Neighbor) : List String :=
  (neighbor.routeMapIn.toList.map fun name =>
      neighbor.line ("route-map " ++ name ++ " in")) ++
    neighbor.routeMapOut.toList.map fun name =>
      neighbor.line ("route-map " ++ name ++ " out")

def sessionText (neighbor : Neighbor) : String :=
  Text.ofLines neighbor.sessionLines

def routeMapText (neighbor : Neighbor) : String :=
  Text.ofLines neighbor.routeMapLines

end Neighbor

end BgpTestbed.Daemon
