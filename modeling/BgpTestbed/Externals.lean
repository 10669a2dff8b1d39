import BgpTestbed.ExportError
import BgpTestbed.Log
import BgpTestbed.Router

/-!
# External routers

Peers that are not keys of a network are external.  Synthesis adds a router
for each of them, in ascending order of their names, so that every session
has two ends.  It either adds all of them or leaves the network as it is.
-/

namespace BgpTestbed

/-- The subnet that every synthesized router declares. -/
def externalSubnet : Subnet where
  address := { first := 172, second := 0, third := 0, fourth := 0 }
  length := 24

/-- The other end of a session of the router under a key. -/
def Session.otherEnd (session : Session) (key : String) : Session :=
  .unfiltered key session.localAddress session.peerAddress

namespace Network

/-- External peers with their ends of the sessions, in the order of the
network and, for one router, of its sessions. -/
def externalEnds (network : Network) : List (String × Session) :=
  network.entries.flatMap fun (key, router) =>
    (router.sessions.filter fun session => !network.contains session.peer).map
      fun session => (session.peer, session.otherEnd key)

/-- The different sessions of an external peer in order of first
occurrence. -/
def sessionsOf (network : Network) (peer : String) : List Session :=
  ((network.externalEnds.filter fun (name, _) => name == peer).map
    Prod.snd).eraseDups

/-- The sessions of each external peer. -/
def externals (network : Network) : NameMap (List Session) :=
  .ofList (network.externalEnds.map fun (peer, _) =>
    (peer, network.sessionsOf peer))

def maximalId (network : Network) : Nat :=
  (network.values.map fun router => router.id.toNat).foldl max 0

def externalRouter (name : String) (id : UInt32) (sessions : List Session) :
    Router :=
  { Router.fresh name id with
    networks := [.concrete externalSubnet]
    sessions }

/-- The routers of external peers, whose IDs go on from a number.  IDs have
32 bits. -/
def numberExternals (next : Nat) :
    List (String × List Session) → Except ExportError (List Router)
  | [] => .ok []
  | (name, sessions) :: later =>
      if next < UInt32.size then
        match numberExternals (next + 1) later with
        | .error error => .error error
        | .ok routers =>
            .ok (externalRouter name (UInt32.ofNat next) sessions :: routers)
      else .error (.routerIdOverflow name)

/-- The routers that synthesis adds, in the order in which it adds them. -/
def externalRouters (network : Network) : Except ExportError (List Router) :=
  numberExternals (network.maximalId + 1) network.externals.entries

def addRouters (network : Network) (routers : List Router) : Network :=
  routers.foldl (fun network router => network.insert router.name router)
    network

def synthesize (network : Network) : Except ExportError Network :=
  network.externalRouters.map network.addRouters

end Network

def synthesisEvents (routers : List Router) : List Event :=
  routers.map fun router => .synthesized router.name router.id

end BgpTestbed
