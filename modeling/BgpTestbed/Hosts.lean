import BgpTestbed.ExportError
import BgpTestbed.Router

/-!
# Node numbers and hosts

Routers are numbered from 1 in the order of the network.  Every router that
declares a network has a host, and the hosts are numbered behind the routers.
The first declared network gives the addresses on the link between them.
-/

namespace BgpTestbed

structure Host where
  id : Nat
  routerSubnet : Subnet
  hostSubnet : Subnet
  deriving DecidableEq, Repr

/-- The subnet with an address whose fourth octet is larger. -/
def Subnet.advance? (subnet : Subnet) (offset : Nat) : Option Subnet :=
  let fourth := subnet.address.fourth.toNat + offset
  if fourth < 256 then
    some { subnet with
      address := { subnet.address with fourth := UInt8.ofNat fourth } }
  else none

/-- The addresses of the router and of its host: both the network itself if
it is a single address, else the two addresses behind the network address. -/
def Prefix.hostSubnets : Prefix → Except ExportError (Subnet × Subnet)
  | .symbolic text => .error (.unsupportedPrefix text)
  | .concrete subnet =>
      if subnet.length = 32 then .ok (subnet, subnet)
      else
        match subnet.advance? 1, subnet.advance? 2 with
        | some router, some host => .ok (router, host)
        | _, _ => .error (.addressOverflow subnet)

namespace Network

def nodeIds (network : Network) : List (String × Nat) :=
  network.keys.zipIdx 1

/-- The number behind those of the routers. -/
def firstHostId (network : Network) : Nat :=
  network.entries.length + 1

/-- The first network of every router that declares one. -/
def declarations (network : Network) : List (String × Prefix) :=
  network.entries.filterMap fun (key, router) =>
    router.networks.head?.map fun declared => (key, declared)

def hostsFrom (next : Nat) :
    List (String × Prefix) → Except ExportError (List (String × Host))
  | [] => .ok []
  | (key, declared) :: later =>
      match declared.hostSubnets with
      | .error error => .error error
      | .ok (routerSubnet, hostSubnet) =>
          match hostsFrom (next + 1) later with
          | .error error => .error error
          | .ok hosts =>
              .ok ((key, { id := next, routerSubnet, hostSubnet }) :: hosts)

/-- The hosts by the keys of their routers, numbered from `next` on. -/
def hosts (network : Network) (next : Nat) :
    Except ExportError (List (String × Host)) :=
  hostsFrom next network.declarations

/-- Gives the next free number to a router. -/
def assignRouterId (assigned : NameMap Nat × Nat) (key : String) :
    NameMap Nat × Nat :=
  let (ids, next) := assigned
  (ids.insert key next, next + 1)

/-- The numbers of the routers and the next free number. -/
def assignRouterIds (network : Network) : NameMap Nat × Nat :=
  network.keys.foldl assignRouterId (.empty, 1)

/-- Gives the next free number to the host of a router. -/
def assignHost (assigned : NameMap Host × Nat)
    (declaration : String × Prefix) :
    Except ExportError (NameMap Host × Nat) := do
  let (hosts, next) := assigned
  let (key, declared) := declaration
  let (routerSubnet, hostSubnet) ← declared.hostSubnets
  pure (hosts.insert key { id := next, routerSubnet, hostSubnet }, next + 1)

/-- The hosts, numbered from `next` on, and the next free number. -/
def assignHosts (network : Network) (next : Nat) :
    Except ExportError (NameMap Host × Nat) :=
  network.declarations.foldlM assignHost (.empty, next)

end Network

/-- What becomes of a sum that does not fit into a machine word.  Programs are
built in either way. -/
inductive Overflow where
  | wraps
  | panics
  deriving DecidableEq, Repr

/-- The word behind a word, or nothing if the program panics. -/
def Overflow.successor? (overflow : Overflow) (word : UInt64) :
    Option UInt64 :=
  match overflow with
  | .wraps => some (word + 1)
  | .panics =>
      if word.toNat + 1 < UInt64.size then some (word + 1) else none

namespace Network

/-- Gives the next machine word to the host of a router. -/
def assignHostWord (overflow : Overflow) (assigned : NameMap Host × UInt64)
    (declaration : String × Prefix) :
    ExceptT ExportError Option (NameMap Host × UInt64) := do
  let (hosts, next) := assigned
  let (key, declared) := declaration
  let (routerSubnet, hostSubnet) ← liftExcept declared.hostSubnets
  let following ← liftM (overflow.successor? next)
  pure (hosts.insert key { id := next.toNat, routerSubnet, hostSubnet },
    following)

/-- The hosts, numbered by machine words from `start` on, and the next word,
or nothing if the program panics. -/
def assignHostWords (overflow : Overflow) (network : Network)
    (start : UInt64) :
    Option (Except ExportError (NameMap Host × UInt64)) :=
  (network.declarations.foldlM (assignHostWord overflow) (.empty, start)).run

end Network

end BgpTestbed
