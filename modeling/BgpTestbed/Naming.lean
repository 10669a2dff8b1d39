import BgpTestbed.Router

/-!
# Concrete names and placeholders

A configuration shows the name of its router and the addresses of its
sessions either as they are or as placeholders, which make it a template.
-/

namespace BgpTestbed

inductive Naming where
  | concrete
  | placeholder
  deriving DecidableEq, Repr

instance : Inhabited Naming where
  default := .concrete

namespace Naming

def router (naming : Naming) (router : Router) : String :=
  match naming with
  | .concrete => router.name
  | .placeholder => router.name ++ ".$router$"

def peerAddress (naming : Naming) (router : Router) (session : Session) :
    String :=
  match naming with
  | .concrete => session.peerAddress.text
  | .placeholder => router.name ++ "." ++ session.peer ++ ".$peerIP$"

def localAddress (naming : Naming) (router : Router) (session : Session) :
    String :=
  match naming with
  | .concrete => session.localAddress.text
  | .placeholder => router.name ++ "." ++ session.peer ++ ".$sourceIP$"

end Naming

/-- All interfaces towards peers are in networks of this length. -/
def peeringLength : Nat := 24

/-- The local address of a session with the length of its network. -/
def Naming.interfaceAddress (naming : Naming) (router : Router)
    (session : Session) : String :=
  naming.localAddress router session ++ "/" ++ toString peeringLength

/-- The name of the interface at a position. -/
def interfaceName (index : Nat) : String :=
  "eth" ++ toString index

end BgpTestbed
