import BgpTestbed.Text.Lines

/-!
# Interfaces of the daemon
-/

namespace BgpTestbed.Daemon

/-- An interface with its addresses, each with the length of its network. -/
structure Interface where
  name : String
  addresses : List String
  deriving DecidableEq, Repr

namespace Interface

def named (name : String) : Interface where
  name
  addresses := []

def addAddress (interface : Interface) (address : String) : Interface :=
  { interface with addresses := interface.addresses ++ [address] }

def lines (interface : Interface) : List String :=
  ("interface " ++ interface.name) ::
    interface.addresses.map fun address => " ip address " ++ address

def text (interface : Interface) : String :=
  Text.ofLines interface.lines

end Interface

end BgpTestbed.Daemon
