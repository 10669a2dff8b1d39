import BgpTestbed.Emulator.Node

/-!
# Links and fixed blocks
-/

namespace BgpTestbed.Emulator

structure Link where
  id : Nat
  first : Nat
  second : Nat
  deriving DecidableEq, Repr

def Link.text (link : Link) : String :=
  "link l" ++ toString link.id ++ " \x7b\n    nodes \x7b" ++
    nodeName link.first ++ " " ++ nodeName link.second ++
    "\x7d\n    bandwidth 0\n\x7d\n\n"

/-- The canvas on which all nodes are drawn. -/
def canvasText : String :=
  "canvas c1 \x7b\n    name \x7bCanvas1\x7d\n\x7d\n\n"

def globalOptions : List (String × String) :=
  [("interface_names", "no"), ("ip_addresses", "yes"),
    ("ipv6_addresses", "no"), ("node_labels", "yes"), ("link_labels", "yes"),
    ("show_api", "no"), ("background_images", "no"), ("annotations", "yes"),
    ("grid", "yes"), ("traffic_start", "0")]

def optionsText : String :=
  "option global \x7b\n" ++
    Text.ofLines (globalOptions.map fun (name, value) =>
      "    " ++ name ++ " " ++ value) ++
    "\x7d\n\noption session \x7b\n\x7d\n"

end BgpTestbed.Emulator
