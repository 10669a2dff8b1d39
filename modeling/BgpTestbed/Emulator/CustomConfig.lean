import BgpTestbed.Text.Lines

/-!
# Custom configurations of emulator services

A custom configuration carries lines of text into a node: the description of
the routing service, or the content of a file that the service reads.
-/

namespace BgpTestbed.Emulator

structure CustomConfig where
  id : String
  command : String
  lines : List String
  deriving DecidableEq, Repr

/-- Where the daemon looks for its configuration inside a node. -/
def daemonConfigPath : String := "/usr/local/etc/quagga/Quagga.conf"

namespace CustomConfig

def empty (id command : String) : CustomConfig where
  id
  command
  lines := []

def addContent (config : CustomConfig) (content : String) : CustomConfig :=
  { config with lines := config.lines ++ Text.lines content }

/-- Which files the routing service has, and how it is started and
stopped. -/
def routingService : CustomConfig where
  id := "service:zebra"
  command := "zebra"
  lines := [
    "files=('" ++ daemonConfigPath ++ "', 'quaggaboot.sh', )",
    "dirs=('/usr/local/etc/quagga', '/var/run/quagga', )",
    "perms=('0644', '0755', )",
    "cmdup=('sh quaggaboot.sh zebra', )",
    "cmddown=('killall zebra', 'killall bgpd', )",
    "starttime=5"]

/-- A file of the routing service. -/
def file (path content : String) : CustomConfig :=
  (empty ("service:zebra:" ++ path) path).addContent content

def text (config : CustomConfig) : String :=
  "    custom-config \x7b\n\tcustom-config-id " ++ config.id ++
    "\n\tcustom-command " ++ config.command ++ "\n\tconfig \x7b\n" ++
    Text.ofLines (config.lines.map fun line => "\t" ++ line) ++
    "\t\x7d\n    \x7d\n"

end CustomConfig

end BgpTestbed.Emulator
