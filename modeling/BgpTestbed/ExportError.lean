import BgpTestbed.Address
import BgpTestbed.Files.FileSystem
import BgpTestbed.Json.Fault

/-!
# Why an export fails
-/

namespace BgpTestbed

inductive ExportError where
  | unsupportedPrefix (text : String)
  | addressOverflow (subnet : Subnet)
  | routerIdOverflow (router : String)
  | files (fault : Files.FileFault)
  | json (fault : Json.Fault)
  deriving DecidableEq

def ExportError.message : ExportError → String
  | unsupportedPrefix text => "Unsupported prefix representation: " ++ text
  | addressOverflow subnet =>
      "Cannot derive the host subnets of " ++ subnet.text ++
        ": ran out of addresses."
  | routerIdOverflow router =>
      "Cannot assign a router ID to the external router " ++ router ++
        ": ran out of router IDs."
  | files fault => "IO Error: " ++ fault.message
  | json fault => "JSON Error: " ++ fault.message

end BgpTestbed
