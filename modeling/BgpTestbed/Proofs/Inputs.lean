import BgpTestbed.Export
import BgpTestbed.Proofs.Files.Runs

/-!
# Reading the inputs of an export

Reading leaves the files as they are.
-/

namespace BgpTestbed

open Files

/-- The network that a path leads to, or why there is none. -/
def Network.readAt (files : FileSystem) (path : String) :
    Except ExportError Network :=
  match files.readText path with
  | .error fault => .error (.files fault)
  | .ok text =>
      match codec.decode text with
      | .error fault => .error (.json fault)
      | .ok network => .ok network

theorem runOn_readNetwork (files : FileSystem) (path : String) :
    runOn files (readNetwork path) = (Network.readAt files path, files) := by
  rw [readNetwork, runOn_bind, runOn_readText, Network.readAt]
  cases files.readText path with
  | error fault => rfl
  | ok text =>
      simp only
      cases Network.codec.decode text <;> rfl

/-- The representation that belongs to a network, or why there is none. -/
def Network.representationAt (network : Network) (files : FileSystem) :
    Option String → Except ExportError String
  | none => .ok (codec.pretty network)
  | some path =>
      match files.readText path with
      | .error fault => .error (.files fault)
      | .ok text => .ok text

theorem runOn_readRepresentation (files : FileSystem)
    (path? : Option String) (network : Network) :
    runOn files (readRepresentation path? network) =
      (network.representationAt files path?, files) := by
  cases path? with
  | none => rfl
  | some path =>
      change runOn files (Files.readText path >>= fun result => _) = _
      rw [runOn_bind, runOn_readText, Network.representationAt]
      cases files.readText path <;> rfl

end BgpTestbed
