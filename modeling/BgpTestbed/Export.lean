import BgpTestbed.Emulator.Topology
import BgpTestbed.Externals
import BgpTestbed.Files.Store
import BgpTestbed.NetworkFormat

/-!
# Exports

An export writes the intermediate representation, the configuration of every
router as it is before synthesis, and the topology of the synthesized network.
Files are written one after the other and stay where they are if a later step
fails.
-/

namespace BgpTestbed

open Files

structure Settings where
  naming : Naming
  outDirectory : String
  deriving DecidableEq, Repr

namespace Settings

def configsDirectory (settings : Settings) : String :=
  joinPath settings.outDirectory "configs"

def representationPath (settings : Settings) : String :=
  joinPath settings.configsDirectory "configs.ir"

def configPath (settings : Settings) (key : String) : String :=
  joinPath settings.configsDirectory (key ++ ".cfg")

def topologyPath (settings : Settings) : String :=
  joinPath settings.outDirectory "core.imn"

end Settings

/-- A text and the path of the file that is to hold it. -/
structure Artifact where
  path : String
  text : String
  deriving DecidableEq, Repr

/-- The files that are written before synthesis. -/
def Network.configArtifacts (network : Network) (settings : Settings)
    (representation : String) : List Artifact :=
  { path := settings.representationPath, text := representation } ::
    network.entries.map fun (key, router) =>
      { path := settings.configPath key
        text := router.configuration settings.naming network.keys }

/-- Writes files in order up to the first fault. -/
def writeArtifacts [Monad m] [Store m] :
    List Artifact → m (Except FileFault Unit)
  | [] => pure (.ok ())
  | artifact :: later => do
      match ← writeText artifact.path artifact.text with
      | .error fault => pure (.error fault)
      | .ok () => writeArtifacts later

/-- What an export leaves behind besides files: the paths that it wrote, and
the network, to which synthesis may have added routers. -/
structure ExportResult where
  written : Except ExportError (List String)
  network : Network

/-- Exports a network.  An error before the synthesis is complete leaves the
network unchanged. -/
def Network.writeAll [Monad m] [Store m] (network : Network)
    (settings : Settings) (representation : String) : m ExportResult := do
  let failed (error : ExportError) (network : Network) : m ExportResult :=
    pure { written := .error error, network }
  match ← createDirectories settings.configsDirectory with
  | .error fault => failed (.files fault) network
  | .ok () =>
      let configs := network.configArtifacts settings representation
      match ← writeArtifacts configs with
      | .error fault => failed (.files fault) network
      | .ok () =>
          match network.synthesize with
          | .error error => failed error network
          | .ok complete =>
              match complete.topology settings.naming network.keys with
              | .error error => failed error complete
              | .ok topology =>
                  let path := settings.topologyPath
                  match ← writeText path topology.text with
                  | .error fault => failed (.files fault) complete
                  | .ok () => pure {
                      written := .ok (configs.map Artifact.path ++ [path])
                      network := complete }

def readNetwork [Monad m] [Store m] (path : String) :
    m (Except ExportError Network) := do
  match ← readText path with
  | .error fault => pure (.error (.files fault))
  | .ok text =>
      match Network.codec.decode text with
      | .error fault => pure (.error (.json fault))
      | .ok network => pure (.ok network)

/-- The intermediate representation: the content of a file if one is given,
else the network itself. -/
def readRepresentation [Monad m] [Store m] (path? : Option String)
    (network : Network) : m (Except ExportError String) := do
  match path? with
  | none => pure (.ok (Network.codec.pretty network))
  | some path =>
      match ← readText path with
      | .error fault => pure (.error (.files fault))
      | .ok text => pure (.ok text)

end BgpTestbed
