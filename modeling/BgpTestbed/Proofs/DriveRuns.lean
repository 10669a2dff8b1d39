import BgpTestbed.CommandLine
import BgpTestbed.Proofs.Files.LinkFree

/-!
# The program on drives and file systems

The program runs on a drive without links that grants every request as it does
on the file system with the same entries.
-/

namespace BgpTestbed

open Files CommandLine

namespace Files.Simulation

variable {σ τ : Type} [Store (StateM σ)] [Store (StateM τ)]
  {related : σ → τ → Prop} (simulation : Simulation related)
include simulation

theorem writeArtifacts (artifacts : List Artifact) :
    Agree related
      (BgpTestbed.writeArtifacts artifacts : StateM σ (Except FileFault Unit))
      (BgpTestbed.writeArtifacts artifacts) := by
  induction artifacts with
  | nil => exact agree_pure _
  | cons artifact later ih =>
      refine (simulation.writeText artifact.path artifact.text).bind
        fun outcome => ?_
      cases outcome with
      | error fault => exact agree_pure _
      | ok => exact ih

theorem writeAll (network : Network) (settings : Settings)
    (representation : String) :
    Agree related
      (network.writeAll settings representation : StateM σ ExportResult)
      (network.writeAll settings representation) := by
  refine (simulation.createDirectories settings.configsDirectory).bind
    fun prepared => ?_
  cases prepared with
  | error fault => exact agree_pure _
  | ok =>
      refine (simulation.writeArtifacts
        (network.configArtifacts settings representation)).bind
          fun configured => ?_
      cases configured with
      | error fault => exact agree_pure _
      | ok =>
          simp only
          cases network.synthesize with
          | error error => exact agree_pure _
          | ok complete =>
              simp only
              cases complete.topology settings.naming network.keys with
              | error error => exact agree_pure _
              | ok topology =>
                  refine (simulation.writeText settings.topologyPath
                    topology.text).bind fun written => ?_
                  cases written <;> exact agree_pure _

theorem readNetwork (path : String) :
    Agree related
      (BgpTestbed.readNetwork path : StateM σ (Except ExportError Network))
      (BgpTestbed.readNetwork path) := by
  refine (simulation.readText path).bind fun outcome => ?_
  cases outcome with
  | error fault => exact agree_pure _
  | ok text =>
      simp only
      cases Network.codec.decode text <;> exact agree_pure _

theorem readRepresentation (path? : Option String) (network : Network) :
    Agree related
      (BgpTestbed.readRepresentation path? network :
        StateM σ (Except ExportError String))
      (BgpTestbed.readRepresentation path? network) := by
  cases path? with
  | none => exact agree_pure _
  | some path =>
      refine (simulation.readText path).bind fun outcome => ?_
      cases outcome <;> exact agree_pure _

theorem perform (request : Request) :
    Agree related
      (CommandLine.perform request :
        StateM σ (Except ExportError (List String)))
      (CommandLine.perform request) := by
  refine (simulation.readNetwork request.input).bind fun input => ?_
  cases input with
  | error error => exact agree_pure _
  | ok network =>
      refine (simulation.readRepresentation request.representation
        network).bind fun represented => ?_
      cases represented with
      | error error => exact agree_pure _
      | ok representation =>
          exact (simulation.writeAll network request.settings
            representation).bind fun result => agree_pure _

theorem run (arguments : List String) :
    Agree related (CommandLine.run arguments : StateM σ Outcome)
      (CommandLine.run arguments) := by
  unfold CommandLine.run
  cases parse arguments with
  | error refusal => exact agree_pure _
  | ok request =>
      refine (simulation.perform request).bind fun outcome => ?_
      cases outcome <;> exact agree_pure _

end Files.Simulation

/-- The program ends on the drive as on the file system, and leaves the same
entries. -/
theorem CommandLine.run_ofFiles {files : FileSystem} (isTree : files.IsTree)
    (arguments : List String) :
    (runOn (Drive.ofFiles files) (run arguments)).1 =
        (runOn files (run arguments)).1 ∧
      (runOn (Drive.ofFiles files) (run arguments)).2.Represents
        (runOn files (run arguments)).2 :=
  Drive.simulation.run arguments _ _ (Drive.represents_ofFiles isTree)

end BgpTestbed
