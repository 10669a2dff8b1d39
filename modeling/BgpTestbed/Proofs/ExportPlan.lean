import BgpTestbed.Export
import BgpTestbed.Proofs.Files.LastNames
import BgpTestbed.Proofs.Files.Runs

/-!
# The plan of an export

An export follows a plan, one file after the other, and ends where the plan
ends or where something fails.  This holds wherever the files are: nothing is
assumed of a store, neither what a path means to it nor what it does to a
request.
-/

namespace BgpTestbed

open Files

/-- A file of an export: where it goes, and its text if there is one. -/
structure PlannedFile where
  path : String
  text : Except ExportError String

variable {σ : Type} [Store (StateM σ)]

/-- Writing planned files in order leads from some files to others. -/
inductive Performed : List PlannedFile → σ → σ → Prop where
  | nothing (files : σ) : Performed [] files files
  | next {planned : PlannedFile} {later : List PlannedFile} {text : String}
      {files between after : σ}
      (isText : planned.text = .ok text)
      (writes : runOn files (writeText planned.path text) =
        (.ok (), between))
      (continues : Performed later between after) :
      Performed (planned :: later) files after

namespace Performed

variable {planned later : List PlannedFile} {files between after : σ}

theorem append (first : Performed planned files between)
    (second : Performed later between after) :
    Performed (planned ++ later) files after := by
  induction first with
  | nothing files => exact second
  | next isText writes _ ih => exact .next isText writes (ih second)

theorem of_append (performed : Performed (planned ++ later) files after) :
    ∃ between, Performed planned files between ∧
      Performed later between after := by
  induction planned generalizing files with
  | nil => exact ⟨files, .nothing files, performed⟩
  | cons file others ih =>
      cases performed with
      | next isText writes continues =>
          obtain ⟨between, first, second⟩ := ih continues
          exact ⟨between, .next isText writes first, second⟩

end Performed

namespace Network

/-- The text of the topology of the synthesized network. -/
def topologyText (network : Network) (settings : Settings) :
    Except ExportError String :=
  match network.synthesize with
  | .error error => .error error
  | .ok complete =>
      (complete.topology settings.naming network.keys).map Emulator.Topology.text

/-- The files of an export in the order in which they are written. -/
def plan (network : Network) (settings : Settings) (representation : String) :
    List PlannedFile :=
  { path := settings.representationPath, text := .ok representation } ::
    (network.entries.map fun (key, router) =>
      { path := settings.configPath key
        text := .ok (router.configuration settings.naming network.keys) }) ++
    [{ path := settings.topologyPath, text := network.topologyText settings }]

/-- An export stops in front of the file at a position of its plan, for a
reason.  It has found some files, is at others when it stops, and leaves the
last ones and a network. -/
inductive Stops (network : Network) (settings : Settings)
    (representation : String) (files stopped after : σ) :
    Nat → ExportError → Network → Prop where
  | directories {fault : FileFault}
      (fails : runOn files (createDirectories settings.configsDirectory) =
        (.error fault, stopped))
      (leaves : after = stopped) :
      Stops network settings representation files stopped after 0
        (.files fault) network
  | config {position : Nat} {planned : PlannedFile} {text : String}
      {fault : FileFault}
      (inFront : position ≤ network.entries.length)
      (isPlanned : (network.plan settings representation)[position]? =
        some planned)
      (isText : planned.text = .ok text)
      (fails : runOn stopped (writeText planned.path text) =
        (.error fault, after)) :
      Stops network settings representation files stopped after position
        (.files fault) network
  | synthesis {error : ExportError}
      (fails : network.synthesize = .error error) (leaves : after = stopped) :
      Stops network settings representation files stopped after
        (network.entries.length + 1) error network
  | topology {complete : Network} {error : ExportError}
      (synthesizes : network.synthesize = .ok complete)
      (fails : complete.topology settings.naming network.keys = .error error)
      (leaves : after = stopped) :
      Stops network settings representation files stopped after
        (network.entries.length + 1) error complete
  | topologyFile {complete : Network} {topology : Emulator.Topology}
      {fault : FileFault}
      (synthesizes : network.synthesize = .ok complete)
      (describes : complete.topology settings.naming network.keys =
        .ok topology)
      (fails : runOn stopped (writeText settings.topologyPath topology.text) =
        (.error fault, after)) :
      Stops network settings representation files stopped after
        (network.entries.length + 1) (.files fault) complete

/-- How an export ends: its plan is performed, or the files in front of the
position where it stops are written. -/
inductive Ends (network : Network) (settings : Settings)
    (representation : String) (files : σ) : ExportResult × σ → Prop where
  | complete {complete : Network} {topology : Emulator.Topology}
      {prepared after : σ}
      (prepares : runOn files (createDirectories settings.configsDirectory) =
        (.ok (), prepared))
      (synthesizes : network.synthesize = .ok complete)
      (describes : complete.topology settings.naming network.keys =
        .ok topology)
      (performed : Performed (network.plan settings representation) prepared
        after) :
      Ends network settings representation files
        ({ written := .ok
            ((network.plan settings representation).map PlannedFile.path)
           network := complete }, after)
  | stopped {position : Nat} {error : ExportError} {left : Network}
      {prepared stopped after : σ}
      (prepares :
        (runOn files (createDirectories settings.configsDirectory)).2 =
          prepared)
      (inPlan : position < (network.plan settings representation).length)
      (performed : Performed
        ((network.plan settings representation).take position) prepared
        stopped)
      (stops : network.Stops settings representation files stopped after
        position error left) :
      Ends network settings representation files
        ({ written := .error error, network := left }, after)

end Network

namespace Settings

variable (settings : Settings)

theorem getLast?_representationPath :
    settings.representationPath.toList.getLast? = some 'r' :=
  getLast?_joinPath _ rfl

theorem getLast?_configPath (key : String) :
    (settings.configPath key).toList.getLast? = some 'g' := by
  apply getLast?_joinPath
  rw [String.toList_append, List.getLast?_append]
  rfl

theorem getLast?_topologyPath :
    settings.topologyPath.toList.getLast? = some 'n' :=
  getLast?_joinPath _ rfl

end Settings

/-- The artifact as a file of a plan. -/
def Artifact.planned (artifact : Artifact) : PlannedFile where
  path := artifact.path
  text := .ok artifact.text

/-- How writing artifacts ends: all are written, or those in front of one that
cannot be. -/
inductive Written (artifacts : List Artifact) (files : σ) :
    Except FileFault Unit × σ → Prop where
  | all {after : σ}
      (performed : Performed (artifacts.map Artifact.planned) files after) :
      Written artifacts files (.ok (), after)
  | some {position : Nat} {artifact : Artifact} {fault : FileFault}
      {stopped after : σ}
      (isPlanned : artifacts[position]? = some artifact)
      (performed : Performed ((artifacts.map Artifact.planned).take position)
        files stopped)
      (fails : runOn stopped (writeText artifact.path artifact.text) =
        (.error fault, after)) :
      Written artifacts files (.error fault, after)

theorem written_runOn (artifacts : List Artifact) (files : σ) :
    Written artifacts files (runOn files (writeArtifacts artifacts)) := by
  induction artifacts generalizing files with
  | nil => exact .all (.nothing files)
  | cons artifact later ih =>
      rw [writeArtifacts, runOn_bind]
      cases writes : runOn files (writeText artifact.path artifact.text) with
      | mk result between =>
        cases result with
        | error fault =>
            have isFirst : (artifact :: later)[0]? = some artifact := rfl
            exact .some isFirst (.nothing files) writes
        | ok _ =>
            have written := ih between
            change Written (artifact :: later) files
              (runOn between (writeArtifacts later))
            generalize runOn between (writeArtifacts later) = outcome
              at written
            cases written with
            | all performed => exact .all (.next rfl writes performed)
            | @some position refused fault stopped after isPlanned performed
                fails =>
                have isNext :
                    (artifact :: later)[position + 1]? = some refused :=
                  isPlanned
                exact .some isNext (.next rfl writes performed) fails

namespace Network

variable (network : Network) (settings : Settings) (representation : String)

theorem plan_eq :
    network.plan settings representation =
      (network.configArtifacts settings representation).map Artifact.planned ++
        [{ path := settings.topologyPath
           text := network.topologyText settings }] := by
  simp [plan, configArtifacts, Artifact.planned]

private theorem length_configArtifacts :
    (network.configArtifacts settings representation).length =
      network.entries.length + 1 := by
  simp [configArtifacts]

theorem length_plan :
    (network.plan settings representation).length =
      network.entries.length + 2 := by
  rw [plan_eq, List.length_append, List.length_map, length_configArtifacts,
    List.length_singleton]

/-- The files in front of the topology are the configurations. -/
theorem take_plan {position : Nat}
    (inFront : position ≤ network.entries.length + 1) :
    (network.plan settings representation).take position =
      ((network.configArtifacts settings representation).map
        Artifact.planned).take position := by
  rw [plan_eq, List.take_append_of_le_length]
  rw [List.length_map, length_configArtifacts]
  exact inFront

private theorem take_plan_configs :
    (network.plan settings representation).take (network.entries.length + 1) =
      (network.configArtifacts settings representation).map
        Artifact.planned := by
  rw [take_plan network settings representation (Nat.le_refl _),
    List.take_of_length_le]
  exact Nat.le_of_eq (by rw [List.length_map, length_configArtifacts])

theorem path_plan_eq :
    (network.plan settings representation).map PlannedFile.path =
      (network.configArtifacts settings representation).map Artifact.path ++
        [settings.topologyPath] := by
  rw [plan_eq, List.map_append, List.map_map]
  rfl

variable {network settings representation}

theorem getElem?_plan {position : Nat} {artifact : Artifact}
    (isPlanned : (network.configArtifacts settings representation)[position]? =
      some artifact) :
    position ≤ network.entries.length ∧
      (network.plan settings representation)[position]? =
        some artifact.planned := by
  obtain ⟨inRange, _⟩ := List.getElem?_eq_some_iff.mp isPlanned
  have inConfigs : position < ((network.configArtifacts settings
      representation).map Artifact.planned).length := by
    rwa [List.length_map]
  constructor
  · rw [length_configArtifacts] at inRange
    exact Nat.le_of_lt_succ inRange
  · rw [plan_eq, List.getElem?_append_left inConfigs, List.getElem?_map,
      isPlanned, Option.map_some]

theorem text_topology {complete : Network} {topology : Emulator.Topology}
    (synthesizes : network.synthesize = .ok complete)
    (describes : complete.topology settings.naming network.keys =
      .ok topology) :
    network.topologyText settings = .ok topology.text := by
  rw [topologyText, synthesizes]
  simp only [describes, Except.map]

theorem getElem?_plan_topology :
    (network.plan settings representation)[network.entries.length + 1]? =
      some { path := settings.topologyPath
             text := network.topologyText settings } := by
  rw [plan_eq, List.getElem?_append_right]
  · simp [length_configArtifacts]
  · simp [length_configArtifacts]

/-- Only the topology has its path. -/
theorem path_ends_of_mem_plan {file : PlannedFile}
    (member : file ∈ network.plan settings representation)
    (notTopology : file.path ≠ settings.topologyPath) :
    ∃ character, file.path.toList.getLast? = some character ∧
      character ≠ '/' ∧ character ≠ '.' ∧ character ≠ 'n' := by
  rw [plan_eq] at member
  rcases List.mem_append.mp member with isConfig | isTopology
  · obtain ⟨artifact, isArtifact, rfl⟩ := List.mem_map.mp isConfig
    rcases List.mem_cons.mp isArtifact with rfl | isRouter
    · exact ⟨'r', settings.getLast?_representationPath, by decide⟩
    · obtain ⟨⟨key, router⟩, _, rfl⟩ := List.mem_map.mp isRouter
      exact ⟨'g', settings.getLast?_configPath key, by decide⟩
  · cases List.mem_singleton.mp isTopology
    exact absurd rfl notTopology

section Configs

variable {files prepared stopped after : σ}
  (made : runOn files (createDirectories settings.configsDirectory) =
    (.ok (), prepared))
  (performed : Performed
    ((network.configArtifacts settings representation).map Artifact.planned)
    prepared stopped)
include made performed

/-- An export that has written its configurations stops in front of the
topology. -/
private theorem ends_of_configs {error : ExportError} {left : Network}
    (stops : network.Stops settings representation files stopped after
      (network.entries.length + 1) error left) :
    network.Ends settings representation files
      ({ written := .error error, network := left }, after) := by
  refine .stopped (congrArg Prod.snd made) ?_ ?_ stops
  · rw [length_plan]
    exact Nat.lt_succ_self _
  · rwa [take_plan_configs]

private theorem ends_of_topology {complete : Network}
    {topology : Emulator.Topology}
    (synthesizes : network.synthesize = .ok complete)
    (describes : complete.topology settings.naming network.keys =
      .ok topology)
    (writes : runOn stopped (writeText settings.topologyPath topology.text) =
      (.ok (), after)) :
    network.Ends settings representation files
      ({ written := .ok
          ((network.configArtifacts settings representation).map
            Artifact.path ++ [settings.topologyPath])
         network := complete }, after) := by
  have isText := text_topology synthesizes describes
  rw [← path_plan_eq]
  refine .complete made synthesizes describes ?_
  rw [plan_eq]
  exact performed.append (.next isText writes (.nothing after))

end Configs

variable (network settings representation) in
theorem ends_writeAll (files : σ) :
    network.Ends settings representation files
      (runOn files (network.writeAll settings representation)) := by
  rw [writeAll, runOn_bind]
  cases made : runOn files (createDirectories settings.configsDirectory) with
  | mk result prepared =>
    cases result with
    | error fault =>
        have inPlan : 0 < (network.plan settings representation).length := by
          rw [length_plan]
          exact Nat.succ_pos _
        exact .stopped (congrArg Prod.snd made) inPlan (.nothing prepared)
          (.directories made rfl)
    | ok _ =>
        simp only [runOn_bind]
        have written := written_runOn
          (network.configArtifacts settings representation) prepared
        generalize runOn prepared (writeArtifacts
          (network.configArtifacts settings representation)) = outcome
          at written
        cases written with
        | @some position artifact fault stopped after isPlanned performed
            fails =>
            obtain ⟨inFront, isInPlan⟩ := getElem?_plan isPlanned
            have inRange : position ≤ network.entries.length + 1 :=
              Nat.le_succ_of_le inFront
            refine .stopped (congrArg Prod.snd made) ?_ ?_
              (.config inFront isInPlan rfl fails)
            · rw [length_plan]
              exact Nat.lt_succ_of_le inRange
            · rwa [take_plan network settings representation inRange]
        | @all stopped performed =>
            simp only
            cases synthesizes : network.synthesize with
            | error error =>
                exact ends_of_configs made performed (.synthesis synthesizes rfl)
            | ok complete =>
              simp only
              cases describes :
                  complete.topology settings.naming network.keys with
              | error error =>
                  exact ends_of_configs made performed
                    (.topology synthesizes describes rfl)
              | ok topology =>
                simp only [runOn_bind]
                cases writes : runOn stopped
                    (writeText settings.topologyPath topology.text) with
                | mk result after =>
                  cases result with
                  | error fault =>
                      exact ends_of_configs made performed
                        (.topologyFile synthesizes describes writes)
                  | ok _ =>
                      exact ends_of_topology made performed synthesizes
                        describes writes

end Network

end BgpTestbed
