import BgpTestbed.CommandLine
import BgpTestbed.Proofs.ExportPlan
import BgpTestbed.Proofs.Files.Volumes

/-!
# What a failing run leaves behind

An export that fails has written the files in front of a position of its plan.
If the write of the file at this position is broken off, the first bytes of
this file are there as well.  An old topology stays as it is unless one of
these paths leads to it, and the network has grown only if its synthesis was
complete.  A run of the program that cannot read its inputs changes nothing at
all.
-/

namespace BgpTestbed

open Files

/-- What drives perform is what their volumes alone perform. -/
theorem Performed.onVolumes {planned : List PlannedFile}
    {drive after : Drive} (performed : Performed planned drive after) :
    Performed planned drive.volume after.volume := by
  induction performed with
  | nothing drive => exact .nothing drive.volume
  | next isText writes _ ih => exact .next isText (Drive.write_of_ok writes) ih

theorem Performed.wroteAll {planned : List PlannedFile}
    {before after : Volume} (performed : Performed planned before after) :
    Volume.WroteAll (planned.map PlannedFile.path) before after := by
  induction performed with
  | nothing volume => exact .nothing volume
  | next _ writes _ ih =>
      exact .next (Volume.wrote_of_write
        (Volume.runOn_writeText_eq_ok_iff.mp writes)) ih

namespace Network

/-- The files that an export has touched where it stops: those in front of the
position, and the one at the position if its write is broken off. -/
inductive Touches (network : Network) (settings : Settings)
    (representation : String) (position : Nat) :
    ExportError → Volume → Volume → List PlannedFile → Prop where
  | written (error : ExportError) (stopped : Volume) :
      Touches network settings representation position error stopped stopped
        ((network.plan settings representation).take position)
  | brokenOff {planned : PlannedFile} {text : String} {written : Nat}
      {fault : FileFault} {stopped after : Volume}
      (isPlanned : (network.plan settings representation)[position]? =
        some planned)
      (isText : planned.text = .ok text)
      (notAll : written < text.toUTF8.size)
      (writes : stopped.write planned.path (text.toUTF8.extract 0 written) =
        .ok after) :
      Touches network settings representation position (.files fault) stopped
        after ((network.plan settings representation).take position ++
          [planned])

/-- A failing export has made its directories, is where the files in front of
a position are written, and stops there for a reason.  An old topology is read
as before if no path that was touched leads to it, which without links only
its own path does. -/
structure LeavesPrefix (network : Network) (settings : Settings)
    (representation : String) (drive prepared stopped after : Drive)
    (position : Nat) (error : ExportError) (left : Network)
    (touched : List PlannedFile) : Prop where
  prepares :
    (runOn drive (createDirectories settings.configsDirectory)).2 = prepared
  addsDirectories : drive.volume.AddsDirectories prepared.volume
  sameFiles : prepared.volume.regularFiles = drive.volume.regularFiles
  inPlan : position < (network.plan settings representation).length
  performed : Performed
    ((network.plan settings representation).take position) prepared.volume
    stopped.volume
  stops : network.Stops settings representation drive stopped after position
    error left
  touches : network.Touches settings representation position error
    stopped.volume after.volume touched
  keepsTopology : ∀ content,
    drive.volume.read settings.topologyPath = .ok content →
    (∀ file ∈ touched, after.volume.fileAt? file.path ≠
      after.volume.fileAt? settings.topologyPath) →
    after.volume.read settings.topologyPath = .ok content
  keepsUnlinkedTopology : ∀ content,
    drive.volume.read settings.topologyPath = .ok content →
    drive.volume.IsLinkFree →
    (∀ file ∈ touched, file.path ≠ settings.topologyPath) →
    after.volume.read settings.topologyPath = .ok content

variable {network left : Network} {settings : Settings}
  {representation : String} {position : Nat} {error : ExportError}
  {touched : List PlannedFile}

theorem touches_of_fails {planned : PlannedFile} {text : String}
    {fault : FileFault} {stopped after : Drive}
    (isPlanned : (network.plan settings representation)[position]? =
      some planned)
    (isText : planned.text = .ok text)
    (fails : runOn stopped (writeText planned.path text) =
      (.error fault, after)) :
    ∃ touched, network.Touches settings representation position
      (.files fault) stopped.volume after.volume touched := by
  have remains := Drive.leftByFailure_of_error fails
  generalize after.volume = volume at remains ⊢
  cases remains with
  | untouched => exact ⟨_, .written _ _⟩
  | firstBytes notAll writes =>
      exact ⟨_, .brokenOff isPlanned isText notAll writes⟩

theorem Stops.exists_touched {drive stopped after : Drive}
    (stops : network.Stops settings representation drive stopped after
      position error left) :
    ∃ touched, network.Touches settings representation position error
      stopped.volume after.volume touched := by
  cases stops with
  | directories _ leaves =>
      subst leaves
      exact ⟨_, .written _ _⟩
  | config _ isPlanned isText fails =>
      exact touches_of_fails isPlanned isText fails
  | synthesis _ leaves =>
      subst leaves
      exact ⟨_, .written _ _⟩
  | topology _ _ leaves =>
      subst leaves
      exact ⟨_, .written _ _⟩
  | topologyFile synthesizes describes fails =>
      exact touches_of_fails getElem?_plan_topology
        (text_topology synthesizes describes) fails

namespace Touches

variable {stopped after : Volume}
  (touches : network.Touches settings representation position error stopped
    after touched)
include touches

theorem mem_plan : ∀ file ∈ touched,
    file ∈ network.plan settings representation := by
  cases touches with
  | written => exact fun _ => List.mem_of_mem_take
  | brokenOff isPlanned _ _ _ =>
      exact List.forall_mem_append.mpr ⟨fun _ => List.mem_of_mem_take,
        List.forall_mem_singleton.mpr (List.mem_of_getElem? isPlanned)⟩

theorem wroteAll {prepared : Volume}
    (performed : Performed
      ((network.plan settings representation).take position) prepared
      stopped) :
    Volume.WroteAll (touched.map PlannedFile.path) prepared after := by
  cases touches with
  | written => exact performed.wroteAll
  | brokenOff _ _ _ writes =>
      rw [List.map_append]
      exact performed.wroteAll.concat (Volume.wrote_of_write writes)

/-- Without links only the topology is written where the topology stands. -/
theorem elsewhere (isLinkFree : after.IsLinkFree)
    (notTopology : ∀ file ∈ touched, file.path ≠ settings.topologyPath)
    {number : Nat} (isFile : after.fileAt? settings.topologyPath = some number) :
    ∀ file ∈ touched, after.fileAt? file.path ≠ some number := by
  intro file member isSame
  obtain ⟨character, ends, notSlash, notDot, notN⟩ :=
    path_ends_of_mem_plan (touches.mem_plan file member)
      (notTopology file member)
  have endsTopology := settings.getLast?_topologyPath
  have sameName := isLinkFree.getLast?_segments_eq ends endsTopology
    ⟨notSlash, notDot⟩ (by decide) isSame isFile
  exact getLast?_segments_ne ends endsTopology notSlash (by decide) notN
    sameName

end Touches

/-- An export that fails leaves a prefix of its plan. -/
theorem leavesPrefix_of_fails {drive after : Drive}
    (fails : runOn drive (network.writeAll settings representation) =
      ({ written := .error error, network := left }, after)) :
    ∃ prepared stopped position touched,
      network.LeavesPrefix settings representation drive prepared stopped
        after position error left touched := by
  have ends := network.ends_writeAll settings representation drive
  rw [fails] at ends
  cases ends with
  | @stopped position _ _ prepared stopped _ prepares inPlan performed stops =>
      obtain ⟨touched, touches⟩ := stops.exists_touched
      have adds := drive.addsDirectories_createDirectories
        settings.configsDirectory
      rw [prepares] at adds
      have wroteAll := touches.wroteAll performed.onVolumes
      refine ⟨prepared, stopped, position, touched, {
        prepares
        addsDirectories := adds
        sameFiles := adds.regularFiles
        inPlan
        performed := performed.onVolumes
        stops
        touches
        keepsTopology := ?_
        keepsUnlinkedTopology := ?_ }⟩
      · intro content reads elsewhere
        exact Volume.read_of_wroteAll adds wroteAll
          (List.forall_mem_map.mpr elsewhere) reads
      · intro content reads isLinkFree notTopology
        refine Volume.read_of_wroteAll adds wroteAll ?_ reads
        obtain ⟨_, number, isFile, _⟩ := Volume.read_eq_ok_iff.mp reads
        have isFileAfter :=
          wroteAll.grows.fileAt? (adds.grows.fileAt? isFile)
        have afterIsLinkFree :=
          wroteAll.isLinkFree (adds.isLinkFree isLinkFree)
        rw [isFileAfter, List.forall_mem_map]
        exact touches.elsewhere afterIsLinkFree notTopology isFileAfter

end Network

namespace CommandLine

section Runs

variable {σ : Type} [Store (StateM σ)]

/-- An input of a request cannot be read, which leaves some files. -/
inductive Request.InputFails (request : Request) (files : σ) :
    ExportError → σ → Prop where
  | network {error : ExportError} {after : σ}
      (fails : runOn files (readNetwork request.input) =
        (.error error, after)) :
      InputFails request files error after
  | representation {network : Network} {error : ExportError}
      {between after : σ}
      (reads : runOn files (readNetwork request.input) =
        (.ok network, between))
      (fails : runOn between
        (readRepresentation request.representation network) =
          (.error error, after)) :
      InputFails request files error after

/-- The inputs of a request are read, which leaves some files. -/
inductive Request.Reads (request : Request) (files : σ) :
    Network → String → σ → Prop where
  | inputs {network : Network} {representation : String} {between ready : σ}
      (reads : runOn files (readNetwork request.input) =
        (.ok network, between))
      (represents : runOn between
        (readRepresentation request.representation network) =
          (.ok representation, ready)) :
      Reads request files network representation ready

/-- A request fails: an input cannot be read, or its export fails. -/
inductive Request.Fails (request : Request) (files : σ) :
    ExportError → Prop where
  | input {error : ExportError} {after : σ}
      (fails : request.InputFails files error after) :
      Fails request files error
  | export {network : Network} {representation : String} {ready : σ}
      {error : ExportError}
      (reads : request.Reads files network representation ready)
      (fails : (runOn ready
        (network.writeAll request.settings representation)).1.written =
          .error error) :
      Fails request files error

variable {request : Request} {files after ready : σ} {network : Network}
  {representation : String} {error : ExportError} {arguments : List String}

private theorem Request.InputFails.runOn_perform
    (fails : request.InputFails files error after) :
    runOn files (perform request) = (.error error, after) := by
  rw [perform, runOn_bind]
  cases fails with
  | network fails =>
      rw [fails]
      rfl
  | representation reads fails =>
      rw [reads]
      simp only [runOn_bind]
      rw [fails]
      rfl

private theorem Request.Reads.runOn_perform
    (reads : request.Reads files network representation ready) :
    runOn files (perform request) =
      ((runOn ready
          (network.writeAll request.settings representation)).1.written,
        (runOn ready
          (network.writeAll request.settings representation)).2) := by
  cases reads with
  | inputs reads represents =>
      rw [perform, runOn_bind, reads]
      simp only [runOn_bind]
      rw [represents]
      rfl

/-- The inputs of a request can be read, or one of them cannot. -/
private theorem Request.inputs_cases (request : Request) (files : σ) :
    (∃ error after, request.InputFails files error after) ∨
      ∃ network representation ready,
        request.Reads files network representation ready := by
  cases reads : runOn files (readNetwork request.input) with
  | mk result between =>
    cases result with
    | error error => exact .inl ⟨error, between, .network reads⟩
    | ok network =>
        cases represents : runOn between
            (readRepresentation request.representation network) with
        | mk result ready =>
          cases result with
          | error error =>
              exact .inl ⟨error, ready, .representation reads represents⟩
          | ok representation =>
              exact .inr
                ⟨network, representation, ready, .inputs reads represents⟩

private theorem runOn_perform_eq_error_iff :
    (runOn files (perform request)).1 = .error error ↔
      request.Fails files error := by
  constructor
  · intro fails
    rcases request.inputs_cases files with
      ⟨fault, after, inputFails⟩ | ⟨network, representation, ready, reads⟩
    · rw [inputFails.runOn_perform] at fails
      cases fails
      exact .input inputFails
    · rw [reads.runOn_perform] at fails
      exact .export reads fails
  · intro fails
    cases fails with
    | input fails => rw [fails.runOn_perform]
    | «export» reads fails =>
        rw [reads.runOn_perform]
        exact fails

private theorem runOn_run_of_refused {refusal : Refusal}
    (refuses : parse arguments = .error refusal) (files : σ) :
    runOn files (run arguments) = (.refused refusal, files) := by
  rw [run, refuses, runOn_pure]

/-- A run whose arguments are accepted is reported as its request ends. -/
private theorem runOn_run_of_asked (asks : parse arguments = .ok request)
    (files : σ) :
    runOn files (run arguments) =
      (match (runOn files (perform request)).1 with
        | .error error => .failed error
        | .ok _ => .finished,
        (runOn files (perform request)).2) := by
  rw [run, asks]
  simp only [runOn_bind]
  cases runOn files (perform request) with
  | mk result after => cases result <;> rfl

private theorem exitCode_ne_zero_iff (asks : parse arguments = .ok request)
    (files : σ) :
    (runOn files (run arguments)).1.exitCode ≠ 0 ↔
      ∃ error, request.Fails files error := by
  rw [runOn_run_of_asked asks]
  simp only [← runOn_perform_eq_error_iff]
  cases (runOn files (perform request)).1 with
  | error error => simp [Outcome.exitCode]
  | ok paths => simp [Outcome.exitCode]

end Runs

section Drives

variable {request : Request} {drive ready after : Drive} {network : Network}

private theorem volume_readNetwork (drive : Drive) (path : String) :
    (runOn drive (readNetwork path)).2.volume = drive.volume := by
  have unchanged := drive.volume_readText path
  rw [readNetwork, runOn_bind]
  cases reads : runOn drive (readText path) with
  | mk result read =>
    rw [reads] at unchanged
    cases result with
    | error fault => exact unchanged
    | ok text =>
        simp only
        cases Network.codec.decode text <;> exact unchanged

private theorem volume_readRepresentation (drive : Drive)
    (path? : Option String) (network : Network) :
    (runOn drive (readRepresentation path? network)).2.volume =
      drive.volume := by
  cases path? with
  | none => rfl
  | some path =>
      have unchanged := drive.volume_readText path
      change (runOn drive (readText path >>= fun result => _)).2.volume = _
      rw [runOn_bind]
      cases reads : runOn drive (readText path) with
      | mk result read =>
        rw [reads] at unchanged
        cases result <;> exact unchanged

private theorem Request.InputFails.volume_eq {error : ExportError}
    (fails : request.InputFails drive error after) :
    after.volume = drive.volume := by
  cases fails with
  | network fails =>
      have unchanged := volume_readNetwork drive request.input
      rwa [fails] at unchanged
  | @representation network _ between _ reads fails =>
      have first := volume_readNetwork drive request.input
      have second :=
        volume_readRepresentation between request.representation network
      rw [reads] at first
      rw [fails] at second
      exact second.trans first

private theorem Request.Reads.volume_eq {representation : String}
    (reads : request.Reads drive network representation ready) :
    ready.volume = drive.volume := by
  cases reads with
  | @inputs between _ reads represents =>
      have first := volume_readNetwork drive request.input
      have second :=
        volume_readRepresentation between request.representation network
      rw [reads] at first
      rw [represents] at second
      exact second.trans first

end Drives

/-- A failing export leaves the files in front of the place in its plan where
it stops, and of the file at this place no more than its first bytes.  A run
of the program changes nothing before its inputs are read, goes on as an
export, and ends with a status other than zero exactly if one of these steps
fails; a run whose arguments are refused does none of them. -/
theorem failure_leaves_prefix :
    (∀ (network left : Network) (settings : Settings)
      (representation : String) (drive after : Drive) (error : ExportError),
      runOn drive (network.writeAll settings representation) =
          ({ written := .error error, network := left }, after) →
        ∃ prepared stopped position touched,
          network.LeavesPrefix settings representation drive prepared stopped
            after position error left touched) ∧
    ∀ (arguments : List String) (drive : Drive),
      (∀ refusal, parse arguments = .error refusal →
        runOn drive (run arguments) = (.refused refusal, drive)) ∧
      ∀ request, parse arguments = .ok request →
        (∀ error after, request.InputFails drive error after →
          runOn drive (run arguments) = (.failed error, after) ∧
            after.volume = drive.volume) ∧
        (∀ network representation ready,
          request.Reads drive network representation ready →
          ready.volume = drive.volume ∧
            (runOn drive (run arguments)).2 = (runOn ready
              (network.writeAll request.settings representation)).2) ∧
        ((runOn drive (run arguments)).1.exitCode ≠ 0 ↔
          ∃ error, request.Fails drive error) := by
  constructor
  · intro network left settings representation drive after error fails
    exact Network.leavesPrefix_of_fails fails
  · intro arguments drive
    refine ⟨fun refusal refuses => runOn_run_of_refused refuses drive, ?_⟩
    intro request asks
    refine ⟨?_, ?_, exitCode_ne_zero_iff asks drive⟩
    · intro error after fails
      rw [runOn_run_of_asked asks, fails.runOn_perform]
      exact ⟨rfl, fails.volume_eq⟩
    · intro network representation ready reads
      rw [runOn_run_of_asked asks, reads.runOn_perform]
      exact ⟨reads.volume_eq, rfl⟩

/-- A router with an external peer and a network that cannot have a host. -/
def symbolicNetwork : Network :=
  .ofList [("A", { Router.fresh "A" 1 with
    networks := [.symbolic "$net$"]
    sessions := [.unfiltered "B" ⟨10, 0, 0, 2⟩ ⟨10, 0, 0, 1⟩] })]

def outSettings : Settings where
  naming := .concrete
  outDirectory := "out"

/-- An output directory with an old topology, to which the place of a
configuration is linked. -/
def linkedDrive : Drive where
  volume := {
    items := [(["out", "core.imn"], .file 0),
      (["out", "configs", "A.cfg"], .link "../core.imn"),
      (["out", "configs"], .directory), (["out"], .directory)]
    contents := ["old".toUTF8]
    workingDirectory := []
    numbered := by simp }
  conditions := []

def noSpace : FileFault :=
  .other "No space left on device (os error 28)"

/-- An empty drive that is full when its first file has one byte. -/
def fullDrive : Drive where
  volume := {
    items := []
    contents := []
    workingDirectory := []
    numbered := by simp }
  conditions := [.granted, .granted, .granted, .brokenOff 1 noSpace]

/-- An export that finds a link, one whose first write is broken off, and a
run whose input is missing. -/
theorem failure_leaves_prefix_linkedAndFull :
    (∃ left after, runOn linkedDrive
        (symbolicNetwork.writeAll outSettings "ir") =
          ({ written := .error (.unsupportedPrefix "$net$"), network := left },
            after) ∧
      ∃ prepared stopped position touched,
        symbolicNetwork.LeavesPrefix outSettings "ir" linkedDrive prepared
          stopped after position (.unsupportedPrefix "$net$") left touched) ∧
    (∃ left after, runOn fullDrive
        (Network.writeAll .empty outSettings "ir") =
          ({ written := .error (.files noSpace), network := left }, after) ∧
      ∃ prepared stopped position touched,
        Network.LeavesPrefix .empty outSettings "ir" fullDrive prepared
          stopped after position (.files noSpace) left touched) ∧
    ∃ after, runOn linkedDrive (run ["-o", "out", "net.json"]) =
        (.failed (.files .notFound), after) ∧
      after.volume = linkedDrive.volume := by
  obtain ⟨exports, runs⟩ := failure_leaves_prefix
  have ends {network : Network} {drive : Drive} {error : ExportError}
      (written : (runOn drive
        (network.writeAll outSettings "ir")).1.written = .error error) :
      ∃ left after, runOn drive (network.writeAll outSettings "ir") =
        ({ written := .error error, network := left }, after) := by
    generalize runOn drive (network.writeAll outSettings "ir") = outcome
      at written ⊢
    obtain ⟨⟨result, left⟩, after⟩ := outcome
    simp only at written
    subst written
    exact ⟨left, after, rfl⟩
  have linked : (runOn linkedDrive
      (symbolicNetwork.writeAll outSettings "ir")).1.written =
        .error (.unsupportedPrefix "$net$") := by
    decide +kernel
  have full : (runOn fullDrive
      (Network.writeAll .empty outSettings "ir")).1.written =
        .error (.files noSpace) := by
    decide +kernel
  have asks : parse ["-o", "out", "net.json"] =
      .ok { input := "net.json", representation := none
            settings := outSettings } := by
    decide +kernel
  have missing : (runOn linkedDrive (readNetwork "net.json")).1 =
      .error (.files .notFound) := by
    decide +kernel
  obtain ⟨left, after, linkedEnds⟩ := ends linked
  obtain ⟨leftByFull, afterFull, fullEnds⟩ := ends full
  refine ⟨⟨left, after, linkedEnds, exports _ _ _ _ _ _ _ linkedEnds⟩,
    ⟨leftByFull, afterFull, fullEnds, exports _ _ _ _ _ _ _ fullEnds⟩, ?_⟩
  obtain ⟨_, requested⟩ := runs ["-o", "out", "net.json"] linkedDrive
  obtain ⟨inputFails, _⟩ := requested _ asks
  exact ⟨_, inputFails _ _ (.network (Prod.ext missing rfl))⟩

/-- Through a link a configuration replaces an old topology, a write that is
broken off leaves the first byte of a file, and refused arguments end a run
with a status other than zero before anything is read. -/
theorem failures_leave_more :
    ((runOn linkedDrive
        (symbolicNetwork.writeAll outSettings "ir")).1.written =
          .error (.unsupportedPrefix "$net$") ∧
      linkedDrive.volume.read outSettings.topologyPath = .ok "old".toUTF8 ∧
      (runOn linkedDrive
        (symbolicNetwork.writeAll outSettings "ir")).2.volume.read
          outSettings.topologyPath ≠ .ok "old".toUTF8) ∧
    ((runOn fullDrive
        (Network.writeAll .empty outSettings "ir")).1.written =
          .error (.files noSpace) ∧
      ∀ position < (Network.plan .empty outSettings "ir").length,
        ∀ stopped, Performed
          ((Network.plan .empty outSettings "ir").take position)
          (runOn fullDrive
            (createDirectories outSettings.configsDirectory)).2.volume
          stopped →
        (runOn fullDrive
          (Network.writeAll .empty outSettings "ir")).2.volume.regularFiles ≠
            stopped.regularFiles) ∧
    parse ["-x"] = .error .usage ∧
      (runOn fullDrive (run ["-x"])).1.exitCode ≠ 0 := by
  refine ⟨?_, ⟨?_, ?_⟩, ?_⟩
  · decide +kernel
  · decide +kernel
  · intro position inPlan stopped performed
    rw [Network.length_plan] at inPlan
    match position, inPlan with
    | 0, _ =>
        cases performed
        decide +kernel
    | 1, _ =>
        cases performed with
        | next isText writes continues =>
            cases continues
            cases isText
            have isStopped := congrArg Prod.snd writes
            simp only at isStopped
            rw [← isStopped]
            decide +kernel
  · decide +kernel

end CommandLine

end BgpTestbed
