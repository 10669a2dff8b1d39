import BgpTestbed.Proofs.ExportPlan
import BgpTestbed.Proofs.Files.Placement
import BgpTestbed.Proofs.Synthesis

/-!
# What a complete export leaves behind

An export that succeeds has performed its whole plan.  Every file of the plan
has a place of its own below the output directory, so no write replaces an
earlier one, and all other files are as they were.
-/

namespace BgpTestbed

open Files

namespace Performed

variable {planned later : List PlannedFile}
  {files between after : FileSystem}

theorem keepsDirectories (performed : Performed planned files after) :
    files.Keeps [] after := by
  induction performed with
  | nothing files => exact .refl [] files
  | @next file later text files between after _ writes _ ih =>
      obtain ⟨_, location, _, notDirectory, rfl⟩ :=
        (files.write_eq_ok_iff between _ _).mp
          (FileSystem.runOn_writeText_eq_ok_iff.mp writes)
      have isNamed := FileSystem.isNamed_of_not_isDirectoryAt notDirectory
      exact (FileSystem.keeps_of_put_file notDirectory isNamed).trans ih

/-- A written file stays where its path leads. -/
private theorem exists_target {path text : String}
    (writes : runOn files (writeText path text) = (.ok (), between))
    (continues : Performed later between after) :
    ∃ location, endsInSlash path = false ∧ location ≠ [] ∧
      between = files.put location (.file text.toUTF8) ∧
      after.target? path = .ok (some location) ∧
      after.locate path = .ok location := by
  obtain ⟨noSlash, location, targets, notDirectory, rfl⟩ :=
    (files.write_eq_ok_iff between _ _).mp
      (FileSystem.runOn_writeText_eq_ok_iff.mp writes)
  have isNamed := FileSystem.isNamed_of_not_isDirectoryAt notDirectory
  have put : files.Keeps [] (files.put location (.file text.toUTF8)) :=
    FileSystem.keeps_of_put_file notDirectory isNamed
  have targetsStill :=
    (put.trans continues.keepsDirectories).target? targets
  have found : (files.put location (.file text.toUTF8)).find? location =
      some (.file text.toUTF8) := by
    rw [files.find?_put location location _ isNamed, if_pos rfl]
  obtain ⟨kept, foundKept, _⟩ :=
    continues.keepsDirectories.entries location _ found
  exact ⟨location, noSlash, isNamed, rfl, targetsStill,
    FileSystem.locate_of_target? targetsStill foundKept⟩

theorem targets (performed : Performed planned files after) :
    ∀ file ∈ planned, ∃ location,
      after.target? file.path = .ok (some location) ∧
        after.locate file.path = .ok location := by
  induction performed with
  | nothing files => exact List.forall_mem_nil _
  | next _ writes continues ih =>
      obtain ⟨location, _, _, _, targetsHere⟩ := exists_target writes continues
      exact List.forall_mem_cons.mpr ⟨⟨location, targetsHere⟩, ih⟩

theorem locates (performed : Performed planned files after)
    {file : PlannedFile} (member : file ∈ planned) {place : Location}
    (targetsHere : after.target? file.path = .ok (some place)) :
    after.locate file.path = .ok place := by
  obtain ⟨location, isTarget, locates⟩ := performed.targets file member
  have same : location = place := by
    rw [isTarget] at targetsHere
    simpa using targetsHere
  rwa [← same]

/-- A location keeps its entry unless a planned file goes there. -/
theorem find?_elsewhere (performed : Performed planned files after)
    {spared : Location}
    (elsewhere : ∀ file ∈ planned,
      after.target? file.path ≠ .ok (some spared)) :
    after.find? spared = files.find? spared := by
  induction performed with
  | nothing files => rfl
  | @next file later text files between after _ writes continues ih =>
      obtain ⟨elsewhereHere, elsewhereLater⟩ :=
        List.forall_mem_cons.mp elsewhere
      obtain ⟨location, _, isNamed, rfl, targetsHere, _⟩ :=
        exists_target writes continues
      have different : spared ≠ location := by
        rintro rfl
        exact elsewhereHere targetsHere
      rw [ih elsewhereLater, files.find?_put location spared _ isNamed,
        if_neg different]

/-- A file holds its text in the end if all later ones go elsewhere. -/
theorem reads_last {file : PlannedFile} {text : String}
    (performed : Performed (planned ++ file :: later) files after)
    (isText : file.text = .ok text)
    (elsewhere : ∀ other ∈ later,
      after.target? other.path ≠ after.target? file.path) :
    after.read file.path = .ok text.toUTF8 := by
  obtain ⟨middle, _, second⟩ := performed.of_append
  cases second with
  | next isHeld writes continues =>
      have same := Except.ok.inj (isHeld.symm.trans isText)
      subst same
      obtain ⟨location, noSlash, isNamed, rfl, isTarget, locates⟩ :=
        exists_target writes continues
      refine (after.read_eq_ok_iff file.path _).mpr
        ⟨noSlash, location, locates, ?_⟩
      rw [continues.find?_elsewhere]
      · rw [middle.find?_put location location _ isNamed, if_pos rfl]
      · intro other member sameTarget
        exact elsewhere other member (sameTarget.trans isTarget.symm)

/-- Files that go to different locations all hold their texts in the end. -/
theorem reads (performed : Performed planned files after)
    (apart : planned.Pairwise fun first second =>
      after.target? first.path ≠ after.target? second.path)
    {file : PlannedFile} (member : file ∈ planned) {text : String}
    (isText : file.text = .ok text) :
    after.read file.path = .ok text.toUTF8 := by
  obtain ⟨front, behind, rfl⟩ := List.append_of_mem member
  obtain ⟨_, apartBehind, _⟩ := List.pairwise_append.mp apart
  refine performed.reads_last isText ?_
  intro other isBehind same
  exact List.rel_of_pairwise_cons apartBehind isBehind same.symm

end Performed

namespace Network

/-- An export that succeeds has performed its plan, after it has made its
directories. -/
theorem performed_writeAll {network complete : Network}
    {settings : Settings} {representation : String}
    {files after : FileSystem} {paths : List String}
    (succeeds : runOn files (network.writeAll settings representation) =
      ({ written := .ok paths, network := complete }, after)) :
    paths = (network.plan settings representation).map PlannedFile.path ∧
      Performed (network.plan settings representation)
        (runOn files (createDirectories settings.configsDirectory)).2 after ∧
      network.synthesize = .ok complete ∧
      ∃ topology,
        complete.topology settings.naming network.keys = .ok topology ∧
        network.topologyText settings = .ok topology.text := by
  have ends := network.ends_writeAll settings representation files
  rw [succeeds] at ends
  cases ends with
  | @complete _ topology prepared _ prepares synthesizes describes performed =>
      rw [prepares]
      exact ⟨rfl, performed, synthesizes, topology, describes,
        text_topology synthesizes describes⟩

/-- The paths of the files of an export in the order in which they are
written. -/
def exportPaths (network : Network) (settings : Settings) : List String :=
  settings.representationPath ::
    network.keys.map settings.configPath ++ [settings.topologyPath]

/-- The places of these files below the output directory. -/
def places (network : Network) (base : Location) : List Location :=
  (base ++ ["configs", "configs.ir"]) ::
    network.keys.map (fun key => base ++ ["configs", key ++ ".cfg"]) ++
    [base ++ ["core.imn"]]

private theorem places_nodup (network : Network) (base : Location) :
    (network.places base).Nodup := by
  have configsDiffer : (network.keys.map fun key =>
      base ++ ["configs", key ++ ".cfg"]).Nodup := by
    rw [List.Nodup, List.pairwise_map]
    refine network.keys_nodup.imp ?_
    intro first second different same
    exact different (by simpa using same)
  have isNoRepresentation : base ++ ["configs", "configs.ir"] ∉
      network.keys.map fun key => base ++ ["configs", key ++ ".cfg"] := by
    simp only [List.mem_map, List.append_cancel_left_eq, not_exists, not_and]
    intro key _ same
    have sameName : key ++ ".cfg" = "configs.ir" := by simpa using same
    have sameEnd := congrArg (fun name => name.toList.getLast?) sameName
    simp at sameEnd
  have isNoTopology : ∀ name, base ++ ["configs", name] ≠ base ++ ["core.imn"] := by
    intro name same
    simp at same
  simp only [places, List.cons_append, List.nodup_cons, List.mem_append,
    List.nodup_append, List.mem_singleton, not_or]
  refine ⟨⟨isNoRepresentation, isNoTopology _⟩, configsDiffer,
    ⟨List.not_mem_nil, List.nodup_nil⟩, ?_⟩
  rintro place member other rfl
  obtain ⟨key, _, rfl⟩ := List.mem_map.mp member
  exact isNoTopology _

theorem path_plan (network : Network) (settings : Settings)
    (representation : String) :
    (network.plan settings representation).map PlannedFile.path =
      network.exportPaths settings := by
  simp [plan, exportPaths, NameMap.keys]

private theorem exists_planned {network : Network} {settings : Settings}
    (representation : String) {path : String}
    (isPath : path ∈ network.exportPaths settings) :
    ∃ file ∈ network.plan settings representation, file.path = path := by
  rw [← path_plan network settings representation] at isPath
  exact List.mem_map.mp isPath

theorem targets_exportPaths {network : Network} {settings : Settings}
    {representation : String} {files after : FileSystem}
    (performed : Performed (network.plan settings representation) files
      after) :
    ∀ path ∈ network.exportPaths settings, ∃ location,
      after.target? path = .ok (some location) ∧
        after.locate path = .ok location := by
  intro path isPath
  obtain ⟨file, inPlan, rfl⟩ := exists_planned representation isPath
  exact performed.targets file inPlan

theorem mem_exportPaths_iff (network : Network) (settings : Settings)
    (path : String) :
    path ∈ network.exportPaths settings ↔
      path = settings.representationPath ∨
        (∃ key ∈ network.keys, settings.configPath key = path) ∨
        path = settings.topologyPath := by
  simp [exportPaths]

/-- What is said of the paths of an export is said of their places, one by
one. -/
private theorem map_paths {β : Type} {network : Network} {settings : Settings}
    {base : Location} {ofPath : String → β} {ofPlace : Location → β}
    (representation : ofPath settings.representationPath =
      ofPlace (base ++ ["configs", "configs.ir"]))
    (configs : ∀ key ∈ network.keys, ofPath (settings.configPath key) =
      ofPlace (base ++ ["configs", key ++ ".cfg"]))
    (topology : ofPath settings.topologyPath =
      ofPlace (base ++ ["core.imn"])) :
    (network.exportPaths settings).map ofPath =
      (network.places base).map ofPlace := by
  have sameConfigs : network.keys.map (ofPath ∘ settings.configPath) =
      network.keys.map
        (ofPlace ∘ fun key => base ++ ["configs", key ++ ".cfg"]) :=
    List.map_congr_left configs
  simp only [exportPaths, places, List.map_append, List.map_cons,
    List.map_map, List.map_nil, representation, sameConfigs, topology]

end Network

theorem isFileName_config {key : String} (noSlash : '/' ∉ key.toList) :
    IsFileName (key ++ ".cfg") := by
  refine ⟨?_, ?_, ?_, ?_⟩
  · simpa using noSlash
  · simp
  · intro isDot
    simpa using congrArg (fun name => name.toList.getLast?) isDot
  · intro isDots
    simpa using congrArg (fun name => name.toList.getLast?) isDots

theorem isAbsolute_config (key : String) :
    isAbsolute (key ++ ".cfg") = isAbsolute key := by
  rw [isAbsolute, isAbsolute, String.toList_append]
  cases key.toList <;> rfl

section Placed

variable {settings : Settings} {files : FileSystem} {location : Location}

theorem target?_in_configs {name : String} (isName : IsFileName name)
    (targets : files.target? (joinPath settings.configsDirectory name) =
      .ok (some location)) :
    ∃ base, files.follow settings.outDirectory = .ok base ∧
      files.follow settings.configsDirectory = .ok (base ++ ["configs"]) ∧
      location = base ++ ["configs", name] := by
  obtain ⟨parent, follows, rfl⟩ := FileSystem.target?_joinPath isName targets
  have isConfigs : IsFileName "configs" :=
    ⟨by decide, by decide, by decide, by decide⟩
  obtain ⟨base, followsBase, rfl⟩ :=
    FileSystem.follow_joinPath isConfigs follows
  exact ⟨base, followsBase, follows, List.append_assoc _ _ _⟩

theorem target?_representationPath
    (targets : files.target? settings.representationPath =
      .ok (some location)) :
    ∃ base, files.follow settings.outDirectory = .ok base ∧
      files.follow settings.configsDirectory = .ok (base ++ ["configs"]) ∧
      location = base ++ ["configs", "configs.ir"] := by
  have isRepresentation : IsFileName "configs.ir" :=
    ⟨by decide, by decide, by decide, by decide⟩
  exact target?_in_configs isRepresentation targets

theorem target?_topologyPath
    (targets : files.target? settings.topologyPath = .ok (some location)) :
    ∃ base, files.follow settings.outDirectory = .ok base ∧
      location = base ++ ["core.imn"] := by
  have isTopology : IsFileName "core.imn" :=
    ⟨by decide, by decide, by decide, by decide⟩
  exact FileSystem.target?_joinPath isTopology targets

/-- Where the paths of an export lead. -/
private structure Network.Placed (network : Network) (settings : Settings)
    (files : FileSystem) (base : Location) : Prop where
  follows : files.follow settings.outDirectory = .ok base
  representation : files.target? settings.representationPath =
    .ok (some (base ++ ["configs", "configs.ir"]))
  configs : ∀ key ∈ network.keys, files.target? (settings.configPath key) =
    .ok (some (base ++ ["configs", key ++ ".cfg"]))
  topology : files.target? settings.topologyPath =
    .ok (some (base ++ ["core.imn"]))

/-- All paths go through one output directory. -/
private theorem Network.exists_placed {network : Network}
    (noSlash : ∀ key ∈ network.keys, '/' ∉ key.toList)
    (targets : ∀ path ∈ network.exportPaths settings, ∃ location,
      files.target? path = .ok (some location) ∧
        files.locate path = .ok location) :
    ∃ base, network.Placed settings files base := by
  obtain ⟨place, targetsPlace, _⟩ := targets settings.representationPath
    ((network.mem_exportPaths_iff settings _).mpr (.inl rfl))
  obtain ⟨base, follows, _, rfl⟩ := target?_representationPath targetsPlace
  refine ⟨base, follows, targetsPlace, ?_, ?_⟩
  · intro key isKey
    obtain ⟨location, targetsKey, _⟩ := targets (settings.configPath key)
      ((network.mem_exportPaths_iff settings _).mpr
        (.inr (.inl ⟨key, isKey, rfl⟩)))
    obtain ⟨other, followsOther, _, rfl⟩ :=
      target?_in_configs (isFileName_config (noSlash key isKey)) targetsKey
    rw [follows] at followsOther
    cases followsOther
    exact targetsKey
  · obtain ⟨location, targetsLast, _⟩ := targets settings.topologyPath
      ((network.mem_exportPaths_iff settings _).mpr (.inr (.inr rfl)))
    obtain ⟨other, followsOther, rfl⟩ := target?_topologyPath targetsLast
    rw [follows] at followsOther
    cases followsOther
    exact targetsLast

/-- No two files of the plan go to one place. -/
private theorem Network.plan_apart {network : Network} {base : Location}
    (placed : network.Placed settings files base) (representation : String) :
    (network.plan settings representation).Pairwise fun first second =>
      files.target? first.path ≠ files.target? second.path := by
  have areTargets : (network.exportPaths settings).map files.target? =
      (network.places base).map fun place => .ok (some place) :=
    map_paths placed.representation placed.configs placed.topology
  have distinct : (((network.plan settings representation).map
      PlannedFile.path).map files.target?).Nodup := by
    rw [path_plan, areTargets, List.Nodup, List.pairwise_map]
    refine (network.places_nodup base).imp ?_
    intro first second different same
    exact different (by simpa using same)
  rw [List.Nodup, List.pairwise_map, List.pairwise_map] at distinct
  exact distinct

/-- After an export every path leads to the place where its file was put. -/
private theorem Network.locate_exportPaths {network : Network}
    {base : Location} {before : FileSystem} {representation : String}
    (placed : network.Placed settings files base)
    (performed : Performed (network.plan settings representation) before
      files) :
    (network.exportPaths settings).map files.locate =
      (network.places base).map .ok := by
  have locates : ∀ path ∈ network.exportPaths settings, ∀ place,
      files.target? path = .ok (some place) →
        files.locate path = .ok place := by
    intro path isPath place targets
    obtain ⟨file, inPlan, rfl⟩ := exists_planned representation isPath
    exact performed.locates inPlan targets
  have isPath := network.mem_exportPaths_iff settings
  apply map_paths
  · exact locates _ ((isPath _).mpr (.inl rfl)) _ placed.representation
  · intro key isKey
    exact locates _ ((isPath _).mpr (.inr (.inl ⟨key, isKey, rfl⟩))) _
      (placed.configs key isKey)
  · exact locates _ ((isPath _).mpr (.inr (.inr rfl))) _ placed.topology

end Placed

/-- Only an absolute name can spell out the path of another configuration. -/
private theorem isAbsolute_of_sameConfigPath {settings : Settings}
    {key name : String} (noSlash : '/' ∉ key.toList) (different : name ≠ key)
    (same : settings.configPath name = settings.configPath key) :
    isAbsolute name = true := by
  refine Bool.of_not_eq_false fun relative => different ?_
  have keyRelative :=
    not_isAbsolute_of_noSlash (isFileName_config noSlash).noSlash
  have nameRelative : isAbsolute (name ++ ".cfg") = false :=
    (isAbsolute_config name).trans relative
  have sameName := (joinPath_inj _ nameRelative keyRelative).mp same
  simpa using sameName

private theorem configPath_ne {settings : Settings} (name : String)
    {path : String} {character : Char}
    (ends : path.toList.getLast? = some character) (notG : character ≠ 'g') :
    settings.configPath name ≠ path := by
  rintro rfl
  rw [settings.getLast?_configPath name] at ends
  exact notG (Option.some.inj ends).symm

/-- The configuration path of a name that is no key is no path of an export,
unless the name spells out the path of a key from the root. -/
private theorem Network.isAbsolute_of_mem_exportPaths {network : Network}
    {settings : Settings} {name : String}
    (noSlash : ∀ key ∈ network.keys, '/' ∉ key.toList)
    (absent : name ∉ network.keys)
    (isPath : settings.configPath name ∈ network.exportPaths settings) :
    isAbsolute name = true ∧ ∃ key ∈ network.keys,
      settings.configPath name = settings.configPath key := by
  rcases (network.mem_exportPaths_iff settings _).mp isPath with
    isRepresentation | ⟨key, isKey, same⟩ | isTopology
  · exact absurd isRepresentation
      (configPath_ne name settings.getLast?_representationPath (by decide))
  · have different : name ≠ key := by
      rintro rfl
      exact absent isKey
    exact ⟨isAbsolute_of_sameConfigPath (noSlash key isKey) different
      same.symm, key, isKey, same.symm⟩
  · exact absurd isTopology
      (configPath_ne name settings.getLast?_topologyPath (by decide))

/-- A complete export: each file stands in its place and holds its text, and
every other regular file is as it was.  Paths of configurations belong to the
routers before synthesis; the name of another router can give such a path only
by spelling it out from the root. -/
structure Network.IsExported (network complete : Network)
    (settings : Settings) (representation : String)
    (files after : FileSystem) (paths : List String) : Prop where
  inOrder : paths = network.exportPaths settings
  inPlace : ∃ base, after.follow settings.outDirectory = .ok base ∧
    paths.map after.locate = (network.places base).map .ok
  filesDiffer : (paths.map after.locate).Nodup
  holdsRepresentation : after.read settings.representationPath =
    .ok representation.toUTF8
  holdsConfigs : ∀ key router, network.find? key = some router →
    after.read (settings.configPath key) =
      .ok (router.configuration settings.naming network.keys).toUTF8
  holdsTopology : network.synthesize = .ok complete ∧ ∃ topology,
    complete.topology settings.naming network.keys = .ok topology ∧
      after.read settings.topologyPath = .ok topology.text.toUTF8
  keepsOthers : ∀ place, (∀ path ∈ paths, after.locate path ≠ .ok place) →
    ∀ content, after.find? place = some (.file content) ↔
      files.find? place = some (.file content)
  noOtherConfigs : ∀ name, name ∉ network.keys →
    settings.configPath name ∈ paths → isAbsolute name = true ∧
      ∃ key ∈ network.keys, settings.configPath name = settings.configPath key

/-- If no key has a slash, an export that succeeds has written exactly the
files of its plan. -/
theorem Network.writeAll_isExported (network complete : Network)
    (settings : Settings) (representation : String)
    (files after : FileSystem) (paths : List String)
    (noSlash : ∀ key ∈ network.keys, '/' ∉ key.toList)
    (succeeds : runOn files (network.writeAll settings representation) =
      ({ written := .ok paths, network := complete }, after)) :
    network.IsExported complete settings representation files after paths := by
  obtain ⟨isPaths, performed, synthesizes, topology, describes, isText⟩ :=
    performed_writeAll succeeds
  have prepares := FileSystem.addsDirectories_createDirectories files
    settings.configsDirectory
  rw [path_plan] at isPaths
  subst isPaths
  obtain ⟨base, placed⟩ :=
    exists_placed noSlash (targets_exportPaths performed)
  have apart := plan_apart placed representation
  have areInPlace := locate_exportPaths placed performed
  refine {
    inOrder := rfl
    inPlace := ⟨base, placed.follows, areInPlace⟩
    filesDiffer := ?_
    holdsRepresentation := ?_
    holdsConfigs := ?_
    holdsTopology := ⟨synthesizes, topology, describes, ?_⟩
    keepsOthers := ?_
    noOtherConfigs := fun _ => isAbsolute_of_mem_exportPaths noSlash }
  · rw [areInPlace, List.Nodup, List.pairwise_map]
    refine (network.places_nodup base).imp ?_
    intro first second different same
    exact different (Except.ok.inj same)
  · have inPlan : PlannedFile.mk settings.representationPath
        (.ok representation) ∈ network.plan settings representation :=
      List.mem_cons_self
    exact performed.reads apart inPlan rfl
  · intro key router found
    have isEntry := (network.mem_entries_iff key router).mpr found
    have inPlan : PlannedFile.mk (settings.configPath key)
        (.ok (router.configuration settings.naming network.keys)) ∈
          network.plan settings representation :=
      List.mem_append_left _ (List.mem_cons_of_mem _
        (List.mem_map.mpr ⟨(key, router), isEntry, rfl⟩))
    exact performed.reads apart inPlan rfl
  · have inPlan : PlannedFile.mk settings.topologyPath
        (network.topologyText settings) ∈
          network.plan settings representation :=
      List.mem_append_right _ List.mem_cons_self
    exact performed.reads apart inPlan isText
  · intro place elsewhere content
    rw [performed.find?_elsewhere]
    · exact prepares.find?_file_iff place content
    · intro file inPlan targets
      have isPath : file.path ∈ network.exportPaths settings := by
        rw [← path_plan network settings representation]
        exact List.mem_map_of_mem inPlan
      exact elsewhere file.path isPath (performed.locates inPlan targets)

/-- Keys that look like dots, like file names of the export and like nothing,
and the external peer `X`. -/
def oddKeys : Network :=
  .ofList [("", .fresh "" 1), (".", .fresh "." 2),
    ("configs.ir", .fresh "configs.ir" 3),
    ("a.cfg", { Router.fresh "a.cfg" 4 with
      sessions := [.unfiltered "X" ⟨10, 0, 0, 2⟩ ⟨10, 0, 0, 1⟩] })]

/-- A working directory with an older export and a file beside it. -/
def olderExport : FileSystem where
  entries := [(["home", "out", "configs", "a.cfg.cfg"], .file "old".toUTF8),
    (["home", "out", "configs", "X.cfg"], .file "kept".toUTF8),
    (["home", "out", "configs"], .directory), (["home", "out"], .directory),
    (["home"], .directory)]
  workingDirectory := ["home"]

/-- The output directory is named with dots. -/
def dottedSettings : Settings where
  naming := .concrete
  outDirectory := "./out//../out/"

theorem Network.writeAll_isExported_oddKeys :
    (∀ key ∈ oddKeys.keys, '/' ∉ key.toList) ∧
      ∃ complete after paths,
        runOn olderExport (oddKeys.writeAll dottedSettings "ir") =
          ({ written := .ok paths, network := complete }, after) ∧
        paths = ["./out//../out/configs/configs.ir",
          "./out//../out/configs/.cfg", "./out//../out/configs/..cfg",
          "./out//../out/configs/a.cfg.cfg",
          "./out//../out/configs/configs.ir.cfg", "./out//../out/core.imn"] ∧
        oddKeys.IsExported complete dottedSettings "ir" olderExport after
          paths := by
  have noSlash : ∀ key ∈ oddKeys.keys, '/' ∉ key.toList := by
    decide +kernel
  have written : (runOn olderExport
      (oddKeys.writeAll dottedSettings "ir")).1.written =
        .ok ["./out//../out/configs/configs.ir",
          "./out//../out/configs/.cfg", "./out//../out/configs/..cfg",
          "./out//../out/configs/a.cfg.cfg",
          "./out//../out/configs/configs.ir.cfg",
          "./out//../out/core.imn"] := by
    decide +kernel
  refine ⟨noSlash, ?_⟩
  generalize ended : runOn olderExport
    (oddKeys.writeAll dottedSettings "ir") = outcome at written ⊢
  obtain ⟨⟨result, complete⟩, after⟩ := outcome
  simp only at written
  subst written
  exact ⟨complete, after, _, rfl, rfl,
    writeAll_isExported oddKeys complete dottedSettings "ir" olderExport after
      _ noSlash ended⟩

end BgpTestbed
