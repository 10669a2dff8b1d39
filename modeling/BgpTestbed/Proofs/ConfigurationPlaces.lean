import Mathlib.Data.List.Nodup
import BgpTestbed.Proofs.CompleteExport
import BgpTestbed.Proofs.Files.Resolution
import BgpTestbed.Proofs.PartialExport
import BgpTestbed.Proofs.SpelledNetworks

/-!
# Where configurations end up

The key of a router becomes part of a path.  A key with slashes can thus lead
to the file of another router, to another directory or, from the root, out of
the output directory altogether.  Each router has a configuration of its own
among the others exactly if the places to which the keys resolve differ and are
below the directory of the configurations.
-/

namespace BgpTestbed

open Files

/-- The place to which a key resolves below an output directory. -/
def configPlace (out : Location) (key : String) : Location :=
  Location.along (if isAbsolute key then [] else out ++ ["configs"])
    (segments (key ++ ".cfg"))

theorem configPlace_of_descends (out : Location) {key : String}
    (descends : Descends (key ++ ".cfg")) :
    configPlace out key = out ++ ["configs"] ++ segments (key ++ ".cfg") := by
  have relative : isAbsolute key = false := by
    rw [← isAbsolute_config, descends.isRelative]
  rw [configPlace, relative, if_neg Bool.false_ne_true,
    descends.along_segments]

theorem configPlace_inj_of_descends (out : Location) {first second : String}
    (firstDescends : Descends (first ++ ".cfg"))
    (secondDescends : Descends (second ++ ".cfg")) :
    configPlace out first = configPlace out second ↔ first = second := by
  rw [configPlace_of_descends out firstDescends,
    configPlace_of_descends out secondDescends, List.append_cancel_left_eq,
    firstDescends.segments_inj secondDescends, String.append_left_inj]

/-- The path of a configuration leads to its place, if anywhere. -/
private theorem eq_configPlace {settings : Settings} {after : FileSystem}
    {out location : Location} {key : String}
    (follows : after.follow settings.configsDirectory =
      .ok (out ++ ["configs"]))
    (locates : after.locate (settings.configPath key) = .ok location) :
    location = configPlace out key := by
  rw [configPlace]
  cases absolute : isAbsolute key with
  | true =>
      have isAlone : settings.configPath key = key ++ ".cfg" := by
        rw [Settings.configPath, joinPath, isAbsolute_config, if_pos absolute]
      rw [isAlone] at locates
      rw [FileSystem.locate_eq_along locates, FileSystem.startOf,
        isAbsolute_config, absolute, if_pos rfl, if_pos rfl]
  | false =>
      have relative := (isAbsolute_config key).trans absolute
      exact FileSystem.locate_joinPath relative follows locates

namespace Network

variable {network complete : Network} {settings : Settings}
  {representation : String} {files after : FileSystem} {paths : List String}
  {out : Location}

/-- What an export leaves where its paths resolve: where several keys resolve
to one place, the configuration of the last one, and elsewhere the regular
files that were there. -/
structure IsResolved (network : Network) (settings : Settings)
    (files after : FileSystem) (out : Location) : Prop where
  follows : after.follow settings.outDirectory = .ok out
  followsConfigs : after.follow settings.configsDirectory =
    .ok (out ++ ["configs"])
  inPlace : ∀ key ∈ network.keys,
    after.locate (settings.configPath key) = .ok (configPlace out key)
  holdsLast : ∀ key router, network.find? key = some router →
    (∀ later ∈ network.keys, key < later →
      configPlace out later ≠ configPlace out key) →
    after.read (settings.configPath key) =
      .ok (router.configuration settings.naming network.keys).toUTF8
  keepsOthers : ∀ place, place ≠ out ++ ["configs", "configs.ir"] →
    (∀ key ∈ network.keys, place ≠ configPlace out key) →
    place ≠ out ++ ["core.imn"] →
    ∀ content, after.find? place = some (.file content) ↔
      files.find? place = some (.file content)

/-- Every configuration has a file of its own in the directory of the
configurations, and no regular file outside the output directory appears,
changes or goes away. -/
structure HasOwnFiles (network : Network) (settings : Settings)
    (files after : FileSystem) : Prop where
  filesDiffer : (network.keys.map fun key =>
    after.locate (settings.configPath key)).Nodup
  inConfigs : ∃ configs,
    after.follow settings.configsDirectory = .ok configs ∧
      ∀ key ∈ network.keys, ∃ place,
        after.locate (settings.configPath key) = .ok place ∧
          configs <+: place
  holdsConfigs : ∀ key router, network.find? key = some router →
    after.read (settings.configPath key) =
      .ok (router.configuration settings.naming network.keys).toUTF8
  keepsOutside : ∃ out, after.follow settings.outDirectory = .ok out ∧
    ∀ place, ¬ out <+: place → ∀ content,
      after.find? place = some (.file content) ↔
        files.find? place = some (.file content)

/-- The last name of a path tells configurations from the topology. -/
private theorem target?_topologyPath_ne (key : String) {place : Location}
    (targets : after.target? (settings.configPath key) = .ok (some place)) :
    after.target? settings.topologyPath ≠
      after.target? (settings.configPath key) := by
  intro same
  have targetsTopology := same.trans targets
  have sameLast := (FileSystem.getLast?_target? targetsTopology).symm.trans
    (FileSystem.getLast?_target? targets)
  exact getLast?_segments_ne settings.getLast?_topologyPath
    (settings.getLast?_configPath key) (by decide) (by decide) (by decide)
    sameLast

/-- The configuration of a router as a file of a plan. -/
private def configFile (network : Network) (settings : Settings)
    (entry : String × Router) : PlannedFile where
  path := settings.configPath entry.1
  text := .ok (entry.2.configuration settings.naming network.keys)

/-- In the plan, a configuration is followed by those of later keys and by the
topology. -/
private theorem exists_plan_eq {key : String} {router : Router}
    (found : network.find? key = some router) :
    ∃ front behind,
      network.plan settings representation =
        front ++ network.configFile settings (key, router) :: behind ∧
      ∀ other ∈ behind, other.path = settings.topologyPath ∨
        ∃ later ∈ network.keys, key < later ∧
          other.path = settings.configPath later := by
  have isEntry := (network.mem_entries_iff key router).mpr found
  obtain ⟨before, beyond, entries⟩ := List.append_of_mem isEntry
  -- Entries are in the order of their keys, so those beyond have later keys.
  have sorted := network.isSorted
  rw [entries] at sorted
  obtain ⟨_, sortedBeyond, _⟩ := List.pairwise_append.mp sorted
  refine ⟨
    { path := settings.representationPath, text := .ok representation } ::
      before.map (network.configFile settings),
    beyond.map (network.configFile settings) ++
      [{ path := settings.topologyPath
         text := network.topologyText settings }], ?_, ?_⟩
  · rw [plan, entries, List.map_append, List.map_cons, List.cons_append,
      List.append_assoc]
    rfl
  · intro other member
    rcases List.mem_append.mp member with isConfig | isTopology
    · obtain ⟨⟨later, laterRouter⟩, isBeyond, rfl⟩ :=
        List.mem_map.mp isConfig
      have isLaterEntry : (later, laterRouter) ∈ network.entries := by
        rw [entries]
        exact List.mem_append_right _ (List.mem_cons_of_mem _ isBeyond)
      exact .inr ⟨later, List.mem_map_of_mem isLaterEntry,
        List.rel_of_pairwise_cons sortedBeyond isBeyond, rfl⟩
    · rw [List.mem_singleton.mp isTopology]
      exact .inl rfl

private theorem reads_configPath
    (performed : Performed (network.plan settings representation) files after)
    (targets : ∀ key ∈ network.keys,
      after.target? (settings.configPath key) =
        .ok (some (configPlace out key)))
    {key : String} {router : Router}
    (found : network.find? key = some router)
    (isLast : ∀ later ∈ network.keys, key < later →
      configPlace out later ≠ configPlace out key) :
    after.read (settings.configPath key) =
      .ok (router.configuration settings.naming network.keys).toUTF8 := by
  have isKey := (network.mem_keys_iff key).mpr ⟨router, found⟩
  have targetsHere := targets key isKey
  obtain ⟨front, behind, isSplit, follow⟩ := exists_plan_eq found
  rw [isSplit] at performed
  have isText : (network.configFile settings (key, router)).text =
      .ok (router.configuration settings.naming network.keys) := rfl
  refine performed.reads_last isText ?_
  intro other isBehind same
  rcases follow other isBehind with
    isTopology | ⟨later, isLater, below, isPath⟩
  · rw [isTopology] at same
    exact target?_topologyPath_ne key targetsHere same
  · rw [isPath] at same
    have samePlace := (targets later isLater).symm.trans
      (same.trans targetsHere)
    exact isLast later isLater below (by simpa using samePlace)

/-- An export that succeeds leaves its files where its paths resolve. -/
theorem exists_isResolved
    (succeeds : runOn files (network.writeAll settings representation) =
      ({ written := .ok paths, network := complete }, after)) :
    ∃ out, network.IsResolved settings files after out := by
  obtain ⟨_, performed, _⟩ := performed_writeAll succeeds
  have prepares := FileSystem.addsDirectories_createDirectories files
    settings.configsDirectory
  have targets := targets_exportPaths performed
  have isPath := network.mem_exportPaths_iff settings
  obtain ⟨place, targetsPlace, _⟩ := targets _ ((isPath _).mpr (.inl rfl))
  obtain ⟨out, follows, followsConfigs, rfl⟩ :=
    target?_representationPath targetsPlace
  have inPlace : ∀ key ∈ network.keys,
      after.target? (settings.configPath key) =
          .ok (some (configPlace out key)) ∧
        after.locate (settings.configPath key) =
          .ok (configPlace out key) := by
    intro key isKey
    obtain ⟨location, targetsKey, locates⟩ :=
      targets _ ((isPath _).mpr (.inr (.inl ⟨key, isKey, rfl⟩)))
    have isPlace := eq_configPlace followsConfigs locates
    subst isPlace
    exact ⟨targetsKey, locates⟩
  refine ⟨out, {
    follows, followsConfigs
    inPlace := fun key isKey => (inPlace key isKey).2
    holdsLast := fun key router => reads_configPath performed
      fun key isKey => (inPlace key isKey).1
    keepsOthers := ?_ }⟩
  intro place noRepresentation noConfig noTopology content
  rw [performed.find?_elsewhere]
  · exact prepares.find?_file_iff place content
  · intro file inPlan targetsFile
    have isFilePath : file.path ∈ network.exportPaths settings := by
      rw [← path_plan network settings representation]
      exact List.mem_map_of_mem inPlan
    rcases (isPath _).mp isFilePath with same | ⟨key, isKey, same⟩ | same
    · rw [same, targetsPlace] at targetsFile
      exact noRepresentation (by simpa using targetsFile.symm)
    · rw [← same, (inPlace key isKey).1] at targetsFile
      exact noConfig key isKey (by simpa using targetsFile.symm)
    · rw [same] at targetsFile
      obtain ⟨other, followsOther, rfl⟩ := target?_topologyPath targetsFile
      rw [follows] at followsOther
      cases followsOther
      exact noTopology rfl

theorem IsResolved.hasOwnFiles_iff
    (resolved : network.IsResolved settings files after out) :
    network.HasOwnFiles settings files after ↔
      (network.keys.map (configPlace out)).Nodup ∧
        ∀ key ∈ network.keys, out ++ ["configs"] <+: configPlace out key := by
  have located : (network.keys.map fun key =>
      after.locate (settings.configPath key)) =
        (network.keys.map (configPlace out)).map .ok := by
    rw [List.map_map]
    exact List.map_congr_left resolved.inPlace
  constructor
  · intro own
    constructor
    · have differ := own.filesDiffer
      rw [located] at differ
      exact differ.of_map _
    · intro key isKey
      obtain ⟨configs, follows, inside⟩ := own.inConfigs
      obtain ⟨place, locates, isBelow⟩ := inside key isKey
      rw [resolved.followsConfigs] at follows
      rw [resolved.inPlace key isKey] at locates
      cases follows
      cases locates
      exact isBelow
  · rintro ⟨differ, inside⟩
    have isBelowOut : ∀ key ∈ network.keys, out <+: configPlace out key := by
      intro key isKey
      exact (List.prefix_append _ _).trans (inside key isKey)
    refine {
      filesDiffer := ?_
      inConfigs := ⟨_, resolved.followsConfigs, fun key isKey =>
        ⟨_, resolved.inPlace key isKey, inside key isKey⟩⟩
      holdsConfigs := ?_
      keepsOutside := ⟨out, resolved.follows, ?_⟩ }
    · rw [located]
      exact differ.map fun _ _ same => Except.ok.inj same
    · intro key router found
      have isKey := (network.mem_keys_iff key).mpr ⟨router, found⟩
      -- No later key replaces the file, since it would have to share its place.
      refine resolved.holdsLast key router found ?_
      intro later isLater below same
      have sameKey := List.inj_on_of_nodup_map differ isLater isKey same
      exact String.lt_irrefl _ (sameKey ▸ below)
    · intro place outside
      apply resolved.keepsOthers place
      · rintro rfl
        exact outside (List.prefix_append _ _)
      · rintro key isKey rfl
        exact outside (isBelowOut key isKey)
      · rintro rfl
        exact outside (List.prefix_append _ _)

/-- Keys that go down with each of their slashes have places of their own below
the configurations. -/
private theorem configPlaces_of_descends (network : Network) (out : Location)
    (descends : ∀ key ∈ network.keys, Descends (key ++ ".cfg")) :
    (network.keys.map (configPlace out)).Nodup ∧
      ∀ key ∈ network.keys, out ++ ["configs"] <+: configPlace out key := by
  constructor
  · refine network.keys_nodup.map_on ?_
    intro first isFirst second isSecond
    exact (configPlace_inj_of_descends out (descends first isFirst)
      (descends second isSecond)).mp
  · intro key isKey
    rw [configPlace_of_descends out (descends key isKey)]
    exact List.prefix_append _ _

/-- After an export every configuration path leads to the place to which its
key resolves, and the configuration there is that of the last key with this
place.  All routers have files of their own among the configurations exactly if
these places differ and are there, as they do if every key with a slash goes
down with each of them. -/
theorem writeAll_hasOwnFiles_iff (network complete : Network)
    (settings : Settings) (representation : String)
    (files after : FileSystem) (paths : List String)
    (succeeds : runOn files (network.writeAll settings representation) =
      ({ written := .ok paths, network := complete }, after)) :
    ∃ out, network.IsResolved settings files after out ∧
      (network.HasOwnFiles settings files after ↔
        (network.keys.map (configPlace out)).Nodup ∧
          ∀ key ∈ network.keys,
            out ++ ["configs"] <+: configPlace out key) ∧
      ((∀ key ∈ network.keys, '/' ∈ key.toList → Descends (key ++ ".cfg")) →
        network.HasOwnFiles settings files after) := by
  obtain ⟨out, resolved⟩ := exists_isResolved succeeds
  refine ⟨out, resolved, resolved.hasOwnFiles_iff, ?_⟩
  intro slashesDescend
  apply resolved.hasOwnFiles_iff.mpr
  apply configPlaces_of_descends
  intro key isKey
  by_cases hasSlash : '/' ∈ key.toList
  · exact slashesDescend key isKey hasSlash
  · exact (isFileName_config hasSlash).descends

/-- A key in a directory of its own and one that comes back from a detour. -/
def nestedKeys : Network :=
  .ofList [("a", { Router.fresh "a" 1 with
      sessions := [.unfiltered "X" ⟨10, 0, 0, 2⟩ ⟨10, 0, 0, 1⟩] }),
    ("nested/a", .fresh "b" 2), ("../configs/b", .fresh "c" 3)]

/-- A working directory with a directory for one of these keys. -/
def nestedDirectory : FileSystem where
  entries := [(["home", "out", "configs", "nested"], .directory),
    (["home", "out", "configs"], .directory), (["home", "out"], .directory),
    (["home"], .directory), (["home", "a.cfg"], .file "kept".toUTF8)]
  workingDirectory := ["home"]

theorem writeAll_hasOwnFiles_iff_nestedKeys :
    ∃ complete after paths,
      runOn nestedDirectory
          (nestedKeys.writeAll CommandLine.outSettings "ir") =
        ({ written := .ok paths, network := complete }, after) ∧
      nestedKeys.IsResolved CommandLine.outSettings nestedDirectory after
        ["home", "out"] ∧
      nestedKeys.HasOwnFiles CommandLine.outSettings nestedDirectory after := by
  have written : (runOn nestedDirectory
      (nestedKeys.writeAll CommandLine.outSettings "ir")).1.written =
        .ok ["out/configs/configs.ir", "out/configs/../configs/b.cfg",
          "out/configs/a.cfg", "out/configs/nested/a.cfg",
          "out/core.imn"] := by
    decide +kernel
  have follows : (runOn nestedDirectory
      (nestedKeys.writeAll CommandLine.outSettings "ir")).2.follow "out" =
        .ok ["home", "out"] := by
    decide +kernel
  generalize ended : runOn nestedDirectory
    (nestedKeys.writeAll CommandLine.outSettings "ir") = outcome
    at written follows ⊢
  obtain ⟨⟨result, complete⟩, after⟩ := outcome
  simp only at written follows
  subst written
  obtain ⟨out, resolved, ownFiles, _⟩ :=
    writeAll_hasOwnFiles_iff nestedKeys complete CommandLine.outSettings "ir"
      nestedDirectory after _ ended
  have isOut : out = ["home", "out"] :=
    Except.ok.inj (resolved.follows.symm.trans follows)
  subst isOut
  refine ⟨complete, after, _, rfl, resolved, ownFiles.mpr ?_⟩
  decide +kernel

/-- Two keys for one place, and one for a place beside the output
directory. -/
def climbingKeys : Network :=
  .ofList [("a", .fresh "a" 1), ("../configs/a", .fresh "b" 2),
    ("../../c", .fresh "c" 3)]

/-- A working directory with a file beside the output directory. -/
def guardedDirectory : FileSystem where
  entries := [(["home"], .directory),
    (["home", "c.cfg"], .file "precious".toUTF8)]
  workingDirectory := ["home"]

/-- The export of a network that can be read succeeds, but one configuration
replaces another, and one replaces a file that is not part of the export. -/
theorem climbingKeys_replace_files :
    codec.decode (codec.compact climbingKeys) = .ok climbingKeys ∧
      ∃ complete after paths,
        runOn guardedDirectory
            (climbingKeys.writeAll CommandLine.outSettings "ir") =
          ({ written := .ok paths, network := complete }, after) ∧
        after.locate (CommandLine.outSettings.configPath "../configs/a") =
          after.locate (CommandLine.outSettings.configPath "a") ∧
        guardedDirectory.read "c.cfg" = .ok "precious".toUTF8 ∧
        after.read "c.cfg" ≠ .ok "precious".toUTF8 ∧
        ¬ climbingKeys.HasOwnFiles CommandLine.outSettings guardedDirectory
          after := by
  have unambiguous : climbingKeys.Unambiguous := by decide +kernel
  have decodes : codec.decode (codec.compact climbingKeys) =
      .ok climbingKeys :=
    decode_of_spelledAs unambiguous
      (spelledAs_write unambiguous Json.Layout.compact)
  have written : (runOn guardedDirectory
      (climbingKeys.writeAll CommandLine.outSettings "ir")).1.written =
        .ok ["out/configs/configs.ir", "out/configs/../../c.cfg",
          "out/configs/../configs/a.cfg", "out/configs/a.cfg",
          "out/core.imn"] := by
    decide +kernel
  have before : guardedDirectory.read "c.cfg" = .ok "precious".toUTF8 := by
    decide +kernel
  have replaced : (runOn guardedDirectory
      (climbingKeys.writeAll CommandLine.outSettings "ir")).2.read "c.cfg" ≠
        .ok "precious".toUTF8 := by
    decide +kernel
  have clash : (runOn guardedDirectory
      (climbingKeys.writeAll CommandLine.outSettings "ir")).2.locate
        (CommandLine.outSettings.configPath "../configs/a") =
      (runOn guardedDirectory
        (climbingKeys.writeAll CommandLine.outSettings "ir")).2.locate
          (CommandLine.outSettings.configPath "a") := by
    decide +kernel
  refine ⟨decodes, ?_⟩
  generalize ended : runOn guardedDirectory
    (climbingKeys.writeAll CommandLine.outSettings "ir") = outcome
    at written replaced clash ⊢
  obtain ⟨⟨result, complete⟩, after⟩ := outcome
  simp only at written replaced clash
  subst written
  refine ⟨complete, after, _, rfl, clash, before, replaced, ?_⟩
  intro own
  have isFirst : "../configs/a" ∈ climbingKeys.keys := by decide +kernel
  have isSecond : "a" ∈ climbingKeys.keys := by decide +kernel
  have same := List.inj_on_of_nodup_map own.filesDiffer isFirst isSecond clash
  exact absurd same (by decide)

end Network

end BgpTestbed
