import Mathlib.Tactic.MkIffOfInductiveProp
import BgpTestbed.Daemon.BgpProcess
import BgpTestbed.Daemon.RouteMapEntry
import BgpTestbed.Emulator.Node

/-!
# The order of settings

A block is built by settings that are made one after the other.  Of some kinds
all settings count, in their order, of others the last one does, and no kind
is affected by another.  Settings of different kinds may therefore be mixed in
any way: what is built tells no more about them than each kind does alone.
-/

namespace BgpTestbed

section Settings

variable {σ α β τ : Type}

/-- The last setting of a kind. -/
def lastOf (kind : σ → Option α) (settings : List σ) : Option α :=
  (settings.filterMap kind).getLast?

/-- Settings that are the same kind by kind build the same and show the same,
and no others build the same. -/
structure OnlyKindsMatter (build : List σ → β) (same : List σ → List σ → Prop)
    (text : β → τ) : Prop where
  built : ∀ first second, build first = build second ↔ same first second
  shown : ∀ first second, same first second →
    text (build first) = text (build second)

theorem filterMap_concat (kind : σ → Option α) (earlier : List σ)
    (setting : σ) :
    (earlier ++ [setting]).filterMap kind =
      earlier.filterMap kind ++ (kind setting).toList := by
  rw [List.filterMap_append]
  cases found : kind setting <;> simp [found]

theorem lastOf_concat (kind : σ → Option α) (earlier : List σ)
    (setting : σ) :
    lastOf kind (earlier ++ [setting]) =
      (kind setting).or (lastOf kind earlier) := by
  rw [lastOf, filterMap_concat, List.getLast?_append, lastOf]
  cases kind setting <;> rfl

/-- What is built is known if it is known how one more setting changes it. -/
theorem foldl_eq_of_step {set : β → σ → β} {built : List σ → β}
    (step : ∀ earlier setting,
      set (built earlier) setting = built (earlier ++ [setting]))
    (settings : List σ) : settings.foldl set (built []) = built settings := by
  have behind : ∀ earlier,
      settings.foldl set (built earlier) = built (earlier ++ settings) := by
    induction settings with
    | nil =>
        intro earlier
        rw [List.append_nil]
        rfl
    | cons setting later ih =>
        intro earlier
        rw [List.foldl_cons, step, ih, List.append_assoc]
        rfl
  exact behind []

end Settings

namespace Daemon

namespace Neighbor

namespace Setting

def remoteAs? : Setting → Option String
  | remoteAs name => some name
  | _ => none

def routeMapIn? : Setting → Option String
  | routeMapIn name => some name
  | _ => none

def routeMapOut? : Setting → Option String
  | routeMapOut name => some name
  | _ => none

end Setting

@[mk_iff]
structure SameSettings (first second : List Setting) : Prop where
  remoteAs : lastOf Setting.remoteAs? first = lastOf Setting.remoteAs? second
  sendCommunity : .sendCommunity ∈ first ↔ .sendCommunity ∈ second
  routeMapIn :
    lastOf Setting.routeMapIn? first = lastOf Setting.routeMapIn? second
  routeMapOut :
    lastOf Setting.routeMapOut? first = lastOf Setting.routeMapOut? second

def build (address : String) (settings : List Setting) : Neighbor :=
  settings.foldl set (addressed address)

/-- The neighbor, put together kind by kind. -/
def ofKinds (address : String) (settings : List Setting) : Neighbor where
  address
  remoteAs := lastOf Setting.remoteAs? settings
  sendsCommunity := decide (.sendCommunity ∈ settings)
  routeMapIn := lastOf Setting.routeMapIn? settings
  routeMapOut := lastOf Setting.routeMapOut? settings

theorem set_ofKinds (address : String) (earlier : List Setting)
    (setting : Setting) :
    (ofKinds address earlier).set setting =
      ofKinds address (earlier ++ [setting]) := by
  simp only [ofKinds, lastOf_concat, List.mem_append, List.mem_singleton]
  cases setting <;>
    simp [set, Setting.remoteAs?, Setting.routeMapIn?, Setting.routeMapOut?]

theorem build_eq (address : String) (settings : List Setting) :
    build address settings = ofKinds address settings :=
  foldl_eq_of_step (set_ofKinds address) settings

theorem build_eq_iff (address : String) (first second : List Setting) :
    build address first = build address second ↔
      SameSettings first second := by
  rw [build_eq, build_eq, ofKinds, ofKinds, mk.injEq, decide_eq_decide,
    sameSettings_iff]
  simp only [true_and]

end Neighbor

namespace BgpProcess

namespace Setting

def routerId? : Setting → Option Address
  | routerId address => some address
  | _ => none

def network? : Setting → Option String
  | network value => some value
  | _ => none

def neighbor? : Setting → Option Neighbor
  | neighbor value => some value
  | _ => none

end Setting

@[mk_iff]
structure SameSettings (first second : List Setting) : Prop where
  routerId : lastOf Setting.routerId? first = lastOf Setting.routerId? second
  networks :
    first.filterMap Setting.network? = second.filterMap Setting.network?
  neighbors :
    first.filterMap Setting.neighbor? = second.filterMap Setting.neighbor?

def build (name : String) (settings : List Setting) : BgpProcess :=
  settings.foldl set (named name)

/-- The process, put together kind by kind. -/
def ofKinds (name : String) (settings : List Setting) : BgpProcess where
  name
  routerId := lastOf Setting.routerId? settings
  networks := settings.filterMap Setting.network?
  neighbors := settings.filterMap Setting.neighbor?

theorem set_ofKinds (name : String) (earlier : List Setting)
    (setting : Setting) :
    (ofKinds name earlier).set setting =
      ofKinds name (earlier ++ [setting]) := by
  simp only [ofKinds, lastOf_concat, filterMap_concat]
  cases setting <;>
    simp [set, Setting.routerId?, Setting.network?, Setting.neighbor?]

theorem build_eq (name : String) (settings : List Setting) :
    build name settings = ofKinds name settings :=
  foldl_eq_of_step (set_ofKinds name) settings

theorem build_eq_iff (name : String) (first second : List Setting) :
    build name first = build name second ↔ SameSettings first second := by
  rw [build_eq, build_eq, ofKinds, ofKinds, mk.injEq, sameSettings_iff]
  simp only [true_and]

end BgpProcess

namespace RouteMapEntry

namespace Setting

def matchCommunityList? : Setting → Option String
  | matchCommunityList name => some name
  | _ => none

def matchPrefixList? : Setting → Option String
  | matchPrefixList name => some name
  | _ => none

def matchAsPathList? : Setting → Option String
  | matchAsPathList name => some name
  | _ => none

def localPreference? : Setting → Option UInt32
  | localPreference value => some value
  | _ => none

def deleteCommunityList? : Setting → Option String
  | deleteCommunityList name => some name
  | _ => none

def addCommunity? : Setting → Option String
  | addCommunity community => some community
  | _ => none

end Setting

@[mk_iff]
structure SameSettings (first second : List Setting) : Prop where
  communityLists : first.filterMap Setting.matchCommunityList? =
    second.filterMap Setting.matchCommunityList?
  prefixLists : first.filterMap Setting.matchPrefixList? =
    second.filterMap Setting.matchPrefixList?
  asPathLists : first.filterMap Setting.matchAsPathList? =
    second.filterMap Setting.matchAsPathList?
  localPreference : lastOf Setting.localPreference? first =
    lastOf Setting.localPreference? second
  deletedCommunityList : lastOf Setting.deleteCommunityList? first =
    lastOf Setting.deleteCommunityList? second
  addedCommunities : first.filterMap Setting.addCommunity? =
    second.filterMap Setting.addCommunity?

def build (name : String) (order : UInt32) (settings : List Setting) :
    RouteMapEntry :=
  settings.foldl set (numbered name order)

/-- The entry, put together kind by kind. -/
def ofKinds (name : String) (order : UInt32) (settings : List Setting) :
    RouteMapEntry where
  name
  order
  communityLists := settings.filterMap Setting.matchCommunityList?
  prefixLists := settings.filterMap Setting.matchPrefixList?
  asPathLists := settings.filterMap Setting.matchAsPathList?
  localPreference := lastOf Setting.localPreference? settings
  deletedCommunityList := lastOf Setting.deleteCommunityList? settings
  addedCommunities := settings.filterMap Setting.addCommunity?

theorem set_ofKinds (name : String) (order : UInt32) (earlier : List Setting)
    (setting : Setting) :
    (ofKinds name order earlier).set setting =
      ofKinds name order (earlier ++ [setting]) := by
  simp only [ofKinds, lastOf_concat, filterMap_concat]
  cases setting <;>
    simp [set, Setting.matchCommunityList?, Setting.matchPrefixList?,
      Setting.matchAsPathList?, Setting.localPreference?,
      Setting.deleteCommunityList?, Setting.addCommunity?]

theorem build_eq (name : String) (order : UInt32) (settings : List Setting) :
    build name order settings = ofKinds name order settings :=
  foldl_eq_of_step (set_ofKinds name order) settings

theorem build_eq_iff (name : String) (order : UInt32)
    (first second : List Setting) :
    build name order first = build name order second ↔
      SameSettings first second := by
  rw [build_eq, build_eq, ofKinds, ofKinds, mk.injEq, sameSettings_iff]
  simp only [true_and]

end RouteMapEntry

end Daemon

namespace Emulator.Node

namespace Setting

def interface? : Setting → Option NodeInterface
  | interface value => some value
  | _ => none

def peer? : Setting → Option InterfacePeer
  | peer value => some value
  | _ => none

def services? : Setting → Option String
  | services value => some value
  | _ => none

def customConfig? : Setting → Option CustomConfig
  | customConfig config => some config
  | _ => none

end Setting

@[mk_iff]
structure SameSettings (first second : List Setting) : Prop where
  interfaces :
    first.filterMap Setting.interface? = second.filterMap Setting.interface?
  peers : first.filterMap Setting.peer? = second.filterMap Setting.peer?
  services : lastOf Setting.services? first = lastOf Setting.services? second
  customConfigs : first.filterMap Setting.customConfig? =
    second.filterMap Setting.customConfig?

def build (id : Nat) (model : Model) (hostname : String)
    (settings : List Setting) : Node :=
  settings.foldl set (bare id model hostname)

/-- The node, put together kind by kind. -/
def ofKinds (id : Nat) (model : Model) (hostname : String)
    (settings : List Setting) : Node where
  id
  model
  hostname
  interfaces := settings.filterMap Setting.interface?
  peers := settings.filterMap Setting.peer?
  services := lastOf Setting.services? settings
  customConfigs := settings.filterMap Setting.customConfig?

variable (id : Nat) (model : Model) (hostname : String)

theorem set_ofKinds (earlier : List Setting) (setting : Setting) :
    (ofKinds id model hostname earlier).set setting =
      ofKinds id model hostname (earlier ++ [setting]) := by
  simp only [ofKinds, lastOf_concat, filterMap_concat]
  cases setting <;>
    simp [set, Setting.interface?, Setting.peer?, Setting.services?,
      Setting.customConfig?]

theorem build_eq (settings : List Setting) :
    build id model hostname settings = ofKinds id model hostname settings :=
  foldl_eq_of_step (set_ofKinds id model hostname) settings

theorem build_eq_iff (first second : List Setting) :
    build id model hostname first = build id model hostname second ↔
      SameSettings first second := by
  rw [build_eq, build_eq, ofKinds, ofKinds, mk.injEq, sameSettings_iff]
  simp only [true_and]

end Emulator.Node

theorem onlyKindsMatter {σ β τ : Type} {build : List σ → β}
    {same : List σ → List σ → Prop} (text : β → τ)
    (built : ∀ first second, build first = build second ↔ same first second) :
    OnlyKindsMatter build same text where
  built := built
  shown first second isSame := by
    rw [(built first second).mpr isSame]

/-- No block depends on how settings of different kinds are mixed. -/
theorem settings_onlyKindsMatter :
    (∀ name, OnlyKindsMatter (Daemon.BgpProcess.build name)
      Daemon.BgpProcess.SameSettings Daemon.BgpProcess.text) ∧
    (∀ address, OnlyKindsMatter (Daemon.Neighbor.build address)
      Daemon.Neighbor.SameSettings
      fun neighbor => (neighbor.sessionText, neighbor.routeMapText)) ∧
    (∀ name order, OnlyKindsMatter (Daemon.RouteMapEntry.build name order)
      Daemon.RouteMapEntry.SameSettings Daemon.RouteMapEntry.text) ∧
    ∀ id model hostname,
      OnlyKindsMatter (Emulator.Node.build id model hostname)
        Emulator.Node.SameSettings Emulator.Node.text := by
  refine ⟨?_, ?_, ?_, ?_⟩
  · exact fun name => onlyKindsMatter _ (Daemon.BgpProcess.build_eq_iff name)
  · exact fun address =>
      onlyKindsMatter _ (Daemon.Neighbor.build_eq_iff address)
  · exact fun name order =>
      onlyKindsMatter _ (Daemon.RouteMapEntry.build_eq_iff name order)
  · exact fun id model hostname =>
      onlyKindsMatter _ (Emulator.Node.build_eq_iff id model hostname)

section Mixed

open Daemon Emulator

/-- Settings with replaced ones among them, and the same in another order. -/
theorem settings_onlyKindsMatter_mixed :
    (let first : List BgpProcess.Setting :=
      [.neighbor (.addressed "10.0.0.2"), .routerId ⟨192, 0, 0, 9⟩,
        .network "10.1.0.0/16", .routerId ⟨192, 0, 0, 1⟩,
        .network "10.2.0.0/16"]
    let second : List BgpProcess.Setting :=
      [.routerId ⟨192, 0, 0, 1⟩, .network "10.1.0.0/16",
        .network "10.2.0.0/16", .neighbor (.addressed "10.0.0.2")]
    BgpProcess.SameSettings first second ∧
      (BgpProcess.build "A" first).text =
        (BgpProcess.build "A" second).text) ∧
    (let first : List Neighbor.Setting :=
      [.sendCommunity, .routeMapOut "old", .remoteAs "B", .sendCommunity,
        .routeMapOut "out"]
    let second : List Neighbor.Setting :=
      [.remoteAs "B", .sendCommunity, .routeMapOut "out"]
    Neighbor.SameSettings first second ∧
      (Neighbor.build "10.0.0.2" first).sessionText =
        (Neighbor.build "10.0.0.2" second).sessionText ∧
      (Neighbor.build "10.0.0.2" first).routeMapText =
        (Neighbor.build "10.0.0.2" second).routeMapText) ∧
    (let first : List RouteMapEntry.Setting :=
      [.addCommunity "100:1", .localPreference 1, .matchPrefixList "p",
        .localPreference 200, .matchCommunityList "c", .matchPrefixList "q"]
    let second : List RouteMapEntry.Setting :=
      [.matchCommunityList "c", .matchPrefixList "p", .matchPrefixList "q",
        .localPreference 200, .addCommunity "100:1"]
    RouteMapEntry.SameSettings first second ∧
      (RouteMapEntry.build "import" 10 first).text =
        (RouteMapEntry.build "import" 10 second).text) ∧
    (let first : List Node.Setting :=
      [.services "\x7bzebra\x7d", .peer ⟨"eth0", 2⟩, .services "\x7bBGP\x7d",
        .interface ⟨"eth0", "10.0.0.1/24"⟩]
    let second : List Node.Setting :=
      [.interface ⟨"eth0", "10.0.0.1/24"⟩, .peer ⟨"eth0", 2⟩,
        .services "\x7bBGP\x7d"]
    Node.SameSettings first second ∧
      (Node.build 1 .router "A" first).text =
        (Node.build 1 .router "A" second).text) := by
  obtain ⟨processes, neighbors, entries, nodes⟩ := settings_onlyKindsMatter
  refine ⟨?_, ?_, ?_, ?_⟩
  · intro first second
    have same : BgpProcess.SameSettings first second := ⟨rfl, rfl, rfl⟩
    exact ⟨same, (processes "A").shown first second same⟩
  · intro first second
    have same : Neighbor.SameSettings first second :=
      ⟨rfl, by decide, rfl, rfl⟩
    exact ⟨same, Prod.mk.inj ((neighbors "10.0.0.2").shown first second same)⟩
  · intro first second
    have same : RouteMapEntry.SameSettings first second :=
      ⟨rfl, rfl, rfl, rfl, rfl, rfl⟩
    exact ⟨same, (entries "import" 10).shown first second same⟩
  · intro first second
    have same : Node.SameSettings first second := ⟨rfl, rfl, rfl, rfl⟩
    exact ⟨same, (nodes 1 .router "A").shown first second same⟩

end Mixed

end BgpTestbed
