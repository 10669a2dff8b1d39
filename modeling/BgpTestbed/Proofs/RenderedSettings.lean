import Mathlib.Data.List.Basic
import BgpTestbed.Emulator.Topology
import BgpTestbed.Proofs.SettingOrder

/-!
# Settings of rendered blocks

The renderers make the settings of a block in one order, kind by kind.  What
they render is what these settings build, and exactly the settings that are
the same kind by kind build it too.
-/

namespace BgpTestbed

namespace Daemon

variable (naming : Naming) (internal : List String) (router : Router)

/-- The settings of a neighbor; a filter is applied only if the session has
one. -/
def neighborSettings (session : Session) : List Neighbor.Setting :=
  .remoteAs session.peer ::
    ((if session.peer ∈ internal then [.sendCommunity] else []) ++
      session.routeMapIn.toList.map .routeMapIn ++
      session.routeMapOut.toList.map .routeMapOut)

theorem build_neighborSettings (session : Session) :
    Neighbor.build (naming.peerAddress router session)
        (neighborSettings internal session) =
      neighborOf naming internal router session := by
  have isInternal : internal.contains session.peer =
      decide (session.peer ∈ internal) := List.contains_eq_mem _ _
  rw [neighborOf, isInternal, neighborSettings]
  by_cases member : session.peer ∈ internal <;>
    cases session.routeMapIn <;> cases session.routeMapOut <;>
      simp [Neighbor.build, Neighbor.set, Neighbor.addressed, member]

theorem build_eq_neighborOf_iff (session : Session)
    (settings : List Neighbor.Setting) :
    Neighbor.build (naming.peerAddress router session) settings =
        neighborOf naming internal router session ↔
      Neighbor.SameSettings settings (neighborSettings internal session) := by
  rw [← build_neighborSettings, Neighbor.build_eq_iff]

/-- The settings of the BGP process of a router. -/
def processSettings : List BgpProcess.Setting :=
  .routerId (testbedRouterId router.id) ::
    ((router.networks.map fun declared => .network declared.text) ++
      router.sessions.map fun session =>
        .neighbor (neighborOf naming internal router session))

theorem build_processSettings :
    BgpProcess.build (naming.router router)
        (processSettings naming internal router) =
      processOf naming internal router := by
  rw [BgpProcess.build_eq, BgpProcess.ofKinds, processSettings, processOf]
  simp only [lastOf, List.filterMap_cons, List.filterMap_append,
    List.filterMap_map, Function.comp_def, BgpProcess.Setting.routerId?,
    BgpProcess.Setting.network?, BgpProcess.Setting.neighbor?,
    List.filterMap_eq_map', List.filterMap_none, List.append_nil,
    List.nil_append, List.getLast?_singleton]

theorem build_eq_processOf_iff (settings : List BgpProcess.Setting) :
    BgpProcess.build (naming.router router) settings =
        processOf naming internal router ↔
      BgpProcess.SameSettings settings
        (processSettings naming internal router) := by
  rw [← build_processSettings, BgpProcess.build_eq_iff]

/-- The settings of an entry: the match clauses of its policy list, if there is
one, and then its own set clauses. -/
def entrySettings (routeMap : RouteMap) : List RouteMapEntry.Setting :=
  let matches? := (router.policyList? routeMap.policy).map fun policy =>
    policy.communities.map .matchCommunityList ++
      policy.prefixLists.map .matchPrefixList ++
      policy.asPathLists.map .matchAsPathList
  matches?.getD [] ++ routeMap.localPreference.toList.map .localPreference ++
    routeMap.deleteCommunity.toList.map .deleteCommunityList ++
    routeMap.setCommunities.map .addCommunity

theorem build_entrySettings (routeMap : RouteMap) :
    RouteMapEntry.build routeMap.name routeMap.priority
        (entrySettings router routeMap) =
      entryOf router routeMap := by
  have last {α : Type} (value? : Option α) :
      value?.toList.getLast? = value? := by
    cases value? <;> rfl
  rw [RouteMapEntry.build_eq, RouteMapEntry.ofKinds, entrySettings, entryOf]
  cases router.policyList? routeMap.policy <;>
    simp only [lastOf, List.filterMap_append, List.filterMap_map,
      Function.comp_def, RouteMapEntry.Setting.matchCommunityList?,
      RouteMapEntry.Setting.matchPrefixList?,
      RouteMapEntry.Setting.matchAsPathList?,
      RouteMapEntry.Setting.localPreference?,
      RouteMapEntry.Setting.deleteCommunityList?,
      RouteMapEntry.Setting.addCommunity?, List.filterMap_some,
      List.filterMap_none, List.append_nil, List.nil_append, Option.map_none,
      Option.map_some, Option.getD_none, Option.getD_some, last]

theorem build_eq_entryOf_iff (routeMap : RouteMap)
    (settings : List RouteMapEntry.Setting) :
    RouteMapEntry.build routeMap.name routeMap.priority settings =
        entryOf router routeMap ↔
      RouteMapEntry.SameSettings settings (entrySettings router routeMap) := by
  rw [← build_entrySettings, RouteMapEntry.build_eq_iff]

end Daemon

namespace Emulator

variable (naming : Naming) (internal : List String)
  (ids : List (String × Nat)) (hosts : List (String × Host)) (id : Nat)
  (key : String) (router : Router)

/-- The settings of the node of a router. -/
def routerSettings : List Node.Setting :=
  (routerInterfaces naming router (hosts.lookup key)).map .interface ++
    (routerPeers ids router (hosts.lookup key)).map .peer ++
    [.services routerServices, .customConfig .routingService,
      .customConfig
        (.file daemonConfigPath (router.configuration naming internal))]

theorem build_routerSettings :
    Node.build id .router key
        (routerSettings naming internal ids hosts key router) =
      routerNode naming internal ids hosts id key router := by
  rw [Node.build_eq, Node.ofKinds, routerSettings, routerNode]
  simp only [lastOf, List.filterMap_cons, List.filterMap_append,
    List.filterMap_map, Function.comp_def, Node.Setting.interface?,
    Node.Setting.peer?, Node.Setting.services?, Node.Setting.customConfig?,
    List.filterMap_some, List.filterMap_none, List.filterMap_nil,
    List.append_nil, List.nil_append, List.getLast?_singleton]

theorem build_eq_routerNode_iff (settings : List Node.Setting) :
    Node.build id .router key settings =
        routerNode naming internal ids hosts id key router ↔
      Node.SameSettings settings
        (routerSettings naming internal ids hosts key router) := by
  rw [← build_routerSettings, Node.build_eq_iff]

/-- A host has one interface, towards its router. -/
def hostSettings (routerId : Nat) (host : Host) : List Node.Setting :=
  [.interface { name := interfaceName 0, address := host.hostSubnet.text },
    .peer { interface := interfaceName 0, node := routerId }]

theorem build_eq_hostNode_iff (routerId : Nat) (host : Host)
    (settings : List Node.Setting) :
    Node.build host.id .host (key ++ "-host") settings =
        hostNode key routerId host ↔
      Node.SameSettings settings (hostSettings routerId host) := by
  have isHost : Node.build host.id .host (key ++ "-host")
      (hostSettings routerId host) = hostNode key routerId host := rfl
  rw [← isHost, Node.build_eq_iff]

end Emulator

end BgpTestbed
