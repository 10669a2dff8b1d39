import BgpTestbed.Daemon.BgpProcess
import BgpTestbed.Daemon.Interface
import BgpTestbed.Daemon.RouteMapEntry
import BgpTestbed.Daemon.Sections
import BgpTestbed.Log
import BgpTestbed.Naming

/-!
# The daemon configuration of a router

The configuration of a router depends on how names are shown and on which
peers are internal, that is, configured themselves; communities are sent to
internal peers only.
-/

namespace BgpTestbed

/-- The router ID inside the testbed: the first octet is always 192. -/
def testbedRouterId (id : UInt32) : Address where
  first := 192
  second := (id >>> 16).toUInt8
  third := (id >>> 8).toUInt8
  fourth := id.toUInt8

def PrefixList.line (list : PrefixList) : String :=
  "ip prefix-list " ++ list.name ++ " " ++ list.action.text ++ " " ++
    list.pattern

def CommunityList.line (list : CommunityList) : String :=
  "ip community-list standard " ++ list.name ++ " " ++ list.action.text ++
    " " ++ " ".intercalate list.communities

def AsPathList.line (list : AsPathList) : String :=
  "ip as-path access-list " ++ list.name ++ " " ++ list.action.text ++ " " ++
    list.regex

namespace Daemon

structure Configuration where
  interfaces : List Interface
  process : BgpProcess
  prefixLists : List PrefixList
  communityLists : List CommunityList
  asPathLists : List AsPathList
  routeMaps : List RouteMapEntry
  deriving DecidableEq, Repr

def interfacesOf (naming : Naming) (router : Router) : List Interface :=
  router.sessions.zipIdx.map fun (session, index) => {
    name := interfaceName index
    addresses := [naming.interfaceAddress router session] }

def neighborOf (naming : Naming) (internal : List String) (router : Router)
    (session : Session) : Neighbor where
  address := naming.peerAddress router session
  remoteAs := some session.peer
  sendsCommunity := internal.contains session.peer
  routeMapIn := session.routeMapIn
  routeMapOut := session.routeMapOut

def processOf (naming : Naming) (internal : List String) (router : Router) :
    BgpProcess where
  name := naming.router router
  routerId := some (testbedRouterId router.id)
  networks := router.networks.map Prefix.text
  neighbors := router.sessions.map (neighborOf naming internal router)

/-- An entry with the match clauses of its policy list, or with none if
there is no policy list of that name. -/
def entryOf (router : Router) (routeMap : RouteMap) : RouteMapEntry :=
  let policy? := router.policyList? routeMap.policy
  { name := routeMap.name
    order := routeMap.priority
    communityLists := (policy?.map PolicyList.communities).getD []
    prefixLists := (policy?.map PolicyList.prefixLists).getD []
    asPathLists := (policy?.map PolicyList.asPathLists).getD []
    localPreference := routeMap.localPreference
    deletedCommunityList := routeMap.deleteCommunity
    addedCommunities := routeMap.setCommunities }

namespace Configuration

def ofRouter (naming : Naming) (internal : List String) (router : Router) :
    Configuration where
  interfaces := interfacesOf naming router
  process := processOf naming internal router
  prefixLists := router.prefixLists
  communityLists := router.communityLists
  asPathLists := router.asPathLists
  routeMaps := router.routeMaps.map (entryOf router)

/-- The blocks of each section, as lines. -/
def sectionLines (configuration : Configuration) :
    List (List (List String)) :=
  [configuration.interfaces.map Interface.lines,
    [configuration.process.lines],
    configuration.prefixLists.map fun list => [list.line],
    configuration.communityLists.map fun list => [list.line],
    configuration.asPathLists.map fun list => [list.line],
    configuration.routeMaps.map RouteMapEntry.lines]

def sections (configuration : Configuration) : Sections where
  blocks := configuration.sectionLines.map fun blocks =>
    blocks.map Text.ofLines

def text (configuration : Configuration) : String :=
  configuration.sections.text

end Configuration

/-- What is told while the configuration of a router is made. -/
def events (router : Router) : List Event :=
  .configuring router.name ::
    router.routeMaps.filterMap fun routeMap =>
      if (router.policyList? routeMap.policy).isSome then none
      else some (.unknownPolicyList routeMap.name router.name routeMap.policy)

end Daemon

/-- The text of the daemon configuration of a router. -/
def Router.configuration (naming : Naming) (internal : List String)
    (router : Router) : String :=
  (Daemon.Configuration.ofRouter naming internal router).text

end BgpTestbed
