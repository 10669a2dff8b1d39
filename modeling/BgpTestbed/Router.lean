import BgpTestbed.Address
import BgpTestbed.NameMap

/-!
# Routers and networks

A router declares networks, holds the named lists and route maps of its
policy, and has a session with each of its peers.  A network maps keys to
routers; a peer that is not a key is external.
-/

namespace BgpTestbed

/-- What a match list does with a route that it matches. -/
inductive Action where
  | permit
  | deny
  deriving DecidableEq, Repr

def Action.text : Action → String
  | .permit => "permit"
  | .deny => "deny"

structure PrefixList where
  name : String
  action : Action
  pattern : String
  deriving DecidableEq, Repr

/-- The communities have to be present together. -/
structure CommunityList where
  name : String
  action : Action
  communities : List String
  deriving DecidableEq, Repr

structure AsPathList where
  name : String
  action : Action
  regex : String
  deriving DecidableEq, Repr

/-- A named bundle of match clauses, each given by the name of a list. -/
structure PolicyList where
  name : String
  communities : List String
  prefixLists : List String
  asPathLists : List String
  deriving DecidableEq, Repr

structure RouteMap where
  name : String
  priority : UInt32
  policy : String
  localPreference : Option UInt32
  deleteCommunity : Option String
  setCommunities : List String
  deriving DecidableEq, Repr

/-- A session with a peer, from the local side. -/
structure Session where
  peer : String
  peerAddress : Address
  localAddress : Address
  inFilter : Option String
  outFilter : Option String
  deriving DecidableEq, Repr

structure Router where
  id : UInt32
  name : String
  networks : List Prefix
  prefixLists : List PrefixList
  communityLists : List CommunityList
  asPathLists : List AsPathList
  routeMaps : List RouteMap
  policyLists : List PolicyList
  sessions : List Session
  deriving DecidableEq, Repr

abbrev Network := NameMap Router

namespace Session

/-- A session without filters. -/
def unfiltered (peer : String) (peerAddress localAddress : Address) :
    Session where
  peer
  peerAddress
  localAddress
  inFilter := none
  outFilter := none

/-- The route map for routes from the peer; an empty name is no filter. -/
def routeMapIn (session : Session) : Option String :=
  session.inFilter.filter (!·.isEmpty)

/-- The route map for routes to the peer; an empty name is no filter. -/
def routeMapOut (session : Session) : Option String :=
  session.outFilter.filter (!·.isEmpty)

end Session

namespace Router

/-- A router without networks, policy and sessions. -/
def fresh (name : String) (id : UInt32) : Router where
  id
  name
  networks := []
  prefixLists := []
  communityLists := []
  asPathLists := []
  routeMaps := []
  policyLists := []
  sessions := []

/-- The first policy list of a name. -/
def policyList? (router : Router) (name : String) : Option PolicyList :=
  router.policyLists.find? fun policy => policy.name == name

end Router

end BgpTestbed
