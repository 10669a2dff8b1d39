import BgpTestbed.Text.Lines

/-!
# Route-map entries

An entry permits the routes that all its match clauses accept and changes
them as its set clauses say.
-/

namespace BgpTestbed.Daemon

structure RouteMapEntry where
  name : String
  order : UInt32
  communityLists : List String
  prefixLists : List String
  asPathLists : List String
  localPreference : Option UInt32
  deletedCommunityList : Option String
  addedCommunities : List String
  deriving DecidableEq, Repr

namespace RouteMapEntry

inductive Setting where
  | matchCommunityList (name : String)
  | matchPrefixList (name : String)
  | matchAsPathList (name : String)
  | localPreference (value : UInt32)
  | deleteCommunityList (name : String)
  | addCommunity (community : String)
  deriving DecidableEq, Repr

def numbered (name : String) (order : UInt32) : RouteMapEntry where
  name
  order
  communityLists := []
  prefixLists := []
  asPathLists := []
  localPreference := none
  deletedCommunityList := none
  addedCommunities := []

/-- A later preference or deletion replaces an earlier one; all other
clauses add up. -/
def set (entry : RouteMapEntry) : Setting → RouteMapEntry
  | .matchCommunityList name =>
      { entry with communityLists := entry.communityLists ++ [name] }
  | .matchPrefixList name =>
      { entry with prefixLists := entry.prefixLists ++ [name] }
  | .matchAsPathList name =>
      { entry with asPathLists := entry.asPathLists ++ [name] }
  | .localPreference value => { entry with localPreference := some value }
  | .deleteCommunityList name =>
      { entry with deletedCommunityList := some name }
  | .addCommunity community =>
      { entry with addedCommunities := entry.addedCommunities ++ [community] }

def matchLines (entry : RouteMapEntry) : List String :=
  (entry.communityLists.map fun name => " match community " ++ name) ++
    (entry.prefixLists.map fun name =>
      " match ip address prefix-list " ++ name) ++
    entry.asPathLists.map fun name => " match as-path " ++ name

def setLines (entry : RouteMapEntry) : List String :=
  (entry.localPreference.toList.map fun value =>
      " set local-preference " ++ toString value.toNat) ++
    (entry.deletedCommunityList.toList.map fun name =>
      " set comm-list " ++ name ++ " delete") ++
    entry.addedCommunities.map fun community =>
      " set community " ++ community ++ " additive"

def lines (entry : RouteMapEntry) : List String :=
  ("route-map " ++ entry.name ++ " permit " ++ toString entry.order.toNat) ::
    (entry.matchLines ++ entry.setLines)

def text (entry : RouteMapEntry) : String :=
  Text.ofLines entry.lines

end RouteMapEntry

end BgpTestbed.Daemon
