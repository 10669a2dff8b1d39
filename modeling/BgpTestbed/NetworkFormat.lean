import BgpTestbed.Json.Record
import BgpTestbed.Router

/-!
# The JSON form of networks

One codec per type.  Addresses and declared networks are texts, records are
objects or lists of their fields, and a network is an object of routers in
which the last of several entries under one key counts.
-/

namespace BgpTestbed

open Json
open Json.Reader
open Json.Fields

namespace Action

def ofText? : String → Option Action
  | "permit" => some .permit
  | "deny" => some .deny
  | _ => none

def readName : Reader Action := do
  let name ← Json.text
  match ofText? name with
  | some action => pure action
  | none => fail (.unknownVariant name "`permit` or `deny`")

/-- An action is its name, or an object with the name as its only key and
null behind it. -/
def read : Reader Action := do
  match ← nextToken with
  | none => fail .endOfValue
  | some '"' => readName
  | some '\x7b' =>
      match ← nextToken with
      | none => fail .endOfObject
      | some '"' =>
          let action ← readName
          colon
          match ← nextToken with
          | none => fail .endOfValue
          | some 'n' => keyword ['u', 'l', 'l']
          | some first => mismatch "unit" first
          match ← nextToken with
          | none => fail .endOfObject
          | some '\x7d' => pure action
          | some _ => fail .expectedValue
      | some '\x7d' => fail .expectedValue
      | some _ => fail .keyNotText
  | some _ => fail .expectedValue

def codec : Codec Action where
  read
  write action := .text action.text

end Action

def Address.codec : Codec Address where
  read := do
    match Address.ofText? (← readText "IPv4 address") with
    | some address => pure address
    | none => fail .invalidAddress
  write address := .text address.text

def Prefix.codec : Codec Prefix where
  read := Prefix.ofText <$> readText "a string"
  write network := .text network.text

def PrefixList.codec : Codec PrefixList :=
  .record "PrefixList"
    (required "name" .text <| required "kind" Action.codec <|
      required "prefix" .text done)
    (fun (name, action, pattern, ()) => { name, action, pattern })
    (fun list => (list.name, list.action, list.pattern, ()))

def CommunityList.codec : Codec CommunityList :=
  .record "CommunityList"
    (required "name" .text <| required "kind" Action.codec <|
      required "communities" (.list .text) done)
    (fun (name, action, communities, ()) => { name, action, communities })
    (fun list => (list.name, list.action, list.communities, ()))

def AsPathList.codec : Codec AsPathList :=
  .record "AsPathList"
    (required "name" .text <| required "kind" Action.codec <|
      required "regex" .text done)
    (fun (name, action, regex, ()) => { name, action, regex })
    (fun list => (list.name, list.action, list.regex, ()))

def PolicyList.codec : Codec PolicyList :=
  .record "PolicyList"
    (required "name" .text <| defaulted "communities" (.list .text) [] <|
      defaulted "prefix_lists" (.list .text) [] <|
      defaulted "as_path_lists" (.list .text) [] done)
    (fun (name, communities, prefixLists, asPathLists, ()) =>
      { name, communities, prefixLists, asPathLists })
    (fun policy => (policy.name, policy.communities, policy.prefixLists,
      policy.asPathLists, ()))

def RouteMap.codec : Codec RouteMap :=
  .record "RouteMap"
    (required "name" .text <| required "priority" .word <|
      required "policy" .text <|
      defaulted "local_pref" (.optional .word) none <|
      defaulted "delete_community" (.optional .text) none <|
      defaulted "set_communities" (.list .text) [] done)
    (fun (name, priority, policy, localPreference, deleteCommunity,
        setCommunities, ()) =>
      { name, priority, policy, localPreference, deleteCommunity,
        setCommunities })
    (fun entry => (entry.name, entry.priority, entry.policy,
      entry.localPreference, entry.deleteCommunity, entry.setCommunities, ()))

def Session.codec : Codec Session :=
  .record "PeerConfig"
    (required "name" .text <| required "peer_ip" Address.codec <|
      required "source_ip" Address.codec <|
      defaulted "in_filter" (.optional .text) none <|
      defaulted "out_filter" (.optional .text) none done)
    (fun (peer, peerAddress, localAddress, inFilter, outFilter, ()) =>
      { peer, peerAddress, localAddress, inFilter, outFilter })
    (fun session => (session.peer, session.peerAddress, session.localAddress,
      session.inFilter, session.outFilter, ()))

def Router.codec : Codec Router :=
  .record "RouterConfig"
    (required "router_id" .word <| required "name" .text <|
      defaulted "networks" (.list Prefix.codec) [] <|
      defaulted "prefix_lists" (.list PrefixList.codec) [] <|
      defaulted "community_lists" (.list CommunityList.codec) [] <|
      defaulted "as_path_lists" (.list AsPathList.codec) [] <|
      defaulted "route_maps" (.list RouteMap.codec) [] <|
      defaulted "policy_lists" (.list PolicyList.codec) [] <|
      defaulted "peers" (.list Session.codec) [] done)
    (fun (id, name, networks, prefixLists, communityLists, asPathLists,
        routeMaps, policyLists, sessions, ()) =>
      { id, name, networks, prefixLists, communityLists, asPathLists,
        routeMaps, policyLists, sessions })
    (fun router => (router.id, router.name, router.networks,
      router.prefixLists, router.communityLists, router.asPathLists,
      router.routeMaps, router.policyLists, router.sessions, ()))

namespace Network

def readEntry (network : Network) (key : String) : Reader Network := do
  colon
  let router ← Router.codec.read
  pure (network.insert key router)

def read : Reader Network := do
  match ← nextToken with
  | none => fail .endOfValue
  | some '\x7b' => readMembers readEntry NameMap.empty
  | some first => mismatch "a map" first

def codec : Codec Network where
  read
  write network := .object (network.entries.map fun (key, router) =>
    (key, Router.codec.write router))

end Network

end BgpTestbed
