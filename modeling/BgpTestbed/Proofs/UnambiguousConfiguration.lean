import BgpTestbed.Proofs.LineReading

/-!
# What a configuration says about its router

Two routers with one configuration differ only in what a configuration does
not show: the high octet of their ID, empty filters, and the names under which
policy lists are referred to.  All else is read back from the lines of the
configuration, whatever the names in them look like.
-/

namespace BgpTestbed

open Daemon Text

/-- The session with empty filters taken for none. -/
def Session.shown (session : Session) : Session :=
  { session with
    inFilter := session.routeMapIn
    outFilter := session.routeMapOut }

/-- The names of the lists that a route map matches. -/
structure MatchLists where
  communityLists : List String
  prefixLists : List String
  asPathLists : List String
  deriving DecidableEq, Repr

/-- The match lists of the policy list of a name; a name without policy list
has none. -/
def Router.matchLists (router : Router) (name : String) : MatchLists :=
  match router.policyList? name with
  | some policy =>
      ⟨policy.communities, policy.prefixLists, policy.asPathLists⟩
  | none => ⟨[], [], []⟩

/-- Every route map with the match lists in place of the name of its policy
list. -/
def Router.resolvedRouteMaps (router : Router) :
    List (RouteMap × MatchLists) :=
  router.routeMaps.map fun routeMap =>
    ({ routeMap with policy := "" }, router.matchLists routeMap.policy)

/-- Two routers agree in everything that a configuration shows. -/
structure Router.ShowsSame (first second : Router) : Prop where
  name : first.name = second.name
  id : first.id.toNat % 16777216 = second.id.toNat % 16777216
  networks : first.networks.map Prefix.text = second.networks.map Prefix.text
  sessions : first.sessions.map Session.shown =
    second.sessions.map Session.shown
  prefixLists : first.prefixLists = second.prefixLists
  communityLists : first.communityLists = second.communityLists
  asPathLists : first.asPathLists = second.asPathLists
  routeMaps : first.resolvedRouteMaps = second.resolvedRouteMaps

/-- Lines and the words in them that are not last can be told apart, and so
can the sessions. -/
structure Router.IsLegible (router : Router) : Prop where
  noNewline : LacksIn '\n' router.strings
  prefixLists : ∀ list ∈ router.prefixLists, Lacks ' ' list.name
  communityLists : ∀ list ∈ router.communityLists, Lacks ' ' list.name
  communities : ∀ list ∈ router.communityLists,
    ∀ community ∈ list.communities, community ≠ "" ∧ Lacks ' ' community
  asPathLists : ∀ list ∈ router.asPathLists, Lacks ' ' list.name
  peerAddresses : (router.sessions.map Session.peerAddress).Nodup

/-- The texts that the lines of a configuration start with. -/
inductive Daemon.Opening where
  | interface
  | localAddress
  | process
  | synchronization
  | routerId
  | network
  | neighbor
  | prefixList
  | communityList
  | asPathList
  | routeMap
  | matchCommunity
  | matchPrefixList
  | matchAsPath
  | localPreference
  | deletedCommunities
  | addedCommunity
  | separator
  deriving DecidableEq, Repr

namespace Daemon.Opening

def text : Opening → String
  | interface => "interface "
  | localAddress => " ip address "
  | process => "router bgp "
  | synchronization => " no synchronization"
  | routerId => " bgp router-id "
  | network => " network "
  | neighbor => " neighbor "
  | prefixList => "ip prefix-list "
  | communityList => "ip community-list standard "
  | asPathList => "ip as-path access-list "
  | routeMap => "route-map "
  | matchCommunity => " match community "
  | matchPrefixList => " match ip address prefix-list "
  | matchAsPath => " match as-path "
  | localPreference => " set local-preference "
  | deletedCommunities => " set comm-list "
  | addedCommunity => " set community "
  | separator => "!"

private def all : List Opening :=
  [interface, localAddress, process, synchronization, routerId, network,
    neighbor, prefixList, communityList, asPathList, routeMap, matchCommunity,
    matchPrefixList, matchAsPath, localPreference, deletedCommunities,
    addedCommunity, separator]

private theorem mem_all (opening : Opening) : opening ∈ all := by
  cases opening <;> decide

private theorem apart_of_mem_all : ∀ opening ∈ all, ∀ other ∈ all,
    opening ≠ other → Apart opening.text other.text := by
  decide +kernel

/-- No line has two openings. -/
theorem apart_text {opening other : Opening} (differ : opening ≠ other) :
    Apart opening.text other.text :=
  apart_of_mem_all opening (mem_all opening) other (mem_all other) differ

end Daemon.Opening

section Lines

variable (internal : List String) (router : Router)

/-- What the line of a list says: its name, its action and the rest. -/
private def listWords (name : String) (action : Action) (rest : String) :
    String :=
  name ++ (" " ++ (action.text ++ (" " ++ rest)))

private theorem line_prefixList (list : PrefixList) :
    list.line = Opening.prefixList.text ++
      listWords list.name list.action list.pattern := by
  unfold PrefixList.line Opening.text listWords
  simp only [String.append_assoc]

private theorem line_communityList (list : CommunityList) :
    list.line = Opening.communityList.text ++
      listWords list.name list.action (" ".intercalate list.communities) := by
  unfold CommunityList.line Opening.text listWords
  simp only [String.append_assoc]

private theorem line_asPathList (list : AsPathList) :
    list.line = Opening.asPathList.text ++
      listWords list.name list.action list.regex := by
  unfold AsPathList.line Opening.text listWords
  simp only [String.append_assoc]

private theorem lines_interfacesOf :
    (interfacesOf .concrete router).flatMap Interface.lines =
      router.sessions.zipIdx.flatMap fun entry =>
        [Opening.interface.text ++ interfaceName entry.2,
          Opening.localAddress.text ++
            Naming.concrete.interfaceAddress router entry.1] := by
  rw [interfacesOf, List.flatMap_map]
  rfl

/-- What the lines that establish a session say behind its address. -/
private def sessionSettings (session : Session) : List String :=
  ("remote-as " ++ session.peer) ::
    if internal.contains session.peer then ["send-community both" ++ ""]
    else []

/-- What the lines that apply route maps say behind the address. -/
private def filterSettings (session : Session) : List String :=
  (session.routeMapIn.toList.map fun name => "route-map " ++ (name ++ " in")) ++
    session.routeMapOut.toList.map fun name =>
      "route-map " ++ (name ++ " out")

/-- A setting behind the opening of its line. -/
private def addressed (session : Session) (setting : String) : String :=
  session.peerAddress.text ++ (" " ++ setting)

private theorem sessionLines_eq (session : Session) :
    (neighborOf .concrete internal router session).sessionLines =
      (sessionSettings internal session).map fun setting =>
        Opening.neighbor.text ++ addressed session setting := by
  unfold Neighbor.sessionLines Neighbor.line sessionSettings addressed
    Opening.text
  simp only [String.append_assoc, List.map_cons, apply_ite (List.map _),
    List.map_nil, String.append_empty]
  rfl

private theorem routeMapLines_eq (session : Session) :
    (neighborOf .concrete internal router session).routeMapLines =
      (filterSettings session).map fun setting =>
        Opening.neighbor.text ++ addressed session setting := by
  unfold Neighbor.routeMapLines Neighbor.line filterSettings addressed
    Opening.text
  simp only [String.append_assoc, List.map_append, List.map_map,
    Function.comp_def]
  rfl

private theorem lines_processOf :
    (processOf .concrete internal router).lines =
      [Opening.process.text ++ router.name,
        Opening.synchronization.text ++ "",
        Opening.routerId.text ++ (testbedRouterId router.id).text] ++
      (router.networks.map fun declared =>
        Opening.network.text ++ declared.text) ++
      (router.sessions.flatMap fun session =>
        (neighborOf .concrete internal router session).sessionLines) ++
      router.sessions.flatMap fun session =>
        (neighborOf .concrete internal router session).routeMapLines := by
  unfold processOf BgpProcess.lines Opening.text
  simp only [List.flatMap_map, List.map_map, Option.toList_some, List.map_cons,
    List.map_nil, String.append_empty]
  rfl

private def entryHead (entry : RouteMapEntry) : String :=
  entry.name ++ " permit" ++ (" " ++ toString entry.order.toNat)

/-- The lines of an entry below its first one. -/
private def clauses (entry : RouteMapEntry) : List String :=
  (entry.communityLists.map (Opening.matchCommunity.text ++ ·)) ++
    (entry.prefixLists.map (Opening.matchPrefixList.text ++ ·)) ++
    (entry.asPathLists.map (Opening.matchAsPath.text ++ ·)) ++
    (entry.localPreference.toList.map fun value =>
      Opening.localPreference.text ++ toString value.toNat) ++
    (entry.deletedCommunityList.toList.map fun name =>
      Opening.deletedCommunities.text ++ (name ++ " delete")) ++
    entry.addedCommunities.map fun community =>
      Opening.addedCommunity.text ++ (community ++ " additive")

private theorem lines_routeMapEntry (entry : RouteMapEntry) :
    entry.lines =
      (Opening.routeMap.text ++ entryHead entry) :: clauses entry := by
  have permit : " permit " = " permit" ++ " " := rfl
  unfold RouteMapEntry.lines RouteMapEntry.matchLines RouteMapEntry.setLines
    clauses entryHead Opening.text
  simp only [String.append_assoc, List.append_assoc, permit]

/-- At most the separator follows the lines of a section. -/
private theorem exists_closing (lines : List String) :
    ∃ closing, closedLines lines = lines ++ closing ∧
      (closing = [] ∨ closing = [Opening.separator.text ++ ""]) := by
  rw [closedLines]
  split
  case isTrue isEmpty =>
    exact ⟨[], by rw [List.isEmpty_iff.mp isEmpty, List.append_nil], .inl rfl⟩
  case isFalse => exact ⟨_, rfl, .inr rfl⟩

private theorem behind_closedLines {opening : Opening}
    (notSeparator : opening ≠ .separator) (lines : List String) :
    behind opening.text (closedLines lines) = behind opening.text lines := by
  obtain ⟨closing, isClosed, rfl | rfl⟩ := exists_closing lines
  · rw [isClosed, List.append_nil]
  · rw [isClosed, behind_append,
      behind_cons_apart (Opening.apart_text notSeparator), behind_nil,
      List.append_nil]

/-- The lines in front of the route maps. -/
private def frontLines : List String :=
  closedLines ((interfacesOf .concrete router).flatMap Interface.lines) ++
    closedLines (processOf .concrete internal router).lines ++
    closedLines (router.prefixLists.map PrefixList.line) ++
    closedLines (router.communityLists.map CommunityList.line) ++
    closedLines (router.asPathLists.map AsPathList.line)

private theorem behind_frontLines {opening : Opening}
    (notSeparator : opening ≠ .separator) :
    behind opening.text (frontLines internal router) =
      (router.sessions.zipIdx.flatMap fun entry =>
        behind opening.text [Opening.interface.text ++ interfaceName entry.2,
          Opening.localAddress.text ++
            Naming.concrete.interfaceAddress router entry.1]) ++
      (behind opening.text [Opening.process.text ++ router.name,
          Opening.synchronization.text ++ "",
          Opening.routerId.text ++ (testbedRouterId router.id).text] ++
        behind opening.text (router.networks.map fun declared =>
          Opening.network.text ++ declared.text) ++
        (router.sessions.flatMap fun session =>
          behind opening.text ((sessionSettings internal session).map
            fun setting => Opening.neighbor.text ++ addressed session setting)) ++
        router.sessions.flatMap fun session =>
          behind opening.text ((filterSettings session).map
            fun setting => Opening.neighbor.text ++ addressed session setting)) ++
      behind opening.text (router.prefixLists.map fun list =>
        Opening.prefixList.text ++
          listWords list.name list.action list.pattern) ++
      behind opening.text (router.communityLists.map fun list =>
        Opening.communityList.text ++
          listWords list.name list.action
            (" ".intercalate list.communities)) ++
      behind opening.text (router.asPathLists.map fun list =>
        Opening.asPathList.text ++
          listWords list.name list.action list.regex) := by
  simp only [frontLines, behind_append, behind_closedLines notSeparator,
    lines_interfacesOf, lines_processOf, sessionLines_eq, routeMapLines_eq,
    funext line_prefixList, funext line_communityList, funext line_asPathList,
    behind_flatMap]

/-- The lines of the configuration. -/
private def configurationLines : List String :=
  frontLines internal router ++
    closedLines ((router.routeMaps.map (entryOf router)).flatMap
      RouteMapEntry.lines)

private theorem lines_ofRouter :
    (Configuration.ofRouter .concrete internal router).lines =
      configurationLines internal router := by
  have single {α : Type} (items : List α) (line : α → String) :
      (items.map fun item => [line item]).flatten = items.map line := by
    rw [← List.flatMap_def, List.map_eq_flatMap]
  simp only [configurationLines, frontLines, Configuration.lines,
    Configuration.sectionLines, Configuration.ofRouter, List.flatMap_cons,
    List.flatMap_nil, List.append_nil, single, List.flatten_singleton,
    ← List.flatMap_def, List.append_assoc]

/-- Lines show a router: what they say behind each opening is what the router
holds, in the same order. -/
private structure Show (lines : List String) : Prop where
  name : behind Opening.process.text lines = [router.name]
  id : behind Opening.routerId.text lines = [(testbedRouterId router.id).text]
  networks : behind Opening.network.text lines =
    router.networks.map Prefix.text
  localAddresses : behind Opening.localAddress.text lines =
    router.sessions.map (Naming.concrete.interfaceAddress router)
  settings : behind Opening.neighbor.text lines =
    (router.sessions.flatMap fun session =>
      (sessionSettings internal session).map (addressed session)) ++
    router.sessions.flatMap fun session =>
      (filterSettings session).map (addressed session)
  prefixLists : behind Opening.prefixList.text lines =
    router.prefixLists.map fun list =>
      listWords list.name list.action list.pattern
  communityLists : behind Opening.communityList.text lines =
    router.communityLists.map fun list =>
      listWords list.name list.action (" ".intercalate list.communities)
  asPathLists : behind Opening.asPathList.text lines =
    router.asPathLists.map fun list =>
      listWords list.name list.action list.regex
  routeMaps : blocks Opening.routeMap.text " " lines =
    router.routeMaps.map fun routeMap =>
      (entryHead (entryOf router routeMap), clauses (entryOf router routeMap))

private theorem flatMap_nothing {α β : Type} (items : List α) :
    items.flatMap (fun _ => ([] : List β)) = [] := by simp

private theorem opens_of_mem_clauses {entry : RouteMapEntry} :
    ∀ line ∈ clauses entry, Opens " " line ∧
      after? Opening.routeMap.text line = none := by
  have isClause {opening : Opening} (differ : Opening.routeMap ≠ opening)
      (indented : Opens " " opening.text) (rest : String) :
      Opens " " (opening.text ++ rest) ∧
        after? Opening.routeMap.text (opening.text ++ rest) = none :=
    ⟨opens_append indented rest,
      after?_apart (Opening.apart_text differ) rest⟩
  intro line member
  simp only [clauses, List.mem_append, List.mem_map] at member
  rcases member with ((((⟨_, _, rfl⟩ | ⟨_, _, rfl⟩) | ⟨_, _, rfl⟩) |
    ⟨_, _, rfl⟩) | ⟨_, _, rfl⟩) | ⟨_, _, rfl⟩
  all_goals exact isClause (by decide) (by decide +kernel) _

private theorem blocks_configurationLines :
    blocks Opening.routeMap.text " " (configurationLines internal router) =
      router.routeMaps.map fun routeMap =>
        (entryHead (entryOf router routeMap),
          clauses (entryOf router routeMap)) := by
  have front : behind Opening.routeMap.text (frontLines internal router) =
      [] := by
    rw [behind_frontLines internal router (by decide)]
    simp (disch := exact Opening.apart_text (by decide)) only
      [behind_cons_apart, behind_map_apart, behind_nil, flatMap_nothing,
      List.append_nil]
  have isolated : Apart " " Opening.routeMap.text := by decide +kernel
  obtain ⟨closing, isClosed, ends⟩ := exists_closing
    ((router.routeMaps.map (entryOf router)).flatMap RouteMapEntry.lines)
  have notIndented : ∀ line ∈ closing.head?, ¬ Opens " " line := by
    rcases ends with rfl | rfl
    · exact fun line isHead => nomatch isHead
    · decide +kernel
  have noBlock : blocks Opening.routeMap.text " " closing = [] := by
    rcases ends with rfl | rfl
    · rfl
    · decide +kernel
  rw [configurationLines, blocks_append_apart front, isClosed,
    funext lines_routeMapEntry, blocks_flatMap isolated _
      (fun _ _ => opens_of_mem_clauses) notIndented, noBlock, List.append_nil,
    List.map_map]
  rfl

private theorem show_configurationLines :
    Show internal router (configurationLines internal router) := by
  have eachFirst (ofSession : Session → String) :
      router.sessions.zipIdx.flatMap (fun entry => [ofSession entry.1]) =
        router.sessions.map ofSession := by
    calc router.sessions.zipIdx.flatMap (fun entry => [ofSession entry.1])
        = (router.sessions.zipIdx.map Prod.fst).map ofSession := by
          rw [← List.map_eq_flatMap, List.map_map]
          rfl
      _ = router.sessions.map ofSession := by rw [List.zipIdx_map_fst]
  constructor
  case routeMaps => exact blocks_configurationLines internal router
  all_goals
    rw [configurationLines, behind_append,
      behind_frontLines internal router (by decide),
      behind_closedLines (by decide), funext lines_routeMapEntry]
    simp (disch := exact Opening.apart_text (by decide)) only [clauses,
      behind_append, behind_flatMap, behind_cons_self, behind_cons_apart,
      behind_map_self, behind_map_apart, behind_prefixed_apart, behind_nil,
      flatMap_nothing, eachFirst, List.append_nil, List.nil_append]

end Lines

/-- Elements that are determined by their images are determined in lists. -/
private theorem map_eq_of_map_eq {α β γ : Type} {first second : List α}
    {image otherImage : α → β} {value otherValue : α → γ}
    (determines : ∀ item other, image item = otherImage other →
      value item = otherValue other)
    (same : first.map image = second.map otherImage) :
    first.map value = second.map otherValue := by
  induction first generalizing second with
  | nil => rw [List.map_eq_nil_iff.mp same.symm, List.map_nil, List.map_nil]
  | cons item later ih =>
      cases second with
      | nil => exact nomatch same
      | cons other others =>
          obtain ⟨sameHere, sameLater⟩ := List.cons.inj same
          rw [List.map_cons, List.map_cons, determines item other sameHere,
            ih sameLater]

private theorem lacks_space_address (address : Address) :
    Lacks ' ' address.text :=
  lacks_address_of_not_isDigit rfl (by decide) address

private theorem lacks_space_action (action : Action) :
    Lacks ' ' action.text := by
  cases action <;> decide

private theorem toList_injective {α : Type} :
    Function.Injective (Option.toList : Option α → List α) := by
  intro first second same
  ext value
  rw [← Option.mem_toList, same, Option.mem_toList]

private def readAction (text : String) : Action :=
  if text = Action.permit.text then .permit else .deny

private theorem readAction_text (action : Action) :
    readAction action.text = action := by
  cases action <;> rfl

/-- Lists made from the name, the action and the rest that each line says. -/
private def readLists {α : Type} (opening : Opening)
    (ofWords : String → Action → String → α) (lines : List String) : List α :=
  (behind opening.text lines).map fun said =>
    ofWords (splitFirst said).1
      (readAction (splitFirst (splitFirst said).2).1)
      (splitFirst (splitFirst said).2).2

private theorem readLists_eq {α : Type} {opening : Opening}
    {ofWords : String → Action → String → α} {lines : List String}
    {items : List α} {name rest : α → String} {action : α → Action}
    (said : behind opening.text lines =
      items.map fun item => listWords (name item) (action item) (rest item))
    (lacks : ∀ item ∈ items, Lacks ' ' (name item))
    (isItem : ∀ item ∈ items,
      ofWords (name item) (action item) (rest item) = item) :
    readLists opening ofWords lines = items := by
  rw [readLists, said, List.map_map, List.map_congr_left, List.map_id]
  intro item member
  simp only [Function.comp_apply, listWords, splitFirst_append
    (lacks item member), splitFirst_append (lacks_space_action _),
    readAction_text, isItem item member, id]

section Sessions

variable {internal : List String} {sessions : List Session}

/-- The addresses of neighbors, each with one of its settings. -/
private def readSettings (lines : List String) : List (String × String) :=
  (behind Opening.neighbor.text lines).map splitFirst

/-- Settings with the address that they are for. -/
private def withAddress (settings : Session → List String)
    (sessions : List Session) : List (String × String) :=
  sessions.flatMap fun session =>
    (settings session).map fun setting => (session.peerAddress.text, setting)

private theorem Show.readSettings_eq {router : Router} {lines : List String}
    (shows : Show internal router lines) :
    readSettings lines =
      withAddress (sessionSettings internal) router.sessions ++
        withAddress filterSettings router.sessions := by
  have splits (session : Session) (setting : String) :
      splitFirst (addressed session setting) =
        (session.peerAddress.text, setting) :=
    splitFirst_append (lacks_space_address _) setting
  rw [readSettings, shows.settings]
  simp only [withAddress, List.map_append, List.map_flatMap, List.map_map,
    Function.comp_def, splits]

/-- The settings of one kind, each with its address. -/
private def readKind (kind : String) (settings : List (String × String)) :
    List (String × String) :=
  settings.filterMap fun (address, setting) =>
    (after? kind setting).map fun rest => (address, rest)

private theorem readKind_withAddress (kind : String)
    (settings : Session → List String) :
    readKind kind (withAddress settings sessions) =
      withAddress (fun session => behind kind (settings session)) sessions := by
  simp only [readKind, withAddress, List.filterMap_flatMap,
    List.filterMap_map, Function.comp_def, behind, List.map_filterMap]

private theorem behind_remoteAs_sessionSettings (session : Session) :
    behind "remote-as " (sessionSettings internal session) =
      [session.peer] := by
  have apart : Apart "remote-as " "send-community both" := by decide +kernel
  rw [sessionSettings, behind_cons_self]
  split
  · rw [behind_cons_apart apart, behind_nil]
  · rw [behind_nil]

private theorem behind_remoteAs_filterSettings (session : Session) :
    behind "remote-as " (filterSettings session) = [] := by
  have apart : Apart "remote-as " "route-map " := by decide +kernel
  rw [filterSettings, behind_append, behind_map_apart apart,
    behind_map_apart apart, List.append_nil]

/-- Every session is shown by the line with the name of its peer. -/
private theorem Show.readPeers {router : Router} {lines : List String}
    (shows : Show internal router lines) :
    readKind "remote-as " (readSettings lines) =
      router.sessions.map fun session =>
        (session.peerAddress.text, session.peer) := by
  have append (first second : List (String × String)) :
      readKind "remote-as " (first ++ second) =
        readKind "remote-as " first ++ readKind "remote-as " second :=
    List.filterMap_append
  rw [shows.readSettings_eq, append, readKind_withAddress,
    readKind_withAddress]
  simp only [behind_remoteAs_sessionSettings, behind_remoteAs_filterSettings,
    withAddress, List.map_cons, List.map_nil, flatMap_nothing, List.append_nil]
  exact List.map_eq_flatMap.symm

/-- The settings for an address. -/
private def settingsFor (address : String)
    (settings : List (String × String)) : List String :=
  settings.filterMap fun (other, setting) =>
    if other = address then some setting else none

private theorem settingsFor_cons (address : String)
    (settings : Session → List String) (session : Session) :
    settingsFor address (withAddress settings (session :: sessions)) =
      (if session.peerAddress.text = address then settings session else []) ++
        settingsFor address (withAddress settings sessions) := by
  have ofSession : (settings session).filterMap (fun setting =>
      if session.peerAddress.text = address then some setting else none) =
        if session.peerAddress.text = address then settings session
        else [] := by
    by_cases same : session.peerAddress.text = address
    · simp only [same, ite_true, List.filterMap_some]
    · simp only [same, ite_false]
      exact List.filterMap_eq_nil_iff.mpr fun _ _ => rfl
  rw [withAddress, List.flatMap_cons, settingsFor, List.filterMap_append,
    List.filterMap_map]
  exact congrArg (· ++ _) ofSession

private theorem settingsFor_of_not_mem {settings : Session → List String}
    {address : String}
    (absent : address ∉ sessions.map fun session => session.peerAddress.text) :
    settingsFor address (withAddress settings sessions) = [] := by
  induction sessions with
  | nil => rfl
  | cons session later ih =>
      rw [List.map_cons, List.mem_cons, not_or] at absent
      rw [settingsFor_cons, if_neg (Ne.symm absent.1), ih absent.2,
        List.append_nil]

/-- With different addresses, the settings for the address of a session are
its own. -/
private theorem settingsFor_withAddress {settings : Session → List String}
    (nodup : (sessions.map fun session => session.peerAddress.text).Nodup)
    {session : Session} (member : session ∈ sessions) :
    settingsFor session.peerAddress.text (withAddress settings sessions) =
      settings session := by
  induction sessions with
  | nil => exact nomatch member
  | cons first later ih =>
      rw [List.map_cons, List.nodup_cons] at nodup
      obtain ⟨absent, laterNodup⟩ := nodup
      rw [settingsFor_cons]
      rcases List.mem_cons.mp member with rfl | isLater
      · rw [if_pos rfl, settingsFor_of_not_mem absent, List.append_nil]
      · have differs : first.peerAddress.text ≠ session.peerAddress.text := by
          intro same
          rw [same] at absent
          exact absent (List.mem_map.mpr ⟨session, isLater, rfl⟩)
        rw [if_neg differs, List.nil_append, ih laterNodup isLater]

/-- The names of the route maps that are applied in one direction. -/
private def readFilters (direction : String) (settings : List String) :
    List String :=
  (behind "route-map " settings).filterMap fun applied =>
    if (splitLast applied).2 = direction then some (splitLast applied).1
    else none

private theorem readFilters_settings (session : Session) :
    (readFilters "in" (sessionSettings internal session ++
        filterSettings session) = session.routeMapIn.toList) ∧
      readFilters "out" (sessionSettings internal session ++
        filterSettings session) = session.routeMapOut.toList := by
  have remoteAs : Apart "route-map " "remote-as " := by decide +kernel
  have sendCommunity : Apart "route-map " "send-community both" := by
    decide +kernel
  have established :
      behind "route-map " (sessionSettings internal session) = [] := by
    rw [sessionSettings, behind_cons_apart remoteAs]
    split
    · rw [behind_cons_apart sendCommunity, behind_nil]
    · rw [behind_nil]
  have applied : behind "route-map " (filterSettings session) =
      (session.routeMapIn.toList.map (· ++ " in")) ++
        session.routeMapOut.toList.map (· ++ " out") := by
    rw [filterSettings, behind_append, behind_map_self, behind_map_self]
  have isIn : " in" = " " ++ "in" := rfl
  have isOut : " out" = " " ++ "out" := rfl
  have splitIn (name : String) : splitLast (name ++ " in") = (name, "in") := by
    rw [isIn]
    exact splitLast_append name (by decide)
  have splitOut (name : String) :
      splitLast (name ++ " out") = (name, "out") := by
    rw [isOut]
    exact splitLast_append name (by decide)
  rw [readFilters, readFilters, behind_append, established, applied,
    List.nil_append, List.filterMap_append, List.filterMap_append]
  simp only [List.filterMap_map, Function.comp_def, splitIn, splitOut]
  simp

private theorem Session.eq_of_shown {first second : Session}
    (peer : first.peer = second.peer)
    (peerAddress : first.peerAddress.text = second.peerAddress.text)
    (localAddress : first.localAddress.text = second.localAddress.text)
    (routeMapIn : first.routeMapIn = second.routeMapIn)
    (routeMapOut : first.routeMapOut = second.routeMapOut) :
    first.shown = second.shown := by
  unfold Session.shown
  rw [peer, Address.text_injective peerAddress,
    Address.text_injective localAddress, routeMapIn, routeMapOut]

end Sessions

/-- What the lines of an entry say determines the entry. -/
private theorem entry_eq_of_lines {first second : RouteMapEntry}
    (sameHead : entryHead first = entryHead second)
    (sameClauses : clauses first = clauses second) : first = second := by
  obtain ⟨sameName, sameOrder⟩ :
      first.name = second.name ∧ first.order = second.order := by
    have split (entry : RouteMapEntry) : splitLast (entryHead entry) =
        (entry.name ++ " permit", toString entry.order.toNat) :=
      splitLast_append _ (lacks_number_of_not_isDigit rfl _)
    have parts := split first
    rw [sameHead, split second, Prod.mk.injEq, String.append_left_inj,
      toString_number_inj, UInt32.toNat_inj] at parts
    exact ⟨parts.1.symm, parts.2.symm⟩
  have sameBehind (opening : Opening) := congrArg (behind opening.text) sameClauses
  have communityLists := sameBehind .matchCommunity
  have prefixLists := sameBehind .matchPrefixList
  have asPathLists := sameBehind .matchAsPath
  have localPreference := sameBehind .localPreference
  have deletedCommunityList := sameBehind .deletedCommunities
  have addedCommunities := sameBehind .addedCommunity
  simp (disch := exact Opening.apart_text (by decide)) only [clauses,
    behind_append, behind_map_self, behind_map_apart, behind_prefixed_self,
    behind_prefixed_apart, List.append_nil, List.nil_append]
    at communityLists prefixLists asPathLists localPreference
      deletedCommunityList addedCommunities
  have sameTexts {α : Type} {first second : Option α} {text : α → String}
      (injective : ∀ value other, text value = text other → value = other)
      (same : first.toList.map text = second.toList.map text) :
      first = second :=
    toList_injective ((List.map_inj_right injective).mp same)
  have sameNumber (value other : UInt32)
      (same : toString value.toNat = toString other.toNat) : value = other :=
    UInt32.toNat_inj.mp (toString_number_inj.mp same)
  have sameEnding (ending value other : String)
      (same : value ++ ending = other ++ ending) : value = other :=
    (String.append_left_inj ending).mp same
  cases first
  cases second
  rw [RouteMapEntry.mk.injEq]
  exact ⟨sameName, sameOrder, communityLists, prefixLists, asPathLists,
    sameTexts sameNumber localPreference,
    sameTexts (sameEnding " delete") deletedCommunityList,
    (List.map_inj_right (sameEnding " additive")).mp addedCommunities⟩

private theorem resolved_eq_of_entryOf {first second : Router}
    {routeMap other : RouteMap}
    (same : entryOf first routeMap = entryOf second other) :
    (({ routeMap with policy := "" } : RouteMap),
        first.matchLists routeMap.policy) =
      ({ other with policy := "" }, second.matchLists other.policy) := by
  have lists (router : Router) (routeMap : RouteMap) :
      router.matchLists routeMap.policy =
        ⟨(entryOf router routeMap).communityLists,
          (entryOf router routeMap).prefixLists,
          (entryOf router routeMap).asPathLists⟩ := by
    unfold Router.matchLists entryOf
    cases router.policyList? routeMap.policy <;> rfl
  have fields := same
  simp only [entryOf, RouteMapEntry.mk.injEq] at fields
  obtain ⟨name, priority, _, _, _, localPreference, deleteCommunity,
    setCommunities⟩ := fields
  rw [lists, lists, same, name, priority, localPreference, deleteCommunity,
    setCommunities]

section Same

variable {internal : List String} {first second : Router} {lines : List String}

/-- The route maps of a session are those of the settings for its address. -/
private theorem Show.readFilters_eq {router : Router}
    (shows : Show internal router lines)
    (nodup : (router.sessions.map Session.peerAddress).Nodup)
    {session : Session} (member : session ∈ router.sessions) :
    readFilters "in" (settingsFor session.peerAddress.text
        (readSettings lines)) = session.routeMapIn.toList ∧
      readFilters "out" (settingsFor session.peerAddress.text
        (readSettings lines)) = session.routeMapOut.toList := by
  have textsNodup :
      (router.sessions.map fun session => session.peerAddress.text).Nodup := by
    have nodupTexts :
        ((router.sessions.map Session.peerAddress).map Address.text).Nodup :=
      List.Pairwise.map Address.text
        (fun _ _ differ same => differ (Address.text_injective same)) nodup
    rwa [List.map_map] at nodupTexts
  have settings : settingsFor session.peerAddress.text (readSettings lines) =
      sessionSettings internal session ++ filterSettings session := by
    rw [shows.readSettings_eq, settingsFor, List.filterMap_append,
      ← settingsFor, ← settingsFor, settingsFor_withAddress textsNodup member,
      settingsFor_withAddress textsNodup member]
  rw [settings]
  exact readFilters_settings session

/-- The sessions of a router, read back from its lines. -/
private def readSessions (lines : List String) :
    List ((String × String) × String × List String × List String) :=
  ((readKind "remote-as " (readSettings lines)).zip
    ((behind Opening.localAddress.text lines).zip
      ((readKind "remote-as " (readSettings lines)).map fun (address, _) =>
        (readFilters "in" (settingsFor address (readSettings lines)),
          readFilters "out" (settingsFor address (readSettings lines))))))

private theorem Show.readSessions_eq {router : Router}
    (shows : Show internal router lines)
    (nodup : (router.sessions.map Session.peerAddress).Nodup) :
    readSessions lines = router.sessions.map fun session =>
      ((session.peerAddress.text, session.peer),
        Naming.concrete.interfaceAddress router session,
        session.routeMapIn.toList, session.routeMapOut.toList) := by
  have filters : router.sessions.map (fun session =>
      (readFilters "in" (settingsFor session.peerAddress.text
          (readSettings lines)),
        readFilters "out" (settingsFor session.peerAddress.text
          (readSettings lines)))) =
      router.sessions.map fun session =>
        (session.routeMapIn.toList, session.routeMapOut.toList) := by
    apply List.map_congr_left
    intro session member
    obtain ⟨readIn, readOut⟩ := shows.readFilters_eq nodup member
    rw [readIn, readOut]
  rw [readSessions, shows.readPeers, shows.localAddresses, List.map_map]
  simp only [Function.comp_def, filters, List.zip_map']

private theorem Show.sessions_eq (firstShows : Show internal first lines)
    (secondShows : Show internal second lines)
    (firstNodup : (first.sessions.map Session.peerAddress).Nodup)
    (secondNodup : (second.sessions.map Session.peerAddress).Nodup) :
    first.sessions.map Session.shown = second.sessions.map Session.shown := by
  have same := (firstShows.readSessions_eq firstNodup).symm.trans
    (secondShows.readSessions_eq secondNodup)
  refine map_eq_of_map_eq ?_ same
  intro session other sameTexts
  simp only [Prod.mk.injEq] at sameTexts
  obtain ⟨⟨sameAddress, samePeer⟩, sameInterface, sameIn, sameOut⟩ := sameTexts
  have sameLocal : session.localAddress.text = other.localAddress.text :=
    (String.append_left_inj _).mp ((String.append_left_inj _).mp sameInterface)
  exact Session.eq_of_shown samePeer sameAddress sameLocal
    (toList_injective sameIn) (toList_injective sameOut)

private theorem Show.showsSame (firstShows : Show internal first lines)
    (secondShows : Show internal second lines)
    (firstLegible : first.IsLegible) (secondLegible : second.IsLegible) :
    first.ShowsSame second := by
  constructor
  case name =>
    have same := firstShows.name.symm.trans secondShows.name
    exact List.head_eq_of_cons_eq same
  case id =>
    have same := firstShows.id.symm.trans secondShows.id
    rw [testbedRouterId_toNat, testbedRouterId_toNat,
      Address.text_injective (List.head_eq_of_cons_eq same)]
  case networks => exact firstShows.networks.symm.trans secondShows.networks
  case sessions =>
    exact firstShows.sessions_eq secondShows firstLegible.peerAddresses
      secondLegible.peerAddresses
  case prefixLists =>
    have read {router : Router} (shows : Show internal router lines)
        (legible : router.IsLegible) :
        readLists .prefixList PrefixList.mk lines = router.prefixLists :=
      readLists_eq shows.prefixLists legible.prefixLists fun _ _ => rfl
    exact (read firstShows firstLegible).symm.trans
      (read secondShows secondLegible)
  case communityLists =>
    have read {router : Router} (shows : Show internal router lines)
        (legible : router.IsLegible) :
        readLists .communityList (fun name action rest =>
          ⟨name, action, words rest⟩) lines = router.communityLists := by
      refine readLists_eq shows.communityLists legible.communityLists ?_
      intro list member
      rw [words_intercalate (legible.communities list member)]
    exact (read firstShows firstLegible).symm.trans
      (read secondShows secondLegible)
  case asPathLists =>
    have read {router : Router} (shows : Show internal router lines)
        (legible : router.IsLegible) :
        readLists .asPathList AsPathList.mk lines = router.asPathLists :=
      readLists_eq shows.asPathLists legible.asPathLists fun _ _ => rfl
    exact (read firstShows firstLegible).symm.trans
      (read secondShows secondLegible)
  case routeMaps =>
    have same := firstShows.routeMaps.symm.trans secondShows.routeMaps
    refine map_eq_of_map_eq ?_ same
    intro routeMap other sameLines
    obtain ⟨sameHead, sameClauses⟩ := Prod.mk.inj sameLines
    exact resolved_eq_of_entryOf (entry_eq_of_lines sameHead sameClauses)

end Same

namespace Router

/-- Legible routers with one configuration agree in all that it shows. -/
theorem configuration_unambiguous (internal : List String)
    (first second : Router) (firstLegible : first.IsLegible)
    (secondLegible : second.IsLegible)
    (same : first.configuration .concrete internal =
      second.configuration .concrete internal) :
    first.ShowsSame second := by
  rw [configuration_eq_ofLines, configuration_eq_ofLines] at same
  have sameLines := ofLines_inj
    (first.lacksIn_configuration (by decide) internal firstLegible.noNewline)
    (second.lacksIn_configuration (by decide) internal secondLegible.noNewline)
    same
  rw [lines_ofRouter, lines_ofRouter] at sameLines
  have firstShows := show_configurationLines internal first
  rw [sameLines] at firstShows
  exact firstShows.showsSame (show_configurationLines internal second)
    firstLegible secondLegible

/-- A router with a space in its name, an empty filter, a policy list that a
route map refers to, and one that is not referred to. -/
def ambiguousRouter : Router :=
  { Router.fresh "A remote-as B" 9 with
    networks := [.symbolic "p q", .concrete ⟨⟨10, 1, 0, 0⟩, 12, by decide⟩]
    prefixLists := [⟨"pl", .permit, "10.0.0.0/8 le 24"⟩]
    communityLists := [⟨"cl", .deny, ["65000:1", "65000:2"]⟩]
    routeMaps := [
      { name := "rm permit 10", priority := 10, policy := "used"
        localPreference := some 200, deleteCommunity := some "cl delete"
        setCommunities := ["65000:3 additive"] },
      { name := "rm", priority := 20, policy := "missing"
        localPreference := none, deleteCommunity := none
        setCommunities := [] }]
    policyLists := [⟨"used", ["cl"], ["pl"], []⟩, ⟨"unused", [], ["pl"], []⟩]
    sessions := [
      { peer := "X", peerAddress := ⟨10, 0, 0, 2⟩
        localAddress := ⟨10, 0, 0, 1⟩
        inFilter := some "rm in", outFilter := some "" },
      .unfiltered "B" ⟨10, 0, 1, 2⟩ ⟨10, 0, 1, 1⟩] }

/-- The same configuration, with another high octet of the ID, other names of
policy lists and no empty filter. -/
def lookalikeRouter : Router :=
  { ambiguousRouter with
    id := 16777225
    routeMaps := ambiguousRouter.routeMaps.map fun routeMap =>
      if routeMap.policy = "used" then { routeMap with policy := "renamed" }
      else routeMap
    policyLists := [⟨"renamed", ["cl"], ["pl"], []⟩]
    sessions := ambiguousRouter.sessions.map Session.shown }

theorem configuration_unambiguous_lookalike :
    ambiguousRouter ≠ lookalikeRouter ∧ ambiguousRouter.IsLegible ∧
      lookalikeRouter.IsLegible ∧
      ambiguousRouter.configuration .concrete ["B"] =
        lookalikeRouter.configuration .concrete ["B"] ∧
      ambiguousRouter.ShowsSame lookalikeRouter := by
  have firstLegible : ambiguousRouter.IsLegible := by
    constructor <;> decide +kernel
  have secondLegible : lookalikeRouter.IsLegible := by
    constructor <;> decide +kernel
  have same : ambiguousRouter.configuration .concrete ["B"] =
      lookalikeRouter.configuration .concrete ["B"] := by
    decide +kernel
  exact ⟨by decide +kernel, firstLegible, secondLegible, same,
    configuration_unambiguous ["B"] ambiguousRouter lookalikeRouter
      firstLegible secondLegible same⟩

end Router

end BgpTestbed
