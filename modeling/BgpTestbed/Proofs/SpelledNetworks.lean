import BgpTestbed.NetworkFormat
import BgpTestbed.Proofs.AddressText
import BgpTestbed.Proofs.Json.Locality
import BgpTestbed.Proofs.Json.Records
import BgpTestbed.Proofs.NameMap

/-!
# How networks may be spelled

Every record of the format has a slot for each of its fields, and a field with
a default may be left out where it holds the default.  A network is spelled as
an object of routers; of several members under one key the last one counts, and
the others only have to be readable.
-/

namespace BgpTestbed

open Json
open Json.Reader
open Json.Codec

theorem Action.ofText?_text (action : Action) :
    ofText? action.text = some action := by
  cases action <;> rfl

theorem Action.codec_spells (action : Action) :
    codec.Spells action (TextOf action.text) where
  reads text spelled := by
    refine ⟨(text_reads spelled).starts, ?_⟩
    intro space rest isBlank _
    obtain ⟨denotes⟩ := spelled
    change Action.read.run _ = _
    rw [Action.read, run_bind, List.cons_append, run_nextToken isBlank rfl,
      List.append_assoc]
    change readName.run _ = _
    rw [readName, run_bind, List.singleton_append, run_text_of_denotes denotes]
    simp only [Except.bind, ofText?_text, run_pure]
  writes := (text_spells action.text).writes

theorem Address.codec_spells (address : Address) :
    codec.Spells address (TextOf address.text) where
  reads text spelled := by
    refine ⟨(text_reads spelled).starts, ?_⟩
    intro space rest isBlank _
    rw [codec, run_bind, run_readText_textOf _ spelled isBlank]
    simp only [Except.bind, ofText?_text, run_pure]
  writes := (text_spells address.text).writes

theorem Prefix.codec_reads {value : String} {text : List Char}
    (spelled : TextOf value text) : codec.Reads text (ofText value) where
  starts := (text_reads spelled).starts
  reads space rest isBlank _ := by
    rw [codec, run_map, run_readText_textOf _ spelled isBlank]
    rfl

theorem Prefix.codec_spells {declared : Prefix}
    (unambiguous : declared.Unambiguous) :
    codec.Spells declared (TextOf declared.text) where
  reads text spelled := by
    have reads := codec_reads spelled
    rwa [ofText_text unambiguous] at reads
  writes := (text_spells declared.text).writes

def PrefixList.slots (list : PrefixList) : List Slot :=
  [.required "name" (TextOf list.name),
    .required "kind" (TextOf list.action.text),
    .required "prefix" (TextOf list.pattern)]

def CommunityList.slots (list : CommunityList) : List Slot :=
  [.required "name" (TextOf list.name),
    .required "kind" (TextOf list.action.text),
    .required "communities" (ListOf TextOf list.communities)]

def AsPathList.slots (list : AsPathList) : List Slot :=
  [.required "name" (TextOf list.name),
    .required "kind" (TextOf list.action.text),
    .required "regex" (TextOf list.regex)]

def PolicyList.slots (policy : PolicyList) : List Slot :=
  [.required "name" (TextOf policy.name),
    .defaulted "communities" (ListOf TextOf policy.communities)
      (policy.communities = []),
    .defaulted "prefix_lists" (ListOf TextOf policy.prefixLists)
      (policy.prefixLists = []),
    .defaulted "as_path_lists" (ListOf TextOf policy.asPathLists)
      (policy.asPathLists = [])]

def RouteMap.slots (entry : RouteMap) : List Slot :=
  [.required "name" (TextOf entry.name),
    .required "priority" (WordOf entry.priority),
    .required "policy" (TextOf entry.policy),
    .defaulted "local_pref" (OptionalOf WordOf entry.localPreference)
      (entry.localPreference = none),
    .defaulted "delete_community" (OptionalOf TextOf entry.deleteCommunity)
      (entry.deleteCommunity = none),
    .defaulted "set_communities" (ListOf TextOf entry.setCommunities)
      (entry.setCommunities = [])]

def Session.slots (session : Session) : List Slot :=
  [.required "name" (TextOf session.peer),
    .required "peer_ip" (TextOf session.peerAddress.text),
    .required "source_ip" (TextOf session.localAddress.text),
    .defaulted "in_filter" (OptionalOf TextOf session.inFilter)
      (session.inFilter = none),
    .defaulted "out_filter" (OptionalOf TextOf session.outFilter)
      (session.outFilter = none)]

def Router.slots (router : Router) : List Slot :=
  [.required "router_id" (WordOf router.id),
    .required "name" (TextOf router.name),
    .defaulted "networks"
      (ListOf (fun declared => TextOf declared.text) router.networks)
      (router.networks = []),
    .defaulted "prefix_lists"
      (ListOf (fun list => RecordOf list.slots) router.prefixLists)
      (router.prefixLists = []),
    .defaulted "community_lists"
      (ListOf (fun list => RecordOf list.slots) router.communityLists)
      (router.communityLists = []),
    .defaulted "as_path_lists"
      (ListOf (fun list => RecordOf list.slots) router.asPathLists)
      (router.asPathLists = []),
    .defaulted "route_maps"
      (ListOf (fun entry => RecordOf entry.slots) router.routeMaps)
      (router.routeMaps = []),
    .defaulted "policy_lists"
      (ListOf (fun policy => RecordOf policy.slots) router.policyLists)
      (router.policyLists = []),
    .defaulted "peers"
      (ListOf (fun session => RecordOf session.slots) router.sessions)
      (router.sessions = [])]

private theorem texts_spell (values : List String) :
    (Codec.list .text).Spells values (ListOf TextOf values) :=
  list_spells fun value _ => text_spells value

private theorem optionalText_spells (value : Option String) :
    (Codec.optional .text).Spells value (OptionalOf TextOf value) := by
  apply optional_spells text_spells
  intro held text spelled
  obtain ⟨_⟩ := spelled
  exact (by decide : some '"' ≠ some 'n')

private theorem optionalWord_spells (value : Option UInt32) :
    (Codec.optional .word).Spells value (OptionalOf WordOf value) := by
  apply optional_spells word_spells
  intro held text spelled
  rw [spelled]
  exact head?_toDigits_ne rfl held.toNat

theorem PrefixList.codec_spells (list : PrefixList) :
    codec.Spells list (RecordOf list.slots) := by
  refine record_spells ?_ (by decide) rfl _
  apply Fills.required (text_spells _)
  apply Fills.required (Action.codec_spells _)
  apply Fills.required (text_spells _)
  exact .done

theorem CommunityList.codec_spells (list : CommunityList) :
    codec.Spells list (RecordOf list.slots) := by
  refine record_spells ?_ (by decide) rfl _
  apply Fills.required (text_spells _)
  apply Fills.required (Action.codec_spells _)
  apply Fills.required (texts_spell _)
  exact .done

theorem AsPathList.codec_spells (list : AsPathList) :
    codec.Spells list (RecordOf list.slots) := by
  refine record_spells ?_ (by decide) rfl _
  apply Fills.required (text_spells _)
  apply Fills.required (Action.codec_spells _)
  apply Fills.required (text_spells _)
  exact .done

theorem PolicyList.codec_spells (policy : PolicyList) :
    codec.Spells policy (RecordOf policy.slots) := by
  refine record_spells ?_ (by decide) rfl _
  apply Fills.required (text_spells _)
  apply Fills.defaulted (texts_spell _)
  apply Fills.defaulted (texts_spell _)
  apply Fills.defaulted (texts_spell _)
  exact .done

theorem RouteMap.codec_spells (entry : RouteMap) :
    codec.Spells entry (RecordOf entry.slots) := by
  refine record_spells ?_ (by decide) rfl _
  apply Fills.required (text_spells _)
  apply Fills.required (word_spells _)
  apply Fills.required (text_spells _)
  apply Fills.defaulted (optionalWord_spells _)
  apply Fills.defaulted (optionalText_spells _)
  apply Fills.defaulted (texts_spell _)
  exact .done

theorem Session.codec_spells (session : Session) :
    codec.Spells session (RecordOf session.slots) := by
  refine record_spells ?_ (by decide) rfl _
  apply Fills.required (text_spells _)
  apply Fills.required (Address.codec_spells _)
  apply Fills.required (Address.codec_spells _)
  apply Fills.defaulted (optionalText_spells _)
  apply Fills.defaulted (optionalText_spells _)
  exact .done

/-- No symbolic text of the router reads as a subnet. -/
def Router.Unambiguous (router : Router) : Prop :=
  ∀ declared ∈ router.networks, declared.Unambiguous

instance (router : Router) : Decidable router.Unambiguous :=
  inferInstanceAs
    (Decidable (∀ declared ∈ router.networks, declared.Unambiguous))

theorem Router.codec_spells {router : Router}
    (unambiguous : router.Unambiguous) :
    codec.Spells router (RecordOf router.slots) := by
  refine record_spells ?_ (by decide) rfl _
  apply Fills.required (word_spells _)
  apply Fills.required (text_spells _)
  apply Fills.defaulted
  · apply list_spells
    intro declared isDeclared
    exact Prefix.codec_spells (unambiguous declared isDeclared)
  apply Fills.defaulted (list_spells fun list _ => list.codec_spells)
  apply Fills.defaulted (list_spells fun list _ => list.codec_spells)
  apply Fills.defaulted (list_spells fun list _ => list.codec_spells)
  apply Fills.defaulted (list_spells fun entry _ => entry.codec_spells)
  apply Fills.defaulted (list_spells fun policy _ => policy.codec_spells)
  apply Fills.defaulted (list_spells fun session _ => session.codec_spells)
  exact .done

private theorem closing_local (action : Action) :
    (nextToken >>= fun last =>
      match last with
      | none => fail .endOfObject
      | some '\x7d' => pure action
      | some _ => fail .expectedValue).Local := by
  refine Local.bind nextToken_local.local fun last => ?_
  split
  · exact localFor_fail _ _
  · exact localFor_pure _ _
  · exact localFor_fail _ _

private theorem Action.read_local : Action.read.Local := by
  have name_local : readName.Local := by
    refine Local.bind text_local fun name => ?_
    split
    · exact localFor_pure _ _
    · exact localFor_fail _ _
  refine Local.bind nextToken_local.local fun first => ?_
  split
  · exact localFor_fail _ _
  · exact name_local
  · refine Local.bind nextToken_local.local fun quote => ?_
    split
    · exact localFor_fail _ _
    · refine Local.bind name_local fun action => ?_
      refine Local.bind colon_local fun _ => ?_
      refine Local.bind nextToken_local.local fun second => ?_
      split
      · exact Local.bind (localFor_fail _ _) fun _ => closing_local action
      · exact Local.bind (keyword_local _) fun _ => closing_local action
      · exact Local.bind (mismatch_local _ _ _) fun _ => closing_local action
    · exact localFor_fail _ _
    · exact localFor_fail _ _
  · exact localFor_fail _ _

private theorem Address.read_local : Address.codec.read.Local := by
  refine Local.bind (readText_local _) fun text => ?_
  split
  · exact localFor_pure _ _
  · exact localFor_fail _ _

private theorem Prefix.read_local : Prefix.codec.read.Local :=
  LocalFor.map (readText_local _)

private theorem PrefixList.read_local : PrefixList.codec.read.Local := by
  refine (record_local ?_ _ _ _).local
  exact ⟨readText_local _, Action.read_local, readText_local _,
    trivial⟩

private theorem CommunityList.read_local : CommunityList.codec.read.Local := by
  refine (record_local ?_ _ _ _).local
  exact ⟨readText_local _, Action.read_local,
    readList_local (readText_local _), trivial⟩

private theorem AsPathList.read_local : AsPathList.codec.read.Local := by
  refine (record_local ?_ _ _ _).local
  exact ⟨readText_local _, Action.read_local, readText_local _,
    trivial⟩

private theorem PolicyList.read_local : PolicyList.codec.read.Local := by
  refine (record_local ?_ _ _ _).local
  exact ⟨readText_local _, readList_local (readText_local _),
    readList_local (readText_local _), readList_local (readText_local _),
    trivial⟩

private theorem RouteMap.read_local : RouteMap.codec.read.Local := by
  refine (record_local ?_ _ _ _).local
  exact ⟨readText_local _, readWord_local, readText_local _,
    readOptional_local readWord_local, readOptional_local (readText_local _),
    readList_local (readText_local _), trivial⟩

private theorem Session.read_local : Session.codec.read.Local := by
  refine (record_local ?_ _ _ _).local
  exact ⟨readText_local _, Address.read_local, Address.read_local,
    readOptional_local (readText_local _),
    readOptional_local (readText_local _), trivial⟩

theorem Router.read_local : codec.read.LocalFor fun _ => True := by
  refine record_local ?_ _ _ _
  exact ⟨readWord_local, readText_local _,
    readList_local Prefix.read_local, readList_local PrefixList.read_local,
    readList_local CommunityList.read_local,
    readList_local AsPathList.read_local, readList_local RouteMap.read_local,
    readList_local PolicyList.read_local, readList_local Session.read_local,
    trivial⟩

/-- A router that is a whole text is read from it wherever it stands. -/
theorem Router.run_read_of_whole {text : List Char} {router : Router}
    (reads : codec.read.run text = .ok (router, [])) {space : List Char}
    (isBlank : IsBlank space) (rest : List Char) :
    codec.read.run (space ++ (text ++ rest)) = .ok (router, rest) := by
  have here := read_local text router [] reads (.inl trivial) rest
  rw [codec, run_record_blank _ _ _ isBlank]
  exact here

namespace Network

/-- No symbolic text of the network reads as a subnet. -/
def Unambiguous (network : Network) : Prop :=
  ∀ router ∈ network.values, router.Unambiguous

instance (network : Network) : Decidable network.Unambiguous :=
  inferInstanceAs (Decidable (∀ router ∈ network.values, router.Unambiguous))

/-- The members of a network: the last one of every key spells the router of
this key, and earlier ones hold any routers that can be read. -/
inductive Entries (network : Network) : List NamedMember → Prop where
  | none : Entries network []
  | repeated {member : NamedMember} {later : List NamedMember}
      {other : Router}
      (again : member.name ∈ later.map NamedMember.name)
      (readable : Router.codec.read.run member.value = .ok (other, []))
      (others : Entries network later) : Entries network (member :: later)
  | router {member : NamedMember} {later : List NamedMember}
      {router : Router} (found : network.find? member.name = some router)
      (spelled : RecordOf router.slots member.value)
      (others : Entries network later) : Entries network (member :: later)

/-- A text of a network, with any space around it. -/
inductive SpelledAs (network : Network) : String → Prop where
  | object {members : List NamedMember} {text before after : List Char}
      (entries : network.Entries members)
      (complete : ∀ key ∈ network.keys,
        key ∈ members.map NamedMember.name)
      (enclosed : Enclosed '\x7b' '\x7d'
        (members.map fun member => member.text) text)
      (beforeIsBlank : IsBlank before) (afterIsBlank : IsBlank after) :
      SpelledAs network (String.ofList (before ++ (text ++ after)))

private def writtenEntry (entry : String × Router) : String × Value :=
  (entry.1, Router.codec.write entry.2)

private theorem run_readEntry {router : Router} {member : NamedMember}
    {rest : List Char}
    (reads : Router.codec.read.run
      (member.afterColon ++ (member.value ++ rest)) = .ok (router, rest))
    (network : Network) :
    (readEntry network member.name).run (member.behindKey ++ rest) =
      .ok (network.insert member.name router, rest) := by
  rw [readEntry, run_bind, run_colon_member]
  simp only [Except.bind, run_bind, reads, run_pure]

/-- Reading the entries leads from any network to one in which the keys that
were read have their own routers. -/
private theorem leads_of_entries {network : Network}
    (unambiguous : network.Unambiguous)
    {members : List NamedMember} (entries : network.Entries members)
    (start : Network) :
    ∃ last, Leads readEntry start members last ∧
      ∀ name, last.find? name =
        if name ∈ members.map NamedMember.name then network.find? name
        else start.find? name := by
  induction entries generalizing start with
  | none => exact ⟨start, .done _, fun _ => rfl⟩
  | @repeated member later other again readable _ ih =>
      obtain ⟨last, leads, finds⟩ := ih (start.insert member.name other)
      refine ⟨last, .next ?_ leads, ?_⟩
      · intro rest _
        apply run_readEntry
        exact Router.run_read_of_whole readable member.afterIsBlank rest
      · intro name
        rw [finds, NameMap.find?_insert, List.map_cons]
        by_cases same : name = member.name
        · subst same
          simp [again]
        · simp [same]
  | @router member later router found spelled _ ih =>
      obtain ⟨last, leads, finds⟩ := ih (start.insert member.name router)
      refine ⟨last, .next ?_ leads, ?_⟩
      · intro rest ends
        apply run_readEntry
        have isRouter : router ∈ network.values :=
          (network.mem_values_iff router).mpr ⟨_, found⟩
        have spells := Router.codec_spells (unambiguous router isRouter)
        exact (spells.reads _ spelled).reads _ rest member.afterIsBlank ends
      · intro name
        rw [finds, NameMap.find?_insert, List.map_cons]
        by_cases same : name = member.name
        · subst same
          simp [found]
        · simp [same]

/-- A network is written as a text of it. -/
theorem spelledAs_write {network : Network} (unambiguous : network.Unambiguous)
    (layout : Layout) : network.SpelledAs
      (String.ofList (layout.text 0 (codec.write network))) := by
  have entries (part : List (String × Router))
      (areFound : ∀ entry ∈ part, network.find? entry.1 = some entry.2) :
      network.Entries ((part.map writtenEntry).map (layout.namedMember 1)) := by
    induction part with
    | nil => exact .none
    | cons entry later ih =>
        obtain ⟨isFound, laterAreFound⟩ := List.forall_mem_cons.mp areFound
        have isRouter : entry.2 ∈ network.values :=
          (network.mem_values_iff entry.2).mpr ⟨_, isFound⟩
        have spells := Router.codec_spells (unambiguous entry.2 isRouter)
        exact .router isFound (spells.writes layout 1) (ih laterAreFound)
  have complete : ∀ key ∈ network.keys,
      key ∈ ((network.entries.map writtenEntry).map
        (layout.namedMember 1)).map NamedMember.name := by
    intro key isKey
    rw [List.map_map, List.map_map]
    exact isKey
  have spelled := SpelledAs.object
    (entries network.entries fun entry isEntry =>
      (network.mem_entries_iff entry.1 entry.2).mp isEntry)
    complete (layout.isEnclosed_object 0 _) isBlank_nil isBlank_nil
  rw [List.append_nil] at spelled
  exact spelled

/-- Every text of the network is decoded to it. -/
theorem decode_of_spelledAs {network : Network}
    (unambiguous : network.Unambiguous) {text : String}
    (spelled : network.SpelledAs text) :
    codec.decode text = .ok network := by
  obtain @⟨members, text, before, after, entries, complete, enclosed,
    beforeIsBlank, afterIsBlank⟩ := spelled
  obtain ⟨last, leads, finds⟩ :=
    leads_of_entries unambiguous entries NameMap.empty
  have isLast : last = network := by
    apply NameMap.ext_find?
    intro name
    rw [finds]
    split
    · rfl
    · rename_i notRead
      have notKey : name ∉ network.keys := fun isKey =>
        notRead (complete name isKey)
      rw [NameMap.find?_empty, (network.find?_eq_none_iff name).mpr notKey]
  subst isLast
  obtain ⟨inner, rfl, reads⟩ := run_readMembers leads enclosed
  have reads : codec.Reads ('\x7b' :: inner) last := by
    refine ⟨⟨_, _, rfl, rfl, by decide⟩, ?_⟩
    intro space rest isBlank _
    change Network.read.run _ = _
    rw [Network.read, run_bind, List.cons_append, run_nextToken isBlank rfl]
    exact reads rest
  exact reads.decode_eq beforeIsBlank afterIsBlank

end Network

end BgpTestbed
