import Mathlib.Data.List.Nodup
import BgpTestbed.Proofs.NameMap
import BgpTestbed.Proofs.OpenConfigurations

/-!
# Templates filled in

A configuration with placeholders is a template.  The placeholders of a
session are made of the names at its two ends, joined by a dot, so values for
all placeholders exist exactly if sessions with one joined name have the same
addresses.  Names with dots can be joined to one name in two ways, and parallel
sessions always have one.

Values go where the naming shows a name or an address, and nowhere else: behind
the words that start the BGP process, into the addresses of interfaces and into
the lines of neighbors.  In the text of a configuration these are the open
places of its lines.
-/

namespace BgpTestbed

open Text

/-- The names at both ends of a session, as its placeholders join them. -/
def Naming.joinedName (router : Router) (session : Session) : String :=
  router.name ++ "." ++ session.peer

/-- No text ends in both ways. -/
theorem append_ne_of_endings {front other ending otherEnding : String}
    (notSuffix : ¬ ending.toList <:+ otherEnding.toList)
    (notSuffix' : ¬ otherEnding.toList <:+ ending.toList) :
    front ++ ending ≠ other ++ otherEnding := by
  intro same
  have sameChars : front.toList ++ ending.toList =
      other.toList ++ otherEnding.toList := by
    simpa using congrArg String.toList same
  have first : ending.toList <:+ front.toList ++ ending.toList :=
    List.suffix_append _ _
  have second : otherEnding.toList <:+ front.toList ++ ending.toList := by
    rw [sameChars]
    exact List.suffix_append _ _
  rcases List.suffix_or_suffix_of_suffix first second with
    isSuffix | isSuffix
  · exact notSuffix isSuffix
  · exact notSuffix' isSuffix

namespace Naming

variable (router other : Router) (session far : Session)

theorem router_eq_iff :
    placeholder.router router = placeholder.router other ↔
      router.name = other.name :=
  String.append_left_inj _

theorem peerAddress_eq_iff :
    placeholder.peerAddress router session =
        placeholder.peerAddress other far ↔
      joinedName router session = joinedName other far :=
  String.append_left_inj _

theorem localAddress_eq_iff :
    placeholder.localAddress router session =
        placeholder.localAddress other far ↔
      joinedName router session = joinedName other far :=
  String.append_left_inj _

theorem router_ne_peerAddress :
    placeholder.router router ≠ placeholder.peerAddress other far :=
  append_ne_of_endings (by decide) (by decide)

theorem router_ne_localAddress :
    placeholder.router router ≠ placeholder.localAddress other far :=
  append_ne_of_endings (by decide) (by decide)

theorem peerAddress_ne_localAddress :
    placeholder.peerAddress router session ≠
      placeholder.localAddress other far :=
  append_ne_of_endings (by decide) (by decide)

end Naming

/-- The first dot separates the names if no router name has one, and the last
dot if no name of a peer has one. -/
theorem joinedName_eq_iff {router other : Router} {session far : Session}
    (noDots : (Lacks '.' router.name ∧ Lacks '.' other.name) ∨
      (Lacks '.' session.peer ∧ Lacks '.' far.peer)) :
    Naming.joinedName router session = Naming.joinedName other far ↔
      router.name = other.name ∧ session.peer = far.peer := by
  constructor
  · intro same
    have sameChars : router.name.toList ++ '.' :: session.peer.toList =
        other.name.toList ++ '.' :: far.peer.toList := by
      simpa [Naming.joinedName] using congrArg String.toList same
    rcases noDots with ⟨lacks, otherLacks⟩ | ⟨lacks, farLacks⟩
    · have sameName : router.name.toList = other.name.toList := by
        rw [← takeWhile_ne_append lacks, sameChars,
          takeWhile_ne_append otherLacks]
      rw [sameName, List.append_cancel_left_eq, List.cons.injEq] at sameChars
      exact ⟨String.toList_inj.mp sameName, String.toList_inj.mp sameChars.2⟩
    · have reversed : session.peer.toList.reverse ++
          '.' :: router.name.toList.reverse =
            far.peer.toList.reverse ++ '.' :: other.name.toList.reverse := by
        simpa using congrArg List.reverse sameChars
      have samePeer : session.peer.toList = far.peer.toList := by
        rw [← List.reverse_inj,
          ← takeWhile_ne_append (mt List.mem_reverse.mp lacks), reversed,
          takeWhile_ne_append (mt List.mem_reverse.mp farLacks)]
      rw [samePeer, List.append_cancel_right_eq] at sameChars
      exact ⟨String.toList_inj.mp sameChars, String.toList_inj.mp samePeer⟩
  · rintro ⟨sameName, samePeer⟩
    rw [Naming.joinedName, Naming.joinedName, sameName, samePeer]

namespace Daemon

/-- What stands behind the placeholder in the address of an interface. -/
def lengthText : String := "/" ++ toString peeringLength

/-- The address of an interface without the length of its network. -/
def withoutLength (address : String) : String :=
  String.ofList (address.toList.take
    (address.toList.length - lengthText.toList.length))

theorem withoutLength_append (name : String) :
    withoutLength (name ++ lengthText) = name := by
  rw [withoutLength, String.toList_append, List.length_append,
    Nat.add_sub_cancel, List.take_left', String.ofList_toList]
  rfl

variable (values : String → String)

/-- Puts values in place of the placeholders; the length of the network
stays. -/
def Interface.fill (interface : Interface) : Interface :=
  { interface with
    addresses := interface.addresses.map fun address =>
      values (withoutLength address) ++ lengthText }

def Neighbor.fill (neighbor : Neighbor) : Neighbor :=
  { neighbor with address := values neighbor.address }

def BgpProcess.fill (process : BgpProcess) : BgpProcess :=
  { process with
    name := values process.name
    neighbors := process.neighbors.map (Neighbor.fill values) }

/-- Puts values where the naming shows a name or an address.  Every other text
stays, even one that looks like a placeholder. -/
def Configuration.fill (configuration : Configuration) : Configuration :=
  { configuration with
    interfaces := configuration.interfaces.map (Interface.fill values)
    process := configuration.process.fill values }

end Daemon

open Daemon

/-- The placeholders of a router and what they stand for. -/
def Router.placeholders (router : Router) : List (String × String) :=
  (Naming.placeholder.router router, router.name) ::
    router.sessions.flatMap fun session =>
      [(Naming.placeholder.peerAddress router session,
          session.peerAddress.text),
        (Naming.placeholder.localAddress router session,
          session.localAddress.text)]

private theorem fill_interfaces_iff (router : Router)
    (values : String → String) :
    (interfacesOf .placeholder router).map (Interface.fill values) =
        interfacesOf .concrete router ↔
      ∀ session ∈ router.sessions,
        values (Naming.placeholder.localAddress router session) =
          session.localAddress.text := by
  have fills (session : Session) (index : Nat) :
      Interface.fill values
          { name := interfaceName index
            addresses :=
              [Naming.placeholder.interfaceAddress router session] } =
        { name := interfaceName index
          addresses := [Naming.concrete.interfaceAddress router session] } ↔
      values (Naming.placeholder.localAddress router session) =
        session.localAddress.text := by
    have address (naming : Naming) : naming.interfaceAddress router session =
        naming.localAddress router session ++ lengthText :=
      String.append_assoc
    have concrete : Naming.concrete.localAddress router session =
      session.localAddress.text := rfl
    simp only [Interface.fill, List.map_cons, List.map_nil, address,
      withoutLength_append, concrete, Interface.mk.injEq, true_and,
      List.cons.injEq, and_true, String.append_left_inj]
  rw [interfacesOf, interfacesOf, List.map_map, List.map_inj_left]
  constructor
  · intro filled session listed
    obtain ⟨index, isAt⟩ := List.mem_iff_getElem?.mp listed
    have member := List.mk_mem_zipIdx_iff_getElem?.mpr isAt
    exact (fills session index).mp (filled _ member)
  · rintro filled ⟨session, index⟩ member
    have isAt := List.mk_mem_zipIdx_iff_getElem?.mp member
    exact (fills session index).mpr
      (filled session (List.mem_of_getElem? isAt))

private theorem fill_process_iff (router : Router) (internal : List String)
    (values : String → String) :
    (processOf .placeholder internal router).fill values =
        processOf .concrete internal router ↔
      values (Naming.placeholder.router router) = router.name ∧
        ∀ session ∈ router.sessions,
          values (Naming.placeholder.peerAddress router session) =
            session.peerAddress.text := by
  have fills (session : Session) :
      (neighborOf .placeholder internal router session).fill values =
          neighborOf .concrete internal router session ↔
        values (Naming.placeholder.peerAddress router session) =
          session.peerAddress.text := by
    simp only [Neighbor.fill, neighborOf, Neighbor.mk.injEq, and_true]
    rfl
  simp only [BgpProcess.fill, processOf, BgpProcess.mk.injEq, List.map_map,
    List.map_inj_left, Function.comp_apply, fills, true_and]
  rfl

theorem Router.mem_placeholders_iff (router : Router)
    (entry : String × String) :
    entry ∈ router.placeholders ↔
      entry = (Naming.placeholder.router router, router.name) ∨
        ∃ session ∈ router.sessions,
          entry = (Naming.placeholder.peerAddress router session,
            session.peerAddress.text) ∨
          entry = (Naming.placeholder.localAddress router session,
            session.localAddress.text) := by
  simp only [placeholders, List.mem_cons, List.mem_flatMap, List.not_mem_nil,
    or_false]

/-- The template of a router becomes its configuration exactly if every
placeholder is replaced by what it stands for. -/
theorem Router.fill_eq_iff (router : Router) (internal : List String)
    (values : String → String) :
    (Configuration.ofRouter .placeholder internal router).fill values =
        Configuration.ofRouter .concrete internal router ↔
      ∀ entry ∈ router.placeholders, values entry.1 = entry.2 := by
  have parts : (Configuration.ofRouter .placeholder internal router).fill
        values = Configuration.ofRouter .concrete internal router ↔
      (interfacesOf .placeholder router).map (Interface.fill values) =
          interfacesOf .concrete router ∧
        (processOf .placeholder internal router).fill values =
          processOf .concrete internal router := by
    simp only [Configuration.fill, Configuration.ofRouter,
      Configuration.mk.injEq, and_true]
  rw [parts, fill_interfaces_iff, fill_process_iff]
  simp only [placeholders, List.forall_mem_cons, List.forall_mem_flatMap,
    List.not_mem_nil, false_imp_iff, implies_true, and_true, forall_and]
  constructor
  · rintro ⟨localAddresses, name, peerAddresses⟩
    exact ⟨name, peerAddresses, localAddresses⟩
  · rintro ⟨name, peerAddresses, localAddresses⟩
    exact ⟨localAddresses, name, peerAddresses⟩

/-- The line of a template with values in the places that it leaves open. -/
def OpenLine.filled (values : String → String) (router : Router) :
    OpenLine → String
  | fixed line => line
  | process => "router bgp " ++ values (Naming.placeholder.router router)
  | interface session =>
      " ip address " ++
        values (Naming.placeholder.localAddress router session) ++ "/24"
  | neighbor session setting =>
      " neighbor " ++
        values (Naming.placeholder.peerAddress router session) ++ " " ++ setting

theorem OpenLine.filled_placeholders (router : Router) :
    filled (fun placeholder => placeholder) router =
      shown .placeholder router := by
  funext line
  cases line with
  | fixed line => rfl
  | process => rfl
  | interface session =>
      rw [shown_interface, Naming.interfaceAddress, String.append_assoc,
        ← String.append_assoc]
      rfl
  | neighbor session setting => rfl

namespace Router

variable (router : Router) {internal : List String}
  {values : String → String}

/-- A template has its placeholders in the places that it leaves open. -/
theorem configuration_placeholder_eq (internal : List String) :
    router.configuration .placeholder internal =
      ofLines ((router.openLines internal).map
        (OpenLine.filled (fun placeholder => placeholder) router)) := by
  rw [OpenLine.filled_placeholders, map_shown_openLines,
    configuration_eq_ofLines]

/-- The lines of a template become those of the configuration exactly if every
placeholder is replaced by what it stands for. -/
theorem map_filled_eq_iff (internal : List String)
    (values : String → String) :
    (router.openLines internal).map (OpenLine.filled values router) =
        (Configuration.ofRouter .concrete internal router).lines ↔
      ∀ entry ∈ router.placeholders, values entry.1 = entry.2 := by
  rw [← router.map_shown_openLines, OpenLine.shown_concrete,
    List.map_inj_left]
  constructor
  · intro filled entry isPlaceholder
    rw [mem_placeholders_iff] at isPlaceholder
    rcases isPlaceholder with rfl | ⟨session, listed, rfl | rfl⟩
    · have same := filled .process (router.process_mem_openLines internal)
      exact (String.append_right_inj _).mp same
    · have isLine := (router.neighbor_mem_openLines_iff internal session _).mpr
        ⟨listed, .inl List.mem_cons_self⟩
      have same := filled _ isLine
      exact (String.append_right_inj _).mp
        ((String.append_left_inj _).mp ((String.append_left_inj _).mp same))
    · have isLine :=
        (router.interface_mem_openLines_iff internal session).mpr listed
      have same := filled _ isLine
      exact (String.append_right_inj _).mp
        ((String.append_left_inj _).mp same)
  · intro fits line member
    have fitsAt (placeholder value : String)
        (isEntry : (placeholder, value) ∈ router.placeholders) :
        values placeholder = value := fits _ isEntry
    simp only [mem_placeholders_iff] at fitsAt
    cases line with
    | fixed line => rfl
    | process =>
        rw [OpenLine.filled, fitsAt _ _ (.inl rfl)]
        rfl
    | interface session =>
        have listed :=
          (router.interface_mem_openLines_iff internal session).mp member
        rw [OpenLine.filled, fitsAt _ _ (.inr ⟨session, listed, .inr rfl⟩)]
        rfl
    | neighbor session setting =>
        obtain ⟨listed, _⟩ :=
          (router.neighbor_mem_openLines_iff internal _ _).mp member
        rw [OpenLine.filled, fitsAt _ _ (.inr ⟨session, listed, .inl rfl⟩)]
        rfl

/-- Values without newlines leave lines as they are. -/
theorem lacksIn_filled
    (fromOneLine : ∀ placeholder, Lacks '\n' (values placeholder))
    (lacks : LacksIn '\n'
      (Configuration.ofRouter .concrete internal router).lines) :
    LacksIn '\n' ((router.openLines internal).map
      (OpenLine.filled values router)) := by
  rw [← router.map_shown_openLines] at lacks
  unfold LacksIn at lacks ⊢
  rw [List.forall_mem_map] at lacks ⊢
  intro line member
  have lacksHere := lacks line member
  cases line with
  | fixed line => exact lacksHere
  | process => exact lacks_append.mpr ⟨by decide, fromOneLine _⟩
  | interface session =>
      exact lacks_append.mpr
        ⟨lacks_append.mpr ⟨by decide, fromOneLine _⟩, by decide⟩
  | neighbor session setting =>
      have lacksSetting := (lacks_append.mp lacksHere).2
      exact lacks_append.mpr
        ⟨lacks_append.mpr
          ⟨lacks_append.mpr ⟨by decide, fromOneLine _⟩, by decide⟩,
          lacksSetting⟩

end Router

/-- A table is part of a function exactly if no key has two values in it. -/
theorem exists_function_iff (table : List (String × String)) :
    (∃ values : String → String,
        ∀ entry ∈ table, values entry.1 = entry.2) ↔
      ∀ first ∈ table, ∀ second ∈ table,
        first.1 = second.1 → first.2 = second.2 := by
  constructor
  · rintro ⟨values, fits⟩ first isFirst second isSecond same
    rw [← fits first isFirst, ← fits second isSecond, same]
  · intro functional
    refine ⟨fun key => (table.lookup key).getD "", ?_⟩
    intro entry member
    obtain ⟨key, value⟩ := entry
    cases found : table.lookup key with
    | none =>
        have absent := lookup_eq_none_iff_not_mem.mp found
        exact absurd (List.mem_map_of_mem (f := Prod.fst) member) absent
    | some other =>
        have isOther := mem_of_lookup_eq_some found
        simp only [found, Option.getD_some]
        exact functional (key, other) isOther (key, value) member rfl

namespace Network

/-- Sessions with one joined name have the same addresses. -/
def AddressesFollowNames (network : Network) : Prop :=
  ∀ router ∈ network.values, ∀ other ∈ network.values,
    ∀ session ∈ router.sessions, ∀ far ∈ other.sessions,
      Naming.joinedName router session = Naming.joinedName other far →
        session.peerAddress = far.peerAddress ∧
          session.localAddress = far.localAddress

/-- The templates of all routers are filled in with the same values, in the
places where the naming shows a name or an address. -/
def FilledBy (network : Network) (values : String → String) : Prop :=
  ∀ router ∈ network.values, ∀ internal,
    (Configuration.ofRouter .placeholder internal router).fill values =
      Configuration.ofRouter .concrete internal router

theorem filledBy_iff (network : Network) (values : String → String) :
    network.FilledBy values ↔
      ∀ entry ∈ network.values.flatMap Router.placeholders,
        values entry.1 = entry.2 := by
  simp only [FilledBy, Router.fill_eq_iff, List.forall_mem_flatMap,
    forall_const]

/-- The text of every configuration has the values in the open places of its
template. -/
theorem FilledBy.configuration_eq {network : Network}
    {values : String → String} (filled : network.FilledBy values)
    {router : Router} (isRouter : router ∈ network.values)
    (internal : List String) :
    router.configuration .concrete internal =
      ofLines ((router.openLines internal).map
        (OpenLine.filled values router)) := by
  have fits := (router.fill_eq_iff internal values).mp
    (filled router isRouter internal)
  rw [router.configuration_eq_ofLines,
    (router.map_filled_eq_iff internal values).mpr fits]

/-- Without newlines in names and values a text tells its lines, so values that
fill in the texts fill in the configurations too. -/
theorem filledBy_iff_configuration_eq {network : Network}
    {values : String → String}
    (noNewline : ∀ router ∈ network.values, LacksIn '\n' router.strings)
    (fromOneLine : ∀ placeholder, Lacks '\n' (values placeholder)) :
    network.FilledBy values ↔ ∀ router ∈ network.values, ∀ internal,
      router.configuration .concrete internal =
        ofLines ((router.openLines internal).map
          (OpenLine.filled values router)) := by
  refine ⟨fun filled _ isRouter => filled.configuration_eq isRouter, ?_⟩
  intro sameText router isRouter internal
  have lacks : LacksIn '\n'
      (Configuration.ofRouter .concrete internal router).lines :=
    router.lacksIn_configuration (by decide) internal
      (noNewline router isRouter)
  have filledLacks := router.lacksIn_filled fromOneLine lacks
  have text := sameText router isRouter internal
  rw [router.configuration_eq_ofLines] at text
  rw [router.fill_eq_iff, ← router.map_filled_eq_iff internal]
  exact (ofLines_inj lacks filledLacks text).symm

section Members

variable {network : Network} {router : Router} {session : Session}
  (isRouter : router ∈ network.values) (listed : session ∈ router.sessions)
include isRouter listed

private theorem peerAddress_mem_placeholders :
    (Naming.placeholder.peerAddress router session,
      session.peerAddress.text) ∈
        network.values.flatMap Router.placeholders :=
  List.mem_flatMap.mpr ⟨router, isRouter, (router.mem_placeholders_iff _).mpr
    (.inr ⟨session, listed, .inl rfl⟩)⟩

private theorem localAddress_mem_placeholders :
    (Naming.placeholder.localAddress router session,
      session.localAddress.text) ∈
        network.values.flatMap Router.placeholders :=
  List.mem_flatMap.mpr ⟨router, isRouter, (router.mem_placeholders_iff _).mpr
    (.inr ⟨session, listed, .inr rfl⟩)⟩

end Members

/-- Placeholders of different kinds differ, so only sessions with one joined
name compete for the value of a placeholder. -/
theorem exists_filledBy_iff (network : Network) :
    (∃ values, network.FilledBy values) ↔ network.AddressesFollowNames := by
  simp only [filledBy_iff]
  rw [exists_function_iff]
  constructor
  · intro functional router isRouter other isOther session listed far isFar
      same
    have peerAddresses := functional
      _ (peerAddress_mem_placeholders isRouter listed)
      _ (peerAddress_mem_placeholders isOther isFar)
      ((Naming.peerAddress_eq_iff _ _ _ _).mpr same)
    have localAddresses := functional
      _ (localAddress_mem_placeholders isRouter listed)
      _ (localAddress_mem_placeholders isOther isFar)
      ((Naming.localAddress_eq_iff _ _ _ _).mpr same)
    exact ⟨Address.text_injective peerAddresses,
      Address.text_injective localAddresses⟩
  · intro follow first firstMember second secondMember same
    obtain ⟨router, isRouter, isFirst⟩ := List.mem_flatMap.mp firstMember
    obtain ⟨other, isOther, isSecond⟩ := List.mem_flatMap.mp secondMember
    rw [Router.mem_placeholders_iff] at isFirst isSecond
    rcases isFirst with rfl | ⟨session, listed, rfl | rfl⟩ <;>
      rcases isSecond with rfl | ⟨far, isFar, rfl | rfl⟩
    · exact (Naming.router_eq_iff _ _).mp same
    · exact absurd same (Naming.router_ne_peerAddress _ _ _)
    · exact absurd same (Naming.router_ne_localAddress _ _ _)
    · exact absurd same.symm (Naming.router_ne_peerAddress _ _ _)
    · have joined := (Naming.peerAddress_eq_iff _ _ _ _).mp same
      exact congrArg Address.text
        (follow _ isRouter _ isOther _ listed _ isFar joined).1
    · exact absurd same (Naming.peerAddress_ne_localAddress _ _ _ _)
    · exact absurd same.symm (Naming.router_ne_localAddress _ _ _)
    · exact absurd same.symm (Naming.peerAddress_ne_localAddress _ _ _ _)
    · have joined := (Naming.localAddress_eq_iff _ _ _ _).mp same
      exact congrArg Address.text
        (follow _ isRouter _ isOther _ listed _ isFar joined).2

/-- Joined names can be taken apart: either no router name or no name of a
peer has a dot. -/
def SeparatesNames (network : Network) : Prop :=
  (∀ router ∈ network.values, Lacks '.' router.name) ∨
    ∀ router ∈ network.values, ∀ session ∈ router.sessions,
      Lacks '.' session.peer

/-- Sessions of one router with one peer have the same addresses. -/
def AddressesFollowPeers (router : Router) : Prop :=
  ∀ session ∈ router.sessions, ∀ other ∈ router.sessions,
    session.peer = other.peer →
      session.peerAddress = other.peerAddress ∧
        session.localAddress = other.localAddress

theorem SeparatesNames.joinedName_eq_iff {network : Network}
    (separates : network.SeparatesNames)
    {router other : Router} {session far : Session}
    (isRouter : router ∈ network.values) (isOther : other ∈ network.values)
    (listed : session ∈ router.sessions) (isFar : far ∈ other.sessions) :
    Naming.joinedName router session = Naming.joinedName other far ↔
      router.name = other.name ∧ session.peer = far.peer := by
  apply BgpTestbed.joinedName_eq_iff
  rcases separates with inRouters | inPeers
  · exact .inl ⟨inRouters router isRouter, inRouters other isOther⟩
  · exact .inr ⟨inPeers router isRouter session listed,
      inPeers other isOther far isFar⟩

/-- Routers with names of their own share no placeholder of a session. -/
theorem addressesFollowNames {network : Network}
    (separates : network.SeparatesNames)
    (namesDiffer : (network.values.map Router.name).Nodup)
    (followPeers : ∀ router ∈ network.values, AddressesFollowPeers router) :
    network.AddressesFollowNames := by
  intro router isRouter other isOther session listed far isFar same
  obtain ⟨sameName, samePeer⟩ :=
    (separates.joinedName_eq_iff isRouter isOther listed isFar).mp same
  have sameRouter : router = other :=
    List.inj_on_of_nodup_map namesDiffer isRouter isOther sameName
  subst sameRouter
  exact followPeers router isRouter session listed far isFar samePeer

/-- Equal placeholders are of one kind and come from equal joined names.  All
templates of a network can be filled in at once exactly if the addresses of
sessions follow their joined names, as they do where dots do not confuse the
names, no two routers share a name, and parallel sessions have the same
addresses. -/
theorem templates_fill_iff (network : Network) :
    (∀ router ∈ network.values, ∀ other ∈ network.values,
      ∀ session ∈ router.sessions, ∀ far ∈ other.sessions,
        (Naming.placeholder.peerAddress router session =
            Naming.placeholder.peerAddress other far ↔
          Naming.joinedName router session = Naming.joinedName other far) ∧
        (Naming.placeholder.localAddress router session =
            Naming.placeholder.localAddress other far ↔
          Naming.joinedName router session = Naming.joinedName other far) ∧
        (network.SeparatesNames →
          (Naming.joinedName router session = Naming.joinedName other far ↔
            router.name = other.name ∧ session.peer = far.peer)) ∧
        Naming.placeholder.router router ≠
          Naming.placeholder.peerAddress other far ∧
        Naming.placeholder.router router ≠
          Naming.placeholder.localAddress other far ∧
        Naming.placeholder.peerAddress router session ≠
          Naming.placeholder.localAddress other far) ∧
    ((∃ values, network.FilledBy values) ↔ network.AddressesFollowNames) ∧
    (network.SeparatesNames → (network.values.map Router.name).Nodup →
      (∀ router ∈ network.values, AddressesFollowPeers router) →
        ∃ values, network.FilledBy values) := by
  refine ⟨?_, network.exists_filledBy_iff, ?_⟩
  · intro router isRouter other isOther session listed far isFar
    refine ⟨Naming.peerAddress_eq_iff _ _ _ _,
      Naming.localAddress_eq_iff _ _ _ _, ?_,
      Naming.router_ne_peerAddress _ _ _, Naming.router_ne_localAddress _ _ _,
      Naming.peerAddress_ne_localAddress _ _ _ _⟩
    intro separates
    exact separates.joinedName_eq_iff isRouter isOther listed isFar
  · intro separates namesDiffer followPeers
    exact network.exists_filledBy_iff.mpr
      (addressesFollowNames separates namesDiffer followPeers)

/-- A router name with a dot, and two parallel sessions that differ in their
filters only. -/
def dottedRouter : Network :=
  .ofList [
    ("a.b", { Router.fresh "a.b" 1 with
      sessions := [.unfiltered "c" ⟨10, 0, 0, 2⟩ ⟨10, 0, 0, 1⟩,
        { Session.unfiltered "c" ⟨10, 0, 0, 2⟩ ⟨10, 0, 0, 1⟩ with
          inFilter := some "in" }] }),
    ("a", { Router.fresh "a" 2 with
      sessions := [.unfiltered "b" ⟨10, 0, 1, 2⟩ ⟨10, 0, 1, 1⟩,
        .unfiltered "c" ⟨10, 0, 2, 2⟩ ⟨10, 0, 2, 1⟩] })]

theorem templates_fill_iff_dottedRouter :
    dottedRouter.SeparatesNames ∧
      (dottedRouter.values.map Router.name).Nodup ∧
      (∀ router ∈ dottedRouter.values, AddressesFollowPeers router) ∧
      ∃ values, dottedRouter.FilledBy values := by
  have separates : dottedRouter.SeparatesNames := by
    right
    decide +kernel
  have namesDiffer : (dottedRouter.values.map Router.name).Nodup := by
    decide +kernel
  have followPeers : ∀ router ∈ dottedRouter.values,
      AddressesFollowPeers router := by
    unfold AddressesFollowPeers
    decide +kernel
  obtain ⟨_, _, fills⟩ := templates_fill_iff dottedRouter
  exact ⟨separates, namesDiffer, followPeers,
    fills separates namesDiffer followPeers⟩

/-- Dots make one joined name, `a.b.c`, of the names of two sessions. -/
def confusedNames : Network :=
  .ofList [
    ("a.b", { Router.fresh "a.b" 1 with
      sessions := [.unfiltered "c" ⟨10, 0, 0, 2⟩ ⟨10, 0, 0, 1⟩] }),
    ("a", { Router.fresh "a" 2 with
      sessions := [.unfiltered "b.c" ⟨10, 0, 1, 2⟩ ⟨10, 0, 1, 1⟩] })]

/-- A router has two sessions with one peer, on two links. -/
def parallelSessions : Network :=
  .ofList [("A", { Router.fresh "A" 1 with
    sessions := [.unfiltered "B" ⟨10, 0, 0, 2⟩ ⟨10, 0, 0, 1⟩,
      .unfiltered "B" ⟨10, 0, 1, 2⟩ ⟨10, 0, 1, 1⟩] })]

/-- Sessions with equal placeholders have the same addresses. -/
def PlaceholdersTellAddresses (network : Network) : Prop :=
  ∀ router ∈ network.values, ∀ other ∈ network.values,
    ∀ session ∈ router.sessions, ∀ far ∈ other.sessions,
      (Naming.placeholder.peerAddress router session =
          Naming.placeholder.peerAddress other far →
        session.peerAddress = far.peerAddress) ∧
      (Naming.placeholder.localAddress router session =
          Naming.placeholder.localAddress other far →
        session.localAddress = far.localAddress)

/-- Neither names with dots nor parallel sessions leave placeholders that tell
addresses, and no values fill their templates in. -/
theorem placeholders_merge :
    ¬ confusedNames.PlaceholdersTellAddresses ∧
      ¬ parallelSessions.PlaceholdersTellAddresses ∧
      (¬ ∃ values, confusedNames.FilledBy values) ∧
      ¬ ∃ values, parallelSessions.FilledBy values := by
  unfold PlaceholdersTellAddresses
  rw [exists_filledBy_iff, exists_filledBy_iff]
  unfold AddressesFollowNames
  decide +kernel

end Network

end BgpTestbed
