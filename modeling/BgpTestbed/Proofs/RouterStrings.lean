import BgpTestbed.Proofs.AddressText
import BgpTestbed.Proofs.ConfigurationLines

/-!
# The strings of a router

A configuration puts its lines together from the strings of a router and from
plain text: visible characters and spaces, but no braces.  What plain text has
and what putting texts together keeps is therefore true of every line if it is
true of every string; that a control character is absent is an example.
-/

namespace BgpTestbed

def Prefix.strings : Prefix → List String
  | .concrete _ => []
  | .symbolic text => [text]

def PrefixList.strings (list : PrefixList) : List String :=
  [list.name, list.pattern]

def CommunityList.strings (list : CommunityList) : List String :=
  list.name :: list.communities

def AsPathList.strings (list : AsPathList) : List String :=
  [list.name, list.regex]

def PolicyList.strings (list : PolicyList) : List String :=
  list.name :: (list.communities ++ list.prefixLists ++ list.asPathLists)

def RouteMap.strings (routeMap : RouteMap) : List String :=
  routeMap.name :: routeMap.policy ::
    (routeMap.deleteCommunity.toList ++ routeMap.setCommunities)

def Session.strings (session : Session) : List String :=
  session.peer :: (session.inFilter.toList ++ session.outFilter.toList)

/-- All strings that a router holds. -/
def Router.strings (router : Router) : List String :=
  router.name ::
    (router.networks.flatMap Prefix.strings ++
      router.prefixLists.flatMap PrefixList.strings ++
      router.communityLists.flatMap CommunityList.strings ++
      router.asPathLists.flatMap AsPathList.strings ++
      router.routeMaps.flatMap RouteMap.strings ++
      router.policyLists.flatMap PolicyList.strings ++
      router.sessions.flatMap Session.strings)

namespace Text

/-- The character does not occur in the text. -/
def Lacks (character : Char) (text : String) : Prop :=
  character ∉ text.toList

instance (character : Char) (text : String) :
    Decidable (Lacks character text) :=
  inferInstanceAs (Decidable (character ∉ text.toList))

variable {character : Char} {texts : List String}

theorem lacks_append {first second : String} :
    Lacks character (first ++ second) ↔
      Lacks character first ∧ Lacks character second := by
  simp [Lacks]

/-- The character does not occur in any of the texts. -/
def LacksIn (character : Char) (texts : List String) : Prop :=
  ∀ text ∈ texts, Lacks character text

instance (character : Char) (texts : List String) :
    Decidable (LacksIn character texts) :=
  inferInstanceAs (Decidable (∀ text ∈ texts, Lacks character text))

theorem lacksIn_cons {text : String} :
    LacksIn character (text :: texts) ↔
      Lacks character text ∧ LacksIn character texts :=
  List.forall_mem_cons

theorem lacks_number_of_not_isDigit (notDigit : character.isDigit = false)
    (number : Nat) : Lacks character (toString number) := by
  intro member
  have isDigit := isDigit_of_mem_toDigits character (by simpa using member)
  exact absurd isDigit (by simp [notDigit])

/-- An address is written with digits and dots. -/
theorem isDigit_or_dot_of_mem_address {address : Address} {character : Char}
    (member : character ∈ address.text.toList) :
    character.isDigit = true ∨ character = '.' := by
  rw [Address.toList_text] at member
  simp only [List.mem_append, List.mem_cons] at member
  have digits (octet : UInt8) : character ∈ Nat.toDigits 10 octet.toNat →
      character.isDigit = true := isDigit_of_mem_toDigits character
  rcases member with inFirst | isDot | inSecond | isDot | inThird | isDot |
    inFourth
  · exact .inl (digits _ inFirst)
  · exact .inr isDot
  · exact .inl (digits _ inSecond)
  · exact .inr isDot
  · exact .inl (digits _ inThird)
  · exact .inr isDot
  · exact .inl (digits _ inFourth)

theorem lacks_address_of_not_isDigit (notDigit : character.isDigit = false)
    (notDot : Lacks character ".") (address : Address) :
    Lacks character address.text := by
  intro member
  rcases isDigit_or_dot_of_mem_address member with isDigit | rfl
  · exact absurd isDigit (by simp [notDigit])
  · exact notDot List.mem_cons_self

/-- A visible character or a space, and not a brace. -/
def IsPlainChar (character : Char) : Prop :=
  32 ≤ character.toNat ∧ character ≠ '\x7b' ∧ character ≠ '\x7d'

/-- Text without control characters and braces. -/
def IsPlain (text : String) : Prop :=
  ∀ character ∈ text.toList, IsPlainChar character

instance (character : Char) : Decidable (IsPlainChar character) :=
  inferInstanceAs (Decidable (_ ∧ _ ∧ _))

instance (text : String) : Decidable (IsPlain text) :=
  List.decidableBAll IsPlainChar text.toList

private theorem isPlainChar_of_isDigit {character : Char}
    (isDigit : character.isDigit = true) : IsPlainChar character := by
  have visible : 48 ≤ character.toNat := (Char.isDigit_iff_toNat.mp isDigit).1
  refine ⟨by omega, ?_, ?_⟩
  · rintro rfl
    cases isDigit
  · rintro rfl
    cases isDigit

theorem isPlain_number (number : Nat) : IsPlain (toString number) :=
  fun digit member => isPlainChar_of_isDigit
    (isDigit_of_mem_toDigits digit (by simpa using member))

theorem isPlain_append {first second : String} (isFirst : IsPlain first)
    (isSecond : IsPlain second) : IsPlain (first ++ second) := by
  intro character member
  rw [String.toList_append, List.mem_append] at member
  exact member.elim (isFirst character) (isSecond character)

theorem isPlain_address (address : Address) : IsPlain address.text := by
  intro character member
  rcases isDigit_or_dot_of_mem_address member with isDigit | rfl
  · exact isPlainChar_of_isDigit isDigit
  · decide

/-- A property of plain text that two texts hand on to the one they make. -/
structure Compositional (holds : String → Prop) : Prop where
  plain : ∀ {text}, IsPlain text → holds text
  append : ∀ {first second}, holds first → holds second →
    holds (first ++ second)

/-- Control characters come before the space. -/
theorem compositional_lacks (isControl : character.toNat < 32) :
    Compositional (Lacks character) where
  plain isPlain member := by
    have visible := (isPlain character member).1
    omega
  append first second := lacks_append.mpr ⟨first, second⟩

namespace Compositional

variable {holds : String → Prop} (kept : Compositional holds)
include kept

theorem number (number : Nat) : holds (toString number) :=
  kept.plain (isPlain_number number)

theorem address (address : Address) : holds address.text :=
  kept.plain (isPlain_address address)

theorem subnet (subnet : Subnet) : holds subnet.text :=
  kept.append (kept.append (kept.address _) (kept.plain (by decide)))
    (kept.number _)

theorem intercalate {separator : String} {texts : List String}
    (separated : holds separator) (hold : ∀ text ∈ texts, holds text) :
    holds (separator.intercalate texts) := by
  induction texts with
  | nil =>
      rw [String.intercalate_nil]
      exact kept.plain (by decide)
  | cons text later ih =>
      obtain ⟨holdsHere, holdLater⟩ := List.forall_mem_cons.mp hold
      cases later with
      | nil => simpa using holdsHere
      | cons second others =>
          rw [String.intercalate_cons_cons]
          exact kept.append (kept.append holdsHere separated) (ih holdLater)

end Compositional

end Text

open Daemon Text

section Lines

variable {holds : String → Prop}

private theorem forall_toList_filter {text? : Option String}
    {kept : String → Bool} (hold : ∀ text ∈ text?.toList, holds text) :
    ∀ text ∈ (text?.filter kept).toList, holds text := by
  intro text member
  rw [Option.mem_toList, Option.filter_eq_some_iff] at member
  exact hold text (Option.mem_toList.mpr member.1)

variable (kept : Text.Compositional holds)
include kept

private theorem Daemon.Interface.forall_lines {interface : Interface}
    (name : holds interface.name)
    (addresses : ∀ address ∈ interface.addresses, holds address) :
    ∀ line ∈ interface.lines, holds line := by
  simp only [Interface.lines, List.forall_mem_cons, List.forall_mem_map]
  exact ⟨kept.append (kept.plain (by decide)) name, fun address member =>
    kept.append (kept.plain (by decide)) (addresses address member)⟩

private theorem Daemon.Neighbor.forall_lines {neighbor : Neighbor}
    (address : holds neighbor.address)
    (hold : ∀ text ∈ neighbor.remoteAs.toList ++
      neighbor.routeMapIn.toList ++ neighbor.routeMapOut.toList, holds text) :
    (∀ line ∈ neighbor.sessionLines, holds line) ∧
      ∀ line ∈ neighbor.routeMapLines, holds line := by
  have holdsLine : ∀ setting, holds setting → holds (neighbor.line setting) :=
    fun setting holdsSetting => kept.append (kept.append (kept.append
      (kept.plain (by decide)) address) (kept.plain (by decide))) holdsSetting
  rw [List.forall_mem_append, List.forall_mem_append] at hold
  obtain ⟨⟨remoteAs, mapsIn⟩, mapsOut⟩ := hold
  constructor
  · simp only [Neighbor.sessionLines, List.forall_mem_append,
      List.forall_mem_map]
    refine ⟨fun name member => holdsLine _ ?_, ?_⟩
    · exact kept.append (kept.plain (by decide)) (remoteAs name member)
    · split
      · exact List.forall_mem_singleton.mpr
          (holdsLine _ (kept.plain (by decide)))
      · exact List.forall_mem_nil _
  · simp only [Neighbor.routeMapLines, List.forall_mem_append,
      List.forall_mem_map]
    refine ⟨fun name member => holdsLine _ ?_,
      fun name member => holdsLine _ ?_⟩
    · exact kept.append (kept.append (kept.plain (by decide))
        (mapsIn name member)) (kept.plain (by decide))
    · exact kept.append (kept.append (kept.plain (by decide))
        (mapsOut name member)) (kept.plain (by decide))

private theorem Daemon.BgpProcess.forall_lines {process : BgpProcess}
    (name : holds process.name)
    (networks : ∀ network ∈ process.networks, holds network)
    (neighbors : ∀ neighbor ∈ process.neighbors,
      (∀ line ∈ neighbor.sessionLines, holds line) ∧
        ∀ line ∈ neighbor.routeMapLines, holds line) :
    ∀ line ∈ process.lines, holds line := by
  simp only [BgpProcess.lines, List.forall_mem_append, List.forall_mem_cons,
    List.forall_mem_map, List.forall_mem_flatMap]
  refine ⟨⟨⟨⟨⟨kept.append (kept.plain (by decide)) name,
    kept.plain (by decide), List.forall_mem_nil _⟩, ?_⟩, ?_⟩,
    fun neighbor member => (neighbors neighbor member).1⟩,
    fun neighbor member => (neighbors neighbor member).2⟩
  · exact fun address _ =>
      kept.append (kept.plain (by decide)) (kept.address address)
  · exact fun network member =>
      kept.append (kept.plain (by decide)) (networks network member)

private theorem Daemon.RouteMapEntry.forall_lines {entry : RouteMapEntry}
    (name : holds entry.name)
    (hold : ∀ text ∈ entry.communityLists ++ entry.prefixLists ++
      entry.asPathLists ++ entry.deletedCommunityList.toList ++
      entry.addedCommunities, holds text) :
    ∀ line ∈ entry.lines, holds line := by
  have clause : ∀ {keyword text : String}, IsPlain keyword → holds text →
      holds (keyword ++ text) :=
    fun isPlain holdsText => kept.append (kept.plain isPlain) holdsText
  simp only [List.forall_mem_append] at hold
  obtain ⟨⟨⟨⟨communities, prefixes⟩, paths⟩, deleted⟩, added⟩ := hold
  simp only [RouteMapEntry.lines, RouteMapEntry.matchLines,
    RouteMapEntry.setLines, List.forall_mem_append, List.forall_mem_cons,
    List.forall_mem_map]
  refine ⟨?_, ⟨⟨?_, ?_⟩, ?_⟩, ⟨?_, ?_⟩, ?_⟩
  · exact kept.append (kept.append (clause (by decide) name)
      (kept.plain (by decide))) (kept.number _)
  · exact fun name member => clause (by decide) (communities name member)
  · exact fun name member => clause (by decide) (prefixes name member)
  · exact fun name member => clause (by decide) (paths name member)
  · exact fun value _ => clause (by decide) (kept.number _)
  · exact fun name member => kept.append
      (clause (by decide) (deleted name member)) (kept.plain (by decide))
  · exact fun name member => kept.append
      (clause (by decide) (added name member)) (kept.plain (by decide))

/-- The lines of named lists have one form. -/
private theorem holds_listLine {keyword name value : String} (action : Action)
    (isPlain : IsPlain keyword) (holdsName : holds name)
    (holdsValue : holds value) :
    ∀ line ∈ [keyword ++ name ++ " " ++ action.text ++ " " ++ value],
      holds line := by
  have holdsAction : holds action.text := by
    cases action <;> exact kept.plain (by decide)
  have holdsSpace : holds " " := kept.plain (by decide)
  rw [List.forall_mem_singleton]
  exact kept.append (kept.append (kept.append (kept.append (kept.append
    (kept.plain isPlain) holdsName) holdsSpace) holdsAction) holdsSpace)
    holdsValue

private theorem forall_closedLines {lines : List String}
    (hold : ∀ line ∈ lines, holds line) :
    ∀ line ∈ closedLines lines, holds line := by
  rw [closedLines]
  split
  · exact List.forall_mem_nil _
  · rw [List.forall_mem_append, List.forall_mem_singleton]
    exact ⟨hold, kept.plain (by decide)⟩

variable {naming : Naming} {router : Router}

private theorem holds_naming_router (name : holds router.name) :
    holds (naming.router router) := by
  cases naming with
  | concrete => exact name
  | placeholder => exact kept.append name (kept.plain (by decide))

theorem holds_naming_session (name : holds router.name) {session : Session}
    (peer : holds session.peer) :
    holds (naming.peerAddress router session) ∧
      holds (naming.interfaceAddress router session) := by
  have ofLocal : ∀ text, holds text →
      holds (text ++ "/" ++ toString peeringLength) :=
    fun text holdsText => kept.append
      (kept.append holdsText (kept.plain (by decide))) (kept.number _)
  cases naming with
  | concrete => exact ⟨kept.address _, ofLocal _ (kept.address _)⟩
  | placeholder =>
      have names : holds (router.name ++ "." ++ session.peer) :=
        kept.append (kept.append name (kept.plain (by decide))) peer
      exact ⟨kept.append names (kept.plain (by decide)),
        ofLocal _ (kept.append names (kept.plain (by decide)))⟩

private theorem Prefix.holds_text {declared : Prefix}
    (hold : ∀ text ∈ declared.strings, holds text) : holds declared.text := by
  cases declared with
  | symbolic text => exact hold text List.mem_cons_self
  | concrete subnet => exact kept.subnet subnet

/-- No policy list adds to the strings of its router. -/
private theorem forall_entryOf
    (lists : ∀ list ∈ router.policyLists, ∀ text ∈ list.strings, holds text)
    {routeMap : RouteMap} (hold : ∀ text ∈ routeMap.strings, holds text) :
    ∀ line ∈ (entryOf router routeMap).lines, holds line := by
  simp only [RouteMap.strings, List.forall_mem_cons, List.forall_mem_append]
    at hold
  obtain ⟨name, _, deleted, added⟩ := hold
  refine Daemon.RouteMapEntry.forall_lines kept name ?_
  simp only [List.forall_mem_append]
  refine ⟨⟨?_, deleted⟩, added⟩
  simp only [entryOf]
  cases found : router.policyList? routeMap.policy with
  | none =>
      exact ⟨⟨List.forall_mem_nil _, List.forall_mem_nil _⟩,
        List.forall_mem_nil _⟩
  | some list =>
      have ofList := lists list (List.mem_of_find?_eq_some found)
      simp only [PolicyList.strings, List.forall_mem_cons,
        List.forall_mem_append] at ofList
      exact ofList.2

private theorem forall_interfacesOf (name : holds router.name)
    (hold : ∀ session ∈ router.sessions, ∀ text ∈ session.strings,
      holds text) :
    ∀ interface ∈ interfacesOf naming router,
      ∀ line ∈ interface.lines, holds line := by
  intro interface member
  obtain ⟨⟨session, index⟩, inSessions, rfl⟩ := List.mem_map.mp member
  have listed : session ∈ router.sessions :=
    List.mem_of_getElem? (List.mk_mem_zipIdx_iff_getElem?.mp inSessions)
  have peer := hold session listed _ List.mem_cons_self
  refine Daemon.Interface.forall_lines kept ?_ ?_
  · exact kept.append (kept.plain (by decide)) (kept.number index)
  · exact List.forall_mem_singleton.mpr (holds_naming_session kept name peer).2

private theorem forall_processOf (internal : List String)
    (name : holds router.name)
    (networks : ∀ declared ∈ router.networks, ∀ text ∈ declared.strings,
      holds text)
    (hold : ∀ session ∈ router.sessions, ∀ text ∈ session.strings,
      holds text) :
    ∀ line ∈ (processOf naming internal router).lines, holds line := by
  refine Daemon.BgpProcess.forall_lines kept
    (holds_naming_router kept name) ?_ ?_
  · exact List.forall_mem_map.mpr fun declared member =>
      Prefix.holds_text kept (networks declared member)
  · intro neighbor member
    obtain ⟨session, listed, rfl⟩ := List.mem_map.mp member
    have ofSession := hold session listed
    simp only [Session.strings, List.forall_mem_cons, List.forall_mem_append]
      at ofSession
    obtain ⟨peer, filterIn, filterOut⟩ := ofSession
    refine Daemon.Neighbor.forall_lines kept
      (holds_naming_session kept name peer).1 ?_
    rw [List.forall_mem_append, List.forall_mem_append]
    exact ⟨⟨List.forall_mem_singleton.mpr peer,
      forall_toList_filter filterIn⟩,
      forall_toList_filter filterOut⟩

variable (internal : List String)

/-- Every line of a configuration has what every string of the router has. -/
theorem Router.forall_configuration_lines
    (hold : ∀ text ∈ router.strings, holds text) :
    ∀ line ∈ (Configuration.ofRouter naming internal router).lines,
      holds line := by
  simp only [Router.strings, List.forall_mem_cons, List.forall_mem_append,
    List.forall_mem_flatMap] at hold
  obtain ⟨name, ⟨⟨⟨⟨⟨networks, prefixLists⟩, communityLists⟩, asPathLists⟩,
    routeMaps⟩, policyLists⟩, sessions⟩ := hold
  rw [Configuration.lines, List.forall_mem_flatMap]
  intro blocks isSection
  refine forall_closedLines kept ?_
  simp only [Configuration.sectionLines, Configuration.ofRouter,
    List.mem_cons, List.not_mem_nil, or_false] at isSection
  rcases isSection with rfl | rfl | rfl | rfl | rfl | rfl
  · rw [← List.flatMap_def, List.forall_mem_flatMap]
    exact forall_interfacesOf kept name sessions
  · rw [List.flatten_singleton]
    exact forall_processOf kept internal name networks sessions
  · rw [← List.flatMap_def, List.forall_mem_flatMap]
    intro list member
    have ofList := prefixLists list member
    simp only [PrefixList.strings, List.forall_mem_cons] at ofList
    exact holds_listLine kept list.action (by decide) ofList.1 ofList.2.1
  · rw [← List.flatMap_def, List.forall_mem_flatMap]
    intro list member
    have ofList := communityLists list member
    simp only [CommunityList.strings, List.forall_mem_cons] at ofList
    exact holds_listLine kept list.action (by decide) ofList.1
      (kept.intercalate (kept.plain (by decide)) ofList.2)
  · rw [← List.flatMap_def, List.forall_mem_flatMap]
    intro list member
    have ofList := asPathLists list member
    simp only [AsPathList.strings, List.forall_mem_cons] at ofList
    exact holds_listLine kept list.action (by decide) ofList.1 ofList.2.1
  · rw [← List.flatMap_def, List.flatMap_map, List.forall_mem_flatMap]
    intro routeMap member
    exact forall_entryOf kept policyLists (routeMaps routeMap member)

end Lines

/-- A control character that no string of the router has is in no line of its
configuration. -/
theorem Router.lacksIn_configuration {character : Char} {naming : Naming}
    {router : Router} (isControl : character.toNat < 32)
    (internal : List String) (lacks : LacksIn character router.strings) :
    LacksIn character
      (Configuration.ofRouter naming internal router).lines :=
  Router.forall_configuration_lines (compositional_lacks isControl) internal
    lacks

end BgpTestbed
