import Mathlib.Data.List.Forall2
import BgpTestbed.Proofs.ConfigurationSections
import BgpTestbed.Proofs.LineReading

/-!
# The policy lists that count

A route map refers to a policy list by its name, and the first list of this
name counts.  Its clauses become the match lines of the entry one by one.  An
entry whose policy list is unknown has no match lines and a warning in the
log.  Nothing else of a configuration or of the log depends on policy lists.
-/

namespace BgpTestbed

open Daemon Text

namespace Router

/-- The policy list is the first one of the name. -/
def HasFirstPolicy (router : Router) (name : String) (policy : PolicyList) :
    Prop :=
  ∃ before after, router.policyLists = before ++ policy :: after ∧
    policy.name = name ∧ ∀ earlier ∈ before, earlier.name ≠ name

/-- No policy list has the name. -/
def LacksPolicy (router : Router) (name : String) : Prop :=
  ∀ policy ∈ router.policyLists, policy.name ≠ name

instance (router : Router) (name : String) :
    Decidable (router.LacksPolicy name) :=
  inferInstanceAs (Decidable (∀ policy ∈ router.policyLists, _))

theorem policyList?_eq_some_iff {router : Router} {name : String}
    {policy : PolicyList} :
    router.policyList? name = some policy ↔
      router.HasFirstPolicy name policy := by
  rw [policyList?, List.find?_eq_some_iff_append, HasFirstPolicy]
  constructor
  · rintro ⟨isNamed, before, after, parts, notBefore⟩
    exact ⟨before, after, parts, by simpa using isNamed,
      by simpa using notBefore⟩
  · rintro ⟨before, after, parts, isNamed, notBefore⟩
    exact ⟨by simpa using isNamed, before, after, parts,
      by simpa using notBefore⟩

theorem policyList?_eq_none_iff {router : Router} {name : String} :
    router.policyList? name = none ↔ router.LacksPolicy name := by
  simp [policyList?, LacksPolicy]

end Router

/-- The policy lists have the same clauses, whatever their names. -/
structure PolicyList.SameClauses (first second : PolicyList) : Prop where
  communities : first.communities = second.communities
  prefixLists : first.prefixLists = second.prefixLists
  asPathLists : first.asPathLists = second.asPathLists

/-- The routers differ in nothing but their policy lists.  For every name that
a route map refers to, neither has a list, or their first lists of this name
have the same clauses. -/
structure Router.SamePolicies (first second : Router) : Prop where
  besides : second = { first with policyLists := second.policyLists }
  referenced : ∀ routeMap ∈ first.routeMaps,
    (first.LacksPolicy routeMap.policy ∧ second.LacksPolicy routeMap.policy) ∨
    ∃ policy other, first.HasFirstPolicy routeMap.policy policy ∧
      second.HasFirstPolicy routeMap.policy other ∧ policy.SameClauses other

/-- One line for each clause, the clauses of one kind in their order. -/
def PolicyList.matchLines (policy : PolicyList) : List String :=
  (policy.communities.map fun name => " match community " ++ name) ++
    (policy.prefixLists.map fun name =>
      " match ip address prefix-list " ++ name) ++
    policy.asPathLists.map fun name => " match as-path " ++ name

namespace RouteMap

def heading (routeMap : RouteMap) : String :=
  "route-map " ++ routeMap.name ++ " permit " ++
    toString routeMap.priority.toNat

def setLines (routeMap : RouteMap) : List String :=
  (routeMap.localPreference.toList.map fun value =>
      " set local-preference " ++ toString value.toNat) ++
    (routeMap.deleteCommunity.toList.map fun name =>
      " set comm-list " ++ name ++ " delete") ++
    routeMap.setCommunities.map fun community =>
      " set community " ++ community ++ " additive"

/-- The block has the given lines between its heading and its set lines, and
no other line starts like a match line. -/
structure HasMatches (routeMap : RouteMap) (matchLines block : List String) :
    Prop where
  lines : block = routeMap.heading :: (matchLines ++ routeMap.setLines)
  noOther : block.filter (Opens " match " ·) = matchLines

end RouteMap

namespace Router

/-- The block of a route map, whose match lines come from the first policy
list of the name. -/
inductive IsEntry (router : Router) (routeMap : RouteMap)
    (block : List String) : Prop where
  | known {policy : PolicyList}
      (isFirst : router.HasFirstPolicy routeMap.policy policy)
      (shows : routeMap.HasMatches policy.matchLines block)
  | unknown (lacks : router.LacksPolicy routeMap.policy)
      (shows : routeMap.HasMatches [] block)

/-- The router without what policies add to its configuration. -/
def withoutRouteMaps (router : Router) : Router :=
  { router with routeMaps := [], policyLists := [] }

/-- The configuration ends with the blocks of the route maps, and the log has
a warning for each route map whose policy list is unknown. -/
structure ShowsPolicies (naming : Naming) (internal : List String)
    (router : Router) (blocks : List (List String)) : Prop where
  entries : List.Forall₂ router.IsEntry router.routeMaps blocks
  text : router.configuration naming internal =
    router.withoutRouteMaps.configuration naming internal ++
      ofLines (closedLines blocks.flatten)
  lines : LacksIn '\n' router.strings → ∃ front,
    splitAtNewlines (router.withoutRouteMaps.configuration naming internal) =
      front ++ [""] ∧
    splitAtNewlines (router.configuration naming internal) =
      front ++ closedLines blocks.flatten ++ [""]
  log : ((events router).map fun event => (event.level, event.message)) =
    (.trace, "generate the configuration of " ++ router.name) ::
      (router.routeMaps.filter (router.LacksPolicy ·.policy)).map
        fun routeMap => (.warning,
          "route-map " ++ routeMap.name ++ " of " ++ router.name ++
            " references an unknown policy list " ++ routeMap.policy)

end Router

theorem RouteMap.hasMatches_of_opens {routeMap : RouteMap}
    {matchLines : List String}
    (opens : ∀ line ∈ matchLines, Opens " match " line) :
    routeMap.HasMatches matchLines
      (routeMap.heading :: (matchLines ++ routeMap.setLines)) where
  lines := rfl
  noOther := by
    have notHeading : ¬ Opens " match " routeMap.heading := by
      rw [heading, String.append_assoc, String.append_assoc]
      exact not_opens_append (by decide) _
    have notSetLine : ∀ line ∈ routeMap.setLines,
        ¬ Opens " match " line := by
      simp only [setLines, List.forall_mem_append, List.forall_mem_map,
        String.append_assoc]
      refine ⟨⟨?_, ?_⟩, ?_⟩
      all_goals exact fun _ _ => not_opens_append (by decide) _
    rw [List.filter_cons_of_neg (by simpa using notHeading),
      List.filter_append,
      List.filter_eq_self.mpr (by simpa using opens),
      List.filter_eq_nil_iff.mpr (by simpa using notSetLine),
      List.append_nil]

theorem PolicyList.opens_of_mem_matchLines (policy : PolicyList) :
    ∀ line ∈ policy.matchLines, Opens " match " line := by
  simp only [matchLines, List.forall_mem_append, List.forall_mem_map]
  refine ⟨⟨?_, ?_⟩, ?_⟩
  all_goals exact fun _ _ => opens_append (by decide) _

namespace Router

variable (naming : Naming) (internal : List String)

theorem lines_entryOf (router : Router) (routeMap : RouteMap) :
    (entryOf router routeMap).lines =
      routeMap.heading ::
        ((router.policyList? routeMap.policy).elim [] PolicyList.matchLines ++
          routeMap.setLines) := by
  rw [entryOf]
  cases router.policyList? routeMap.policy with
  | none => rfl
  | some policy => rfl

theorem isEntry_lines (router : Router) (routeMap : RouteMap) :
    router.IsEntry routeMap (entryOf router routeMap).lines := by
  rw [lines_entryOf]
  cases found : router.policyList? routeMap.policy with
  | none =>
      exact .unknown (policyList?_eq_none_iff.mp found)
        (RouteMap.hasMatches_of_opens (List.forall_mem_nil _))
  | some policy =>
      exact .known (policyList?_eq_some_iff.mp found)
        (RouteMap.hasMatches_of_opens policy.opens_of_mem_matchLines)

/-- Route maps add a section behind all others. -/
theorem lines_ofRouter_eq_append (router : Router) :
    (Configuration.ofRouter naming internal router).lines =
      (Configuration.ofRouter naming internal router.withoutRouteMaps).lines ++
        closedLines
          (router.routeMaps.map fun routeMap =>
            (entryOf router routeMap).lines).flatten := by
  have noBlocks : closedLines ([] : List (List String)).flatten = [] := rfl
  simp only [Configuration.lines, Configuration.sectionLines,
    Configuration.ofRouter, withoutRouteMaps, List.flatMap_cons,
    List.flatMap_nil, List.map_map, List.map_nil, noBlocks, List.append_nil,
    List.append_assoc]
  rfl

/-- The warnings come in the order of the route maps. -/
theorem events_eq (router : Router) :
    events router =
      .configuring router.name ::
        (router.routeMaps.filter (router.LacksPolicy ·.policy)).map
          fun routeMap => .unknownPolicyList routeMap.name router.name
            routeMap.policy := by
  rw [events, ← List.filterMap_eq_map, List.filterMap_filter]
  congr 2
  funext routeMap
  cases found : router.policyList? routeMap.policy with
  | none =>
      have lacks := policyList?_eq_none_iff.mp found
      simp [lacks]
  | some policy =>
      have notLacks : ¬ router.LacksPolicy routeMap.policy := by
        simp [← policyList?_eq_none_iff, found]
      simp [notLacks]

theorem showsPolicies (router : Router) :
    router.ShowsPolicies naming internal
      (router.routeMaps.map fun routeMap =>
        (entryOf router routeMap).lines) where
  entries := List.forall₂_map_right_iff.mpr
    (List.forall₂_same.mpr fun routeMap _ => router.isEntry_lines routeMap)
  text := by
    rw [configuration_eq_ofLines, configuration_eq_ofLines,
      lines_ofRouter_eq_append, ofLines_append]
  lines noNewline := by
    have lacks : LacksIn '\n'
        (Configuration.ofRouter naming internal router).lines :=
      router.lacksIn_configuration (by decide) internal noNewline
    have lacksInFront : LacksIn '\n' (Configuration.ofRouter naming internal
        router.withoutRouteMaps).lines := by
      rw [lines_ofRouter_eq_append] at lacks
      exact (List.forall_mem_append.mp lacks).1
    refine ⟨(Configuration.ofRouter naming internal
      router.withoutRouteMaps).lines, ?_, ?_⟩
    · rw [configuration_eq_ofLines, splitAtNewlines_ofLines lacksInFront]
    · rw [configuration_eq_ofLines, splitAtNewlines_ofLines lacks,
        lines_ofRouter_eq_append]
  log := by
    rw [events_eq, List.map_cons, List.map_map]
    rfl

section Same

variable {first second : Router}

/-- An entry shows the clauses of its policy list and nothing else of it. -/
private theorem entryOf_eq_of_sameClauses {routeMap : RouteMap}
    {policy other : PolicyList}
    (found : first.policyList? routeMap.policy = some policy)
    (otherFound : second.policyList? routeMap.policy = some other)
    (same : policy.SameClauses other) :
    entryOf first routeMap = entryOf second routeMap := by
  simp only [entryOf, found, otherFound, Option.map_some, Option.getD_some,
    same.communities, same.prefixLists, same.asPathLists]

private theorem SamePolicies.entry (same : first.SamePolicies second)
    {routeMap : RouteMap} (member : routeMap ∈ first.routeMaps) :
    entryOf first routeMap = entryOf second routeMap ∧
      (first.policyList? routeMap.policy).isSome =
        (second.policyList? routeMap.policy).isSome := by
  rcases same.referenced routeMap member with
    ⟨lacks, otherLacks⟩ | ⟨policy, other, isFirst, otherIsFirst, sameClauses⟩
  · have unknown := policyList?_eq_none_iff.mpr lacks
    have otherUnknown := policyList?_eq_none_iff.mpr otherLacks
    constructor
    · simp only [entryOf, unknown, otherUnknown]
    · rw [unknown, otherUnknown]
  · have found := policyList?_eq_some_iff.mpr isFirst
    have otherFound := policyList?_eq_some_iff.mpr otherIsFirst
    constructor
    · exact entryOf_eq_of_sameClauses found otherFound sameClauses
    · rw [found, otherFound, Option.isSome_some, Option.isSome_some]

theorem SamePolicies.ofRouter_eq (same : first.SamePolicies second) :
    Configuration.ofRouter naming internal first =
      Configuration.ofRouter naming internal second := by
  have entries : first.routeMaps.map (entryOf first) =
      first.routeMaps.map (entryOf second) :=
    List.map_congr_left fun _ member => (same.entry member).1
  have besides := same.besides
  generalize second.policyLists = lists at besides
  subst besides
  rw [Configuration.ofRouter, entries]
  rfl

theorem SamePolicies.events_eq (same : first.SamePolicies second) :
    events first = events second := by
  have sameMaps : second.routeMaps = first.routeMaps := by rw [same.besides]
  have sameName : second.name = first.name := by rw [same.besides]
  rw [events, events, sameMaps, sameName]
  congr 1
  apply List.filterMap_congr
  intro routeMap member
  rw [(same.entry member).2]

end Same

/-- Routers with the same policies have one configuration and one log.  In the
configuration of every router, each route map has a match line for each clause
of the first policy list of its name, and in the log a warning instead if
there is none. -/
theorem onlyFirstPolicies_matter :
    (∀ first second : Router, first.SamePolicies second →
      first.configuration naming internal =
          second.configuration naming internal ∧
        events first = events second) ∧
    ∀ router : Router, ∃ blocks,
      router.ShowsPolicies naming internal blocks := by
  constructor
  · intro first second same
    refine ⟨?_, same.events_eq⟩
    rw [configuration, configuration, same.ofRouter_eq]
  · intro router
    exact ⟨_, router.showsPolicies naming internal⟩

/-- A router with three route maps, of which the second one refers to an
unknown policy list. -/
def routerWithPolicies (policyLists : List PolicyList) : Router :=
  let refer (name : String) (priority : UInt32) (policy : String) : RouteMap :=
    { name, priority, policy, localPreference := some 200
      deleteCommunity := none, setCommunities := ["100:1"] }
  { Router.fresh "A" 1 with
    routeMaps := [refer "import" 10 "strict", refer "import" 20 "unknown",
      refer "export" 10 "open"]
    policyLists }

def strictPolicy : PolicyList where
  name := "strict"
  communities := ["second", "first"]
  prefixLists := ["short"]
  asPathLists := ["direct"]

def openPolicy : PolicyList where
  name := "open"
  communities := []
  prefixLists := ["any"]
  asPathLists := []

/-- Other lists may stand between the first ones of the names or behind them,
also under the same names. -/
theorem onlyFirstPolicies_matter_shadowed :
    let first := routerWithPolicies [strictPolicy, openPolicy]
    let second := routerWithPolicies [openPolicy,
      { strictPolicy with name := "unused" }, strictPolicy,
      { strictPolicy with name := "open" }, { openPolicy with name := "strict" }]
    first.SamePolicies second ∧
    (first.configuration .concrete ["B"] =
        second.configuration .concrete ["B"] ∧
      events first = events second) ∧
    ∃ blocks, first.ShowsPolicies .concrete ["B"] blocks := by
  intro first second
  obtain ⟨configurations, shows⟩ := onlyFirstPolicies_matter .concrete ["B"]
  have same : first.SamePolicies second := by
    refine ⟨rfl, ?_⟩
    intro routeMap member
    simp only [first, routerWithPolicies, List.mem_cons, List.not_mem_nil,
      or_false] at member
    rcases member with rfl | rfl | rfl
    · exact .inr ⟨_, _, policyList?_eq_some_iff.mp rfl,
        policyList?_eq_some_iff.mp rfl, rfl, rfl, rfl⟩
    · exact .inl (by decide)
    · exact .inr ⟨_, _, policyList?_eq_some_iff.mp rfl,
        policyList?_eq_some_iff.mp rfl, rfl, rfl, rfl⟩
  exact ⟨same, configurations first second same, shows first⟩

end Router

end BgpTestbed
