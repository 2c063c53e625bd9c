import RustMist.Proof.Sites.Discovery

/-! What a refresh makes of the passes over the organizations. -/

namespace RustMist

open Effects Effects.Program

section Merge

variable {discovered : SiteDiscovery} {previous : SiteMap} {siteId orgId : String}

/-- The discovered entries of the organizations whose pass is complete. -/
def keptEntries (discovered : SiteDiscovery) : List (String × String) :=
  discovered.sites.entries.filter fun entry => entry.2 ∉ discovered.incompleteOrgs

/-- The previous entries of the organizations whose pass is not complete. -/
def carriedEntries (discovered : SiteDiscovery) (previous : SiteMap) : List (String × String) :=
  previous.entries.filter fun entry => entry.2 ∈ discovered.incompleteOrgs

theorem nodup_filter (map : SiteMap) (test : String × String → Bool) :
    (IndexMap.keys (map.entries.filter test)).Nodup :=
  map.nodup_keys.sublist (List.filter_sublist.map Prod.fst)

theorem get_filter (map : SiteMap) (siteId : String) (test : String → Bool) :
    IndexMap.get siteId (map.entries.filter fun entry => test entry.2) =
      (map.get siteId).filter test := by
  cases found : map.get siteId with
  | none =>
      rw [Option.filter_none, IndexMap.get_eq_none_iff]
      intro member
      obtain ⟨entry, present, rfl⟩ := List.mem_map.mp member
      have stored := SortedMap.get_of_mem (List.mem_filter.mp present).1
      rw [found] at stored
      cases stored
  | some org =>
      rw [Option.filter_some]
      split
      · rename_i passes
        apply IndexMap.get_of_mem (nodup_filter map _)
        exact List.mem_filter.mpr ⟨SortedMap.mem_entries_iff.mpr found, passes⟩
      · rename_i fails
        rw [IndexMap.get_eq_none_iff]
        intro member
        obtain ⟨entry, present, rfl⟩ := List.mem_map.mp member
        obtain ⟨listed, passes⟩ := List.mem_filter.mp present
        have stored := SortedMap.get_of_mem listed
        rw [found] at stored
        obtain rfl := Option.some.inj stored
        exact fails passes

/-- The merged map prefers the carried entries to the kept ones. -/
theorem get_mergeRefresh : (mergeRefresh discovered previous).get siteId =
    ((previous.get siteId).filter (· ∈ discovered.incompleteOrgs)).or
      ((discovered.sites.get siteId).filter (· ∉ discovered.incompleteOrgs)) := by
  rw [mergeRefresh]
  split
  · rename_i none
    have empty : discovered.incompleteOrgs = [] := List.isEmpty_iff.mp none
    cases discovered.sites.get siteId <;> cases previous.get siteId <;>
      simp [empty, Option.filter]
  · change (SortedMap.ofList (keptEntries discovered ++ carriedEntries discovered previous)).get _ = _
    rw [SortedMap.ofList, List.foldl_append, keptEntries, carriedEntries,
      SortedMap.get_foldl_insert _ _ (nodup_filter previous _),
      SortedMap.get_foldl_insert _ _ (nodup_filter discovered.sites _)]
    have empty : (SortedMap.empty : SiteMap).get siteId = none := rfl
    rw [empty, Option.or_none]
    have carried := get_filter previous siteId (· ∈ discovered.incompleteOrgs)
    have kept := get_filter discovered.sites siteId (· ∉ discovered.incompleteOrgs)
    rw [carried, kept]

/-- A carried site has its previous organization. -/
theorem mergeRefresh_carried (known : previous.get siteId = some orgId)
    (incomplete : orgId ∈ discovered.incompleteOrgs) :
    (mergeRefresh discovered previous).get siteId = some orgId := by
  rw [get_mergeRefresh, known]
  simp [incomplete]

/-- A complete organization keeps what is discovered, unless the site is carried for another. -/
theorem mergeRefresh_eq_some_iff : (mergeRefresh discovered previous).get siteId = some orgId ↔
    (previous.get siteId = some orgId ∧ orgId ∈ discovered.incompleteOrgs) ∨
      ((∀ org ∈ discovered.incompleteOrgs, previous.get siteId ≠ some org) ∧
        discovered.sites.get siteId = some orgId ∧ orgId ∉ discovered.incompleteOrgs) := by
  rw [get_mergeRefresh]
  cases known : previous.get siteId with
  | none => simp [Option.filter_eq_some_iff]
  | some org =>
      by_cases carried : org ∈ discovered.incompleteOrgs
      · simp only [Option.filter_some, decide_eq_true carried, if_true, Option.some_or,
          Option.some.injEq]
        constructor
        · rintro rfl
          exact .inl ⟨rfl, carried⟩
        · rintro (⟨same, _⟩ | ⟨free, _⟩)
          · exact same
          · exact absurd rfl (free org carried)
      · have other : ∀ org' ∈ discovered.incompleteOrgs, some org ≠ some org' := by
          intro org' member same
          exact carried (Option.some.inj same ▸ member)
        simp only [Option.filter_some, decide_eq_false carried, Bool.false_eq_true, if_false,
          Option.none_or, Option.filter_eq_some_iff, decide_eq_true_eq]
        constructor
        · exact fun found => .inr ⟨other, found⟩
        · rintro (⟨same, member⟩ | ⟨_, found⟩)
          · exact absurd same (other orgId member)
          · exact found

end Merge

section Passes

variable [Platform]

/-- One pass over the sites of an organization, with the map before it and after it. -/
structure SitePass (catalog : Catalog) (origin : String) where
  orgId : String
  before : SiteMap
  history : MistHistory
  after : SiteMap
  outcome : Except OrgDiscoveryError OrgOutcome
  run : Completes (discoverOrgSites catalog origin orgId before) history (after, outcome)

variable {catalog : Catalog} {origin : String}

namespace SitePass

def IsComplete (pass : SitePass catalog origin) : Prop := pass.outcome = .ok .complete

/-- The canonical sites on the pages of the pass. -/
def listed (pass : SitePass catalog origin) : List String :=
  listedIds catalog origin pass.history

/-- The listed sites up to the one that meets the cap. -/
def admitted (pass : SitePass catalog origin) : List String :=
  admittedIds pass.orgId pass.before pass.listed

theorem get_after (pass : SitePass catalog origin) (siteId : String) :
    pass.after.get siteId =
      if siteId ∈ pass.admitted then some pass.orgId else pass.before.get siteId := by
  have ends := (discoverOrgPages_ends pass.run).1.added
  rw [← ends]
  exact get_addIds _ _

theorem admitted_of_complete {pass : SitePass catalog origin} (complete : pass.IsComplete) :
    pass.admitted = pass.listed :=
  admittedIds_eq ((discoverOrgPages_ends pass.run).1.complete.mp complete).1

end SitePass

/-- Each pass starts with the map that the pass before it has left. -/
inductive Chained : SiteMap → List (SitePass catalog origin) → SiteMap → Prop where
  | nil (sites : SiteMap) : Chained sites [] sites
  | cons (pass : SitePass catalog origin) {rest : List (SitePass catalog origin)}
      {final : SiteMap} (later : Chained pass.after rest final) :
      Chained pass.before (pass :: rest) final

/-- These are the passes of a discovery over the organizations of the allowlist. -/
structure DiscoveredBy (allowedOrgs : List String) (history : MistHistory)
    (discovered : SiteDiscovery) (passes : List (SitePass catalog origin)) : Prop where
  events : history = passes.flatMap SitePass.history
  orgs : passes.map SitePass.orgId = allowedOrgs
  chained : Chained ∅ passes discovered.sites
  incomplete : ∀ orgId, orgId ∈ discovered.incompleteOrgs ↔
    ∃ pass ∈ passes, pass.orgId = orgId ∧ ¬pass.IsComplete

theorem discoverFrom_passes {allowedOrgs : List String} {start discovered : SiteDiscovery}
    {history : MistHistory}
    (run : Completes (discoverFrom catalog origin start allowedOrgs) history discovered) :
    ∃ passes : List (SitePass catalog origin), history = passes.flatMap SitePass.history ∧
      passes.map SitePass.orgId = allowedOrgs ∧ Chained start.sites passes discovered.sites ∧
      ∀ orgId, orgId ∈ discovered.incompleteOrgs ↔ orgId ∈ start.incompleteOrgs ∨
        ∃ pass ∈ passes, pass.orgId = orgId ∧ ¬pass.IsComplete := by
  induction allowedOrgs generalizing start history with
  | nil =>
      obtain ⟨rfl, rfl⟩ := (completes_pure_iff _ _ _).mp run
      exact ⟨[], rfl, rfl, .nil _, by simp⟩
  | cons orgId rest ih =>
      obtain ⟨⟨sites, outcome⟩, first, second, rfl, pass, later⟩ :=
        (completes_bind_iff _ _ _ _).mp run
      let current : SitePass catalog origin := ⟨orgId, start.sites, first, sites, outcome, pass⟩
      dsimp only at later
      split at later
      · obtain ⟨passes, rfl, orgs, chained, incomplete⟩ := ih later
        have complete : current.IsComplete := rfl
        refine ⟨current :: passes, rfl, congrArg (orgId :: ·) orgs, .cons current chained, ?_⟩
        intro other
        rw [incomplete]
        simp [complete]
      · rename_i different
        obtain ⟨passes, rfl, orgs, chained, incomplete⟩ := ih later
        have open' : ¬current.IsComplete := different
        refine ⟨current :: passes, rfl, congrArg (orgId :: ·) orgs, .cons current chained, ?_⟩
        intro other
        rw [incomplete]
        simp only [List.mem_cons, exists_eq_or_imp, open', not_false_eq_true, and_true]
        rw [or_comm (a := other = orgId), or_assoc, eq_comm (a := other)]

/-- A discovery consists of one pass for each organization. -/
theorem discoverSites_passes {allowedOrgs : List String} {history : MistHistory}
    {discovered : SiteDiscovery}
    (run : Completes (discoverSites catalog origin allowedOrgs) history discovered) :
    ∃ passes : List (SitePass catalog origin),
      DiscoveredBy allowedOrgs history discovered passes := by
  obtain ⟨passes, events, orgs, chained, incomplete⟩ := discoverFrom_passes run
  refine ⟨passes, events, orgs, chained, fun orgId => ?_⟩
  rw [incomplete orgId]
  simp only [List.not_mem_nil, false_or]

namespace DiscoveredBy

variable {allowedOrgs : List String} {history : MistHistory} {discovered : SiteDiscovery}
  {passes : List (SitePass catalog origin)}

/-- The passes of distinct organizations are told apart by their organizations. -/
theorem pass_eq (parts : DiscoveredBy allowedOrgs history discovered passes)
    (distinct : allowedOrgs.Nodup) {pass other : SitePass catalog origin} (member : pass ∈ passes)
    (member' : other ∈ passes) (same : pass.orgId = other.orgId) : pass = other :=
  List.inj_on_of_nodup_map (parts.orgs ▸ distinct) member member' same

theorem complete_iff (parts : DiscoveredBy allowedOrgs history discovered passes)
    (distinct : allowedOrgs.Nodup) {pass : SitePass catalog origin} (member : pass ∈ passes) :
    pass.IsComplete ↔ pass.orgId ∉ discovered.incompleteOrgs := by
  rw [parts.incomplete]
  constructor
  · rintro complete ⟨other, member', same, incomplete⟩
    rw [parts.pass_eq distinct member' member same] at incomplete
    exact incomplete complete
  · intro none
    by_contra incomplete
    exact none ⟨pass, member, rfl, incomplete⟩

end DiscoveredBy

/-- The last pass that admits a site decides its organization. -/
theorem Chained.get_final {start final : SiteMap} {passes : List (SitePass catalog origin)}
    (chained : Chained start passes final) (siteId : String) :
    ((∀ pass ∈ passes, siteId ∉ pass.admitted) ∧ final.get siteId = start.get siteId) ∨
      ∃ front pass rest, passes = front ++ pass :: rest ∧ siteId ∈ pass.admitted ∧
        (∀ later ∈ rest, siteId ∉ later.admitted) ∧ final.get siteId = some pass.orgId := by
  induction chained with
  | nil sites => exact .inl ⟨by simp, rfl⟩
  | cons pass later ih =>
      obtain ⟨none, unchanged⟩ | ⟨front, last, rest, rfl, admits, none, decided⟩ := ih
      · rw [pass.get_after] at unchanged
        by_cases admits : siteId ∈ pass.admitted
        · rw [if_pos admits] at unchanged
          exact .inr ⟨[], pass, _, rfl, admits, none, unchanged⟩
        · rw [if_neg admits] at unchanged
          exact .inl ⟨by simpa [admits] using none, unchanged⟩
      · exact .inr ⟨pass :: front, last, rest, rfl, admits, none, decided⟩

end Passes

end RustMist
