import RustMist.Proof.Sites.Refresh

/-! When a refresh treats each organization on its own. -/

namespace RustMist

open Effects Effects.Program

variable [Platform] {catalog : Catalog} {origin : String}

/-- No site is listed by the completed passes of two organizations. -/
def ListedOnce (passes : List (SitePass catalog origin)) : Prop :=
  ∀ pass ∈ passes, pass.IsComplete → ∀ other ∈ passes, other.IsComplete →
    ∀ siteId ∈ pass.listed, siteId ∈ other.listed → pass.orgId = other.orgId

/-- A completed pass decides the sites of its organization; a pass that is not complete leaves
those of its organization, less the sites that a completed pass lists. -/
structure TreatsAlone (passes : List (SitePass catalog origin)) (previous merged : SiteMap) :
    Prop where
  complete : ∀ pass ∈ passes, pass.IsComplete → ∀ siteId,
    merged.get siteId = some pass.orgId ↔ siteId ∈ pass.listed
  incomplete : ∀ pass ∈ passes, ¬pass.IsComplete → ∀ siteId,
    merged.get siteId = some pass.orgId ↔ previous.get siteId = some pass.orgId ∧
      ∀ other ∈ passes, other.IsComplete → siteId ∉ other.listed

/-- No site that a completed pass lists belonged before to an organization whose pass is not
complete, or is admitted by a later pass that is not complete. -/
structure Undisturbed (passes : List (SitePass catalog origin)) (previous : SiteMap) : Prop where
  previous : ∀ pass ∈ passes, pass.IsComplete → ∀ other ∈ passes, ¬other.IsComplete →
    ∀ siteId ∈ pass.listed, previous.get siteId ≠ some other.orgId
  later : passes.Pairwise fun pass other => pass.IsComplete → ¬other.IsComplete →
    ∀ siteId ∈ pass.listed, siteId ∉ other.admitted

variable {allowedOrgs : List String} {history : MistHistory} {discovered : SiteDiscovery}
  {passes : List (SitePass catalog origin)} {previous : SiteMap}

/-- The pass that decides a discovered site stands in the list and admits it. -/
theorem DiscoveredBy.deciding (parts : DiscoveredBy allowedOrgs history discovered passes)
    {siteId orgId : String} (found : discovered.sites.get siteId = some orgId) :
    ∃ pass ∈ passes, pass.orgId = orgId ∧ siteId ∈ pass.admitted := by
  obtain ⟨_, absent⟩ | ⟨front, pass, rest, rfl, admits, _, decided⟩ :=
    parts.chained.get_final siteId
  · rw [found, SortedMap.get_empty] at absent
    cases absent
  · rw [found] at decided
    exact ⟨pass, by simp, (Option.some.inj decided).symm, admits⟩

/-- A completed pass that no later pass overrides has its sites in the discovered map. -/
theorem DiscoveredBy.get_listed (parts : DiscoveredBy allowedOrgs history discovered passes)
    (once : ListedOnce passes)
    (later : passes.Pairwise fun pass other => pass.IsComplete → ¬other.IsComplete →
      ∀ siteId ∈ pass.listed, siteId ∉ other.admitted)
    {pass : SitePass catalog origin} (member : pass ∈ passes) (complete : pass.IsComplete)
    {siteId : String} (listed : siteId ∈ pass.listed) :
    discovered.sites.get siteId = some pass.orgId := by
  have admitted : siteId ∈ pass.admitted := SitePass.admitted_of_complete complete ▸ listed
  obtain ⟨none, _⟩ | ⟨front, last, rest, rfl, admits, none, decided⟩ :=
    parts.chained.get_final siteId
  · exact absurd admitted (none pass member)
  · rw [decided]
    by_cases ended : last.IsComplete
    · have lists : siteId ∈ last.listed := SitePass.admitted_of_complete ended ▸ admits
      exact congrArg some (once last (by simp) ended pass member complete siteId lists listed)
    · -- The deciding pass is not complete, so it is not this one and stands after it.
      rcases List.mem_append.mp member with front' | behind
      · have apart := (List.pairwise_append.mp later).2.2 pass front' last List.mem_cons_self
        exact absurd admits (apart complete ended siteId listed)
      · rcases List.mem_cons.mp behind with rfl | behind
        · exact absurd complete ended
        · exact absurd admitted (none pass behind)

theorem treatsAlone_of_undisturbed (distinct : allowedOrgs.Nodup)
    (parts : DiscoveredBy allowedOrgs history discovered passes) (once : ListedOnce passes)
    (undisturbed : Undisturbed passes previous) :
    TreatsAlone passes previous (mergeRefresh discovered previous) where
  complete pass member complete siteId := by
    have kept := (parts.complete_iff distinct member).mp complete
    rw [mergeRefresh_eq_some_iff]
    constructor
    · rintro (⟨_, incomplete⟩ | ⟨_, found, _⟩)
      · exact absurd incomplete kept
      · obtain ⟨other, member', same, admits⟩ := parts.deciding found
        rw [parts.pass_eq distinct member' member same,
          SitePass.admitted_of_complete complete] at admits
        exact admits
    · intro listed
      refine .inr ⟨fun orgId open' known => ?_,
        parts.get_listed once undisturbed.later member complete listed, kept⟩
      obtain ⟨other, member', rfl, incomplete⟩ := (parts.incomplete orgId).mp open'
      exact undisturbed.previous pass member complete other member' incomplete siteId listed known
  incomplete pass member incomplete siteId := by
    have carried : pass.orgId ∈ discovered.incompleteOrgs := by
      by_contra kept
      exact incomplete ((parts.complete_iff distinct member).mpr kept)
    constructor
    · intro merged
      rcases mergeRefresh_eq_some_iff.mp merged with ⟨known, _⟩ | ⟨_, _, kept⟩
      · refine ⟨known, fun other member' complete listed => ?_⟩
        exact undisturbed.previous other member' complete pass member incomplete siteId listed known
      · exact absurd carried kept
    · rintro ⟨known, _⟩
      exact mergeRefresh_carried known carried

/-- When the sites of the completed passes stay, no later pass has taken one of them. -/
theorem Chained.apart {start final : SiteMap} (chained : Chained start passes final)
    (distinct : (passes.map SitePass.orgId).Nodup)
    (stays : ∀ pass ∈ passes, pass.IsComplete → ∀ siteId ∈ pass.listed,
      final.get siteId = some pass.orgId) :
    passes.Pairwise fun pass other => pass.IsComplete → ¬other.IsComplete →
      ∀ siteId ∈ pass.listed, siteId ∉ other.admitted := by
  induction chained with
  | nil => exact .nil
  | cons pass later ih =>
      rw [List.map_cons, List.nodup_cons] at distinct
      refine .cons (fun other member complete _ siteId listed admits => ?_)
        (ih distinct.2 fun pass member => stays pass (List.mem_cons_of_mem _ member))
      obtain ⟨none, _⟩ | ⟨front, last, rest, rfl, _, _, decided⟩ := later.get_final siteId
      · exact none other member admits
      · rw [stays pass List.mem_cons_self complete siteId listed] at decided
        apply distinct.1
        rw [Option.some.inj decided]
        exact List.mem_map_of_mem (by simp)

theorem undisturbed_of_treatsAlone (distinct : allowedOrgs.Nodup)
    (parts : DiscoveredBy allowedOrgs history discovered passes)
    (alone : TreatsAlone passes previous (mergeRefresh discovered previous)) :
    Undisturbed passes previous where
  previous pass member complete other member' incomplete siteId listed known := by
    have carried : other.orgId ∈ discovered.incompleteOrgs :=
      (parts.incomplete _).mpr ⟨other, member', rfl, incomplete⟩
    have stays := (alone.complete pass member complete siteId).mpr listed
    rw [mergeRefresh_carried known carried] at stays
    exact (parts.complete_iff distinct member).mp complete (Option.some.inj stays ▸ carried)
  later := by
    apply parts.chained.apart (parts.orgs ▸ distinct)
    intro pass member complete siteId listed
    have stays := (alone.complete pass member complete siteId).mpr listed
    rcases mergeRefresh_eq_some_iff.mp stays with ⟨_, incomplete⟩ | ⟨_, found, _⟩
    · exact absurd incomplete ((parts.complete_iff distinct member).mp complete)
    · exact found

/-- A refresh treats each organization on its own exactly when no pass that is not complete
touches a site that a completed pass lists. -/
theorem refresh_treatsAlone_iff (catalog : Catalog) (origin : String) (allowedOrgs : List String)
    (previous : SiteMap) (history : MistHistory) (discovered : SiteDiscovery)
    (distinct : allowedOrgs.Nodup)
    (run : Completes (discoverSites catalog origin allowedOrgs) history discovered) :
    ∃ passes : List (SitePass catalog origin),
      DiscoveredBy allowedOrgs history discovered passes ∧
      (ListedOnce passes →
        (TreatsAlone passes previous (mergeRefresh discovered previous) ↔
          Undisturbed passes previous)) := by
  obtain ⟨passes, parts⟩ := discoverSites_passes run
  exact ⟨passes, parts, fun once => ⟨undisturbed_of_treatsAlone distinct parts,
    treatsAlone_of_undisturbed distinct parts once⟩⟩

end RustMist

namespace RustMist.Network

open Effects Effects.Program

section Moved

def movedOrgs : List String := [orgId, otherOrgId]

theorem movedOrgs_distinct : movedOrgs.Nodup := by
  decide +kernel

/-- The events of a discovery in which one organization lists a site and the other one fails. -/
def movedEvents : MistHistory := siteEvents orgId ++ failedEvents otherOrgId

def movedSites : SiteMap := (∅ : SiteMap).insert siteId orgId

def movedDiscovery : SiteDiscovery := ⟨movedSites, [otherOrgId]⟩

def listingPass : SitePass siteCatalog origin where
  orgId := orgId
  before := ∅
  history := siteEvents orgId
  after := movedSites
  outcome := .ok .complete
  run := site_completes List.mem_cons_self (by decide)

def failingPass : SitePass siteCatalog origin where
  orgId := otherOrgId
  before := movedSites
  history := failedEvents otherOrgId
  after := movedSites
  outcome := .error (.mist .transportUnavailable)
  run := failed_completes (List.mem_cons_of_mem _ List.mem_cons_self) movedSites

theorem moved_completes :
    Completes (discoverSites siteCatalog origin movedOrgs) movedEvents movedDiscovery := by
  have second : Completes (discoverFrom siteCatalog origin ⟨movedSites, []⟩ [otherOrgId])
      (failedEvents otherOrgId) movedDiscovery :=
    (completes_bind_iff _ _ _ _).mpr
      ⟨_, failedEvents otherOrgId, [], (List.append_nil _).symm, failingPass.run, .start _⟩
  exact (completes_bind_iff _ _ _ _).mpr
    ⟨_, siteEvents orgId, failedEvents otherOrgId, rfl, listingPass.run, second⟩

theorem listingPass_complete : listingPass.IsComplete := rfl

theorem failingPass_incomplete : ¬failingPass.IsComplete := nofun

theorem listingPass_listed : listingPass.listed = [siteId] := by
  change listedIds siteCatalog origin (siteEvents orgId) = _
  rw [listedIds, fetchedPages_site, List.flatMap_singleton, canonicalIds_sitePage]

theorem moved_parts :
    DiscoveredBy movedOrgs movedEvents movedDiscovery [listingPass, failingPass] where
  events := by simp [movedEvents, listingPass, failingPass]
  orgs := rfl
  chained := .cons listingPass (.cons failingPass (.nil _))
  incomplete other := by
    simp [movedDiscovery, listingPass_complete, failingPass_incomplete, eq_comm,
      show failingPass.orgId = otherOrgId from rfl]

theorem moved_once : ListedOnce [listingPass, failingPass] := by
  intro pass member complete other member' complete' _ _ _
  have first : ∀ pass ∈ [listingPass, failingPass], pass.IsComplete → pass = listingPass := by
    simp [failingPass_incomplete]
  rw [first pass member complete, first other member' complete']

/-- A site that has moved to an organization whose pass completed stays with the organization
whose pass failed. -/
theorem moved_site_disturbed :
    Catalog.fromJson (serdeToString (paddedDocument siteOperations).toJson) = .ok siteCatalog ∧
      Completes (discoverSites siteCatalog origin movedOrgs) movedEvents movedDiscovery ∧
      DiscoveredBy movedOrgs movedEvents movedDiscovery [listingPass, failingPass] ∧
      ListedOnce [listingPass, failingPass] ∧
      ¬TreatsAlone [listingPass, failingPass] ((∅ : SiteMap).insert siteId otherOrgId)
        (mergeRefresh movedDiscovery ((∅ : SiteMap).insert siteId otherOrgId)) := by
  refine ⟨siteCatalog_accepted, moved_completes, moved_parts, moved_once, fun alone => ?_⟩
  have listed : siteId ∈ listingPass.listed := by simp [listingPass_listed]
  have kept := (alone.complete _ List.mem_cons_self listingPass_complete siteId).mpr listed
  have known : ((∅ : SiteMap).insert siteId otherOrgId).get siteId = some otherOrgId := by simp
  rw [mergeRefresh_carried known (show otherOrgId ∈ movedDiscovery.incompleteOrgs from
    List.mem_cons_self)] at kept
  exact absurd (Option.some.inj kept) (by decide)

/-- The law holds of this discovery when no site was known before. -/
theorem refresh_treatsAlone_iff_moved :
    ∃ passes : List (SitePass siteCatalog origin),
      DiscoveredBy movedOrgs movedEvents movedDiscovery passes ∧
      (ListedOnce passes →
        (TreatsAlone passes ∅ (mergeRefresh movedDiscovery ∅) ↔ Undisturbed passes ∅)) :=
  refresh_treatsAlone_iff siteCatalog origin movedOrgs ∅ movedEvents movedDiscovery
    movedOrgs_distinct moved_completes

end Moved

end RustMist.Network
