import RustMist.Proof.Sites.Discovery

/-! When a pass that is reported complete has read its listing to the end. -/

namespace RustMist

open Effects Effects.Program

variable [Platform]

/-- A complete pass has read a short page and given every listed site to its organization; every
pass stays within its requests and within the cap. -/
structure PassHonest (catalog : Catalog) (origin orgId : String) (sites : SiteMap)
    (history : MistHistory) (sites' : SiteMap)
    (outcome : Except OrgDiscoveryError OrgOutcome) : Prop where
  complete : outcome = .ok .complete →
    (∃ page ∈ fetchedPages catalog origin history, ¬IsFull page) ∧
      ∀ siteId ∈ listedIds catalog origin history, sites'.get siteId = some orgId
  requests : requestCount history ≤ maxPagesPerOrg
  capped : sites.size ≤ maxTotalSites → sites'.size ≤ maxTotalSites

/-- As many pages as a pass may fetch are full, and the sites on them fit the cap. -/
def ExhaustsPages (catalog : Catalog) (origin : String) (sites : SiteMap)
    (history : MistHistory) : Prop :=
  (fetchedPages catalog origin history).length = maxPagesPerOrg ∧
    (∀ page ∈ fetchedPages catalog origin history, IsFull page) ∧
      FitsCap sites (listedIds catalog origin history)

/-- A pass is honest unless the listing goes on after the last page that may be fetched. -/
theorem discoverOrgSites_honest_iff (catalog : Catalog) (origin orgId : String)
    (sites sites' : SiteMap) (history : MistHistory)
    (outcome : Except OrgDiscoveryError OrgOutcome)
    (run : Completes (discoverOrgSites catalog origin orgId sites) history (sites', outcome)) :
    PassHonest catalog origin orgId sites history sites' outcome ↔
      ¬ExhaustsPages catalog origin sites history := by
  obtain ⟨ends, requests⟩ := discoverOrgPages_ends run
  have fits : (addIds orgId sites (listedIds catalog origin history)).2 = false ↔
      FitsCap sites (listedIds catalog origin history) := addIds_fits _
  constructor
  · rintro honest ⟨count, full, within⟩
    have complete := ends.complete.mpr ⟨fits.mpr within, .inr count⟩
    obtain ⟨page, member, short⟩ := (honest.complete complete).1
    exact short (full page member)
  · intro ended
    refine ⟨fun complete => ?_, requests, fun within => ?_⟩
    · obtain ⟨unmet, last⟩ := ends.complete.mp complete
      constructor
      · rcases last with short | count
        · exact short
        · by_contra none
          have full : ∀ page ∈ fetchedPages catalog origin history, IsFull page := by
            intro page member
            by_contra short
            exact none ⟨page, member, short⟩
          exact ended ⟨count, full, fits.mp unmet⟩
      · intro siteId listed
        rw [← ends.added]
        change (addIds orgId sites (listedIds catalog origin history)).1.get siteId = _
        have admitted : admittedIds orgId sites (listedIds catalog origin history) =
          listedIds catalog origin history := admittedIds_eq unmet
        rw [get_addIds, admitted, if_pos listed]
    · rw [← ends.added]
      exact addIds_size within

end RustMist

namespace RustMist.Network

open Effects Effects.Program

theorem fetchedPages_blank (left page : Nat) :
    fetchedPages siteCatalog origin (blankEvents page left) = List.replicate left blankPage := by
  induction left generalizing page with
  | zero => rfl
  | succ left ih =>
      rw [blankEvents, fetchedPages_accepted _ _ _ _ accept_blankPage, ih, List.replicate_succ]

/-- A listing whose pages are all full is reported complete at the limit of the pages. -/
theorem blank_pass_dishonest :
    Catalog.fromJson (serdeToString (paddedDocument siteOperations).toJson) = .ok siteCatalog ∧
      Completes (discoverOrgSites siteCatalog origin orgId ∅) (blankEvents 1 maxPagesPerOrg)
        (∅, .ok .complete) ∧
      ¬PassHonest siteCatalog origin orgId ∅ (blankEvents 1 maxPagesPerOrg) ∅ (.ok .complete) := by
  refine ⟨siteCatalog_accepted, blank_completes ∅ maxPagesPerOrg 1 (by decide), fun honest => ?_⟩
  obtain ⟨page, member, short⟩ := (honest.complete rfl).1
  rw [fetchedPages_blank] at member
  rw [List.eq_of_mem_replicate member] at short
  exact short (le_of_eq List.length_replicate.symm)

/-- A pass that reads one short page meets the condition. -/
theorem discoverOrgSites_honest_iff_site :
    PassHonest siteCatalog origin orgId ∅ (siteEvents orgId)
        ((∅ : SiteMap).insert siteId orgId) (.ok .complete) ↔
      ¬ExhaustsPages siteCatalog origin ∅ (siteEvents orgId) :=
  discoverOrgSites_honest_iff siteCatalog origin orgId ∅ _ (siteEvents orgId) (.ok .complete)
    (site_completes List.mem_cons_self (by decide))

end RustMist.Network
