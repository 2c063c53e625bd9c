import RustMist.Construction.SiteDiscovery
import RustMist.Proof.Catalog.Reference
import RustMist.Proof.Plan.Staging

/-! What one pass over the sites of an organization reads. -/

namespace RustMist

open Effects Effects.Program

section Entries

/-- An entry of a page counts when its identifier is canonical. -/
def canonicalId (site : Json) : Option String :=
  ((site.get "id").bind Json.asString).filter isCanonicalUuid

def canonicalIds (page : List Json) : List String := page.filterMap canonicalId

/-- These identifiers are added until the cap is met. -/
def addIds (orgId : String) (sites : SiteMap) : List String → SiteMap × Bool
  | [] => (sites, false)
  | siteId :: rest =>
      if sites.size ≥ maxTotalSites && !sites.contains siteId then (sites, true)
      else addIds orgId (sites.insert siteId orgId) rest

variable {orgId : String} {sites : SiteMap}

theorem site_eq_ok_iff {siteId : String} :
    (∃ target, MistTarget.site siteId = .ok target) ↔ isCanonicalUuid siteId = true := by
  constructor
  · rintro ⟨target, accepted⟩
    obtain ⟨_, rfl⟩ := MistTarget.site_ok_iff.mp accepted
    exact target.canonical
  · intro canonical
    exact ⟨⟨.site, siteId, canonical⟩, MistTarget.site_ok_iff.mpr ⟨rfl, rfl⟩⟩

/-- A page adds the canonical identifiers of its entries. -/
theorem addSites_eq (page : List Json) :
    addSites orgId sites page = addIds orgId sites (canonicalIds page) := by
  induction page generalizing sites with
  | nil => rfl
  | cons site rest ih =>
      rw [addSites]
      cases text : (site.get "id").bind Json.asString with
      | none =>
          have skipped : canonicalId site = none := by simp [canonicalId, text]
          rw [canonicalIds, List.filterMap_cons_none skipped]
          exact ih
      | some siteId =>
          dsimp only
          cases target : MistTarget.site siteId with
          | error error =>
              have refused : isCanonicalUuid siteId = false := by
                rw [← Bool.not_eq_true, ← site_eq_ok_iff, target]
                simp
              have skipped : canonicalId site = none := by simp [canonicalId, text, refused]
              rw [canonicalIds, List.filterMap_cons_none skipped]
              exact ih
          | ok found =>
              have canonical : isCanonicalUuid siteId = true := site_eq_ok_iff.mp ⟨found, target⟩
              have kept : canonicalId site = some siteId := by simp [canonicalId, text, canonical]
              rw [canonicalIds, List.filterMap_cons_some kept, addIds]
              simp only [ih]
              rfl

/-- A second list is added when the first one did not meet the cap. -/
theorem addIds_append (first second : List String) :
    addIds orgId sites (first ++ second) =
      if (addIds orgId sites first).2 then addIds orgId sites first
      else addIds orgId (addIds orgId sites first).1 second := by
  induction first generalizing sites with
  | nil => rfl
  | cons siteId rest ih =>
      rw [List.cons_append, addIds, addIds]
      split
      · rfl
      · exact ih

/-- The identifiers that are added before the cap is met. -/
def admittedIds (orgId : String) (sites : SiteMap) : List String → List String
  | [] => []
  | siteId :: rest =>
      if sites.size ≥ maxTotalSites && !sites.contains siteId then []
      else siteId :: admittedIds orgId (sites.insert siteId orgId) rest

/-- The sites that are known and the sites that are listed stay within the cap. -/
def FitsCap (sites : SiteMap) (ids : List String) : Prop :=
  (sites.keys.toFinset ∪ ids.toFinset).card ≤ max maxTotalSites sites.size

theorem keys_insert_toFinset (siteId : String) :
    (sites.insert siteId orgId).keys.toFinset = insert siteId sites.keys.toFinset := by
  ext key
  simp

theorem size_insert_of_contains {siteId : String} (known : sites.contains siteId = true) :
    (sites.insert siteId orgId).size = sites.size := by
  rw [SortedMap.size_eq_card, SortedMap.size_eq_card, keys_insert_toFinset,
    Finset.insert_eq_of_mem (List.mem_toFinset.mpr (SortedMap.contains_iff.mp known))]

theorem size_insert_of_new {siteId : String} (new : sites.contains siteId = false) :
    (sites.insert siteId orgId).size = sites.size + 1 := by
  have absent : siteId ∉ sites.keys.toFinset := by
    rw [List.mem_toFinset, ← SortedMap.contains_iff, new]
    decide
  rw [SortedMap.size_eq_card, SortedMap.size_eq_card, keys_insert_toFinset,
    Finset.card_insert_of_notMem absent]

/-- The cap is met exactly when the listed sites do not fit. -/
theorem addIds_fits (ids : List String) :
    (addIds orgId sites ids).2 = false ↔ FitsCap sites ids := by
  induction ids generalizing sites with
  | nil => simp [addIds, FitsCap, ← SortedMap.size_eq_card]
  | cons siteId rest ih =>
      have moved : sites.keys.toFinset ∪ (siteId :: rest).toFinset =
          (sites.insert siteId orgId).keys.toFinset ∪ rest.toFinset := by
        rw [keys_insert_toFinset, List.toFinset_cons, Finset.union_insert, Finset.insert_union]
      have grown : (sites.insert siteId orgId).size ≤
          ((sites.insert siteId orgId).keys.toFinset ∪ rest.toFinset).card := by
        rw [SortedMap.size_eq_card]
        exact Finset.card_le_card Finset.subset_union_left
      rw [addIds, FitsCap, moved]
      cases known : sites.contains siteId with
      | true =>
          rw [Bool.not_true, Bool.and_false, if_neg (by decide), ih, FitsCap,
            size_insert_of_contains known]
      | false =>
          rw [size_insert_of_new known] at grown
          by_cases full : maxTotalSites ≤ sites.size
          · rw [if_pos (by simp [full])]
            simp only [Bool.true_eq_false, false_iff]
            omega
          · rw [if_neg (by simp [full]), ih, FitsCap, size_insert_of_new known]
            omega

theorem admittedIds_eq {ids : List String} (fits : (addIds orgId sites ids).2 = false) :
    admittedIds orgId sites ids = ids := by
  induction ids generalizing sites with
  | nil => rfl
  | cons siteId rest ih =>
      rw [addIds] at fits
      rw [admittedIds]
      split
      · rename_i full
        rw [if_pos full] at fits
        cases fits
      · rename_i open'
        rw [if_neg open'] at fits
        rw [ih fits]

/-- The admitted sites are given to the organization and the others stay as they were. -/
theorem get_addIds (ids : List String) (siteId : String) :
    (addIds orgId sites ids).1.get siteId =
      if siteId ∈ admittedIds orgId sites ids then some orgId else sites.get siteId := by
  induction ids generalizing sites with
  | nil => simp [addIds, admittedIds]
  | cons first rest ih =>
      rw [addIds, admittedIds]
      split
      · simp
      · rw [ih, SortedMap.get_insert]
        simp only [List.mem_cons]
        by_cases later : siteId ∈ admittedIds orgId (sites.insert first orgId) rest
        · simp [later]
        · by_cases same : siteId = first <;> simp [later, same]

/-- A map within the cap stays within it. -/
theorem addIds_size {ids : List String} (within : sites.size ≤ maxTotalSites) :
    (addIds orgId sites ids).1.size ≤ maxTotalSites := by
  induction ids generalizing sites with
  | nil => exact within
  | cons siteId rest ih =>
      rw [addIds]
      split
      · exact within
      · rename_i open'
        apply ih
        cases known : sites.contains siteId with
        | true => rwa [size_insert_of_contains known]
        | false =>
            rw [size_insert_of_new known]
            simp only [known, Bool.not_false, Bool.and_true, decide_eq_true_eq] at open'
            omega

end Entries

section Pages

variable [Platform] {catalog : Catalog} {origin orgId : String} {sites sites' : SiteMap}
  {page left : Nat} {history : MistHistory} {outcome : Except OrgDiscoveryError OrgOutcome}

/-- The entries of a page that the client has answered and that is accepted. -/
def pageOf (catalog : Catalog) (origin : String) : MistEvent → Option (List Json)
  | ⟨.response, .ok response⟩ => (acceptPage catalog origin response).toOption
  | _ => none

/-- The pages that were fetched and accepted, the first one first. -/
def fetchedPages (catalog : Catalog) (origin : String) (history : MistHistory) :
    List (List Json) :=
  history.filterMap (pageOf catalog origin)

/-- The canonical identifiers on all fetched pages. -/
def listedIds (catalog : Catalog) (origin : String) (history : MistHistory) : List String :=
  (fetchedPages catalog origin history).flatMap canonicalIds

def isSent (event : MistEvent) : Bool :=
  match event.op with
  | .executeAs _ _ => true
  | _ => false

/-- The number of the requests that were sent. -/
def requestCount (history : MistHistory) : Nat := history.countP isSent

omit [Platform] in
theorem requestCount_step (request : MistRequest) (priority : CallPriority) (sent : Unit)
    (answer : Except MistError MistResponse) (more : MistHistory) :
    requestCount (⟨.executeAs request priority, sent⟩ :: ⟨.response, answer⟩ :: more) =
      requestCount more + 1 := by
  unfold requestCount
  rw [List.countP_cons, List.countP_cons]
  rfl

section Steps

variable (request : MistRequest) (priority : CallPriority) (sent : Unit) (more : MistHistory)

theorem fetchedPages_refused {response : MistResponse} {error : OrgDiscoveryError}
    (judged : acceptPage catalog origin response = .error error) :
    fetchedPages catalog origin
        (⟨.executeAs request priority, sent⟩ :: ⟨.response, .ok response⟩ :: more) =
      fetchedPages catalog origin more := by
  have refused : pageOf catalog origin ⟨.response, .ok response⟩ = none := by
    change (acceptPage catalog origin response).toOption = none
    rw [judged]
    rfl
  unfold fetchedPages
  rw [List.filterMap_cons_none rfl, List.filterMap_cons_none refused]

theorem fetchedPages_accepted {response : MistResponse} {page : List Json}
    (judged : acceptPage catalog origin response = .ok page) :
    fetchedPages catalog origin
        (⟨.executeAs request priority, sent⟩ :: ⟨.response, .ok response⟩ :: more) =
      page :: fetchedPages catalog origin more := by
  have accepted : pageOf catalog origin ⟨.response, .ok response⟩ = some page := by
    change (acceptPage catalog origin response).toOption = some page
    rw [judged]
    rfl
  unfold fetchedPages
  rw [List.filterMap_cons_none rfl, List.filterMap_cons_some accepted]

end Steps

def IsFull (page : List Json) : Prop := pageLimit ≤ page.length

/-- How a pass ends, given the pages that it has fetched. -/
structure PassEnds (orgId : String) (sites : SiteMap) (left : Nat) (pages : List (List Json))
    (sites' : SiteMap) (outcome : Except OrgDiscoveryError OrgOutcome) : Prop where
  count : pages.length ≤ left
  added : (addIds orgId sites (pages.flatMap canonicalIds)).1 = sites'
  truncated : outcome = .ok .truncated ↔
    (addIds orgId sites (pages.flatMap canonicalIds)).2 = true
  /-- A pass is complete after a short page and after the last page that it may fetch. -/
  complete : outcome = .ok .complete ↔
    (addIds orgId sites (pages.flatMap canonicalIds)).2 = false ∧
      ((∃ page ∈ pages, ¬IsFull page) ∨ pages.length = left)

omit [Platform] in
theorem PassEnds.stop (error : OrgDiscoveryError) :
    PassEnds orgId sites (left + 1) [] sites (.error error) where
  count := Nat.zero_le _
  added := rfl
  truncated := by simp [addIds]
  complete := by simp

omit [Platform] in
/-- A page that meets the cap ends the pass. -/
theorem PassEnds.truncate {first : List Json}
    (met : addIds orgId sites (canonicalIds first) = (sites', true)) :
    PassEnds orgId sites (left + 1) [first] sites' (.ok .truncated) where
  count := by simp
  added := by simp [met]
  truncated := by simp [met]
  complete := by simp [met]

omit [Platform] in
/-- A short page ends the pass. -/
theorem PassEnds.finish {first : List Json} (short : ¬IsFull first)
    (added : addIds orgId sites (canonicalIds first) = (sites', false)) :
    PassEnds orgId sites (left + 1) [first] sites' (.ok .complete) where
  count := by simp
  added := by simp [added]
  truncated := by simp [added]
  complete := by simp [added, short]

omit [Platform] in
/-- A full page leads to the next one. -/
theorem PassEnds.next {first : List Json} {rest : List (List Json)} {sites'' : SiteMap}
    (full : IsFull first) (added : addIds orgId sites (canonicalIds first) = (sites', false))
    (ends : PassEnds orgId sites' left rest sites'' outcome) :
    PassEnds orgId sites (left + 1) (first :: rest) sites'' outcome := by
  have joined : addIds orgId sites ((first :: rest).flatMap canonicalIds) =
      addIds orgId sites' (rest.flatMap canonicalIds) := by
    rw [List.flatMap_cons, addIds_append, added]
    rfl
  constructor
  · simpa using ends.count
  · rw [joined, ends.added]
  · rw [joined, ends.truncated]
  · rw [joined, ends.complete]
    simp [full]

/-- The loop over the pages ends as its fetched pages say. -/
theorem discoverOrgPages_ends
    (run : Completes (discoverOrgPages catalog origin orgId sites page left) history
      (sites', outcome)) :
    PassEnds orgId sites left (fetchedPages catalog origin history) sites' outcome ∧
      requestCount history ≤ left := by
  induction left generalizing sites page history with
  | zero =>
      obtain ⟨rfl, same⟩ := (completes_pure_iff _ _ _).mp run
      obtain ⟨rfl, rfl⟩ := Prod.mk.inj same
      exact ⟨⟨Nat.zero_le _, rfl, by simp [fetchedPages, addIds], by simp [fetchedPages, addIds]⟩,
        Nat.zero_le _⟩
  | succ left ih =>
      rw [discoverOrgPages] at run
      split at run
      · rename_i error _
        obtain ⟨rfl, same⟩ := (completes_pure_iff _ _ _).mp run
        obtain ⟨rfl, rfl⟩ := Prod.mk.inj same
        exact ⟨.stop _, Nat.zero_le _⟩
      · obtain ⟨_, later, rfl, answered⟩ := (completes_ask_iff _ _ _ _).mp run
        obtain ⟨answer, last, rfl, accepted⟩ := (completes_ask_iff _ _ _ _).mp answered
        cases answer with
        | error error =>
            obtain ⟨rfl, same⟩ := (completes_pure_iff _ _ _).mp accepted
            obtain ⟨rfl, rfl⟩ := Prod.mk.inj same
            refine ⟨.stop _, ?_⟩
            rw [requestCount_step]
            exact Nat.succ_le_succ (Nat.zero_le left)
        | ok response =>
            dsimp only at accepted
            cases judged : acceptPage catalog origin response with
            | error error =>
                rw [judged] at accepted
                obtain ⟨rfl, same⟩ := (completes_pure_iff _ _ _).mp accepted
                obtain ⟨rfl, rfl⟩ := Prod.mk.inj same
                rw [fetchedPages_refused _ _ _ _ judged, requestCount_step]
                exact ⟨.stop _, Nat.succ_le_succ (Nat.zero_le left)⟩
            | ok pageSites =>
                rw [judged] at accepted
                dsimp only at accepted
                rw [fetchedPages_accepted _ _ _ _ judged, requestCount_step]
                cases added : addSites orgId sites pageSites with
                | mk sites₁ met =>
                    rw [added] at accepted
                    rw [addSites_eq] at added
                    cases met with
                    | true =>
                        obtain ⟨rfl, same⟩ := (completes_pure_iff _ _ _).mp accepted
                        obtain ⟨rfl, rfl⟩ := Prod.mk.inj same
                        exact ⟨.truncate added, Nat.succ_le_succ (Nat.zero_le left)⟩
                    | false =>
                        dsimp only at accepted
                        split at accepted
                        · rename_i short
                          obtain ⟨rfl, same⟩ := (completes_pure_iff _ _ _).mp accepted
                          obtain ⟨rfl, rfl⟩ := Prod.mk.inj same
                          exact ⟨.finish (Nat.not_le.mpr short) added,
                            Nat.succ_le_succ (Nat.zero_le left)⟩
                        · rename_i full
                          obtain ⟨ends, count⟩ := ih accepted
                          exact ⟨.next (Nat.not_lt.mp full) added ends, Nat.succ_le_succ count⟩

section Reaching

variable {request : MistRequest} {response : MistResponse} {entries : List Json}
  (valid : (listOrgSitesRequest orgId page).validate catalog origin = .ok request)

include valid

/-- A pass goes on after a full page that does not meet the cap. -/
theorem discoverOrgPages_continues {result : SiteMap × Except OrgDiscoveryError OrgOutcome}
    (accepted : acceptPage catalog origin response = .ok entries)
    (added : addSites orgId sites entries = (sites', false)) (full : IsFull entries)
    (later : Completes (discoverOrgPages catalog origin orgId sites' (page + 1) left) history
      result) :
    Completes (discoverOrgPages catalog origin orgId sites page (left + 1))
      (⟨.executeAs request .standard, ()⟩ :: ⟨.response, .ok response⟩ :: history) result := by
  rw [discoverOrgPages, valid]
  refine .answered (.answered ?_)
  dsimp only
  rw [accepted]
  dsimp only
  rw [added]
  dsimp only
  rw [if_neg (Nat.not_lt.mpr full)]
  exact later

/-- A pass ends with a short page. -/
theorem discoverOrgPages_ends_short
    (accepted : acceptPage catalog origin response = .ok entries)
    (added : addSites orgId sites entries = (sites', false)) (short : ¬IsFull entries) :
    Completes (discoverOrgPages catalog origin orgId sites page (left + 1))
      [⟨.executeAs request .standard, ()⟩, ⟨.response, .ok response⟩]
      (sites', .ok .complete) := by
  rw [discoverOrgPages, valid]
  refine .answered (.answered ?_)
  dsimp only
  rw [accepted]
  dsimp only
  rw [added]
  dsimp only
  rw [if_pos (Nat.not_le.mp short)]
  exact .start _

/-- A pass fails with its client. -/
theorem discoverOrgPages_fails (error : MistError) :
    Completes (discoverOrgPages catalog origin orgId sites page (left + 1))
      [⟨.executeAs request .standard, ()⟩, ⟨.response, .error error⟩]
      (sites, .error (.mist error)) := by
  rw [discoverOrgPages, valid]
  exact .answered (.answered (.start _))

end Reaching

end Pages

end RustMist

/-! Passes over the sites of an organization of an accepted catalog. -/

namespace RustMist.Network

open Effects Effects.Program

section Requests

/-- The catalog of these passes lists the sites. -/
def siteCatalog : Catalog := paddedCatalog siteOperations

theorem siteCatalog_accepted :
    Catalog.fromJson (serdeToString (paddedDocument siteOperations).toJson) = .ok siteCatalog :=
  paddable_siteOperations.fromJson

theorem operation_sites :
    siteCatalog.operation siteListing.operationId = some (sealed siteListing) :=
  paddable_siteOperations.operation List.mem_cons_self

theorem bounds_page : ∀ org ∈ [orgId, otherOrgId], ∀ page < 65,
    validateRequestBounds (listOrgSitesRequest org page) = .ok () := by
  decide

theorem parameters_page : ∀ org ∈ [orgId, otherOrgId], ∀ page < 65,
    validateParameters (listOrgSitesRequest org page) siteListing siteCatalog = .ok () := by
  decide

/-- Every page that a pass may ask for is a valid request. -/
theorem validate_page {org : String} (known : org ∈ [orgId, otherOrgId]) {page : Nat}
    (inside : page < 65) : (listOrgSitesRequest org page).validate siteCatalog origin =
      .ok (listOrgSitesRequest org page) :=
  validate_bare operation_sites (bounds_page org known page inside)
    (parameters_page org known page inside) rfl rfl rfl

end Requests

section Pages

/-- The client's answer to a request for a page. -/
def pageResponse (entries : Json.Value) : MistResponse :=
  ⟨"listOrgSites", 200, .json entries, none, none⟩

theorem responses_sites :
    arrayResponses.get "200" = some (SortedMap.ofList [("application/json", arraySchema)]) := by
  unfold arrayResponses
  simp [SortedMap.ofList]

/-- A page with a continuation or without one. -/
def continuedResponse (entries : Json.Value) (cursor : Option MistCursor) : MistResponse :=
  { pageResponse entries with cursor := cursor }

section Responses

variable {entries : List Json} {formed : (Json.array entries).wellFormed = true}
  {cursor : Option MistCursor}

/-- A page is validated when it is within the bounds and meets the relaxed schema. -/
theorem validate_response_page
    (bounds : validateResponseBounds (continuedResponse ⟨.array entries, formed⟩ cursor) = .ok ())
    (meets : responseBodyProblem (.json ⟨.array entries, formed⟩)
      (SortedMap.ofList [("application/json", arraySchema)]) siteCatalog = .ok ())
    (bound : validateCursor cursor (sealed siteListing) origin = .ok ()) :
    (continuedResponse ⟨.array entries, formed⟩ cursor).validate siteCatalog origin =
      .ok (continuedResponse ⟨.array entries, formed⟩ cursor) := by
  have named : (continuedResponse ⟨.array entries, formed⟩ cursor).operationId =
      siteListing.operationId := rfl
  have status : toString (continuedResponse ⟨.array entries, formed⟩ cursor).status.toNat =
      "200" := by
    have number : (continuedResponse ⟨.array entries, formed⟩ cursor).status.toNat = 200 := rfl
    rw [number]
    decide
  have declared : (sealed siteListing).responses = arrayResponses := rfl
  have media : validateResponseBody (continuedResponse ⟨.array entries, formed⟩ cursor)
      (SortedMap.ofList [("application/json", arraySchema)]) siteCatalog = .ok () := by
    have same : (continuedResponse ⟨.array entries, formed⟩ cursor).body =
      .json ⟨.array entries, formed⟩ := rfl
    rw [validateResponseBody, same, meets]
  have continues : (continuedResponse ⟨.array entries, formed⟩ cursor).cursor = cursor := rfl
  rw [MistResponse.validate, named, operation_sites]
  dsimp only
  rw [status, declared, responses_sites]
  dsimp only
  rw [bind_of_ok bounds, bind_of_ok media, continues, bind_of_ok bound]

theorem isSuccess_page (entries : Json.Value) (cursor : Option MistCursor) :
    isSuccess (continuedResponse entries cursor).status = true := by
  have number : (continuedResponse entries cursor).status = 200 := rfl
  rw [number]
  decide

/-- A page is accepted when it is within the bounds and meets the relaxed schema. -/
theorem accept_page (formed : (Json.array entries).wellFormed = true)
    (bounds : validateResponseBounds (pageResponse ⟨.array entries, formed⟩) = .ok ())
    (meets : responseBodyProblem (.json ⟨.array entries, formed⟩)
      (SortedMap.ofList [("application/json", arraySchema)]) siteCatalog = .ok ()) :
    acceptPage siteCatalog origin (pageResponse ⟨.array entries, formed⟩) = .ok entries := by
  have valid : (pageResponse ⟨.array entries, formed⟩).validate siteCatalog origin =
      .ok (pageResponse ⟨.array entries, formed⟩) :=
    validate_response_page bounds meets rfl
  have listed : (pageResponse ⟨.array entries, formed⟩).operationId = "listOrgSites" := rfl
  have success : isSuccess (pageResponse ⟨.array entries, formed⟩).status = true :=
    isSuccess_page ⟨.array entries, formed⟩ none
  rw [acceptPage, if_neg (not_not_intro listed), valid]
  dsimp only
  rw [success]
  rfl

end Responses

/-- A page whose entries name no site. -/
def blankPage : List Json := List.replicate pageLimit .null

theorem blankPage_formed : (Json.array blankPage).wellFormed = true := by
  decide

def blankResponse : MistResponse := pageResponse ⟨.array blankPage, blankPage_formed⟩

theorem accept_blankPage : acceptPage siteCatalog origin blankResponse = .ok blankPage :=
  accept_page blankPage_formed (by decide +kernel) (by decide)

theorem add_blankPage (sites : SiteMap) : addSites orgId sites blankPage = (sites, false) := by
  rw [addSites_eq]
  rfl

/-- The events of a pass that reads blank pages to its limit. -/
def blankEvents (page : Nat) : Nat → MistHistory
  | 0 => []
  | left + 1 =>
      ⟨.executeAs (listOrgSitesRequest orgId page) .standard, ()⟩ ::
        ⟨.response, .ok blankResponse⟩ :: blankEvents (page + 1) left

/-- A pass over blank pages is complete once it may fetch no more. -/
theorem blank_completes (sites : SiteMap) (left page : Nat) (inside : page + left ≤ 65) :
    Completes (discoverOrgPages siteCatalog origin orgId sites page left) (blankEvents page left)
      (sites, .ok .complete) := by
  induction left generalizing page with
  | zero => exact .start _
  | succ left ih =>
      have valid := validate_page List.mem_cons_self (show page < 65 by omega)
      have full : IsFull blankPage := le_of_eq List.length_replicate.symm
      exact discoverOrgPages_continues valid accept_blankPage (add_blankPage sites) full
        (ih (page + 1) (by omega))

end Pages

section Passes

def siteId : String := "44444444-4444-4444-4444-444444444444"

/-- A page with one site. -/
def sitePage : List Json := [.object [("id", .string siteId)]]

theorem sitePage_formed : (Json.array sitePage).wellFormed = true := by
  decide

def siteResponse : MistResponse := pageResponse ⟨.array sitePage, sitePage_formed⟩

theorem accept_sitePage : acceptPage siteCatalog origin siteResponse = .ok sitePage :=
  accept_page sitePage_formed (by decide +kernel) (by decide)

theorem canonicalIds_sitePage : canonicalIds sitePage = [siteId] := by
  decide

theorem add_sitePage (org : String) {sites : SiteMap} (room : sites.size < maxTotalSites) :
    addSites org sites sitePage = (sites.insert siteId org, false) := by
  rw [addSites_eq, canonicalIds_sitePage, addIds, if_neg (by simp [Nat.not_le.mpr room]), addIds]

/-- The events of a pass that reads this page. -/
def siteEvents (org : String) : MistHistory :=
  [⟨.executeAs (listOrgSitesRequest org 1) .standard, ()⟩, ⟨.response, .ok siteResponse⟩]

theorem site_completes {org : String} (known : org ∈ [orgId, otherOrgId]) {sites : SiteMap}
    (room : sites.size < maxTotalSites) :
    Completes (discoverOrgSites siteCatalog origin org sites) (siteEvents org)
      (sites.insert siteId org, .ok .complete) :=
  discoverOrgPages_ends_short (validate_page known (by decide)) accept_sitePage
    (add_sitePage org room) (by unfold IsFull; decide)

theorem fetchedPages_site (org : String) :
    fetchedPages siteCatalog origin (siteEvents org) = [sitePage] :=
  fetchedPages_accepted _ _ _ _ accept_sitePage

/-- The events of a pass whose client fails. -/
def failedEvents (org : String) : MistHistory :=
  [⟨.executeAs (listOrgSitesRequest org 1) .standard, ()⟩,
    ⟨.response, .error .transportUnavailable⟩]

theorem failed_completes {org : String} (known : org ∈ [orgId, otherOrgId]) (sites : SiteMap) :
    Completes (discoverOrgSites siteCatalog origin org sites) (failedEvents org)
      (sites, .error (.mist .transportUnavailable)) :=
  discoverOrgPages_fails (validate_page known (by decide)) .transportUnavailable

end Passes

end RustMist.Network
