import RustMist.Library.Utf8
import RustMist.Proof.Sites.Isolation

/-! When the map of a refresh is accepted. -/

namespace RustMist

open Effects Effects.Program

section Validation

variable {sites : SiteMap} {allowedOrgs : List String}

theorem canonical_of_validateOrgs (valid : validateOrgs allowedOrgs = .ok ()) {orgId : String}
    (member : orgId ∈ allowedOrgs) : isCanonicalUuid orgId = true := by
  by_contra refused
  have error : (MistTarget.org orgId).isOk = false := by
    rw [MistTarget.org, dif_neg refused]
    rfl
  have some' : (allowedOrgs.any fun orgId => !(MistTarget.org orgId).isOk) = true :=
    List.any_eq_true.mpr ⟨orgId, member, by rw [error]; rfl⟩
  rw [validateOrgs, some'] at valid
  simp at valid

theorem isOk_site (siteId : String) : (MistTarget.site siteId).isOk = isCanonicalUuid siteId := by
  cases canonical : isCanonicalUuid siteId <;> simp [MistTarget.site, canonical, Except.isOk, Except.toBool]

theorem isOk_org (orgId : String) : (MistTarget.org orgId).isOk = isCanonicalUuid orgId := by
  cases canonical : isCanonicalUuid orgId <;> simp [MistTarget.org, canonical, Except.isOk, Except.toBool]

/-- An accepted map is within the cap and gives canonical sites to organizations of the
allowlist. -/
theorem validateSites_ok_iff : validateSites sites allowedOrgs = .ok () ↔
    sites.size ≤ maxTotalSites ∧ ∀ siteId orgId, sites.get siteId = some orgId →
      isCanonicalUuid siteId = true ∧ isCanonicalUuid orgId = true ∧ orgId ∈ allowedOrgs := by
  rw [validateSites]
  split
  · rename_i refused
    simp only [reduceCtorEq, false_iff, not_and]
    intro within proper
    rcases Bool.or_eq_true_iff.mp refused with large | wrong
    · exact absurd (of_decide_eq_true large) (Nat.not_lt.mpr within)
    · obtain ⟨⟨siteId, orgId⟩, member, fails⟩ := List.any_eq_true.mp wrong
      obtain ⟨site, org, allowed⟩ := proper siteId orgId (SortedMap.get_of_mem member)
      simp only [isOk_site, isOk_org, site, org, Bool.not_true, Bool.false_or,
        Bool.not_eq_true', List.any_eq_false, decide_eq_true_eq] at fails
      exact fails orgId allowed rfl
  · rename_i passes
    simp only [true_iff]
    rw [Bool.or_eq_true_iff, not_or, decide_eq_true_eq, List.any_eq_true] at passes
    refine ⟨Nat.not_lt.mp passes.1, fun siteId orgId found => ?_⟩
    have sound := fun fails => passes.2 ⟨(siteId, orgId), SortedMap.mem_entries_iff.mpr found, fails⟩
    simpa [isOk_site, isOk_org, and_assoc] using sound

end Validation

section Merge

variable {discovered : SiteDiscovery} {previous : SiteMap}

/-- The sites that a refresh keeps and the sites that it carries over are within the cap. -/
def RefreshFits (discovered : SiteDiscovery) (previous : SiteMap) : Prop :=
  (IndexMap.keys (keptEntries discovered ++ carriedEntries discovered previous)).toFinset.card ≤
    maxTotalSites

theorem isSome_get_iff {entries : List (String × String)} {siteId : String} :
    (IndexMap.get siteId entries).isSome ↔ siteId ∈ IndexMap.keys entries := by
  rw [Option.isSome_iff_ne_none, ne_eq, IndexMap.get_eq_none_iff, not_not]

/-- The merged map has the kept sites and the carried sites. -/
theorem size_mergeRefresh : (mergeRefresh discovered previous).size =
    (IndexMap.keys (keptEntries discovered ++ carriedEntries discovered previous)).toFinset.card := by
  rw [SortedMap.size_eq_card]
  congr 1
  ext siteId
  have kept := get_filter discovered.sites siteId (· ∉ discovered.incompleteOrgs)
  have carried := get_filter previous siteId (· ∈ discovered.incompleteOrgs)
  rw [List.mem_toFinset, List.mem_toFinset, ← SortedMap.contains_iff, SortedMap.contains,
    get_mergeRefresh, ← kept, ← carried, Option.isSome_or, Bool.or_eq_true_iff, isSome_get_iff,
    isSome_get_iff, IndexMap.keys, IndexMap.keys, IndexMap.keys, List.map_append,
    List.mem_append, or_comm]
  rfl

end Merge

section Refreshes

variable [Platform] {catalog : Catalog} {origin : String} {allowedOrgs : List String}

theorem canonical_of_listed {pass : SitePass catalog origin} {siteId : String}
    (listed : siteId ∈ pass.listed) : isCanonicalUuid siteId = true := by
  obtain ⟨page, _, member⟩ := List.mem_flatMap.mp listed
  obtain ⟨site, _, kept⟩ := List.mem_filterMap.mp member
  exact (Option.filter_eq_some_iff.mp kept).2

omit [Platform] in
theorem admittedIds_subset {orgId : String} {sites : SiteMap} {ids : List String} {siteId : String}
    (admits : siteId ∈ admittedIds orgId sites ids) : siteId ∈ ids := by
  induction ids generalizing sites with
  | nil => exact admits
  | cons first rest ih =>
      rw [admittedIds] at admits
      split at admits
      · cases admits
      · rcases List.mem_cons.mp admits with rfl | later
        · exact List.mem_cons_self
        · exact List.mem_cons_of_mem _ (ih later)

/-- A merged map gives canonical sites to organizations of the allowlist. -/
theorem mergeRefresh_proper {discovered : SiteDiscovery} {previous : SiteMap}
    {history : MistHistory} (orgs : validateOrgs allowedOrgs = .ok ())
    (valid : validateSites previous allowedOrgs = .ok ())
    (run : Completes (discoverSites catalog origin allowedOrgs) history discovered)
    (siteId orgId : String) (merged : (mergeRefresh discovered previous).get siteId = some orgId) :
    isCanonicalUuid siteId = true ∧ isCanonicalUuid orgId = true ∧ orgId ∈ allowedOrgs := by
  rcases mergeRefresh_eq_some_iff.mp merged with ⟨known, _⟩ | ⟨_, found, _⟩
  · exact (validateSites_ok_iff.mp valid).2 siteId orgId known
  · obtain ⟨passes, parts⟩ := discoverSites_passes run
    obtain ⟨pass, member, rfl, admits⟩ := parts.deciding found
    have allowed : pass.orgId ∈ allowedOrgs := parts.orgs ▸ List.mem_map_of_mem member
    exact ⟨canonical_of_listed (admittedIds_subset admits),
      canonical_of_validateOrgs orgs allowed, allowed⟩

/-- One round of the refresh loop, with the map before it and what it discovers. -/
structure RefreshRound (catalog : Catalog) (origin : String) (allowedOrgs : List String) where
  before : SiteMap
  history : MistHistory
  discovered : SiteDiscovery
  run : Completes (discoverSites catalog origin allowedOrgs) history discovered

namespace RefreshRound

variable (round : RefreshRound catalog origin allowedOrgs)

/-- The map that the round wants to install. -/
def merged : SiteMap := mergeRefresh round.discovered round.before

def outcome : Except MistServerError Unit × SiteMap :=
  replaceSites round.before round.merged allowedOrgs

/-- The merged map is installed. -/
def IsAccepted : Prop := round.outcome = (.ok (), round.merged)

/-- A round is a run of the refresh. -/
theorem completes :
    Completes (refreshSites catalog origin allowedOrgs round.before) round.history
      round.outcome :=
  (completes_bind_iff _ _ _ _).mpr
    ⟨round.discovered, round.history, [], (List.append_nil _).symm, round.run, .start _⟩

theorem isAccepted_iff :
    round.IsAccepted ↔ validateSites round.merged allowedOrgs = .ok () := by
  rw [IsAccepted, outcome, replaceSites]
  cases validateSites round.merged allowedOrgs <;> simp

/-- A round leaves a map that is accepted. -/
theorem outcome_valid (valid : validateSites round.before allowedOrgs = .ok ()) :
    validateSites round.outcome.2 allowedOrgs = .ok () := by
  rw [outcome, replaceSites]
  cases judged : validateSites round.merged allowedOrgs with
  | error error => exact valid
  | ok _ => exact judged

/-- Only the size of the merged map can stand against it. -/
theorem accepted_iff_fits (orgs : validateOrgs allowedOrgs = .ok ())
    (valid : validateSites round.before allowedOrgs = .ok ()) :
    round.IsAccepted ↔ RefreshFits round.discovered round.before := by
  rw [isAccepted_iff, validateSites_ok_iff, merged, size_mergeRefresh]
  exact and_iff_left (mergeRefresh_proper orgs valid round.run)

end RefreshRound

/-- Each round starts with the map that the round before it has left. -/
inductive Refreshed : SiteMap → List (RefreshRound catalog origin allowedOrgs) → SiteMap → Prop where
  | nil (sites : SiteMap) : Refreshed sites [] sites
  | cons (round : RefreshRound catalog origin allowedOrgs)
      {rest : List (RefreshRound catalog origin allowedOrgs)} {final : SiteMap}
      (later : Refreshed round.outcome.2 rest final) :
      Refreshed round.before (round :: rest) final

/-- The map before every round of a run is accepted. -/
theorem Refreshed.before_valid {start final : SiteMap}
    {rounds : List (RefreshRound catalog origin allowedOrgs)}
    (refreshed : Refreshed start rounds final)
    (valid : validateSites start allowedOrgs = .ok ()) :
    ∀ round ∈ rounds, validateSites round.before allowedOrgs = .ok () := by
  induction refreshed with
  | nil => simp
  | cons round later ih =>
      intro other member
      rcases List.mem_cons.mp member with rfl | behind
      · exact valid
      · exact ih (round.outcome_valid valid) other behind

/-- In every run of the refresh loop, a round is accepted exactly when the sites that it keeps and
the sites that it carries over fit the cap together. -/
theorem refresh_accepted_iff (catalog : Catalog) (origin : String) (allowedOrgs : List String)
    (start final : SiteMap) (rounds : List (RefreshRound catalog origin allowedOrgs))
    (orgs : validateOrgs allowedOrgs = .ok ()) (valid : validateSites start allowedOrgs = .ok ())
    (refreshed : Refreshed start rounds final) :
    ∀ round ∈ rounds, round.IsAccepted ↔ RefreshFits round.discovered round.before :=
  fun round member => round.accepted_iff_fits orgs (refreshed.before_valid valid round member)

end Refreshes

end RustMist

namespace RustMist.Network

open Effects Effects.Program

section Full

/-- The numbered sites differ in the digits at the end of their identifiers. -/
def digitsOf (number : Nat) : List Char :=
  (List.range 12).map fun index => if number.testBit index then '1' else '0'

/-- The groups before the last one, without their first letter. -/
def shelfGroups : List Char := "2222222-2222-2222-2222-".toList

def numberedSite (number : Nat) : String := String.ofList ('2' :: shelfGroups ++ digitsOf number)

theorem mem_digitsOf {number : Nat} {digit : Char} (member : digit ∈ digitsOf number) :
    digit = '0' ∨ digit = '1' := by
  obtain ⟨index, _, rfl⟩ := List.mem_map.mp member
  split <;> simp

theorem digitsOf_injective {first second : Nat} (small : first < 2 ^ 12) (small' : second < 2 ^ 12)
    (same : digitsOf first = digitsOf second) : first = second := by
  apply Nat.eq_of_testBit_eq
  intro index
  by_cases inside : index < 12
  · have equal := List.map_inj_left.mp same index (List.mem_range.mpr inside)
    cases bit : first.testBit index <;> cases bit' : second.testBit index <;>
      simp [bit, bit'] at equal <;> rfl
  · have large : 2 ^ 12 ≤ 2 ^ index := Nat.pow_le_pow_right (by decide) (Nat.not_lt.mp inside)
    rw [Nat.testBit_lt_two_pow (lt_of_lt_of_le small large),
      Nat.testBit_lt_two_pow (lt_of_lt_of_le small' large)]

/-- A scan that has seen a nonzero digit goes over a text part by part. -/
theorem scan_append {front rest : List Char} {index : Nat} :
    isCanonicalUuidFrom index true (front ++ rest) =
      (isCanonicalUuidFrom index true front &&
        isCanonicalUuidFrom (index + front.length) true rest) := by
  induction front generalizing index with
  | nil => simp [isCanonicalUuidFrom]
  | cons letter front ih =>
      have next : index + (letter :: front).length = index + 1 + front.length := by
        rw [List.length_cons]
        omega
      rw [List.cons_append, isCanonicalUuidFrom, isCanonicalUuidFrom, Bool.true_or, ih, next]
      split
      · split <;> simp
      · split <;> simp

/-- The scan of the last group passes over the digits. -/
theorem scan_digits {digits : List Char} (binary : ∀ digit ∈ digits, digit = '0' ∨ digit = '1')
    {index : Nat} (last : 24 ≤ index) : isCanonicalUuidFrom index true digits = true := by
  induction digits generalizing index with
  | nil => rfl
  | cons digit rest ih =>
      have later := ih (fun other member => binary other (List.mem_cons_of_mem _ member))
        (show 24 ≤ index + 1 by omega)
      rw [isCanonicalUuidFrom, if_neg (by omega)]
      rcases binary digit List.mem_cons_self with rfl | rfl
      · simpa using later
      · simpa using later

theorem shelfGroups_small : shelfGroups.all (fun letter => letter.val ≤ 127) = true := by
  decide +kernel

theorem scan_shelfGroups : isCanonicalUuidFrom 1 true shelfGroups = true := by
  decide +kernel

theorem length_shelfGroups : shelfGroups.length = 23 := by
  decide +kernel

theorem small_numberedSite (number : Nat) :
    ∀ letter ∈ '2' :: shelfGroups ++ digitsOf number, letter.val ≤ 127 := by
  intro letter member
  rcases List.mem_append.mp member with front | back
  · rcases List.mem_cons.mp front with rfl | group
    · decide
    · exact of_decide_eq_true (List.all_eq_true.mp shelfGroups_small letter group)
  · rcases mem_digitsOf back with rfl | rfl <;> decide

theorem canonical_numberedSite (number : Nat) : isCanonicalUuid (numberedSite number) = true := by
  have first : isCanonicalUuidFrom 0 false ('2' :: shelfGroups ++ digitsOf number) =
      isCanonicalUuidFrom 1 true (shelfGroups ++ digitsOf number) := by
    rw [List.cons_append, isCanonicalUuidFrom]
    simp
  have scanned : isCanonicalUuidFrom 0 false ('2' :: shelfGroups ++ digitsOf number) = true := by
    rw [first, scan_append, scan_shelfGroups, length_shelfGroups,
      scan_digits (fun _ => mem_digitsOf) (by decide)]
    rfl
  have size : ('2' :: shelfGroups ++ digitsOf number).length = 36 := by
    rw [List.length_append, List.length_cons, length_shelfGroups, digitsOf, List.length_map,
      List.length_range]
  rw [isCanonicalUuid, numberedSite, Utf8.byteSize_ofList_of_small (small_numberedSite number),
    String.toList_ofList, scanned, size]
  rfl

theorem numberedSite_injective {first second : Nat} (small : first < 2 ^ 12)
    (small' : second < 2 ^ 12) (same : numberedSite first = numberedSite second) :
    first = second := by
  have letters := congrArg String.toList same
  rw [numberedSite, numberedSite, String.toList_ofList, String.toList_ofList] at letters
  exact digitsOf_injective small small' (List.append_cancel_left letters)

theorem siteId_ne_numberedSite (number : Nat) : siteId ≠ numberedSite number := by
  intro same
  have first := congrArg (fun text => text.toList.head?) same
  simp [numberedSite, siteId] at first

section Numbered

variable {count : Nat}

def numberedSites (count : Nat) : List String := (List.range count).map numberedSite

theorem nodup_numberedSites (small : count ≤ 2 ^ 12) : (numberedSites count).Nodup := by
  apply List.nodup_range.map_on
  intro first member second member' same
  have below := List.mem_range.mp member
  have below' := List.mem_range.mp member'
  exact numberedSite_injective (by omega) (by omega) same

/-- A map of this many sites of the second organization. -/
def shelfSites (count : Nat) : SiteMap :=
  SortedMap.ofList ((numberedSites count).map fun siteId => (siteId, otherOrgId))

theorem get_shelfSites (small : count ≤ 2 ^ 12) (siteId : String) :
    (shelfSites count).get siteId =
      if siteId ∈ numberedSites count then some otherOrgId else none := by
  have keys : IndexMap.keys ((numberedSites count).map fun siteId => (siteId, otherOrgId)) =
      numberedSites count := by
    rw [IndexMap.keys, List.map_map]
    exact List.map_id _
  have distinct : (IndexMap.keys
      ((numberedSites count).map fun siteId => (siteId, otherOrgId))).Nodup := by
    rw [keys]
    exact nodup_numberedSites small
  rw [shelfSites, SortedMap.ofList, SortedMap.get_foldl_insert _ _ distinct,
    show SortedMap.empty.get siteId = (none : Option String) from rfl, Option.or_none]
  split
  · rename_i member
    exact IndexMap.get_of_mem distinct (List.mem_map_of_mem member)
  · rename_i absent
    rw [IndexMap.get_eq_none_iff, keys]
    exact absent

theorem keys_shelfSites (small : count ≤ 2 ^ 12) :
    (shelfSites count).keys.toFinset = (numberedSites count).toFinset := by
  ext siteId
  rw [List.mem_toFinset, List.mem_toFinset, ← SortedMap.contains_iff, SortedMap.contains,
    get_shelfSites small]
  split <;> simp_all

theorem size_shelfSites (small : count ≤ 2 ^ 12) : (shelfSites count).size = count := by
  rw [SortedMap.size_eq_card, keys_shelfSites small,
    List.toFinset_card_of_nodup (nodup_numberedSites small), numberedSites, List.length_map,
    List.length_range]

theorem shelfSites_valid (small : count ≤ 2 ^ 12) (within : count ≤ maxTotalSites) :
    validateSites (shelfSites count) movedOrgs = .ok () := by
  have canonical : isCanonicalUuid otherOrgId = true := by decide +kernel
  rw [validateSites_ok_iff, size_shelfSites small]
  refine ⟨within, fun siteId orgId found => ?_⟩
  rw [get_shelfSites small] at found
  split at found
  · rename_i member
    obtain ⟨number, _, rfl⟩ := List.mem_map.mp member
    obtain rfl := Option.some.inj found
    exact ⟨canonical_numberedSite number, canonical, List.mem_cons_of_mem _ List.mem_cons_self⟩
  · cases found

/-- The new site of the first organization and the sites of the failed one are all in the merged
map. -/
theorem shelfSites_fit_iff (small : count ≤ 2 ^ 12) :
    RefreshFits movedDiscovery (shelfSites count) ↔ count + 1 ≤ maxTotalSites := by
  have kept : keptEntries movedDiscovery = [(siteId, orgId)] := by decide +kernel
  have carried : carriedEntries movedDiscovery (shelfSites count) = (shelfSites count).entries := by
    apply List.filter_eq_self.mpr
    intro entry member
    have found := SortedMap.get_of_mem
      (show (entry.1, entry.2) ∈ (shelfSites count).entries from member)
    rw [get_shelfSites small] at found
    split at found
    · rw [← Option.some.inj found]
      decide +kernel
    · cases found
  have new : siteId ∉ (shelfSites count).keys.toFinset := by
    rw [keys_shelfSites small, List.mem_toFinset]
    intro member
    obtain ⟨number, _, same⟩ := List.mem_map.mp member
    exact siteId_ne_numberedSite number same.symm
  have all : (IndexMap.keys (keptEntries movedDiscovery ++
      carriedEntries movedDiscovery (shelfSites count))).toFinset =
        insert siteId (shelfSites count).keys.toFinset := by
    rw [kept, carried]
    exact List.toFinset_cons
  rw [RefreshFits, all, Finset.card_insert_of_notMem new, ← SortedMap.size_eq_card,
    size_shelfSites small]

end Numbered

theorem movedOrgs_valid : validateOrgs movedOrgs = .ok () := by
  decide +kernel

/-- The round in which one organization has a new site and the other one, whose sites are these,
fails. -/
def shelfRound (count : Nat) : RefreshRound siteCatalog origin movedOrgs where
  before := shelfSites count
  history := movedEvents
  discovered := movedDiscovery
  run := moved_completes

theorem shelfRound_accepted_iff {count : Nat} (small : count ≤ 2 ^ 12)
    (within : count ≤ maxTotalSites) :
    (shelfRound count).IsAccepted ↔ count + 1 ≤ maxTotalSites :=
  ((shelfRound count).accepted_iff_fits movedOrgs_valid (shelfSites_valid small within)).trans
    (shelfSites_fit_iff small)

theorem shelf_merged_valid_iff {count : Nat} (small : count ≤ 2 ^ 12)
    (within : count ≤ maxTotalSites) :
    validateSites (mergeRefresh movedDiscovery (shelfSites count)) movedOrgs = .ok () ↔
      count + 1 ≤ maxTotalSites :=
  (shelfRound count).isAccepted_iff.symm.trans (shelfRound_accepted_iff small within)

/-- A refresh of a full map with a discovery that the client's answers admit is refused. -/
theorem full_refresh_refused :
    Catalog.fromJson (serdeToString (paddedDocument siteOperations).toJson) = .ok siteCatalog ∧
      validateOrgs movedOrgs = .ok () ∧ validateSites (shelfSites 4096) movedOrgs = .ok () ∧
      Completes (discoverSites siteCatalog origin movedOrgs) movedEvents movedDiscovery ∧
      validateSites (mergeRefresh movedDiscovery (shelfSites 4096)) movedOrgs ≠ .ok () ∧
      ¬(shelfRound 4096).IsAccepted := by
  have small : 4096 ≤ 2 ^ 12 := by omega
  have within : 4096 ≤ maxTotalSites := by unfold maxTotalSites; omega
  have full : ¬4096 + 1 ≤ maxTotalSites := by unfold maxTotalSites; omega
  refine ⟨siteCatalog_accepted, movedOrgs_valid, shelfSites_valid small within, moved_completes,
    ?_, ?_⟩
  · rw [ne_eq, shelf_merged_valid_iff small within]
    exact full
  · rw [shelfRound_accepted_iff small within]
    exact full

/-- A run of one round over a map with room is judged by its size. -/
theorem refresh_accepted_iff_shelf :
    (shelfRound 1).IsAccepted ↔ RefreshFits (shelfRound 1).discovered (shelfRound 1).before :=
  refresh_accepted_iff siteCatalog origin movedOrgs (shelfSites 1) (shelfRound 1).outcome.2
    [shelfRound 1] movedOrgs_valid (shelfSites_valid (by decide) (by decide))
    (.cons (shelfRound 1) (.nil _)) (shelfRound 1) List.mem_cons_self

end Full

end RustMist.Network
