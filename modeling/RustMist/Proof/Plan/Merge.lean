import RustMist.Library.Json.MergePatch
import RustMist.Construction.Server.WanWrite

/-! What the merge of an accepted patch keeps and what it changes. -/

namespace RustMist

open Json (Step)

section Lookup

/-- This is the member that a patch member leaves for its key. -/
def mergedMember (existing : Option Json) (value : Json) : Option Json :=
  if value.isNull then none
  else
    match existing with
    | some existing => some (mergePatch existing value)
    | none => some value

theorem mergedMember_null (existing : Option Json) : mergedMember existing .null = none := rfl

theorem mergedMember_existing (existing : Json) {value : Json} (kept : value.isNull = false) :
    mergedMember (some existing) value = some (mergePatch existing value) := by
  rw [mergedMember, kept]
  rfl

theorem mergedMember_new {value : Json} (kept : value.isNull = false) :
    mergedMember none value = some value := by
  rw [mergedMember, kept]
  rfl

theorem isNull_eq_true_iff {value : Json} : value.isNull = true ↔ value = .null := by
  cases value <;> simp [Json.isNull]

theorem get_mergeMember {merged : List (String × Json)} (member : String × Json) (key : String)
    (distinct : (IndexMap.keys merged).Nodup) :
    IndexMap.get key (mergeMember merged member) =
      if key = member.1 then mergedMember (IndexMap.get member.1 merged) member.2
      else IndexMap.get key merged := by
  obtain ⟨name, value⟩ := member
  unfold mergedMember
  rw [mergeMember_eq]
  cases value.isNull with
  | true =>
      rw [if_pos rfl, if_pos rfl, IndexMap.get_swapRemove key distinct]
  | false =>
      rw [if_neg Bool.false_ne_true, if_neg Bool.false_ne_true]
      cases IndexMap.get name merged with
      | none => rw [IndexMap.get_insert]
      | some existing => rw [IndexMap.get_insert]

theorem keys_mergeMember_nodup {merged : List (String × Json)} (member : String × Json)
    (distinct : (IndexMap.keys merged).Nodup) :
    (IndexMap.keys (mergeMember merged member)).Nodup := by
  obtain ⟨name, value⟩ := member
  rw [mergeMember_eq]
  split
  · exact IndexMap.nodup_swapRemove distinct
  · split <;> exact IndexMap.nodup_insert distinct

/-- A merged object has at each key what the patch member leaves there. -/
theorem get_mergeMembers {merged patchMap : List (String × Json)} (key : String)
    (distinct : (IndexMap.keys merged).Nodup) (patchDistinct : (IndexMap.keys patchMap).Nodup) :
    IndexMap.get key (mergeMembers merged patchMap) =
      match IndexMap.get key patchMap with
      | none => IndexMap.get key merged
      | some value => mergedMember (IndexMap.get key merged) value := by
  induction patchMap generalizing merged with
  | nil => rfl
  | cons member rest ih =>
      rw [IndexMap.keys_cons, List.nodup_cons] at patchDistinct
      rw [mergeMembers, ih (keys_mergeMember_nodup member distinct) patchDistinct.2,
        get_mergeMember member key distinct, IndexMap.get_cons]
      by_cases same : key = member.1
      · subst same
        rw [if_pos rfl, if_pos rfl, IndexMap.get_eq_none_iff.mpr patchDistinct.1]
      · rw [if_neg same, if_neg (Ne.symm same)]

theorem get_mergePatch {before : Json} {patchMap : List (String × Json)} (key : String)
    (formed : before.wellFormed = true) (patchFormed : (Json.object patchMap).wellFormed = true) :
    (mergePatch before (.object patchMap)).get key =
      match IndexMap.get key patchMap with
      | none => before.get key
      | some value => mergedMember (before.get key) value := by
  rw [mergePatch, Json.get_object]
  exact get_mergeMembers key (Json.keys_members_nodup formed)
    (Json.keys_members_nodup patchFormed)

theorem mergePatch_of_not_object (before : Json) {patch : Json} (plain : patch.isObject = false) :
    mergePatch before patch = patch := by
  cases patch with
  | object members => cases plain
  | _ => rfl

/-- The value at a key of a merge comes from the old object, from the patch or from both. -/
theorem child_mergePatch_cases {before : Json} {patchMap : List (String × Json)} (key : String)
    (formed : before.wellFormed = true) (patchFormed : (Json.object patchMap).wellFormed = true) :
    (IndexMap.get key patchMap = none ∧
      (mergePatch before (.object patchMap)).get key = before.get key) ∨
    (IndexMap.get key patchMap = some .null ∧
      (mergePatch before (.object patchMap)).get key = none) ∨
    (∃ existing value, IndexMap.get key patchMap = some value ∧ value.isNull = false ∧
      before.get key = some existing ∧
      (mergePatch before (.object patchMap)).get key = some (mergePatch existing value)) ∨
    ∃ value, IndexMap.get key patchMap = some value ∧ value.isNull = false ∧
      before.get key = none ∧ (mergePatch before (.object patchMap)).get key = some value := by
  have lookup := get_mergePatch key formed patchFormed
  cases found : IndexMap.get key patchMap with
  | none =>
      rw [found] at lookup
      exact .inl ⟨rfl, lookup⟩
  | some value =>
      rw [found] at lookup
      dsimp only at lookup
      cases null : value.isNull with
      | true =>
          rw [isNull_eq_true_iff] at null
          subst null
          exact .inr (.inl ⟨rfl, lookup⟩)
      | false =>
          cases present : before.get key with
          | none =>
              rw [present, mergedMember_new null] at lookup
              exact .inr (.inr (.inr ⟨value, rfl, null, rfl, lookup⟩))
          | some existing =>
              rw [present, mergedMember_existing existing null] at lookup
              exact .inr (.inr (.inl ⟨existing, value, rfl, null, rfl, lookup⟩))

end Lookup

section Guards

theorem rejectPlaceholderItems_eq_ok_iff (values : List Json) :
    rejectPlaceholderItems values = .ok () ↔
      ∀ value ∈ values, rejectRedactionPlaceholder value = .ok () := by
  induction values with
  | nil => simp [rejectPlaceholderItems]
  | cons value rest ih =>
      rw [rejectPlaceholderItems, List.forall_mem_cons, ← ih]
      cases rejectRedactionPlaceholder value <;> simp

theorem rejectPlaceholderMembers_eq_ok_iff (map : List (String × Json)) :
    rejectPlaceholderMembers map = .ok () ↔
      ∀ member ∈ map, rejectRedactionPlaceholder member.2 = .ok () := by
  induction map with
  | nil => simp [rejectPlaceholderMembers]
  | cons member rest ih =>
      rw [rejectPlaceholderMembers, List.forall_mem_cons, ← ih, rejectPlaceholderMember]
      cases rejectRedactionPlaceholder member.2 <;> simp

/-- An accepted patch has accepted parts. -/
theorem rejectPlaceholder_child {patch value : Json} {step : Step}
    (accepted : rejectRedactionPlaceholder patch = .ok ())
    (found : patch.child step = some value) : rejectRedactionPlaceholder value = .ok () := by
  cases step with
  | key name =>
      cases patch with
      | object map =>
          rw [rejectRedactionPlaceholder, rejectPlaceholderMembers_eq_ok_iff] at accepted
          exact accepted (name, value) (IndexMap.mem_of_get found)
      | _ => cases found
  | index position =>
      cases patch with
      | array values =>
          rw [rejectRedactionPlaceholder, rejectPlaceholderItems_eq_ok_iff] at accepted
          exact accepted value (List.mem_of_getElem? found)
      | _ => cases found

/-- No text of an accepted patch contains the placeholder. -/
theorem rejectPlaceholder_text {patch : Json} {path : List Step} {text : String}
    (accepted : rejectRedactionPlaceholder patch = .ok ())
    (found : patch.valueAt path = some (.string text)) :
    containsText redactionPlaceholder text = false := by
  induction path generalizing patch with
  | nil =>
      obtain rfl : patch = .string text := Option.some.inj found
      rw [rejectRedactionPlaceholder] at accepted
      split at accepted
      · cases accepted
      · rename_i clean
        exact Bool.eq_false_of_not_eq_true clean
  | cons step rest ih =>
      obtain ⟨value, child, below⟩ := Option.bind_eq_some_iff.mp found
      exact ih (rejectPlaceholder_child accepted child) below

theorem rejectAuthorityItems_eq_ok_iff (values : List Json) :
    rejectAuthorityItems values = .ok () ↔
      ∀ value ∈ values, rejectConfigAuthority value = .ok () := by
  induction values with
  | nil => simp [rejectAuthorityItems]
  | cons value rest ih =>
      rw [rejectAuthorityItems, List.forall_mem_cons, ← ih]
      cases rejectConfigAuthority value <;> simp

theorem rejectAuthorityMembers_eq_ok_iff (map : List (String × Json)) :
    rejectAuthorityMembers map = .ok () ↔
      ∀ member ∈ map, rejectConfigAuthority member.2 = .ok () := by
  induction map with
  | nil => simp [rejectAuthorityMembers]
  | cons member rest ih =>
      rw [rejectAuthorityMembers, List.forall_mem_cons, ← ih, rejectAuthorityMember]
      cases rejectConfigAuthority member.2 <;> simp

theorem rejectAuthority_object_iff (map : List (String × Json)) :
    rejectConfigAuthority (.object map) = .ok () ↔
      "mist_configured" ∉ IndexMap.keys map ∧
        ∀ member ∈ map, rejectConfigAuthority member.2 = .ok () := by
  rw [rejectConfigAuthority, ← rejectAuthorityMembers_eq_ok_iff]
  split
  · rename_i present
    simp [present]
  · rename_i absent
    simp [absent]

theorem rejectAuthority_child {patch value : Json} {step : Step}
    (accepted : rejectConfigAuthority patch = .ok ())
    (found : patch.child step = some value) : rejectConfigAuthority value = .ok () := by
  cases step with
  | key name =>
      cases patch with
      | object map =>
          exact ((rejectAuthority_object_iff map).mp accepted).2 (name, value)
            (IndexMap.mem_of_get found)
      | _ => cases found
  | index position =>
      cases patch with
      | array values =>
          rw [rejectConfigAuthority, rejectAuthorityItems_eq_ok_iff] at accepted
          exact accepted value (List.mem_of_getElem? found)
      | _ => cases found

/-- This is the path of the authority member of the object at a path. -/
def authorityPath (path : List Step) : List Step := path ++ [.key "mist_configured"]

theorem authorityPath_cons (step : Step) (rest : List Step) :
    authorityPath (step :: rest) = step :: authorityPath rest := rfl

theorem append_authorityPath (taken rest : List Step) :
    taken ++ authorityPath rest = authorityPath (taken ++ rest) :=
  (List.append_assoc taken rest _).symm

/-- No object of an accepted patch has an authority member. -/
theorem rejectAuthority_none {patch : Json} (path : List Step)
    (accepted : rejectConfigAuthority patch = .ok ()) :
    patch.valueAt (authorityPath path) = none := by
  induction path generalizing patch with
  | nil =>
      cases patch with
      | object map =>
          have absent := ((rejectAuthority_object_iff map).mp accepted).1
          change (IndexMap.get "mist_configured" map).bind _ = none
          rw [IndexMap.get_eq_none_iff.mpr absent, Option.bind_none]
      | _ => rfl
  | cons step rest ih =>
      rw [authorityPath_cons, Json.valueAt_cons]
      cases found : patch.child step with
      | none => rfl
      | some value => exact ih (rejectAuthority_child accepted found)

end Guards

section Placeholder

/-- A text of the merge that contains the placeholder stands unchanged in the old object. -/
theorem placeholder_from_before {before patch : Json} {path : List Step} {text : String}
    (formed : before.wellFormed = true) (patchFormed : patch.wellFormed = true)
    (accepted : rejectRedactionPlaceholder patch = .ok ())
    (found : (mergePatch before patch).valueAt path = some (.string text))
    (marked : containsText redactionPlaceholder text = true) :
    before.valueAt path = some (.string text) := by
  induction path generalizing before patch with
  | nil =>
      -- an object patch gives an object, so the text is the patch itself
      cases patch with
      | object patchMap => rw [mergePatch] at found; cases found
      | _ => exact absurd marked (by simp [rejectPlaceholder_text accepted found])
  | cons step rest ih =>
      cases patch with
      | object patchMap =>
          cases step with
          | index position => rw [mergePatch] at found; cases found
          | key name =>
              obtain ⟨value, child, below⟩ := Option.bind_eq_some_iff.mp found
              change (mergePatch before (.object patchMap)).get name = some value at child
              rw [Json.valueAt_cons]
              change (before.get name).bind _ = _
              rcases child_mergePatch_cases name formed patchFormed with
                ⟨_, same⟩ | ⟨_, gone⟩ | ⟨existing, replacement, inPatch, _, old, merged⟩ |
                ⟨replacement, inPatch, _, _, merged⟩
              · rw [← same, child]
                exact below
              · rw [gone] at child
                cases child
              · obtain rfl := Option.some.inj (merged.symm.trans child)
                have inside : (Json.object patchMap).child (.key name) = some replacement := inPatch
                rw [old]
                exact ih (Json.wellFormed_of_get formed old)
                  (Json.wellFormed_of_child patchFormed inside)
                  (rejectPlaceholder_child accepted inside) below
              · obtain rfl := Option.some.inj (merged.symm.trans child)
                have inside : (Json.object patchMap).child (.key name) = some replacement := inPatch
                have clean := rejectPlaceholder_text (rejectPlaceholder_child accepted inside) below
                rw [clean] at marked
                cases marked
      | _ => exact absurd marked (by simp [rejectPlaceholder_text accepted found])

/-- No merge of an accepted patch writes a placeholder that the old object lacks. -/
theorem merge_writes_no_placeholder (before patch : Json.Value)
    (accepted : rejectRedactionPlaceholder patch.val = .ok ()) :
    ∀ (path : List Step) (text : String),
      (mergePatch before.val patch.val).valueAt path = some (.string text) →
      containsText redactionPlaceholder text = true →
      before.val.valueAt path = some (.string text) := by
  intro path text found marked
  exact placeholder_from_before before.property patch.property accepted found marked

/-- A stored placeholder survives the patch of another member. -/
theorem merge_writes_no_placeholder_stored :
    (Json.object [("psk", .string "[REDACTED]"), ("name", .string "lan")]).valueAt [.key "psk"] =
      some (.string "[REDACTED]") :=
  merge_writes_no_placeholder
    ⟨.object [("psk", .string "[REDACTED]"), ("name", .string "lan")], by decide⟩
    ⟨.object [("name", .string "wan")], by decide⟩ (by decide) [.key "psk"] "[REDACTED]" rfl
    (by decide)

end Placeholder

section Authority

/-- Above each authority member of the old object the patch has only objects, and they meet
objects. -/
def KeepsAuthority (before patch : Json) : Prop :=
  ∀ taken rest, (before.valueAt (taken ++ authorityPath rest)).isSome = true →
    ∀ replacement, patch.valueAt taken = some replacement →
      replacement.isObject = true ∧ (before.valueAt taken).any Json.isObject = true

theorem KeepsAuthority.patch_object {before patch : Json} (path : List Step)
    (keeps : KeepsAuthority before patch)
    (present : (before.valueAt (authorityPath path)).isSome = true) :
    patch.isObject = true ∧ before.isObject = true :=
  keeps [] path present patch rfl

theorem KeepsAuthority.child {before patch existing replacement : Json} {name : String}
    (keeps : KeepsAuthority before patch) (old : before.get name = some existing)
    (inside : patch.get name = some replacement) : KeepsAuthority existing replacement := by
  intro taken rest present below found
  have lift (path : List Step) :
      before.valueAt (.key name :: path) = existing.valueAt path := by
    change (before.get name).bind _ = _
    rw [old, Option.bind_some]
  have here := keeps (.key name :: taken) rest
  rw [List.cons_append, lift, lift] at here
  apply here present below
  change (patch.get name).bind _ = _
  rw [inside, Option.bind_some, found]

theorem authority_of_not_object {before patch : Json} (path : List Step)
    (object : patch.isObject = false) (accepted : rejectConfigAuthority patch = .ok ())
    (keeps : KeepsAuthority before patch) :
    (mergePatch before patch).valueAt (authorityPath path) =
      before.valueAt (authorityPath path) := by
  rw [mergePatch_of_not_object before object, rejectAuthority_none path accepted]
  cases present : before.valueAt (authorityPath path) with
  | none => rfl
  | some value =>
      have both := keeps.patch_object path (by rw [present]; rfl)
      rw [object] at both
      cases both.1

/-- A patch that keeps the authority members leaves each of them in its place. -/
theorem authority_of_keeps {before patch : Json} (path : List Step)
    (formed : before.wellFormed = true) (patchFormed : patch.wellFormed = true)
    (accepted : rejectConfigAuthority patch = .ok ()) (keeps : KeepsAuthority before patch) :
    (mergePatch before patch).valueAt (authorityPath path) =
      before.valueAt (authorityPath path) := by
  induction path generalizing before patch with
  | nil =>
      cases patch with
      | object patchMap =>
          have absent := ((rejectAuthority_object_iff patchMap).mp accepted).1
          change ((mergePatch before (.object patchMap)).get "mist_configured").bind _ =
            (before.get "mist_configured").bind _
          rw [get_mergePatch _ formed patchFormed, IndexMap.get_eq_none_iff.mpr absent]
      | _ => exact authority_of_not_object [] rfl accepted keeps
  | cons step rest ih =>
      cases patch with
      | object patchMap =>
          cases step with
          | index position =>
              -- the merge is an object, so the old value must not be an array that holds one
              change none = before.valueAt (authorityPath (.index position :: rest))
              cases present : before.valueAt (authorityPath (.index position :: rest)) with
              | none => rfl
              | some value =>
                  have both := keeps.patch_object (.index position :: rest)
                    (by rw [present]; rfl)
                  cases before with
                  | object members => cases present
                  | _ => cases both.2
          | key name =>
              change ((mergePatch before (.object patchMap)).get name).bind _ =
                (before.get name).bind _
              rcases child_mergePatch_cases name formed patchFormed with
                ⟨_, same⟩ | ⟨inPatch, gone⟩ | ⟨existing, replacement, inPatch, _, old, merged⟩ |
                ⟨replacement, inPatch, _, old, merged⟩
              · rw [same]
              · rw [gone, Option.bind_none]
                have cut : (Json.object patchMap).valueAt [.key name] = some .null := by
                  change (IndexMap.get name patchMap).bind _ = _
                  rw [inPatch]
                  rfl
                cases present : before.valueAt (authorityPath (.key name :: rest)) with
                | none => exact present.symm
                | some value =>
                    have both := keeps [.key name] rest (by
                      rw [append_authorityPath]
                      exact Option.isSome_of_eq_some present) .null cut
                    cases both.1
              · have inside : (Json.object patchMap).child (.key name) = some replacement := inPatch
                rw [merged, old]
                exact ih (Json.wellFormed_of_get formed old)
                  (Json.wellFormed_of_child patchFormed inside)
                  (rejectAuthority_child accepted inside) (keeps.child old inPatch)
              · have inside : (Json.object patchMap).child (.key name) = some replacement := inPatch
                rw [merged, old]
                exact rejectAuthority_none rest (rejectAuthority_child accepted inside)
      | _ => exact authority_of_not_object (step :: rest) rfl accepted keeps

/-- An authority member that a merge keeps stands below objects that meet objects. -/
theorem keeps_of_authority {before patch replacement : Json} (taken rest : List Step)
    (formed : before.wellFormed = true) (patchFormed : patch.wellFormed = true)
    (accepted : rejectConfigAuthority patch = .ok ())
    (old : (before.valueAt (taken ++ authorityPath rest)).isSome = true)
    (kept : ((mergePatch before patch).valueAt (taken ++ authorityPath rest)).isSome = true)
    (found : patch.valueAt taken = some replacement) :
    replacement.isObject = true ∧ (before.valueAt taken).any Json.isObject = true := by
  induction taken generalizing before patch with
  | nil =>
      obtain rfl : patch = replacement := Option.some.inj found
      cases patch with
      | object patchMap =>
          refine ⟨rfl, ?_⟩
          rw [List.nil_append] at kept old
          -- a step into the merge is a key, so the old value is an object as well
          have object : before.isObject = true := by
            cases rest with
            | nil =>
                cases before with
                | object members => rfl
                | _ => cases old
            | cons step rest =>
                cases step with
                | index position => cases kept
                | key name =>
                    cases before with
                    | object members => rfl
                    | _ => cases old
          exact object
      | _ =>
          rw [mergePatch_of_not_object before rfl, List.nil_append,
            rejectAuthority_none rest accepted] at kept
          cases kept
  | cons step taken ih =>
      obtain ⟨value, child, below⟩ := Option.bind_eq_some_iff.mp found
      cases patch with
      | object patchMap =>
          cases step with
          | index position => cases child
          | key name =>
              change IndexMap.get name patchMap = some value at child
              have inside : (Json.object patchMap).child (.key name) = some value := child
              change ((before.get name).bind _).isSome = true at old
              change (((mergePatch before (.object patchMap)).get name).bind _).isSome = true
                at kept
              rcases child_mergePatch_cases name formed patchFormed with
                ⟨absent, _⟩ | ⟨_, gone⟩ | ⟨existing, other, inPatch, _, present, merged⟩ |
                ⟨_, _, _, absent, _⟩
              · rw [absent] at child
                cases child
              · rw [gone] at kept
                cases kept
              · obtain rfl := Option.some.inj (inPatch.symm.trans child)
                rw [present, Option.bind_some] at old
                rw [merged, Option.bind_some] at kept
                change _ ∧ ((before.get name).bind _).any Json.isObject = true
                rw [present, Option.bind_some]
                exact ih (Json.wellFormed_of_get formed present)
                  (Json.wellFormed_of_child patchFormed inside)
                  (rejectAuthority_child accepted inside) old kept below
              · rw [absent] at old
                cases old
      | _ =>
          rw [mergePatch_of_not_object before rfl, append_authorityPath,
            rejectAuthority_none _ accepted] at kept
          cases kept

/-- A merge keeps the authority members exactly when the patch meets objects by objects above
each of them. -/
theorem merge_keeps_authority_iff (before patch : Json.Value)
    (accepted : rejectConfigAuthority patch.val = .ok ()) :
    (∀ (path : List Step) (value : Json),
      (mergePatch before.val patch.val).valueAt (authorityPath path) = some value ↔
        before.val.valueAt (authorityPath path) = some value) ↔
      KeepsAuthority before.val patch.val := by
  constructor
  · intro same taken rest old replacement found
    obtain ⟨value, present⟩ := Option.isSome_iff_exists.mp old
    rw [append_authorityPath] at present
    have kept := (same (taken ++ rest) value).mpr present
    rw [← append_authorityPath] at kept
    exact keeps_of_authority taken rest before.property patch.property accepted old
      (Option.isSome_of_eq_some kept) found
  · intro keeps path value
    rw [authority_of_keeps path before.property patch.property accepted keeps]

/-- A patch of another member meets the old object above the switch only. -/
theorem keepsAuthority_sibling :
    KeepsAuthority (.object [("switch", .object [("mist_configured", .bool true)])])
      (.object [("name", .string "lan")]) := by
  intro taken rest old replacement found
  cases taken with
  | nil =>
      obtain rfl := Option.some.inj found
      exact ⟨rfl, rfl⟩
  | cons step taken =>
      cases step with
      | index position => cases found
      | key name =>
          have named : name = "name" := by
            by_contra other
            change (IndexMap.get name [("name", Json.string "lan")]).bind _ = _ at found
            rw [IndexMap.get_cons, if_neg (Ne.symm other)] at found
            cases found
          subst named
          cases old

/-- The patch of another member keeps the authority of a switch. -/
theorem merge_keeps_authority_iff_sibling :
    (mergePatch (.object [("switch", .object [("mist_configured", .bool true)])])
      (.object [("name", .string "lan")])).valueAt (authorityPath [.key "switch"]) =
        some (.bool true) :=
  ((merge_keeps_authority_iff
    ⟨.object [("switch", .object [("mist_configured", .bool true)])], by decide⟩
    ⟨.object [("name", .string "lan")], by decide⟩ (by decide)).mpr keepsAuthority_sibling
    [.key "switch"] (.bool true)).mpr rfl

/-- A patch that deletes a switch also deletes its authority member. -/
theorem merge_deletes_authority :
    ¬ ∀ before patch : Json.Value, rejectConfigAuthority patch.val = .ok () →
      ∀ (path : List Step) (value : Json),
        (mergePatch before.val patch.val).valueAt (authorityPath path) = some value ↔
          before.val.valueAt (authorityPath path) = some value := by
  intro always
  have kept := always
    ⟨.object [("switch", .object [("mist_configured", .bool true)])], by decide⟩
    ⟨.object [("switch", .null)], by decide⟩ (by decide) [.key "switch"] (.bool true)
  have lost := kept.mpr rfl
  cases lost

end Authority

end RustMist
