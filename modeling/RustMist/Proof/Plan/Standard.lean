import RustMist.Proof.Plan.Merge

/-! The merge of a patch against the merge that the standard describes. -/

namespace RustMist

open Json (Step)

section Lookup

theorem get_rfcMerge {target : Json} {members : List (String × Json)} (key : String)
    (formed : target.wellFormed = true) (patchFormed : (Json.object members).wellFormed = true) :
    (Json.rfcMerge target (.object members)).get key =
      match IndexMap.get key members with
      | none => target.get key
      | some value =>
          if value.isNull then none
          else some (Json.rfcMerge (Json.ofOption (target.get key)) value) := by
  rw [Json.rfcMerge, Json.get_object]
  exact Json.get_rfcMembers key (Json.keys_members_nodup formed)
    (Json.keys_members_nodup patchFormed)

theorem sameLookup_refl {json : Json} (key : String) (formed : json.wellFormed = true) :
    Json.SameLookup (json.get key) (json.get key) := by
  cases found : json.get key with
  | none => trivial
  | some value => exact Json.same_refl value (Json.wellFormed_of_get formed found)

end Lookup

section Nulls

/-- The path of a member goes through objects only. -/
def memberPath (names : List String) : List Step := names.map .key

/-- No member of the value is null, at any depth of objects. -/
def NoNullMember (value : Json) : Prop :=
  ∀ names key, value.valueAt (memberPath (names ++ [key])) ≠ some .null

theorem NoNullMember.member {members : List (String × Json)} {key : String} {value : Json}
    (none_null : NoNullMember (.object members)) (found : IndexMap.get key members = some value) :
    value.isNull = false ∧ NoNullMember value := by
  have lift (names : List String) :
      (Json.object members).valueAt (memberPath (key :: names)) =
        value.valueAt (memberPath names) := by
    change (IndexMap.get key members).bind _ = _
    rw [found, Option.bind_some]
    rfl
  constructor
  · have here := none_null [] key
    rw [List.nil_append, lift] at here
    exact Bool.eq_false_of_not_eq_true fun null =>
      here (congrArg some (isNull_eq_true_iff.mp null))
  · intro names other null
    exact none_null (key :: names) other (by rw [List.cons_append, lift, null])

theorem keys_rfcMerge_nodup {target : Json} (members : List (String × Json))
    (formed : target.wellFormed = true) :
    (IndexMap.keys (Json.rfcMerge target (.object members)).members).Nodup := by
  rw [Json.rfcMerge]
  exact Json.keys_rfcMembers_nodup members (Json.keys_members_nodup formed)

/-- A value without null members is what the standard's merge makes of it. -/
theorem same_rfcMerge_null {value : Json} (formed : value.wellFormed = true)
    (none_null : NoNullMember value) : value.same (Json.rfcMerge .null value) = true := by
  induction value using Json.inductionOn with
  | object members ih =>
      apply Json.same_of_get rfl rfl (Json.keys_members_nodup formed)
        (keys_rfcMerge_nodup members rfl)
      intro key
      rw [get_rfcMerge key rfl formed, Json.get_object]
      cases found : IndexMap.get key members with
      | none => trivial
      | some value =>
          obtain ⟨kept, below⟩ := none_null.member found
          have valueFormed : value.wellFormed = true := Json.wellFormed_of_get formed found
          dsimp only
          rw [kept, if_neg Bool.false_ne_true]
          exact ih (key, value) (IndexMap.mem_of_get found) valueFormed below
  | _ => exact Json.same_refl _ formed

/-- A merge of such a value onto itself changes nothing. -/
theorem mergePatch_self_same {value : Json} (formed : value.wellFormed = true)
    (none_null : NoNullMember value) : (mergePatch value value).same value = true := by
  induction value using Json.inductionOn with
  | object members ih =>
      apply Json.same_of_get rfl rfl (Json.keys_members_nodup (mergePatch_wellFormed formed formed))
        (Json.keys_members_nodup formed)
      intro key
      rw [get_mergePatch key formed formed, Json.get_object]
      cases found : IndexMap.get key members with
      | none => trivial
      | some value =>
          obtain ⟨kept, below⟩ := none_null.member found
          have valueFormed : value.wellFormed = true := Json.wellFormed_of_get formed found
          dsimp only
          rw [mergedMember_existing value kept]
          exact ih (key, value) (IndexMap.mem_of_get found) valueFormed below
  | _ => exact Json.same_refl _ formed

end Nulls

section Standard

/-- Each null member of the patch stands below a member that the target has. -/
def NullsReachTarget (target patch : Json) : Prop :=
  ∀ names key, patch.valueAt (memberPath (names ++ [key])) = some .null →
    (target.valueAt (memberPath names)).isSome = true

theorem valueAt_memberPath_cons (json : Json) (key : String) (names : List String) :
    json.valueAt (memberPath (key :: names)) =
      (json.get key).bind fun value => value.valueAt (memberPath names) := rfl

theorem NullsReachTarget.existing {target existing value : Json}
    {members : List (String × Json)} {key : String}
    (reach : NullsReachTarget target (.object members))
    (old : target.get key = some existing) (found : IndexMap.get key members = some value) :
    NullsReachTarget existing value := by
  intro names other null
  have whole := reach (key :: names) other
  rw [List.cons_append, valueAt_memberPath_cons, valueAt_memberPath_cons, Json.get_object, found,
    old] at whole
  exact whole null

theorem NullsReachTarget.new {target value : Json} {members : List (String × Json)} {key : String}
    (reach : NullsReachTarget target (.object members)) (absent : target.get key = none)
    (found : IndexMap.get key members = some value) : NoNullMember value := by
  intro names other null
  have whole := reach (key :: names) other
  rw [List.cons_append, valueAt_memberPath_cons, valueAt_memberPath_cons, Json.get_object, found,
    absent] at whole
  cases whole null

/-- The two merges agree when each null reaches the target. -/
theorem same_rfcMerge_of_reach {target patch : Json} (formed : target.wellFormed = true)
    (patchFormed : patch.wellFormed = true) (reach : NullsReachTarget target patch) :
    (mergePatch target patch).same (Json.rfcMerge target patch) = true := by
  induction patch using Json.inductionOn generalizing target with
  | object members ih =>
      apply Json.same_of_get rfl rfl
        (Json.keys_members_nodup (mergePatch_wellFormed formed patchFormed))
        (keys_rfcMerge_nodup members formed)
      intro key
      rw [get_mergePatch key formed patchFormed, get_rfcMerge key formed patchFormed]
      cases found : IndexMap.get key members with
      | none => exact sameLookup_refl key formed
      | some value =>
          have valueFormed : value.wellFormed = true := Json.wellFormed_of_get patchFormed found
          dsimp only
          cases null : value.isNull with
          | true =>
              rw [if_pos rfl, isNull_eq_true_iff.mp null, mergedMember_null]
              trivial
          | false =>
              rw [if_neg Bool.false_ne_true]
              cases old : target.get key with
              | some existing =>
                  rw [mergedMember_existing existing null]
                  exact ih (key, value) (IndexMap.mem_of_get found)
                    (Json.wellFormed_of_get formed old) valueFormed (reach.existing old found)
              | none =>
                  rw [mergedMember_new null]
                  exact same_rfcMerge_null valueFormed (reach.new old found)
  | _ => exact Json.same_refl _ patchFormed

/-- A second merge of such a patch changes nothing. -/
theorem mergePatch_twice_of_reach {target patch : Json} (formed : target.wellFormed = true)
    (patchFormed : patch.wellFormed = true) (reach : NullsReachTarget target patch) :
    (mergePatch (mergePatch target patch) patch).same (mergePatch target patch) = true := by
  induction patch using Json.inductionOn generalizing target with
  | object members ih =>
      have once := mergePatch_wellFormed formed patchFormed
      apply Json.same_of_get rfl rfl
        (Json.keys_members_nodup (mergePatch_wellFormed once patchFormed))
        (Json.keys_members_nodup once)
      intro key
      have merged := get_mergePatch key formed patchFormed
      rw [get_mergePatch key once patchFormed]
      cases found : IndexMap.get key members with
      | none => exact sameLookup_refl key once
      | some value =>
          have valueFormed : value.wellFormed = true := Json.wellFormed_of_get patchFormed found
          rw [found] at merged
          dsimp only at merged ⊢
          rw [merged]
          cases null : value.isNull with
          | true =>
              rw [isNull_eq_true_iff.mp null, mergedMember_null, mergedMember_null]
              trivial
          | false =>
              cases old : target.get key with
              | some existing =>
                  rw [mergedMember_existing existing null, mergedMember_existing _ null]
                  exact ih (key, value) (IndexMap.mem_of_get found)
                    (Json.wellFormed_of_get formed old) valueFormed (reach.existing old found)
              | none =>
                  rw [mergedMember_new null, mergedMember_existing _ null]
                  exact mergePatch_self_same valueFormed (reach.new old found)
  | _ => exact Json.same_refl _ patchFormed

/-- A null member that reaches the target is deleted from the merge. -/
theorem null_deleted_of_reach {target patch : Json} (names : List String) (key : String)
    (formed : target.wellFormed = true) (patchFormed : patch.wellFormed = true)
    (reach : (target.valueAt (memberPath names)).isSome = true)
    (null : patch.valueAt (memberPath (names ++ [key])) = some .null) :
    (mergePatch target patch).valueAt (memberPath (names ++ [key])) = none := by
  induction names generalizing target patch with
  | nil =>
      cases patch with
      | object members =>
          have found : IndexMap.get key members = some .null := by
            obtain ⟨value, child, rfl⟩ : ∃ value, IndexMap.get key members = some value ∧
                value = .null := by
              obtain ⟨value, child, below⟩ := Option.bind_eq_some_iff.mp null
              exact ⟨value, child, Option.some.inj below⟩
            exact child
          rw [List.nil_append, valueAt_memberPath_cons, get_mergePatch key formed patchFormed,
            found]
          rfl
      | _ => cases null
  | cons name rest ih =>
      cases patch with
      | object members =>
          rw [List.cons_append, valueAt_memberPath_cons] at null ⊢
          rw [valueAt_memberPath_cons] at reach
          obtain ⟨value, child, below⟩ := Option.bind_eq_some_iff.mp null
          obtain ⟨existing, old, present⟩ := Option.bind_eq_some_iff.mp
            (Option.some_get reach).symm
          rcases child_mergePatch_cases name formed patchFormed with
            ⟨absent, _⟩ | ⟨_, gone⟩ | ⟨other, inner, inPatch, _, stored, merged⟩ |
            ⟨_, _, _, absent, _⟩
          · cases absent.symm.trans child
          · rw [gone, Option.bind_none]
          · obtain rfl := Option.some.inj (inPatch.symm.trans child)
            obtain rfl := Option.some.inj (stored.symm.trans old)
            rw [merged, Option.bind_some]
            exact ih (Json.wellFormed_of_get formed old)
              (Json.wellFormed_of_get patchFormed child) (Option.isSome_of_eq_some present) below
          · cases absent.symm.trans old
      | _ => cases null

/-- A null member below a member that the target lacks is stored. -/
theorem null_stored_of_missing {target patch : Json} (names : List String) (key : String)
    (formed : target.wellFormed = true) (patchFormed : patch.wellFormed = true)
    (missing : target.valueAt (memberPath names) = none)
    (null : patch.valueAt (memberPath (names ++ [key])) = some .null) :
    (mergePatch target patch).valueAt (memberPath (names ++ [key])) = some .null := by
  induction names generalizing target patch with
  | nil => cases missing
  | cons name rest ih =>
      cases patch with
      | object members =>
          rw [List.cons_append, valueAt_memberPath_cons] at null ⊢
          rw [valueAt_memberPath_cons] at missing
          obtain ⟨value, child, below⟩ := Option.bind_eq_some_iff.mp null
          rcases child_mergePatch_cases name formed patchFormed with
            ⟨absent, _⟩ | ⟨inPatch, _⟩ | ⟨existing, inner, inPatch, _, old, merged⟩ |
            ⟨inner, inPatch, _, _, merged⟩
          · cases absent.symm.trans child
          · -- a null has no members
            obtain rfl := Option.some.inj (inPatch.symm.trans child)
            cases rest <;> cases below
          · obtain rfl := Option.some.inj (inPatch.symm.trans child)
            rw [old, Option.bind_some] at missing
            rw [merged, Option.bind_some]
            exact ih (Json.wellFormed_of_get formed old)
              (Json.wellFormed_of_get patchFormed child) missing below
          · obtain rfl := Option.some.inj (inPatch.symm.trans child)
            rw [merged, Option.bind_some]
            exact below
      | _ => cases null

/-- The merge is the standard's, stores no null of the patch and is idempotent exactly when each
null of the patch stands below a member that the target has. -/
theorem mergePatch_standard_iff (target patch : Json.Value) :
    ((mergePatch target.val patch.val).same (Json.rfcMerge target.val patch.val) = true ∧
      (∀ names key, patch.val.valueAt (memberPath (names ++ [key])) = some .null →
        (mergePatch target.val patch.val).valueAt (memberPath (names ++ [key])) = none) ∧
      (mergePatch (mergePatch target.val patch.val) patch.val).same
        (mergePatch target.val patch.val) = true) ↔
    NullsReachTarget target.val patch.val := by
  constructor
  · intro standard names key null
    by_contra missing
    rw [Option.not_isSome_iff_eq_none] at missing
    have stored := null_stored_of_missing names key target.property patch.property missing null
    have deleted := standard.2.1 names key null
    cases stored.symm.trans deleted
  · intro reach
    exact ⟨same_rfcMerge_of_reach target.property patch.property reach,
      fun names key null => null_deleted_of_reach names key target.property patch.property
        (reach names key null) null,
      mergePatch_twice_of_reach target.property patch.property reach⟩

/-- The standard deletes a null below a new member, and the merge stores it. -/
theorem mergePatch_stores_nested_null :
    ¬ ∀ target patch : Json.Value,
      (mergePatch target.val patch.val).same (Json.rfcMerge target.val patch.val) = true := by
  intro always
  have equal := always ⟨.object [], by decide⟩
    ⟨.object [("dhcpd_config", .object [("enabled", .null)])], by decide⟩
  revert equal
  decide

end Standard

end RustMist
