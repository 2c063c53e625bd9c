import RustMist.Construction.Core.Catalog

/-! The write targets of the WAN edge objects and the patches of their bodies. -/

namespace RustMist

inductive WanObject where
  | network
  | service
  | servicePolicy
  | gatewayTemplate
  | deviceProfile
deriving DecidableEq, Repr

inductive WriteVerb where
  | create
  | update
deriving DecidableEq, Repr

structure WriteTarget where
  writeOperationId : String
  readOperationId : String
  idPathName : String
  privileged : Bool
deriving DecidableEq, Repr

def writeTarget : WanObject → WriteVerb → WriteTarget
  | .network, .create => ⟨"createOrgNetwork", "getOrgNetwork", "network_id", false⟩
  | .network, .update => ⟨"updateOrgNetwork", "getOrgNetwork", "network_id", false⟩
  | .service, .create => ⟨"createOrgService", "getOrgService", "service_id", false⟩
  | .service, .update => ⟨"updateOrgService", "getOrgService", "service_id", false⟩
  | .servicePolicy, .create =>
      ⟨"createOrgServicePolicy", "getOrgServicePolicy", "servicepolicy_id", false⟩
  | .servicePolicy, .update =>
      ⟨"updateOrgServicePolicy", "getOrgServicePolicy", "servicepolicy_id", false⟩
  | .gatewayTemplate, .create =>
      ⟨"createOrgGatewayTemplate", "getOrgGatewayTemplate", "gatewaytemplate_id", true⟩
  | .gatewayTemplate, .update =>
      ⟨"updateOrgGatewayTemplate", "getOrgGatewayTemplate", "gatewaytemplate_id", true⟩
  | .deviceProfile, .create =>
      ⟨"createOrgDeviceProfile", "getOrgDeviceProfile", "deviceprofile_id", true⟩
  | .deviceProfile, .update =>
      ⟨"updateOrgDeviceProfile", "getOrgDeviceProfile", "deviceprofile_id", true⟩

inductive PatchError where
  | mistConfigured
  | redactionPlaceholder
deriving DecidableEq, Repr

def redactionPlaceholder : String := "[REDACTED]"

section Refusals

mutual

def rejectRedactionPlaceholder : Json → Except PatchError Unit
  | .string value =>
      if containsText redactionPlaceholder value then .error .redactionPlaceholder else .ok ()
  | .object map => rejectPlaceholderMembers map
  | .array values => rejectPlaceholderItems values
  | _ => .ok ()
termination_by structural patch => patch

def rejectPlaceholderItems : List Json → Except PatchError Unit
  | [] => .ok ()
  | value :: rest =>
      match rejectRedactionPlaceholder value with
      | .error error => .error error
      | .ok () => rejectPlaceholderItems rest
termination_by structural values => values

def rejectPlaceholderMembers : List (String × Json) → Except PatchError Unit
  | [] => .ok ()
  | member :: rest =>
      match rejectPlaceholderMember member with
      | .error error => .error error
      | .ok () => rejectPlaceholderMembers rest
termination_by structural members => members

def rejectPlaceholderMember : String × Json → Except PatchError Unit
  | (_, value) => rejectRedactionPlaceholder value
termination_by structural member => member

end

mutual

def rejectConfigAuthority : Json → Except PatchError Unit
  | .object map =>
      if "mist_configured" ∈ IndexMap.keys map then .error .mistConfigured
      else rejectAuthorityMembers map
  | .array values => rejectAuthorityItems values
  | _ => .ok ()
termination_by structural patch => patch

def rejectAuthorityItems : List Json → Except PatchError Unit
  | [] => .ok ()
  | value :: rest =>
      match rejectConfigAuthority value with
      | .error error => .error error
      | .ok () => rejectAuthorityItems rest
termination_by structural values => values

def rejectAuthorityMembers : List (String × Json) → Except PatchError Unit
  | [] => .ok ()
  | member :: rest =>
      match rejectAuthorityMember member with
      | .error error => .error error
      | .ok () => rejectAuthorityMembers rest
termination_by structural members => members

def rejectAuthorityMember : String × Json → Except PatchError Unit
  | (_, value) => rejectConfigAuthority value
termination_by structural member => member

end

end Refusals

section MergePatch

mutual

/-- The recursion is on the patch. -/
def mergePatch (before patch : Json) : Json :=
  match patch with
  | .object patchMap => .object (mergeMembers before.members patchMap)
  | patch => patch
termination_by structural patch

def mergeMembers (merged patchMap : List (String × Json)) : List (String × Json) :=
  match patchMap with
  | [] => merged
  | member :: rest => mergeMembers (mergeMember merged member) rest
termination_by structural patchMap

def mergeMember (merged : List (String × Json)) (member : String × Json) : List (String × Json) :=
  match member with
  | (key, value) =>
      if value.isNull then IndexMap.swapRemove key merged
      else
        match IndexMap.get key merged with
        | some existing => IndexMap.insert key (mergePatch existing value) merged
        | none => IndexMap.insert key value merged
termination_by structural member

end

theorem mergeMember_eq (merged : List (String × Json)) (key : String) (value : Json) :
    mergeMember merged (key, value) =
      if value.isNull then IndexMap.swapRemove key merged
      else
        match IndexMap.get key merged with
        | some existing => IndexMap.insert key (mergePatch existing value) merged
        | none => IndexMap.insert key value merged := rfl

/-- The members of a value are distinct and well formed when the value is well formed. -/
theorem members_wellFormed {json : Json} (formed : json.wellFormed = true) :
    (Json.object json.members).wellFormed = true := by
  cases json with
  | object members => exact formed
  | _ => rfl

theorem insert_wellFormed {map : List (String × Json)} {key : String} {value : Json}
    (formed : (Json.object map).wellFormed = true) (valueFormed : value.wellFormed = true) :
    (Json.object (IndexMap.insert key value map)).wellFormed = true := by
  rw [Json.wellFormed_object_iff] at formed ⊢
  refine ⟨IndexMap.nodup_insert formed.1, fun member present => ?_⟩
  rcases IndexMap.mem_insert present with rfl | earlier
  · exact valueFormed
  · exact formed.2 member earlier

theorem swapRemove_wellFormed {map : List (String × Json)} {key : String}
    (formed : (Json.object map).wellFormed = true) :
    (Json.object (IndexMap.swapRemove key map)).wellFormed = true := by
  rw [Json.wellFormed_object_iff] at formed ⊢
  refine ⟨IndexMap.nodup_swapRemove formed.1, fun member present => ?_⟩
  exact formed.2 member ((IndexMap.mem_swapRemove formed.1).mp present).1

/-- A merge of well-formed values is well formed. -/
theorem mergePatch_wellFormed {before patch : Json} (formed : before.wellFormed = true)
    (patchFormed : patch.wellFormed = true) : (mergePatch before patch).wellFormed = true := by
  induction patch using Json.inductionOn generalizing before with
  | object patchMap ih =>
      rw [mergePatch]
      have members := (Json.wellFormed_object_iff patchMap).mp patchFormed
      have start := members_wellFormed formed
      generalize before.members = merged at start
      clear formed patchFormed
      induction patchMap generalizing merged with
      | nil => exact start
      | cons member rest tail =>
          obtain ⟨key, value⟩ := member
          have valueFormed := members.2 (key, value) List.mem_cons_self
          rw [mergeMembers, mergeMember_eq]
          refine tail (fun later present => ih later (List.mem_cons_of_mem _ present))
            ⟨(List.nodup_cons.mp members.1).2,
              fun later present => members.2 later (List.mem_cons_of_mem _ present)⟩ _ ?_
          split
          · exact swapRemove_wellFormed start
          · cases found : IndexMap.get key merged with
            | none => exact insert_wellFormed start valueFormed
            | some existing =>
                have lookup : (Json.object merged).get key = some existing := found
                have existingFormed := Json.wellFormed_of_get start lookup
                exact insert_wellFormed start
                  (ih (key, value) List.mem_cons_self existingFormed valueFormed)
  | _ => exact patchFormed

end MergePatch

end RustMist
