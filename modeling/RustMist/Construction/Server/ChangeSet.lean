import RustMist.Construction.Server.Dispatch
import RustMist.Construction.Server.WanWrite

/-! The staging of a change set. -/

namespace RustMist

/-- A caller without a context is not assumed to be human. -/
def actorType (caller : Option CallerCtx) : ActorType :=
  match caller with
  | some caller => caller.actorType
  | none => .unknown

def WanObject.name : WanObject → String
  | .network => "network"
  | .service => "service"
  | .servicePolicy => "servicepolicy"
  | .gatewayTemplate => "gatewaytemplate"
  | .deviceProfile => "deviceprofile"

/-- All creates of one object type share a key. -/
def objectKey (object : WanObject) (objectId : Option String) : String :=
  match objectId with
  | some id => object.name ++ "/" ++ id
  | none => object.name ++ "/new"

structure StagedPlan where
  changeSetId : String
  planDigest : String
  previewDigest : String
  before : Json
  after : Json

def saturatingAdd (first second : UInt64) : UInt64 :=
  UInt64.ofNat (min (first.toNat + second.toNat) (2 ^ 64 - 1))

variable [ServerPlatform]

/-- This is the fingerprint of an object as it was read. -/
def stateFingerprint (value : Json) : String := "sha256:" ++ sha256Hex (serdeToString value)

def candidateFingerprint (before : Json) : String :=
  if before.isNull then "create" else stateFingerprint before

def planAction (object : WanObject) (after : Json) : Json :=
  .object [("object", .string object.name), ("body", after)]

/-- This document keeps what the apply step reads back. -/
def previewDocument (before after : Json) (orgId : String) : Json :=
  .object [("before", before), ("after", after), ("org_id", .string orgId)]

def plannedRecord (changeSetId owner device fingerprint planDigest : String) (action : Json)
    (now : UInt64) (previewArtifact : String) : ChangeSetRecord where
  id := changeSetId
  owner := owner
  device := device
  expectedCandidateFingerprint := fingerprint
  actions := [action]
  digest := planDigest
  state := .planned
  approver := none
  approval := none
  expiresAtUnix := saturatingAdd now 3600
  preview := some { artifact := previewArtifact, digest := previewDigest previewArtifact }
  applyWithoutHandle := false

def stagePlan (owner : String) (object : WanObject) (objectId : Option String) (orgId : String)
    (before after : Json) : MistProgram (Except CoordinatorError StagedPlan) := do
  let fingerprint := candidateFingerprint before
  match ← perform .random with
  | .error reason => pure (.error ⟨"id", reason⟩)
  | .ok idBytes => do
      let changeSetId := Hex.encode idBytes.bytes
      let device := objectKey object objectId
      let action := planAction object after
      match changeSetDigest owner device fingerprint [action] with
      | .error reason => pure (.error ⟨"digest", reason⟩)
      | .ok planDigest => do
          match ← perform .systemTime with
          | .error reason => pure (.error ⟨"time", reason⟩)
          | .ok now => do
              let previewArtifact := serdeToString (previewDocument before after orgId)
              let record :=
                plannedRecord changeSetId owner device fingerprint planDigest action now
                  previewArtifact
              match ← perform (.insertChangeSet record) with
              | .error error => pure (.error error)
              | .ok () =>
                  pure (.ok {
                    changeSetId := changeSetId
                    planDigest := planDigest
                    previewDigest := previewDigest (serdeToString after)
                    before := before
                    after := after })

end RustMist
