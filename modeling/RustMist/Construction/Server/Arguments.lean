import RustMist.Construction.Core.CatalogDocument
import RustMist.Construction.Server.Plan

/-! The argument records of the tools. -/

namespace RustMist

section Fields

inductive ArgType where
  | text
  | uint32
  | uint64
  | flag
  /-- A variant is accepted under its name. -/
  | choice (names : List String)

/-- What stands for a field that the caller leaves out. -/
inductive ArgPresence where
  | required
  | optional
  | default (value : Json)
  /-- The field is not read from the arguments at all. -/
  | fixed (value : Json)

structure ArgField where
  name : String
  type : ArgType
  presence : ArgPresence
  /-- Whether the field is written when the record is serialized. -/
  sent : Bool

/-- A value of the right type is read; a variant keeps only its name. -/
def ArgType.read : ArgType → Json → Except String Json
  | .text, json => (readString json).map .string
  | .uint32, json =>
      match json.asUInt64 with
      | some value => if value.toNat < 2 ^ 32 then .ok json else .error "expected u32"
      | none => .error "expected u32"
  | .uint64, json => if json.asUInt64.isSome then .ok json else .error "expected u64"
  | .flag, json => (readBool json).map .bool
  | .choice names, json =>
      (readVariant (names.map fun name => (name, name)) json).map .string

/-- The value of a field; the null stands for an optional field without a value. -/
def ArgField.read (field : ArgField) (arguments : List (String × Json)) : Except String Json :=
  match field.presence, IndexMap.get field.name arguments with
  | .fixed value, _ => .ok value
  | .required, none => .error ("missing field " ++ field.name)
  | .required, some json => field.type.read json
  | .optional, none => .ok .null
  | .optional, some json => if json.isNull then .ok .null else field.type.read json
  | .default value, none => .ok value
  | .default _, some json => field.type.read json

def ArgField.isFixed (field : ArgField) : Bool :=
  match field.presence with
  | .fixed _ => true
  | _ => false

/-- A record has a value for each of its fields, in the order of the fields. -/
abbrev ArgRecord := List (ArgField × Json)

def ArgRecord.get (record : ArgRecord) (name : String) : Json :=
  ((record.find? fun entry => entry.1.name = name).map Prod.snd).getD .null

/-- The fields that are skipped on serialization are left out. -/
def ArgRecord.members (record : ArgRecord) : List (String × Json) :=
  (record.filter fun entry => entry.1.sent).map fun entry => (entry.1.name, entry.2)

def ArgRecord.toJson (record : ArgRecord) : Json := .object record.members

def readFields (arguments : List (String × Json)) : List ArgField → Except String ArgRecord
  | [] => .ok []
  | field :: rest => do
      let value ← field.read arguments
      let record ← readFields arguments rest
      .ok ((field, value) :: record)

/-- The names under which a record takes an argument; every other name is refused. -/
def acceptedNames (fields : List ArgField) : List String :=
  (fields.filter fun field => !field.isFixed).map ArgField.name

def readArgs (fields : List ArgField) (arguments : List (String × Json)) :
    Except String ArgRecord :=
  if (IndexMap.keys arguments).all (· ∈ acceptedNames fields) then readFields arguments fields
  else .error "unknown field"

def requiredText (name : String) : ArgField := ⟨name, .text, .required, true⟩

def optionalText (name : String) : ArgField := ⟨name, .text, .optional, true⟩

def optionalUInt32 (name : String) : ArgField := ⟨name, .uint32, .optional, true⟩

def optionalUInt64 (name : String) : ArgField := ⟨name, .uint64, .optional, true⟩

def optionalFlag (name : String) : ArgField := ⟨name, .flag, .optional, true⟩

/-- A selector picks the operation and is not sent. -/
def selectorField (name : String) (names : List String) : ArgField :=
  ⟨name, .choice names, .required, false⟩

end Fields

section Selectors

def statsModes : List String := ["records", "count"]

def sleImpacts : List String := ["gateways", "applications", "summary"]

def appSources : List String := ["site", "catalog"]

def WanObject.variants : List (String × WanObject) :=
  [("network", .network), ("service", .service), ("servicepolicy", .servicePolicy),
    ("gatewaytemplate", .gatewayTemplate), ("deviceprofile", .deviceProfile)]

def WriteVerb.variants : List (String × WriteVerb) := [("create", .create), ("update", .update)]

def modeField : ArgField := ⟨"mode", .choice statsModes, .default (.string "records"), false⟩

def objectField : ArgField := selectorField "object" (IndexMap.keys WanObject.variants)

end Selectors

section Records

def emptyArgs : List ArgField := []

def getOrgArgs : List ArgField := [requiredText "org_id"]

def orgPageArgs : List ArgField :=
  [requiredText "org_id", optionalUInt32 "limit", optionalUInt32 "page"]

def siteArgs : List ArgField := [requiredText "site_id"]

def inventoryArgs : List ArgField :=
  [requiredText "org_id", optionalUInt32 "limit", optionalText "mac", optionalText "magic", optionalText "master",
    optionalText "model", optionalText "name", optionalText "search_after", optionalText "serial",
    optionalText "site_id", optionalText "sku", optionalText "sort", optionalText "status", optionalText "text",
    optionalText "type", optionalText "version"]

def siteDeviceArgs : List ArgField := [requiredText "site_id", requiredText "device_id"]

def deviceStatsArgs : List ArgField :=
  [requiredText "site_id", requiredText "device_id", optionalText "fields"]

def sitePageArgs : List ArgField :=
  [requiredText "site_id", optionalUInt32 "limit", optionalUInt32 "page"]

def clientSearchArgs : List ArgField :=
  [requiredText "site_id", optionalText "ap", optionalText "band", optionalText "device", optionalText "duration",
    optionalText "end", optionalText "hostname", optionalText "ip", optionalUInt32 "limit", optionalText "mac",
    optionalText "model", optionalText "os", optionalText "psk_id", optionalText "psk_name",
    optionalText "search_after", optionalText "sort", optionalText "ssid", optionalText "start", optionalText "text",
    optionalText "username", optionalText "vlan"]

def eventSearchArgs : List ArgField :=
  [requiredText "site_id", optionalText "duration", optionalText "end", optionalUInt32 "limit",
    optionalText "search_after", optionalText "sort", optionalText "start", optionalText "type"]

def alarmSearchArgs : List ArgField :=
  [optionalText "org_id", optionalText "site_id", modeField, optionalText "ack_admin_name",
    optionalFlag "acked", optionalText "duration", optionalText "end", optionalText "group",
    optionalUInt32 "limit", optionalText "search_after", optionalText "severity", optionalText "sort",
    optionalText "start", optionalText "type"]

def auditSearchArgs : List ArgField :=
  [requiredText "org_id", optionalText "admin_name", optionalText "duration", optionalText "end",
    optionalUInt32 "limit", optionalText "message", optionalUInt32 "page", optionalText "site_id",
    optionalText "sort", optionalText "start"]

def sleMetricsArgs : List ArgField :=
  [requiredText "site_id", requiredText "scope", requiredText "scope_id"]

def sleArgs : List ArgField :=
  [requiredText "site_id", requiredText "scope", requiredText "scope_id", requiredText "metric",
    optionalText "duration", optionalText "end", optionalText "start"]

def sleImpactArgs : List ArgField :=
  [requiredText "site_id", requiredText "scope", requiredText "scope_id", requiredText "metric",
    selectorField "impact" sleImpacts, optionalUInt64 "start", optionalUInt64 "end",
    optionalText "duration"]

def insightArgs : List ArgField :=
  [requiredText "site_id", requiredText "metrics", optionalText "duration", optionalText "end",
    optionalText "interval", optionalUInt32 "limit", optionalUInt32 "page", optionalText "start"]

def troubleshootArgs : List ArgField :=
  [requiredText "site_id", optionalText "ap", optionalText "app", optionalText "duration", optionalText "end",
    optionalUInt32 "limit", optionalText "mac", optionalText "meeting_id", optionalUInt32 "page",
    optionalText "start", optionalFlag "wired"]

def rogueArgs : List ArgField :=
  [requiredText "site_id", optionalText "duration", optionalText "end", optionalText "interval",
    optionalUInt32 "limit", optionalText "start", optionalText "type"]

def upgradeArgs : List ArgField := [requiredText "site_id", optionalText "status"]

/-- This is the only device type that the gateway listing enumerates. -/
def gatewayDeviceType : String := "gateway"

def wanEdgeListArgs : List ArgField :=
  [optionalText "org_id", optionalText "site_id", optionalUInt32 "limit", optionalText "search_after",
    optionalText "hostname", optionalText "mac", optionalText "model", optionalText "version",
    ⟨"type", .text, .fixed (.string gatewayDeviceType), true⟩]

def wanEdgeStatsArgs : List ArgField :=
  [requiredText "site_id", optionalText "device_id", optionalText "metrics", optionalUInt64 "start",
    optionalUInt64 "end", optionalText "duration"]

/-- The fields that the searches of statistics share after their scope and their mode. -/
def statsWindow : List ArgField :=
  [optionalUInt32 "limit", optionalText "search_after", optionalUInt64 "start", optionalUInt64 "end",
    optionalText "duration", optionalText "distinct"]

def tunnelSearchArgs : List ArgField := requiredText "org_id" :: modeField :: statsWindow

def peerPathSearchArgs : List ArgField := requiredText "org_id" :: modeField :: statsWindow

def bgpPeerSearchArgs : List ArgField :=
  optionalText "org_id" :: optionalText "site_id" :: modeField :: statsWindow

def servicePathEventArgs : List ArgField := requiredText "site_id" :: modeField :: statsWindow

def applicationListArgs : List ArgField :=
  [selectorField "source" appSources, optionalText "site_id", modeField, optionalUInt32 "limit",
    optionalText "distinct"]

def wanConfigListArgs : List ArgField :=
  [objectField, optionalText "org_id", optionalText "site_id", optionalUInt32 "limit",
    optionalUInt32 "page"]

def wanConfigGetArgs : List ArgField :=
  [objectField, requiredText "org_id", ⟨"object_id", .text, .required, false⟩]

end Records

section OwnRecords

def InvokeReadArgs.fields : List String := ["operation_id", "path", "query", "cursor"]

def InvokeReadArgs.read (arguments : Json) : Except String InvokeReadArgs := do
  let members ← readRecord InvokeReadArgs.fields arguments
  let operationId ← readField members "operation_id" readString
  let path ← readOptionalField members "path" (readMap readString)
  let query ← readOptionalField members "query" (readMap .ok)
  let cursor ← readOptionalField members "cursor" readString
  .ok { operationId, path, query, cursor }

def PlanChangeArgs.fields : List String := ["object", "verb", "org_id", "object_id", "patch"]

def readPatch (arguments : Json.Value) : Except String Json.Value :=
  match found : arguments.val.get "patch" with
  | some patch => .ok ⟨patch, Json.wellFormed_of_get arguments.property found⟩
  | none => .error "missing field patch"

def PlanChangeArgs.read (arguments : Json.Value) : Except String PlanChangeArgs := do
  let members ← readRecord PlanChangeArgs.fields arguments.val
  let object ← readField members "object" (readVariant WanObject.variants)
  let verb ← readField members "verb" (readVariant WriteVerb.variants)
  let orgId ← readField members "org_id" readString
  let objectId ← readOptionalField members "object_id" readString
  let patch ← readPatch arguments
  .ok { object, verb, orgId, objectId, patch }

def ChangeSetArgs.fields : List String := ["change_set_id", "object", "object_id"]

def ChangeSetArgs.read (arguments : Json) : Except String ChangeSetArgs := do
  let members ← readRecord ChangeSetArgs.fields arguments
  let changeSetId ← readField members "change_set_id" readString
  let object ← readField members "object" (readVariant WanObject.variants)
  let objectId ← readOptionalField members "object_id" readString
  .ok { changeSetId, object, objectId }

def ApproveChangeSetArgs.fields : List String :=
  ["change_set_id", "plan_digest", "object", "object_id"]

def ApproveChangeSetArgs.read (arguments : Json) : Except String ApproveChangeSetArgs := do
  let members ← readRecord ApproveChangeSetArgs.fields arguments
  let changeSetId ← readField members "change_set_id" readString
  let planDigest ← readField members "plan_digest" readString
  let object ← readField members "object" (readVariant WanObject.variants)
  let objectId ← readOptionalField members "object_id" readString
  .ok { changeSetId, object, objectId, planDigest }

end OwnRecords

end RustMist
