import RustMist.Construction.Core.Target
import RustMist.Construction.Server.Platform

/-! The scope check of the HTTP transport before a call reaches its handler. -/

namespace RustMist

/-- The scopes of the caller whose token came with the request. -/
structure CallerScopes where
  devices : ScopeSet
  tools : ScopeSet

def canonicalTarget (field id : String) : Option String :=
  let target :=
    match field with
    | "org_id" => (MistTarget.org id).toOption
    | "site_id" => (MistTarget.site id).toOption
    | _ => none
  target.map MistTarget.subject

variable [ServerPlatform]

def targetMapExceedsScope (values : List (String × Json)) (targets : ScopeSet) : Bool :=
  ["org_id", "site_id"].any fun field =>
    (IndexMap.get field values).any fun value =>
      match value.asString.bind (canonicalTarget field) with
      | none => true
      | some subject => !targets.allows subject

/-- A null in the place of a path or query map is the same as none. -/
def containerExceedsScope (devices : ScopeSet) : Json → Bool
  | .null => false
  | .object values => targetMapExceedsScope values devices
  | _ => true

def argumentsExceedScope (devices : ScopeSet) : Json → Bool
  | .object arguments =>
      targetMapExceedsScope arguments devices ||
        ["path", "query"].any fun container =>
          (IndexMap.get container arguments).any (containerExceedsScope devices)
  | _ => true

structure MistScopePreflight where
  restrictedTools : List String

def MistScopePreflight.requestExceedsScope (preflight : MistScopePreflight) (value : Json)
    (tools devices : ScopeSet) : Bool :=
  if (value.get "method").bind Json.asString ≠ some "tools/call" then false
  else
    match value.get "params" with
    | none => false
    | some params =>
        match (params.get "name").bind Json.asString with
        | none => false
        | some tool =>
            if !tools.allowsTool tool preflight.restrictedTools then true
            else (params.get "arguments").any (argumentsExceedScope devices)

/-- A batch is denied when one of its messages is. -/
def MistScopePreflight.denies (preflight : MistScopePreflight) (value : Json)
    (caller : CallerScopes) : Bool :=
  match value with
  | .array values =>
      values.any fun value => preflight.requestExceedsScope value caller.tools caller.devices
  | value => preflight.requestExceedsScope value caller.tools caller.devices

/-- The value that a body holds; bytes that are no text hold none. -/
def serdeFromSlice (body : ByteArray) : Option Json :=
  (String.fromUTF8? body).bind fun text => (serdeFromStr text).toOption

def MistScopePreflight.check (preflight : MistScopePreflight) (body : ByteArray)
    (caller : CallerScopes) : Except String Unit :=
  if body.isEmpty then .ok ()
  else
    match serdeFromSlice body with
    | none => .ok ()
    | some value =>
        if preflight.denies value caller then .error "insufficient_scope" else .ok ()

end RustMist
