import RustMist.Construction.Core.Catalog
import RustMist.Construction.Core.Target

/-! The exact Mist authority of a token. -/

namespace RustMist

structure MistGrant where
  allowedOperations : List String
  actions : List MistAction
  subjects : List MistTarget

namespace MistGrant

def allowsOperation (grant : MistGrant) (operationId : String) : Bool :=
  grant.allowedOperations.any fun allowed => allowed = operationId

def allowsAction (grant : MistGrant) (action : MistAction) : Bool :=
  grant.actions.any fun allowed => allowed = action

def allowsTarget (grant : MistGrant) (target : MistTarget) : Bool :=
  grant.subjects.any fun allowed => allowed = target

def allowsSubject (grant : MistGrant) (subject : String) : Bool :=
  match MistTarget.parse subject with
  | .ok target => grant.allowsTarget target
  | .error _ => false

end MistGrant

end RustMist
