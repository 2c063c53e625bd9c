import Mathlib.Tactic.Common

/-! The canonical organization and site subjects of Mist. -/

namespace RustMist

/-- The scan goes over the characters; a character that is not ASCII is refused where it stands. -/
def isCanonicalUuidFrom (index : Nat) (containsNonzero : Bool) : List Char → Bool
  | [] => containsNonzero
  | byte :: rest =>
      if index = 8 ∨ index = 13 ∨ index = 18 ∨ index = 23 then
        if byte ≠ '-' then false else isCanonicalUuidFrom (index + 1) containsNonzero rest
      else if !byte.isDigit && !('a' ≤ byte && byte ≤ 'f') then false
      else isCanonicalUuidFrom (index + 1) (containsNonzero || byte ≠ '0') rest

def isCanonicalUuid (value : String) : Bool :=
  value.utf8ByteSize = 36 && isCanonicalUuidFrom 0 false value.toList

inductive MistTargetKind where
  | org
  | site
deriving DecidableEq, Repr

structure MistTargetError where
  reason : String
deriving DecidableEq, Repr

def MistTargetError.toString (error : MistTargetError) : String :=
  "invalid Mist target: " ++ error.reason

/-- A target is only built from a canonical identifier. -/
structure MistTarget where
  kind : MistTargetKind
  id : String
  canonical : isCanonicalUuid id = true
deriving DecidableEq, Repr

namespace MistTarget

def org (id : String) : Except MistTargetError MistTarget :=
  if canonical : isCanonicalUuid id = true then .ok ⟨.org, id, canonical⟩
  else .error ⟨"organization ID must be a canonical non-nil UUID"⟩

def site (id : String) : Except MistTargetError MistTarget :=
  if canonical : isCanonicalUuid id = true then .ok ⟨.site, id, canonical⟩
  else .error ⟨"site ID must be a canonical non-nil UUID"⟩

/-- The text before the first separator and the text after it. -/
def splitOnce (separator : Char) (text : String) : Option (String × String) :=
  if separator ∈ text.toList then
    some (String.ofList (text.toList.takeWhile (· ≠ separator)),
      String.ofList ((text.toList.dropWhile (· ≠ separator)).drop 1))
  else none

def parse (subject : String) : Except MistTargetError MistTarget :=
  match splitOnce '/' subject with
  | none => .error ⟨"subject must have exactly one kind separator"⟩
  | some (kind, id) =>
      if '/' ∈ id.toList then .error ⟨"subject must have exactly one kind separator"⟩
      else if kind = "org" then org id
      else if kind = "site" then site id
      else .error ⟨"subject kind must be org or site"⟩

def subject (target : MistTarget) : String :=
  match target.kind with
  | .org => "org/" ++ target.id
  | .site => "site/" ++ target.id

theorem org_ok_iff {id : String} {target : MistTarget} :
    org id = .ok target ↔ target.kind = .org ∧ target.id = id := by
  rw [org]
  split
  · rw [Except.ok.injEq]
    constructor
    · rintro rfl
      exact ⟨rfl, rfl⟩
    · cases target
      rintro ⟨rfl, rfl⟩
      rfl
  · rename_i refused
    constructor
    · intro impossible
      cases impossible
    · rintro ⟨_, rfl⟩
      exact absurd target.canonical refused

theorem site_ok_iff {id : String} {target : MistTarget} :
    site id = .ok target ↔ target.kind = .site ∧ target.id = id := by
  rw [site]
  split
  · rw [Except.ok.injEq]
    constructor
    · rintro rfl
      exact ⟨rfl, rfl⟩
    · cases target
      rintro ⟨rfl, rfl⟩
      rfl
  · rename_i refused
    constructor
    · intro impossible
      cases impossible
    · rintro ⟨_, rfl⟩
      exact absurd target.canonical refused

end MistTarget

example : isCanonicalUuid "11111111-1111-1111-1111-111111111111" = true := by decide

end RustMist
