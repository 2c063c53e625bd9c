import RustMist.Construction.Server.Dispatch
import RustMist.Construction.Server.HttpTransport
import RustMist.Proof.Catalog.Reordering

/-! Where the scope check of the transport and the handlers agree on targets. -/

namespace RustMist

section Targets

/-- The fields that name a target. -/
def targetFields : List String := ["org_id", "site_id"]

/-- The members that hold maps of fields. -/
def containers : List String := ["path", "query"]

/-- A field names a target by a canonical identifier. -/
def NamesTarget (field id : String) (target : MistTarget) : Prop :=
  field = "org_id" ∧ MistTarget.org id = .ok target ∨
    field = "site_id" ∧ MistTarget.site id = .ok target

/-- The value of a field is the identifier of a target within the scope. -/
def InScope [ServerPlatform] (devices : ScopeSet) (field : String) (value : Json) : Prop :=
  ∃ id target, value = .string id ∧ NamesTarget field id target ∧
    devices.allows target.subject = true

theorem toOption_eq_some_iff {ε α : Type} {result : Except ε α} {value : α} :
    result.toOption = some value ↔ result = .ok value := by
  cases result <;> simp [Except.toOption]

theorem canonicalTarget_eq_some_iff {field id subject : String} :
    canonicalTarget field id = some subject ↔
      ∃ target, NamesTarget field id target ∧ target.subject = subject := by
  have site : "site_id" ≠ "org_id" := by decide
  unfold canonicalTarget NamesTarget
  split
  · simp [toOption_eq_some_iff, site.symm]
  · simp [toOption_eq_some_iff, site]
  · rename_i other other'
    constructor
    · intro found
      cases found
    · rintro ⟨target, ⟨rfl, _⟩ | ⟨rfl, _⟩, _⟩
      · exact absurd rfl other
      · exact absurd rfl other'

variable [ServerPlatform]

/-- The check of one value of a field. -/
def exceeds (devices : ScopeSet) (field : String) (value : Json) : Bool :=
  match value.asString.bind (canonicalTarget field) with
  | none => true
  | some subject => !devices.allows subject

theorem exceeds_eq_true_iff {devices : ScopeSet} {field : String} {value : Json} :
    exceeds devices field value = true ↔ ¬InScope devices field value := by
  have inScope : exceeds devices field value = false ↔ InScope devices field value := by
    unfold exceeds InScope
    constructor
    · intro within
      split at within
      · cases within
      · rename_i subject found
        obtain ⟨id, text, named⟩ := Option.bind_eq_some_iff.mp found
        obtain ⟨target, names, same⟩ := canonicalTarget_eq_some_iff.mp named
        refine ⟨id, target, ?_, names, ?_⟩
        · cases value with
          | string other =>
              cases text
              rfl
          | _ => cases text
        · rw [same]
          simpa using within
    · rintro ⟨id, target, rfl, names, allowed⟩
      have found := canonicalTarget_eq_some_iff.mpr ⟨target, names, rfl⟩
      rw [Json.asString_string, Option.bind_some, found]
      simp [allowed]
  rw [← inScope, Bool.not_eq_false]

/-- A map exceeds the scope when one of its fields names no target within it. -/
theorem targetMapExceedsScope_iff {values : List (String × Json)} {devices : ScopeSet} :
    targetMapExceedsScope values devices = true ↔ ∃ field ∈ targetFields, ∃ value,
      IndexMap.get field values = some value ∧ ¬InScope devices field value := by
  change (targetFields.any fun field =>
    (IndexMap.get field values).any (exceeds devices field)) = true ↔ _
  simp only [List.any_eq_true, Option.any_eq_true, exceeds_eq_true_iff]

end Targets

section Reasons

variable [ServerPlatform] (devices : ScopeSet)

/-- A map holds a null in the place of a target. -/
def NullTarget (values : List (String × Json)) : Prop :=
  ∃ field ∈ targetFields, IndexMap.get field values = some .null

/-- A map holds a field that is no null and names no target within the scope. -/
def TargetOutside (values : List (String × Json)) : Prop :=
  ∃ field ∈ targetFields, ∃ value, IndexMap.get field values = some value ∧ value ≠ .null ∧
    ¬InScope devices field value

/-- A container is a map with such a field, or it is neither a map nor a null. -/
def ContainerOutside : Json → Prop
  | .null => False
  | .object values => TargetOutside devices values
  | _ => True

def ArgumentsOutside : Json → Prop
  | .object arguments => TargetOutside devices arguments ∨ ∃ container ∈ containers, ∃ value,
      IndexMap.get container arguments = some value ∧ ContainerOutside devices value
  | _ => True

/-- The arguments or one of their containers hold a null in the place of a target. -/
def NullArguments : Json → Prop
  | .object arguments => NullTarget arguments ∨ ∃ container ∈ containers, ∃ values,
      IndexMap.get container arguments = some (.object values) ∧ NullTarget values
  | _ => False

variable {devices}

theorem not_inScope_null {field : String} : ¬InScope devices field .null := by
  rintro ⟨id, target, impossible, _⟩
  cases impossible

theorem targetMapExceedsScope_reasons {values : List (String × Json)} :
    targetMapExceedsScope values devices = true ↔
      NullTarget values ∨ TargetOutside devices values := by
  rw [targetMapExceedsScope_iff]
  constructor
  · rintro ⟨field, known, value, found, outside⟩
    by_cases null : value = .null
    · rw [null] at found
      exact .inl ⟨field, known, found⟩
    · exact .inr ⟨field, known, value, found, null, outside⟩
  · rintro (⟨field, known, found⟩ | ⟨field, known, value, found, null, outside⟩)
    · exact ⟨field, known, .null, found, not_inScope_null⟩
    · exact ⟨field, known, value, found, outside⟩

theorem containerExceedsScope_reasons {value : Json} : containerExceedsScope devices value = true ↔
    (∃ values, value = .object values ∧ NullTarget values) ∨ ContainerOutside devices value := by
  cases value with
  | object values =>
      rw [containerExceedsScope, targetMapExceedsScope_reasons, ContainerOutside]
      simp
  | _ => simp [containerExceedsScope, ContainerOutside]

theorem argumentsExceedScope_reasons {arguments : Json} :
    argumentsExceedScope devices arguments = true ↔
      NullArguments arguments ∨ ArgumentsOutside devices arguments := by
  cases arguments with
  | object members =>
      change (targetMapExceedsScope members devices || containers.any fun container =>
        (IndexMap.get container members).any (containerExceedsScope devices)) = true ↔ _
      simp only [Bool.or_eq_true, targetMapExceedsScope_reasons, List.any_eq_true,
        Option.any_eq_true, containerExceedsScope_reasons, NullArguments, ArgumentsOutside]
      constructor
      · rintro ((null | outside) | ⟨container, known, value, found, ⟨values, rfl, null⟩ | outside⟩)
        · exact .inl (.inl null)
        · exact .inr (.inl outside)
        · exact .inl (.inr ⟨container, known, values, found, null⟩)
        · exact .inr (.inr ⟨container, known, value, found, outside⟩)
      · rintro ((null | ⟨container, known, values, found, null⟩) |
          (outside | ⟨container, known, value, found, outside⟩))
        · exact .inl (.inl null)
        · exact .inr ⟨container, known, _, found, .inl ⟨values, rfl, null⟩⟩
        · exact .inl (.inr outside)
        · exact .inr ⟨container, known, value, found, .inr outside⟩
  | _ => simp [argumentsExceedScope, NullArguments, ArgumentsOutside]

/-- A message calls a tool. -/
def CallsTool (message : Json) (tool : String) (params : Json) : Prop :=
  message.get "method" = some (.string "tools/call") ∧ message.get "params" = some params ∧
    params.get "name" = some (.string tool)

variable (preflight : MistScopePreflight) (caller : CallerScopes)

/-- A null in the place of a target is a reason to deny a message whose tool is permitted. -/
def NullMessage (message : Json) : Prop :=
  ∃ tool params arguments, CallsTool message tool params ∧
    caller.tools.allowsTool tool preflight.restrictedTools = true ∧
    params.get "arguments" = some arguments ∧ NullArguments arguments

/-- The other reasons to deny a message are its tool, the form of its arguments and a target. -/
def MessageOutside (message : Json) : Prop :=
  ∃ tool params, CallsTool message tool params ∧
    (caller.tools.allowsTool tool preflight.restrictedTools = false ∨
      ∃ arguments, params.get "arguments" = some arguments ∧
        ArgumentsOutside caller.devices arguments)

variable {preflight caller}

omit [ServerPlatform] in
theorem bind_asString_iff {value : Option Json} {text : String} :
    value.bind Json.asString = some text ↔ value = some (.string text) := by
  cases value with
  | none => simp
  | some value => cases value <;> simp [Json.asString]

omit [ServerPlatform] in
theorem CallsTool.unique {message params params' : Json} {tool tool' : String}
    (call : CallsTool message tool params) (call' : CallsTool message tool' params') :
    tool = tool' ∧ params = params' := by
  obtain ⟨_, found, named⟩ := call
  obtain ⟨_, found', named'⟩ := call'
  obtain rfl := Option.some.inj (found.symm.trans found')
  have same := Option.some.inj (named.symm.trans named')
  exact ⟨Json.string.inj same, rfl⟩

/-- The check of a message that calls a tool. -/
theorem requestExceedsScope_of_call {message params : Json} {tool : String}
    (call : CallsTool message tool params) :
    preflight.requestExceedsScope message caller.tools caller.devices =
      (!caller.tools.allowsTool tool preflight.restrictedTools ||
        (params.get "arguments").any (argumentsExceedScope caller.devices)) := by
  obtain ⟨method, found, named⟩ := call
  unfold MistScopePreflight.requestExceedsScope
  rw [if_neg (not_not.mpr (bind_asString_iff.mpr method)), found]
  dsimp only
  rw [bind_asString_iff.mpr named]
  dsimp only
  cases caller.tools.allowsTool tool preflight.restrictedTools <;> rfl

theorem requestExceedsScope_of_no_call {message : Json}
    (silent : ∀ tool params, ¬CallsTool message tool params) :
    preflight.requestExceedsScope message caller.tools caller.devices = false := by
  unfold MistScopePreflight.requestExceedsScope
  split
  · rfl
  · rename_i method
    rw [ne_eq, not_not, bind_asString_iff] at method
    split
    · rfl
    · rename_i params found
      split
      · rfl
      · rename_i tool named
        exact absurd ⟨method, found, bind_asString_iff.mp named⟩ (silent tool params)

theorem requestExceedsScope_reasons {message : Json} :
    preflight.requestExceedsScope message caller.tools caller.devices = true ↔
      NullMessage preflight caller message ∨ MessageOutside preflight caller message := by
  by_cases called : ∃ tool params, CallsTool message tool params
  · obtain ⟨tool, params, call⟩ := called
    rw [requestExceedsScope_of_call call, Bool.or_eq_true, Bool.not_eq_true', Option.any_eq_true]
    simp only [argumentsExceedScope_reasons]
    constructor
    · rintro (refused | ⟨arguments, found, null | outside⟩)
      · exact .inr ⟨tool, params, call, .inl refused⟩
      · cases permitted : caller.tools.allowsTool tool preflight.restrictedTools with
        | true => exact .inl ⟨tool, params, arguments, call, permitted, found, null⟩
        | false => exact .inr ⟨tool, params, call, .inl permitted⟩
      · exact .inr ⟨tool, params, call, .inr ⟨arguments, found, outside⟩⟩
    · rintro (⟨tool', params', arguments, call', _, found, null⟩ |
        ⟨tool', params', call', refused | ⟨arguments, found, outside⟩⟩)
      · obtain ⟨rfl, rfl⟩ := call.unique call'
        exact .inr ⟨arguments, found, .inl null⟩
      · obtain ⟨rfl, rfl⟩ := call.unique call'
        exact .inl refused
      · obtain ⟨rfl, rfl⟩ := call.unique call'
        exact .inr ⟨arguments, found, .inr outside⟩
  · have silent : ∀ tool params, ¬CallsTool message tool params :=
      fun tool params call => called ⟨tool, params, call⟩
    rw [requestExceedsScope_of_no_call silent]
    constructor
    · intro impossible
      cases impossible
    · rintro (⟨tool, params, _, call, _⟩ | ⟨tool, params, call, _⟩)
      · exact absurd call (silent tool params)
      · exact absurd call (silent tool params)

end Reasons

section Trims

/-- A removal takes nulls in the place of targets out of a map. -/
def TrimsMap (values values' : List (String × Json)) : Prop :=
  ∀ key, IndexMap.get key values' = IndexMap.get key values ∨
    key ∈ targetFields ∧ IndexMap.get key values = some .null ∧ IndexMap.get key values' = none

/-- A removal leaves a container as it is or takes nulls out of it. -/
def TrimsContainer (value value' : Json) : Prop :=
  value' = value ∨ ∃ values values', value = .object values ∧ value' = .object values' ∧
    TrimsMap values values'

/-- A removal takes nulls out of the arguments and of their containers. -/
def TrimsArguments (arguments arguments' : List (String × Json)) : Prop :=
  (∀ key ∉ containers, IndexMap.get key arguments' = IndexMap.get key arguments ∨
    key ∈ targetFields ∧ IndexMap.get key arguments = some .null ∧
      IndexMap.get key arguments' = none) ∧
  ∀ key ∈ containers,
    Option.Rel TrimsContainer (IndexMap.get key arguments) (IndexMap.get key arguments')

/-- A removal leaves a value as it is or takes nulls out of its arguments. -/
def TrimsValue (arguments arguments' : Json) : Prop :=
  arguments' = arguments ∨ ∃ members members', arguments = .object members ∧
    arguments' = .object members' ∧ TrimsArguments members members'

/-- A removal changes a message only in the arguments of its call. -/
def TrimsMessage (message message' : Json) : Prop :=
  (∀ key ≠ "params", message'.get key = message.get key) ∧
    Option.Rel (fun params params' : Json =>
      (∀ key ≠ "arguments", params'.get key = params.get key) ∧
        Option.Rel TrimsValue (params.get "arguments") (params'.get "arguments"))
      (message.get "params") (message'.get "params")

/-- A removal changes the messages of a batch or the only message. -/
inductive TrimsBody : Json → Json → Prop where
  | batch {messages messages' : List Json} (each : List.Forall₂ TrimsMessage messages messages') :
      TrimsBody (.array messages) (.array messages')
  | single {message message' : Json} (object : message.isObject = true)
      (object' : message'.isObject = true) (trims : TrimsMessage message message') :
      TrimsBody message message'

variable [ServerPlatform] {devices : ScopeSet} {values values' : List (String × Json)}

/-- No removal of a null touches another reason. -/
theorem targetOutside_iff (trims : ∀ key ∈ targetFields,
      IndexMap.get key values' = IndexMap.get key values ∨
        IndexMap.get key values = some .null ∧ IndexMap.get key values' = none) :
    TargetOutside devices values' ↔ TargetOutside devices values := by
  constructor
  · rintro ⟨field, known, value, found, other, outside⟩
    rcases trims field known with same | ⟨_, gone⟩
    · exact ⟨field, known, value, same ▸ found, other, outside⟩
    · rw [gone] at found
      cases found
  · rintro ⟨field, known, value, found, other, outside⟩
    rcases trims field known with same | ⟨null, _⟩
    · exact ⟨field, known, value, same.trans found, other, outside⟩
    · rw [null] at found
      exact absurd (Option.some.inj found).symm other

theorem TrimsMap.outside_iff (trims : TrimsMap values values') :
    TargetOutside devices values' ↔ TargetOutside devices values :=
  targetOutside_iff fun key _ => (trims key).imp_right And.right

theorem TrimsContainer.outside_iff {value value' : Json} (trims : TrimsContainer value value') :
    ContainerOutside devices value' ↔ ContainerOutside devices value := by
  rcases trims with rfl | ⟨values, values', rfl, rfl, trims⟩
  · rfl
  · exact trims.outside_iff

omit [ServerPlatform] in
theorem rel_exists_iff {α β : Type} {related : α → β → Prop} {P : β → Prop} {Q : α → Prop}
    {first : Option α} {second : Option β} (rel : Option.Rel related first second)
    (same : ∀ value other, related value other → (P other ↔ Q value)) :
    (∃ other, second = some other ∧ P other) ↔ ∃ value, first = some value ∧ Q value := by
  cases rel with
  | none => simp
  | some related => simpa using same _ _ related

omit [ServerPlatform] in
theorem not_mem_containers {key : String} (known : key ∈ targetFields) : key ∉ containers := by
  have apart : ∀ field ∈ targetFields, field ∉ containers := by decide
  exact apart key known

theorem TrimsArguments.outside_iff {arguments arguments' : List (String × Json)}
    (trims : TrimsArguments arguments arguments') :
    ArgumentsOutside devices (.object arguments') ↔ ArgumentsOutside devices (.object arguments) := by
  have fields : TargetOutside devices arguments' ↔ TargetOutside devices arguments :=
    targetOutside_iff fun key known =>
      (trims.1 key (not_mem_containers known)).imp_right And.right
  change (TargetOutside devices arguments' ∨ _) ↔ (TargetOutside devices arguments ∨ _)
  rw [fields]
  apply or_congr_right
  apply exists_congr
  intro container
  apply and_congr_right
  intro known
  exact rel_exists_iff (trims.2 container known) fun _ _ trims => trims.outside_iff

theorem TrimsValue.outside_iff {arguments arguments' : Json}
    (trims : TrimsValue arguments arguments') :
    ArgumentsOutside devices arguments' ↔ ArgumentsOutside devices arguments := by
  rcases trims with rfl | ⟨members, members', rfl, rfl, trims⟩
  · rfl
  · exact trims.outside_iff

variable {preflight : MistScopePreflight} {caller : CallerScopes}

theorem TrimsMessage.outside_iff {message message' : Json} (trims : TrimsMessage message message') :
    MessageOutside preflight caller message' ↔ MessageOutside preflight caller message := by
  obtain ⟨others, params⟩ := trims
  have method := others "method" (by decide)
  unfold MessageOutside CallsTool
  rw [method]
  apply exists_congr
  intro tool
  have reasons := rel_exists_iff params
    (P := fun params' => params'.get "name" = some (.string tool) ∧
      (caller.tools.allowsTool tool preflight.restrictedTools = false ∨
        ∃ arguments, params'.get "arguments" = some arguments ∧
          ArgumentsOutside caller.devices arguments))
    (Q := fun params => params.get "name" = some (.string tool) ∧
      (caller.tools.allowsTool tool preflight.restrictedTools = false ∨
        ∃ arguments, params.get "arguments" = some arguments ∧
          ArgumentsOutside caller.devices arguments))
    fun params params' same => by
      rw [same.1 "name" (by decide), rel_exists_iff same.2 fun _ _ trims => trims.outside_iff]
  constructor
  · rintro ⟨params', ⟨called, found, named⟩, reason⟩
    obtain ⟨params, found', named', reason'⟩ := reasons.mp ⟨params', found, named, reason⟩
    exact ⟨params, ⟨called, found', named'⟩, reason'⟩
  · rintro ⟨params, ⟨called, found, named⟩, reason⟩
    obtain ⟨params', found', named', reason'⟩ := reasons.mpr ⟨params, found, named, reason⟩
    exact ⟨params', ⟨called, found', named'⟩, reason'⟩

omit [ServerPlatform] in
/-- No removal puts a null in the place of a target. -/
theorem nullTarget_of_trims (trims : ∀ key ∈ targetFields,
      IndexMap.get key values' = IndexMap.get key values ∨
        IndexMap.get key values = some .null ∧ IndexMap.get key values' = none)
    (null : NullTarget values') : NullTarget values := by
  obtain ⟨field, known, found⟩ := null
  rcases trims field known with same | ⟨_, gone⟩
  · exact ⟨field, known, same ▸ found⟩
  · rw [gone] at found
    cases found

omit [ServerPlatform] in
theorem TrimsValue.null_of {arguments arguments' : Json} (trims : TrimsValue arguments arguments')
    (null : NullArguments arguments') : NullArguments arguments := by
  rcases trims with rfl | ⟨members, members', rfl, rfl, fields, nested⟩
  · exact null
  · rcases null with null | ⟨container, known, values, found, null⟩
    · apply Or.inl
      apply nullTarget_of_trims _ null
      intro key known
      exact (fields key (not_mem_containers known)).imp_right And.right
    · have related := nested container known
      rw [found] at related
      generalize before : IndexMap.get container members = value at related
      cases related with
      | some trims =>
          rcases trims with same | ⟨values', values'', rfl, same, trims⟩
          · exact .inr ⟨container, known, values, by rw [before, same], null⟩
          · cases same
            refine .inr ⟨container, known, values', before, ?_⟩
            apply nullTarget_of_trims _ null
            exact fun key _ => (trims key).imp_right And.right

theorem TrimsMessage.null_of {message message' : Json} (trims : TrimsMessage message message')
    (null : NullMessage preflight caller message') : NullMessage preflight caller message := by
  obtain ⟨others, related⟩ := trims
  obtain ⟨tool, params', arguments', ⟨method, found, named⟩, permitted, given, null⟩ := null
  rw [others "method" (by decide)] at method
  rw [found] at related
  generalize before : message.get "params" = value at related
  cases related with
  | @some params _ same =>
      obtain ⟨fields, nested⟩ := same
      rw [fields "name" (by decide)] at named
      rw [given] at nested
      generalize inside : params.get "arguments" = value at nested
      cases nested with
      | @some arguments _ trims =>
          exact ⟨tool, params, arguments, ⟨method, before, named⟩, permitted, inside,
            trims.null_of null⟩

end Trims

section Removal

/-- This removal takes every null in the place of a target out of a map. -/
def trimMap (values : List (String × Json)) : List (String × Json) :=
  values.filter fun member => !(member.1 ∈ targetFields && member.2.isNull)

def trimContainer : Json → Json
  | .object values => .object (trimMap values)
  | value => value

def trimArguments : Json → Json
  | .object arguments =>
      .object (trimMap (IndexMap.modify "path" trimContainer
        (IndexMap.modify "query" trimContainer arguments)))
  | value => value

def trimParams : Json → Json
  | .object params => .object (IndexMap.modify "arguments" trimArguments params)
  | value => value

def trimMessage : Json → Json
  | .object message => .object (IndexMap.modify "params" trimParams message)
  | value => value

/-- A lookup that does not find nulls. -/
def nonNull (value : Option Json) : Option Json := value.filter fun value => !value.isNull

theorem nonNull_cases (value : Option Json) :
    nonNull value = value ∨ value = some .null ∧ nonNull value = none := by
  cases value with
  | none => exact .inl rfl
  | some value =>
      cases value with
      | null => exact .inr ⟨rfl, rfl⟩
      | _ => exact .inl rfl

theorem nonNull_ne (value : Option Json) : nonNull value ≠ some .null := by
  intro found
  obtain ⟨_, kept⟩ := Option.filter_eq_some_iff.mp found
  cases kept

theorem get_trimMap {values : List (String × Json)} (distinct : (IndexMap.keys values).Nodup)
    (key : String) : IndexMap.get key (trimMap values) =
      if key ∈ targetFields then nonNull (IndexMap.get key values)
      else IndexMap.get key values := by
  rw [trimMap, IndexMap.get_filter distinct]
  by_cases known : key ∈ targetFields
  · simp [known, nonNull]
  · cases IndexMap.get key values with
    | none => simp [nonNull]
    | some value => simp [known, Option.filter]

theorem not_nullTarget_trimMap {values : List (String × Json)}
    (distinct : (IndexMap.keys values).Nodup) : ¬NullTarget (trimMap values) := by
  rintro ⟨field, known, found⟩
  rw [get_trimMap distinct, if_pos known] at found
  exact nonNull_ne _ found

theorem trimsMap_trimMap {values : List (String × Json)}
    (distinct : (IndexMap.keys values).Nodup) : TrimsMap values (trimMap values) := by
  intro key
  rw [get_trimMap distinct]
  split
  · rename_i known
    rcases nonNull_cases (IndexMap.get key values) with same | ⟨null, gone⟩
    · exact .inl same
    · exact .inr ⟨known, null, gone⟩
  · exact .inl rfl

theorem trimsContainer_trimContainer {value : Json} (formed : value.wellFormed = true) :
    TrimsContainer value (trimContainer value) := by
  cases value with
  | object values =>
      have distinct := ((Json.wellFormed_object_iff values).mp formed).1
      exact .inr ⟨values, _, rfl, rfl, trimsMap_trimMap distinct⟩
  | _ => exact .inl rfl

/-- The arguments after the removal, key by key. -/
theorem get_trimArguments {arguments : List (String × Json)}
    (distinct : (IndexMap.keys arguments).Nodup) (key : String) :
    (trimArguments (.object arguments)).get key =
      if key ∈ containers then (IndexMap.get key arguments).map trimContainer
      else if key ∈ targetFields then nonNull (IndexMap.get key arguments)
      else IndexMap.get key arguments := by
  have distinct' : (IndexMap.keys (IndexMap.modify "path" trimContainer
      (IndexMap.modify "query" trimContainer arguments))).Nodup := by
    rw [IndexMap.keys_modify, IndexMap.keys_modify]
    exact distinct
  change IndexMap.get key (trimMap _) = _
  rw [get_trimMap distinct', IndexMap.get_modify, IndexMap.get_modify]
  by_cases path : key = "path"
  · subst path
    simp [containers, targetFields]
  · by_cases query : key = "query"
    · subst query
      simp [containers, targetFields]
    · simp [containers, path, query]

theorem trimsValue_trimArguments {value : Json} (formed : value.wellFormed = true) :
    TrimsValue value (trimArguments value) := by
  cases value with
  | object arguments =>
      have distinct := ((Json.wellFormed_object_iff arguments).mp formed).1
      refine .inr ⟨arguments, _, rfl, rfl, ?_, ?_⟩
      · intro key other
        have found := get_trimArguments distinct key
        rw [if_neg other] at found
        change (trimArguments (.object arguments)).get key = _ ∨ _ ∧ _ ∧
          (trimArguments (.object arguments)).get key = none
        rw [found]
        split
        · rename_i known
          rcases nonNull_cases (IndexMap.get key arguments) with same | ⟨null, gone⟩
          · exact .inl same
          · exact .inr ⟨known, null, gone⟩
        · exact .inl rfl
      · intro key known
        have found := get_trimArguments distinct key
        rw [if_pos known] at found
        change Option.Rel TrimsContainer _ ((trimArguments (.object arguments)).get key)
        rw [found]
        cases lookup : IndexMap.get key arguments with
        | none => exact .none
        | some value =>
            have inner := Json.wellFormed_of_get formed lookup
            exact .some (trimsContainer_trimContainer inner)
  | _ => exact .inl rfl

theorem not_nullArguments_trim {value : Json} (formed : value.wellFormed = true) :
    ¬NullArguments (trimArguments value) := by
  cases value with
  | object arguments =>
      have distinct := ((Json.wellFormed_object_iff arguments).mp formed).1
      rintro (⟨field, known, found⟩ | ⟨container, known, values, found, null⟩)
      · change (trimArguments (.object arguments)).get field = some .null at found
        rw [get_trimArguments distinct, if_neg (not_mem_containers known), if_pos known] at found
        exact nonNull_ne _ found
      · change (trimArguments (.object arguments)).get container = some (.object values) at found
        rw [get_trimArguments distinct, if_pos known] at found
        obtain ⟨before, lookup, same⟩ := Option.map_eq_some_iff.mp found
        have inner : before.wellFormed = true := Json.wellFormed_of_get formed lookup
        cases before with
        | object members =>
            cases same
            exact not_nullTarget_trimMap ((Json.wellFormed_object_iff members).mp inner).1 null
        | _ => cases same
  | _ => exact id

theorem get_trimMessage (message : Json) (key : String) :
    (trimMessage message).get key =
      if key = "params" then (message.get key).map trimParams else message.get key := by
  cases message with
  | object members => exact IndexMap.get_modify "params" key trimParams members
  | _ => simp [trimMessage, Json.get, Json.members]

theorem get_trimParams (params : Json) (key : String) :
    (trimParams params).get key =
      if key = "arguments" then (params.get key).map trimArguments else params.get key := by
  cases params with
  | object members => exact IndexMap.get_modify "arguments" key trimArguments members
  | _ => simp [trimParams, Json.get, Json.members]

theorem trimsMessage_trimMessage {message : Json} (formed : message.wellFormed = true) :
    TrimsMessage message (trimMessage message) := by
  constructor
  · intro key other
    rw [get_trimMessage, if_neg other]
  · rw [get_trimMessage, if_pos rfl]
    cases found : message.get "params" with
    | none => exact .none
    | some params =>
        apply Option.Rel.some
        constructor
        · intro key other
          rw [get_trimParams, if_neg other]
        · rw [get_trimParams, if_pos rfl]
          have inner := Json.wellFormed_of_get formed found
          cases lookup : params.get "arguments" with
          | none => exact .none
          | some arguments =>
              exact .some (trimsValue_trimArguments (Json.wellFormed_of_get inner lookup))

theorem not_nullMessage_trim [ServerPlatform] {preflight : MistScopePreflight} {caller : CallerScopes}
    {message : Json} (formed : message.wellFormed = true) :
    ¬NullMessage preflight caller (trimMessage message) := by
  rintro ⟨tool, params, arguments, ⟨_, found, _⟩, _, lookup, null⟩
  rw [get_trimMessage, if_pos rfl] at found
  obtain ⟨before, found', rfl⟩ := Option.map_eq_some_iff.mp found
  rw [get_trimParams, if_pos rfl] at lookup
  obtain ⟨arguments, lookup', rfl⟩ := Option.map_eq_some_iff.mp lookup
  have inner := Json.wellFormed_of_get formed found'
  exact not_nullArguments_trim (Json.wellFormed_of_get inner lookup') null

end Removal

section Handlers

variable [ServerPlatform] {arguments : List (String × Json)} {target : MistTarget}
  {devices : ScopeSet}

/-- The target that a handler takes from the arguments of a call. -/
inductive HandlerTarget (arguments : List (String × Json)) (target : MistTarget) : Prop where
  /-- A named tool sorts its arguments into path and query values. -/
  | named {pathNames : List String} {path : PathValues} {query : QueryValues}
      {selectors : List TargetSelector}
      (maps : namedMaps (.object arguments) pathNames = .ok (path, query))
      (derived : targetFor selectors path = .ok (some target))
  /-- A dispatcher reads the path map. -/
  | invoked {json : Json} {path : PathValues} {selectors : List TargetSelector}
      (found : IndexMap.get "path" arguments = some json)
      (read : readMap readString json = .ok path)
      (derived : targetFor selectors path = .ok (some target))
  /-- Any field of the arguments or of their containers. -/
  | field {values : List (String × Json)} {field id : String}
      (inside : values = arguments ∨ ∃ container ∈ containers,
        IndexMap.get container arguments = some (.object values))
      (found : IndexMap.get field values = some (.string id)) (names : NamesTarget field id target)

omit [ServerPlatform] in
theorem targetFor_names {selectors : List TargetSelector} {path : PathValues}
    (derived : targetFor selectors path = .ok (some target)) :
    ∃ field id, path.get field = some id ∧ NamesTarget field id target := by
  unfold targetFor at derived
  split at derived
  · cases derived
  · split at derived
    · cases derived
    · rename_i id found
      split at derived
      · rename_i named
        cases derived
        exact ⟨"org_id", id, found, .inl ⟨rfl, named⟩⟩
      · cases derived
  · split at derived
    · cases derived
    · rename_i id found
      split at derived
      · rename_i named
        cases derived
        exact ⟨"site_id", id, found, .inr ⟨rfl, named⟩⟩
      · cases derived
  · split at derived <;> cases derived

omit [ServerPlatform] in
/-- The path values of a named tool are members of its arguments. -/
theorem collectMaps_path {pathNames : List String} {path path' : PathValues}
    {query query' : QueryValues}
    (collected : collectMaps pathNames path query arguments = .ok (path', query')) {name id : String}
    (found : path'.get name = some id) :
    path.get name = some id ∨ (name, .string id) ∈ arguments := by
  induction arguments generalizing path query with
  | nil =>
      cases collected
      exact .inl found
  | cons member rest ih =>
      obtain ⟨key, value⟩ := member
      rw [collectMaps] at collected
      split at collected
      · exact (ih collected).imp_right (List.mem_cons_of_mem _)
      · split at collected
        · split at collected
          · cases collected
          · rename_i text string
            rcases ih collected with inserted | later
            · rw [SortedMap.get_insert] at inserted
              split at inserted
              · rename_i same
                cases inserted
                cases value with
                | string other =>
                    cases string
                    exact .inr (same ▸ List.mem_cons_self)
                | _ => cases string
              · exact .inl inserted
            · exact .inr (List.mem_cons_of_mem _ later)
        · exact (ih collected).imp_right (List.mem_cons_of_mem _)

omit [ServerPlatform] in
/-- Every target that a handler takes is named by a field of the arguments or of a container. -/
theorem HandlerTarget.named_field (formed : (Json.object arguments).wellFormed = true)
    (taken : HandlerTarget arguments target) : ∃ values field id,
      (values = arguments ∨ ∃ container ∈ containers,
        IndexMap.get container arguments = some (.object values)) ∧
        IndexMap.get field values = some (.string id) ∧ NamesTarget field id target := by
  cases taken with
  | named maps derived =>
      obtain ⟨field, id, found, names⟩ := targetFor_names derived
      have distinct := ((Json.wellFormed_object_iff arguments).mp formed).1
      rcases collectMaps_path maps found with absent | present
      · cases absent
      · exact ⟨arguments, field, id, .inl rfl, IndexMap.get_of_mem distinct present, names⟩
  | @invoked json path selectors found read derived =>
      obtain ⟨field, id, lookup, names⟩ := targetFor_names derived
      cases json with
      | object values =>
          obtain ⟨entries, parsed, same⟩ := bind_eq_ok_iff.mp read
          cases same
          have inner : (Json.object values).wellFormed = true := Json.wellFormed_of_get formed found
          have distinct := ((Json.wellFormed_object_iff values).mp inner).1
          obtain ⟨keys, lookups⟩ := readEntries_ok parsed
          rw [SortedMap.get_ofList (keys ▸ distinct)] at lookup
          have related := lookups field
          rw [lookup] at related
          refine ⟨values, field, id, .inr ⟨"path", by decide, found⟩, ?_, names⟩
          generalize IndexMap.get field values = value at related
          cases related with
          | @some value _ string =>
              cases value with
              | string text =>
                  cases string
                  rfl
              | _ => cases string
      | _ => cases read
  | field inside found names => exact ⟨_, _, _, inside, found, names⟩

omit [ServerPlatform] in
theorem NamesTarget.unique {field id : String} {target' : MistTarget}
    (names : NamesTarget field id target) (names' : NamesTarget field id target') :
    target = target' := by
  rcases names with ⟨rfl, found⟩ | ⟨rfl, found⟩
  · rcases names' with ⟨_, found'⟩ | ⟨other, _⟩
    · rw [found] at found'
      cases found'
      rfl
    · exact absurd other (by decide)
  · rcases names' with ⟨other, _⟩ | ⟨_, found'⟩
    · exact absurd other (by decide)
    · rw [found] at found'
      cases found'
      rfl

omit [ServerPlatform] in
theorem NamesTarget.known {field id : String} (names : NamesTarget field id target) :
    field ∈ targetFields := by
  rcases names with ⟨rfl, _⟩ | ⟨rfl, _⟩ <;> decide

/-- A map within the scope names only targets within it. -/
theorem allows_of_within {values : List (String × Json)} {field id : String}
    (within : ¬targetMapExceedsScope values devices = true)
    (found : IndexMap.get field values = some (.string id)) (names : NamesTarget field id target) :
    devices.allows target.subject = true := by
  by_contra refused
  apply within
  rw [targetMapExceedsScope_iff]
  refine ⟨field, names.known, .string id, found, ?_⟩
  rintro ⟨id', target', same, names', allowed⟩
  cases same
  rw [names.unique names'] at refused
  exact refused allowed

/-- Arguments within the scope give a handler only targets within it. -/
theorem HandlerTarget.allowed (formed : (Json.object arguments).wellFormed = true)
    (within : ¬argumentsExceedScope devices (.object arguments) = true)
    (taken : HandlerTarget arguments target) : devices.allows target.subject = true := by
  obtain ⟨values, field, id, inside, found, names⟩ := taken.named_field formed
  have parts : ¬(targetMapExceedsScope arguments devices || containers.any fun container =>
    (IndexMap.get container arguments).any (containerExceedsScope devices)) = true := within
  rw [Bool.or_eq_true, not_or] at parts
  rcases inside with rfl | ⟨container, known, nested⟩
  · exact allows_of_within parts.1 found names
  · apply allows_of_within _ found names
    intro exceeding
    apply parts.2
    rw [List.any_eq_true]
    refine ⟨container, known, ?_⟩
    rw [nested]
    exact exceeding

end Handlers

section Agreement

variable [ServerPlatform]

/-- A body is a batch of messages or one message. -/
def messagesOf : Json → List Json
  | .array messages => messages
  | message => [message]

theorem denies_eq_any (preflight : MistScopePreflight) (value : Json) (caller : CallerScopes) :
    preflight.denies value caller = (messagesOf value).any fun message =>
      preflight.requestExceedsScope message caller.tools caller.devices := by
  cases value with
  | array messages => rfl
  | _ => simp [MistScopePreflight.denies, messagesOf]

theorem denies_iff {preflight : MistScopePreflight} {value : Json} {caller : CallerScopes} :
    preflight.denies value caller = true ↔ ∃ message ∈ messagesOf value,
      NullMessage preflight caller message ∨ MessageOutside preflight caller message := by
  rw [denies_eq_any]
  simp only [List.any_eq_true, requestExceedsScope_reasons]

omit [ServerPlatform] in
theorem TrimsBody.messages {value value' : Json} (trims : TrimsBody value value') :
    List.Forall₂ TrimsMessage (messagesOf value) (messagesOf value') := by
  cases trims with
  | batch each => exact each
  | single object object' trims =>
      cases value with
      | object members =>
          cases value' with
          | object members' => exact .cons trims .nil
          | _ => cases object'
      | _ => cases object

theorem null_of_forall₂ {preflight : MistScopePreflight} {caller : CallerScopes}
    {messages messages' : List Json} (each : List.Forall₂ TrimsMessage messages messages')
    (null : ∃ message ∈ messages', NullMessage preflight caller message) :
    ∃ message ∈ messages, NullMessage preflight caller message := by
  induction each with
  | nil => exact null
  | cons first rest ih =>
      rw [List.exists_mem_cons_iff] at null ⊢
      exact null.imp first.null_of ih

theorem outside_of_forall₂ {preflight : MistScopePreflight} {caller : CallerScopes}
    {messages messages' : List Json} (each : List.Forall₂ TrimsMessage messages messages') :
    (∃ message ∈ messages', MessageOutside preflight caller message) ↔
      ∃ message ∈ messages, MessageOutside preflight caller message := by
  induction each with
  | nil => rfl
  | cons first rest ih =>
      rw [List.exists_mem_cons_iff, List.exists_mem_cons_iff, first.outside_iff, ih]

/-- Nulls in the place of targets do not decide whether a body is denied. -/
def NullsIdle (preflight : MistScopePreflight) (caller : CallerScopes) (value : Json) : Prop :=
  (∀ message ∈ messagesOf value, ¬NullMessage preflight caller message) ∨
    ∃ message ∈ messagesOf value, MessageOutside preflight caller message

/-- The verdict on a trimmed body is the verdict on the body when nulls do not decide it. -/
theorem NullsIdle.denies_eq {preflight : MistScopePreflight} {caller : CallerScopes}
    {value value' : Json} (idle : NullsIdle preflight caller value)
    (trims : TrimsBody value value') :
    preflight.denies value' caller = preflight.denies value caller := by
  have same : (∃ message ∈ messagesOf value', MessageOutside preflight caller message) ↔
      ∃ message ∈ messagesOf value, MessageOutside preflight caller message :=
    outside_of_forall₂ trims.messages
  rw [Bool.eq_iff_iff, denies_iff, denies_iff]
  simp only [and_or_left, exists_or]
  rw [same]
  rcases idle with none | outside
  · apply or_congr_left
    constructor
    · exact null_of_forall₂ trims.messages
    · rintro ⟨message, present, null⟩
      exact absurd null (none message present)
  · exact iff_of_true (.inr outside) (.inr outside)

omit [ServerPlatform] in
theorem wellFormed_messagesOf {value message : Json} (formed : value.wellFormed = true)
    (present : message ∈ messagesOf value) : message.wellFormed = true := by
  cases value with
  | array messages => exact (Json.wellFormed_array_iff messages).mp formed message present
  | _ =>
      obtain rfl := List.mem_singleton.mp present
      exact formed

/-- This removal takes all nulls out of a body. -/
def trimBody : Json → Json
  | .array messages => .array (messages.map trimMessage)
  | message => trimMessage message

omit [ServerPlatform] in
theorem trimsBody_trimBody {value : Json} (formed : value.wellFormed = true)
    (called : ∃ message ∈ messagesOf value, ∃ tool params, CallsTool message tool params) :
    TrimsBody value (trimBody value) := by
  cases value with
  | array messages =>
      apply TrimsBody.batch
      rw [List.forall₂_map_right_iff, List.forall₂_same]
      intro message present
      exact trimsMessage_trimMessage ((Json.wellFormed_array_iff messages).mp formed message present)
  | object members => exact .single rfl rfl (trimsMessage_trimMessage formed)
  | _ =>
      obtain ⟨message, present, tool, params, method, _⟩ := called
      obtain rfl := List.mem_singleton.mp present
      cases method

omit [ServerPlatform] in
theorem messagesOf_trimBody {value message : Json} (present : message ∈ messagesOf (trimBody value)) :
    ∃ before ∈ messagesOf value, trimMessage before = message := by
  cases value with
  | array messages => exact List.mem_map.mp present
  | _ => exact ⟨_, List.mem_singleton_self _, (List.mem_singleton.mp present).symm⟩

/-- The value of a body that is not empty. -/
def bodyValue (body : ByteArray) : Option Json :=
  if body.isEmpty then none else serdeFromSlice body

def MistScopePreflight.verdict (preflight : MistScopePreflight) (caller : CallerScopes)
    (value : Json) : Except String Unit :=
  if preflight.denies value caller then .error "insufficient_scope" else .ok ()

theorem check_eq (preflight : MistScopePreflight) (body : ByteArray) (caller : CallerScopes) :
    preflight.check body caller =
      (bodyValue body).elim (.ok ()) (preflight.verdict caller) := by
  unfold MistScopePreflight.check bodyValue
  split
  · rfl
  · cases serdeFromSlice body <;> rfl

theorem bodyValue_wellFormed {body : ByteArray} {value : Json} (found : bodyValue body = some value) :
    value.wellFormed = true := by
  unfold bodyValue at found
  split at found
  · cases found
  · obtain ⟨text, _, read⟩ := Option.bind_eq_some_iff.mp found
    exact Platform.fromStr_wellFormed text value (toOption_eq_some_iff.mp read)

/-- The transport and the handlers agree on the targets of a body. -/
structure PreflightAgrees (preflight : MistScopePreflight) (caller : CallerScopes)
    (body : ByteArray) : Prop where
  /-- What the transport lets through gives the handlers only targets within the scope. -/
  targets : preflight.check body caller = .ok () → ∀ value, bodyValue body = some value →
    ∀ message ∈ messagesOf value, ∀ tool params arguments, CallsTool message tool params →
      params.get "arguments" = some (.object arguments) → ∀ target,
        HandlerTarget arguments target → caller.devices.allows target.subject = true
  /-- Nulls in the place of targets are as good as absent. -/
  nulls : ∀ value value', bodyValue body = some value → TrimsBody value value' →
    preflight.verdict caller value' = preflight.check body caller

/-- Every call of a body that is let through has its handler's targets within the scope. -/
theorem targets_within {preflight : MistScopePreflight} {caller : CallerScopes}
    {body : ByteArray} (passed : preflight.check body caller = .ok ()) {value message : Json}
    (found : bodyValue body = some value) (present : message ∈ messagesOf value) {tool : String}
    {params : Json} {arguments : List (String × Json)} (call : CallsTool message tool params)
    (given : params.get "arguments" = some (.object arguments)) {target : MistTarget}
    (taken : HandlerTarget arguments target) : caller.devices.allows target.subject = true := by
  have formed := wellFormed_messagesOf (bodyValue_wellFormed found) present
  have inner := Json.wellFormed_of_get (Json.wellFormed_of_get formed call.2.1) given
  apply taken.allowed inner
  intro exceeding
  have denied : preflight.denies value caller = true := by
    rw [denies_eq_any, List.any_eq_true]
    refine ⟨message, present, ?_⟩
    rw [requestExceedsScope_of_call call, given, Option.any_some, exceeding, Bool.or_true]
  rw [check_eq, found, Option.elim_some, MistScopePreflight.verdict, if_pos denied] at passed
  cases passed

/-- The transport and the handlers agree on a body exactly when no null in the place of a target
decides that it is denied. -/
theorem preflightAgrees_iff (preflight : MistScopePreflight) (caller : CallerScopes)
    (body : ByteArray) : PreflightAgrees preflight caller body ↔
      ∀ value, bodyValue body = some value → NullsIdle preflight caller value := by
  constructor
  · intro agrees value found
    have formed := bodyValue_wellFormed found
    by_cases null : ∃ message ∈ messagesOf value, NullMessage preflight caller message
    · right
      obtain ⟨message, present, reason⟩ := null
      have called : ∃ message ∈ messagesOf value, ∃ tool params, CallsTool message tool params := by
        obtain ⟨tool, params, _, call, _⟩ := reason
        exact ⟨message, present, tool, params, call⟩
      have trims := trimsBody_trimBody formed called
      have denied : preflight.denies value caller = true :=
        denies_iff.mpr ⟨message, present, .inl reason⟩
      have same := agrees.nulls value _ found trims
      rw [check_eq, found, Option.elim_some, MistScopePreflight.verdict,
        MistScopePreflight.verdict, if_pos denied] at same
      have denied' : preflight.denies (trimBody value) caller = true := by
        by_contra passed
        rw [if_neg passed] at same
        cases same
      obtain ⟨message', present', null | outside⟩ := denies_iff.mp denied'
      · obtain ⟨before, inside, rfl⟩ := messagesOf_trimBody present'
        exact absurd null (not_nullMessage_trim (wellFormed_messagesOf formed inside))
      · exact (outside_of_forall₂ trims.messages).mp ⟨message', present', outside⟩
    · left
      exact fun message present reason => null ⟨message, present, reason⟩
  · intro idle
    constructor
    · intro passed value found message present tool params arguments call given target taken
      exact targets_within passed found present call given taken
    · intro value value' found trims
      rw [check_eq, found, Option.elim_some]
      rw [MistScopePreflight.verdict, MistScopePreflight.verdict, (idle value found).denies_eq trims]

end Agreement

end RustMist

namespace RustMist.Network

section Nulls

/-- This call asks for the alarms of a site; its organization is null. -/
def alarmsMessage : Json :=
  .object [("jsonrpc", .string "2.0"), ("id", Json.ofNat 1), ("method", .string "tools/call"),
    ("params", .object [("name", .string "search_mist_alarms"),
      ("arguments", .object [("org_id", .null),
        ("site_id", .string "22222222-2222-2222-2222-222222222222")])])]

def alarmsBody : ByteArray := (serdeToString alarmsMessage).toUTF8

/-- The scope of this caller holds the site. -/
def alarmsCaller : CallerScopes :=
  ⟨.allowlist ["site/22222222-2222-2222-2222-222222222222"], .wildcard⟩

def transportPreflight : MistScopePreflight := ⟨restrictedTools⟩

theorem fromUTF8?_toUTF8 (text : String) : String.fromUTF8? text.toUTF8 = some text := by
  have valid : text.toUTF8.IsValidUTF8 := text.isValidUTF8
  rw [String.fromUTF8?, dif_pos valid]
  rfl

/-- A body that is the text of a message is read as this message. -/
theorem bodyValue_message {message : Json} (formed : message.wellFormed = true) :
    bodyValue (serdeToString message).toUTF8 = some message := by
  have read := Platform.fromStr_toString message formed
  have visible : (serdeToString message).toUTF8.isEmpty = false := by
    have size : (serdeToString message).toUTF8.size = (serdeToString message).utf8ByteSize := rfl
    have nonempty : (serdeToString message).utf8ByteSize ≠ 0 := by
      intro empty
      rw [String.utf8ByteSize_eq_zero_iff] at empty
      rw [empty] at read
      cases read
    simpa [ByteArray.isEmpty, size] using nonempty
  rw [bodyValue, visible, if_neg Bool.false_ne_true, serdeFromSlice, fromUTF8?_toUTF8,
    Option.bind_some, read]
  rfl

theorem alarmsBody_value : bodyValue alarmsBody = some alarmsMessage :=
  bodyValue_message (by decide)

/-- The transport denies a call whose organization is null and lets it through without it. -/
theorem null_organization_denied :
    transportPreflight.check alarmsBody alarmsCaller = .error "insufficient_scope" ∧
      transportPreflight.verdict alarmsCaller (trimBody alarmsMessage) = .ok () ∧
      ¬PreflightAgrees transportPreflight alarmsCaller alarmsBody := by
  have denied : transportPreflight.check alarmsBody alarmsCaller = .error "insufficient_scope" := by
    rw [check_eq, alarmsBody_value]
    decide +kernel
  have passed : transportPreflight.verdict alarmsCaller (trimBody alarmsMessage) = .ok () := by
    decide +kernel
  refine ⟨denied, passed, fun agrees => ?_⟩
  have trims : TrimsBody alarmsMessage (trimBody alarmsMessage) :=
    .single rfl rfl (trimsMessage_trimMessage (by decide))
  have same := agrees.nulls _ _ alarmsBody_value trims
  rw [denied, passed] at same
  cases same

end Nulls

end RustMist.Network
