import RustMist.Proof.Sites.Discovery
import RustMist.Proof.Surface.Routes

/-! What the requests of the named tools carry. -/

namespace RustMist

open Effects Effects.Program

section Fields

/-- The part of a value that is not null. -/
def present (value : Option Json) : Option Json := value.filter fun json => !json.isNull

@[simp] theorem present_none : present none = none := rfl

theorem present_of_isNull {json : Json} (null : json.isNull = true) :
    present (some json) = none := by simp [present, Option.filter, null]

theorem present_of_not_isNull {json : Json} (visible : json.isNull = false) :
    present (some json) = some json := by simp [present, Option.filter, visible]

/-- What a field sends of the arguments of a call. -/
def ArgField.sends (field : ArgField) (arguments : List (String × Json)) : Option Json :=
  if field.sent then
    match field.presence with
    | .fixed value => some value
    | .default value => some ((IndexMap.get field.name arguments).getD value)
    | _ => present (IndexMap.get field.name arguments)
  else none

/-- What a record sends under a name. -/
def sentValue (fields : List ArgField) (arguments : List (String × Json)) (name : String) :
    Option Json :=
  (fields.find? fun field => field.name = name).bind fun field => field.sends arguments

/-- A field that is sent is read as it stands, and it is not null unless it is optional. -/
def ArgField.plain (field : ArgField) : Bool :=
  !field.sent ||
    (match field.type with
      | .choice _ => false
      | _ => true) &&
    match field.presence with
    | .fixed value | .default value => !value.isNull
    | _ => true

variable {arguments : List (String × Json)}

/-- A value whose type is no choice is kept as it is. -/
theorem ArgType.read_ok {type : ArgType} {json value : Json} (read : type.read json = .ok value)
    (direct : ∀ names, type ≠ .choice names) : value = json ∧ json.isNull = false := by
  cases type with
  | text =>
      cases json with
      | string text => exact ⟨(Except.ok.inj read).symm, rfl⟩
      | _ => cases read
  | flag =>
      cases json with
      | bool flag => exact ⟨(Except.ok.inj read).symm, rfl⟩
      | _ => cases read
  | uint32 =>
      cases json with
      | number number =>
          simp only [ArgType.read] at read
          split at read
          · split at read
            · exact ⟨(Except.ok.inj read).symm, rfl⟩
            · cases read
          · cases read
      | _ => cases read
  | uint64 =>
      cases json with
      | number number =>
          simp only [ArgType.read] at read
          split at read
          · exact ⟨(Except.ok.inj read).symm, rfl⟩
          · cases read
      | _ => cases read
  | choice names => exact absurd rfl (direct names)

theorem ArgField.direct_of_plain {field : ArgField} (plain : field.plain = true)
    (sent : field.sent = true) : ∀ names, field.type ≠ .choice names := by
  intro names chosen
  simp [ArgField.plain, sent, chosen] at plain

theorem ArgField.kept_of_plain {field : ArgField} (plain : field.plain = true)
    (sent : field.sent = true) {value : Json}
    (kept : field.presence = .fixed value ∨ field.presence = .default value) :
    value.isNull = false := by
  rcases kept with same | same <;> simp_all [ArgField.plain]

/-- The value that is read for a field that is sent is sent unless it is null. -/
theorem ArgField.sends_of_read {field : ArgField} {value : Json} (plain : field.plain = true)
    (sent : field.sent = true) (read : field.read arguments = .ok value) :
    present (some value) = field.sends arguments := by
  have direct := field.direct_of_plain plain sent
  rw [ArgField.sends, if_pos sent]
  cases presence : field.presence with
  | fixed value' =>
      rw [ArgField.read, presence] at read
      obtain rfl := Except.ok.inj read
      exact present_of_not_isNull (field.kept_of_plain plain sent (.inl presence))
  | required =>
      rw [ArgField.read, presence] at read
      cases found : IndexMap.get field.name arguments with
      | none => simp [found] at read
      | some json =>
          simp only [found] at read
          obtain ⟨rfl, visible⟩ := ArgType.read_ok read direct
          rfl
  | optional =>
      rw [ArgField.read, presence] at read
      cases found : IndexMap.get field.name arguments with
      | none =>
          simp only [found] at read
          obtain rfl := Except.ok.inj read
          rfl
      | some json =>
          simp only [found] at read
          split at read
          · rename_i null
            obtain rfl := Except.ok.inj read
            exact (present_of_isNull null).symm
          · obtain ⟨rfl, visible⟩ := ArgType.read_ok read direct
            rfl
  | default value' =>
      rw [ArgField.read, presence] at read
      cases found : IndexMap.get field.name arguments with
      | none =>
          simp only [found] at read
          obtain rfl := Except.ok.inj read
          exact present_of_not_isNull (field.kept_of_plain plain sent (.inr presence))
      | some json =>
          simp only [found] at read
          obtain ⟨rfl, visible⟩ := ArgType.read_ok read direct
          exact present_of_not_isNull visible

/-- A record whose sent fields are plain has a name for each of its fields. -/
structure PlainFields (fields : List ArgField) : Prop where
  plain : ∀ field ∈ fields, field.plain = true
  distinct : (fields.map ArgField.name).Nodup

instance (fields : List ArgField) : Decidable (PlainFields fields) :=
  decidable_of_iff ((∀ field ∈ fields, field.plain = true) ∧ (fields.map ArgField.name).Nodup)
    ⟨fun both => ⟨both.1, both.2⟩, fun plain => ⟨plain.plain, plain.distinct⟩⟩

theorem sentValue_of_absent {fields : List ArgField} {name : String}
    (absent : name ∉ fields.map ArgField.name) : sentValue fields arguments name = none := by
  have unfound : fields.find? (fun field => field.name = name) = none := by
    rw [List.find?_eq_none]
    intro field member same
    exact absent (List.mem_map.mpr ⟨field, member, by simpa using same⟩)
  rw [sentValue, unfound]
  rfl

/-- The fields that are read have the names of the record. -/
theorem readFields_fields {fields : List ArgField} {record : ArgRecord}
    (read : readFields arguments fields = .ok record) : record.map Prod.fst = fields := by
  induction fields generalizing record with
  | nil =>
      obtain rfl := Except.ok.inj read
      rfl
  | cons field rest ih =>
      obtain ⟨value, _, read⟩ := bind_eq_ok_iff.mp read
      obtain ⟨later, readRest, read⟩ := bind_eq_ok_iff.mp read
      obtain rfl := Except.ok.inj read
      rw [List.map_cons, ih readRest]

/-- The members of a record are what its fields send, and nulls. -/
theorem readFields_sends {fields : List ArgField} {record : ArgRecord}
    (read : readFields arguments fields = .ok record) (plain : PlainFields fields) (name : String) :
    present (IndexMap.get name record.members) = sentValue fields arguments name := by
  induction fields generalizing record with
  | nil =>
      obtain rfl := Except.ok.inj read
      rfl
  | cons field rest ih =>
      obtain ⟨value, readField, read⟩ := bind_eq_ok_iff.mp read
      obtain ⟨later, readRest, read⟩ := bind_eq_ok_iff.mp read
      obtain rfl := Except.ok.inj read
      obtain ⟨fresh, distinct⟩ := List.nodup_cons.mp plain.distinct
      have tail := ih readRest ⟨fun field member => plain.plain field (.tail _ member), distinct⟩
      rw [sentValue, List.find?_cons]
      by_cases sent : field.sent = true
      · have members : ArgRecord.members ((field, value) :: later) =
            (field.name, value) :: ArgRecord.members later := by
          simp [ArgRecord.members, sent]
        rw [members, IndexMap.get_cons]
        by_cases same : field.name = name
        · rw [if_pos same, decide_eq_true same]
          exact ArgField.sends_of_read (plain.plain field List.mem_cons_self) sent readField
        · rw [if_neg same, decide_eq_false same]
          exact tail
      · have members : ArgRecord.members ((field, value) :: later) = ArgRecord.members later := by
          simp [ArgRecord.members, sent]
        rw [members, tail]
        by_cases same : field.name = name
        · rw [decide_eq_true same, sentValue_of_absent (same ▸ fresh)]
          simp [ArgField.sends, sent]
        · rw [decide_eq_false same]
          rfl

theorem namedTools_plain : ∀ tool ∈ namedTools, PlainFields tool.fields := by
  decide

end Fields

section Maps

variable {pathNames : List String} {path path' : PathValues} {query query' : QueryValues}

theorem asString_eq_some {json : Json} {text : String} (read : json.asString = some text) :
    json = .string text := by
  cases json with
  | string value => exact congrArg Json.string (Option.some.inj read)
  | _ => cases read

/-- Each member that is not null moves to the path or to the query by its name. -/
theorem collectMaps_ok {members : List (String × Json)}
    (collected : collectMaps pathNames path query members = .ok (path', query'))
    (distinct : (IndexMap.keys members).Nodup) (name : String) :
    (path'.get name).map Json.string =
        (if name ∈ pathNames then present (IndexMap.get name members) else none).or
          ((path.get name).map Json.string) ∧
      query'.get name =
        (if name ∈ pathNames then none else present (IndexMap.get name members)).or
          (query.get name) := by
  induction members generalizing path query with
  | nil =>
      obtain ⟨rfl, rfl⟩ := Prod.mk.inj (Except.ok.inj collected)
      simp [present]
  | cons member rest ih =>
      obtain ⟨key, value⟩ := member
      obtain ⟨unused, later⟩ := List.nodup_cons.mp distinct
      have gone : IndexMap.get key rest = none := IndexMap.get_eq_none_iff.mpr unused
      rw [IndexMap.get_cons]
      unfold collectMaps at collected
      by_cases null : value.isNull = true
      · rw [if_pos null] at collected
        have tail := ih collected later
        by_cases same : key = name
        · subst same
          simpa [gone, present_of_isNull null] using tail
        · rwa [if_neg same]
      · rw [if_neg null] at collected
        have visible := present_of_not_isNull (Bool.eq_false_iff.mpr null)
        by_cases listed : key ∈ pathNames
        · rw [if_pos listed] at collected
          split at collected
          · cases collected
          · rename_i text read
            obtain rfl := asString_eq_some read
            have tail := ih collected later
            by_cases same : key = name
            · subst same
              simpa [gone, listed, visible] using tail
            · simpa [same, Ne.symm same] using tail
        · rw [if_neg listed] at collected
          have tail := ih collected later
          by_cases same : key = name
          · subst same
            simpa [gone, listed, visible] using tail
          · simpa [same, Ne.symm same] using tail

end Maps

section Requests

/-- A request carries what its tool sends of the arguments: a value under a path name is in the
path, every other value in the query, and nothing else is sent. -/
structure Carries (fields : List ArgField) (pathNames : List String)
    (arguments : List (String × Json)) (request : MistRequest) : Prop where
  path : ∀ name, (request.path.get name).map Json.string =
    if name ∈ pathNames then sentValue fields arguments name else none
  query : ∀ name, request.query.get name =
    if name ∈ pathNames then none else sentValue fields arguments name
  bodiless : request.json = none
  first : request.cursor = none
  known : ∀ name ∈ IndexMap.keys arguments, name ∈ acceptedNames fields

theorem readArgs_ok {fields : List ArgField} {arguments : List (String × Json)}
    {record : ArgRecord} (read : readArgs fields arguments = .ok record) :
    (∀ name ∈ IndexMap.keys arguments, name ∈ acceptedNames fields) ∧
      readFields arguments fields = .ok record := by
  unfold readArgs at read
  split at read
  · rename_i known
    exact ⟨by simpa using known, read⟩
  · cases read

/-- The members of a record have the names of its sent fields. -/
theorem keys_members {record : ArgRecord} (distinct : (record.map fun entry => entry.1.name).Nodup) :
    (IndexMap.keys record.members).Nodup := by
  have names : IndexMap.keys record.members =
      (record.filter fun entry => entry.1.sent).map fun entry => entry.1.name := by
    simp [IndexMap.keys, ArgRecord.members]
  rw [names]
  exact distinct.sublist (List.filter_sublist.map _)

theorem carries_of_namedMaps {fields : List ArgField} {pathNames : List String}
    {arguments : List (String × Json)} {record : ArgRecord} {path : PathValues}
    {query : QueryValues} (plain : PlainFields fields)
    (read : readArgs fields arguments = .ok record)
    (mapped : namedMaps record.toJson pathNames = .ok (path, query)) {request : MistRequest}
    (samePath : request.path = path) (sameQuery : request.query = query)
    (bodiless : request.json = none) (first : request.cursor = none) :
    Carries fields pathNames arguments request := by
  obtain ⟨known, read⟩ := readArgs_ok read
  have distinct : (record.map fun entry => entry.1.name).Nodup := by
    have names := plain.distinct
    rwa [← readFields_fields read, List.map_map] at names
  have moved := collectMaps_ok mapped (keys_members distinct)
  refine ⟨fun name => ?_, fun name => ?_, bodiless, first, known⟩
  · have own := (moved name).1
    rw [readFields_sends read plain] at own
    simpa [samePath] using own
  · have own := (moved name).2
    rw [readFields_sends read plain] at own
    simpa [sameQuery] using own

variable [ServerPlatform] {handler : MistHandler} {caller : Option CallerCtx}

theorem callTool_named {tool : NamedTool} (listed : tool ∈ namedTools)
    (arguments : Json.Value) :
    callTool handler caller tool.name arguments = tool.program handler caller arguments := by
  have distinct : (IndexMap.keys (toolRouter handler caller)).Nodup := by
    rw [keys_toolRouter]
    decide
  have member : (tool.name, tool.program handler caller) ∈ toolRouter handler caller :=
    List.mem_append_right _ (List.mem_map.mpr ⟨tool, listed, rfl⟩)
  rw [callTool, IndexMap.get_of_mem distinct member]

/-- The request is for the operation of the record that is read from the arguments. -/
def NamedTool.Requests (tool : NamedTool) (arguments : List (String × Json))
    (request : MistRequest) : Prop :=
  ∃ record resolved, readArgs tool.fields arguments = .ok record ∧
    tool.dispatch record = .ok resolved ∧ request.operationId = resolved.operationId ∧
    Carries tool.fields resolved.pathNames arguments request

theorem NamedTool.program_requests {tool : NamedTool} (plain : PlainFields tool.fields)
    (arguments : Json.Value) :
    (tool.program handler caller arguments).Ensures
      (OnSend fun _ request => tool.Requests arguments.val.members request) (fun _ _ => True)
      [] := by
  unfold NamedTool.program
  split
  · trivial
  · rename_i record read
    split
    · trivial
    · rename_i resolved found
      apply succeed_ensures
      unfold dispatchNamed
      split
      · trivial
      · rename_i path query mapped
        refine read_ensures fun past request allowed => ?_
        obtain ⟨operation, target, admitted⟩ := allowed
        obtain rfl := admitted.same
        exact ⟨record, resolved, read, found, rfl,
          carries_of_namedMaps plain read mapped rfl rfl rfl rfl⟩

/-- A request of a named tool is for the operation that the record of the arguments determines, and
it carries the sent arguments unchanged, each at its place, and nothing more. -/
theorem namedTool_carries (handler : MistHandler) (caller : Option CallerCtx) {tool : NamedTool}
    (listed : tool ∈ namedTools) (arguments : Json.Value) {history : MistHistory}
    {rest : MistProgram ToolOutcome}
    (run : Run (callTool handler caller tool.name arguments) history rest) {request : MistRequest}
    {priority : CallPriority} (sent : (⟨.executeAs request priority, ()⟩ : MistEvent) ∈ history) :
    tool.Requests arguments.val.members request := by
  rw [callTool_named listed] at run
  obtain ⟨before, after, rfl⟩ := List.append_of_mem sent
  exact (tool.program_requests (namedTools_plain tool listed) arguments).event run request priority
    rfl

end Requests

end RustMist

namespace RustMist.Network

open Effects Effects.Program

/-- This server lists the sites of its organizations. -/
def sitesHandler : MistHandler := { handler with catalog := siteCatalog }

/-- These arguments ask for the first page of the sites. -/
def sitesArguments : Json.Value :=
  ⟨.object [("org_id", .string orgId), ("limit", Json.ofNat 100), ("page", Json.ofNat 1)],
    by decide⟩

def sitesRead : CatalogRead where
  tool := "list_mist_sites"
  operationId := "listOrgSites"
  path := (listOrgSitesRequest orgId 1).path
  query := (listOrgSitesRequest orgId 1).query
  cursor := none
  capability := .ordinaryRead
  redactOutput := true

theorem callTool_sites : callTool sitesHandler none "list_mist_sites" sitesArguments =
    succeed (dispatchCataloguedRead sitesHandler sitesRead none) := rfl

theorem admitRead_sitesHandler : admitRead sitesHandler sitesRead none = .ok (some target) := by
  have found : sitesHandler.catalog.operation sitesRead.operationId = some (sealed siteListing) :=
    operation_sites
  have derived : targetFor (sealed siteListing).targetSelectors sitesRead.path =
      .ok (some target) := by
    have supplied : sitesRead.path.get "org_id" = some orgId := rfl
    have accepted : MistTarget.org orgId = .ok target := MistTarget.org_ok_iff.mpr ⟨rfl, rfl⟩
    change targetFor [.org] sitesRead.path = _
    simp only [targetFor, supplied, accepted]
  rw [admitRead, found]
  dsimp only
  rw [derived]
  rfl

/-- The events of this call when the client does not answer. -/
theorem sites_completes : Completes (callTool sitesHandler none "list_mist_sites" sitesArguments)
    (failedEvents orgId) (.ok lostResult) := by
  have valid : sitesRead.request.validate sitesHandler.catalog sitesHandler.origin =
      .ok sitesRead.request := validate_page List.mem_cons_self (by decide)
  rw [callTool_sites, dispatchCataloguedRead_sends admitRead_sitesHandler rfl List.mem_cons_self rfl valid]
  exact (sendRead_fails .transportUnavailable).bind (.start _)

theorem namedTool_carries_sites :
    listMistSites.Requests sitesArguments.val.members (listOrgSitesRequest orgId 1) :=
  have listed : listMistSites ∈ namedTools := by simp [namedTools]
  namedTool_carries sitesHandler none listed sitesArguments sites_completes List.mem_cons_self

end RustMist.Network
