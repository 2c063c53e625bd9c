import RustMist.Construction.Server.LocalTools
import RustMist.Proof.Calls.Requests

/-! The tools that clients can name are calls of the server. -/

namespace RustMist

open Effects Effects.Program

/-- Only a restricted tool reads with the privileged capability. -/
def ReadFits (tool : String) (capability : MistCapability) : Prop :=
  capability = .ordinaryRead ∨ capability = .privilegedRead ∧ tool ∈ restrictedTools

theorem readFits_config {tool : String} (restricted : tool ∈ restrictedTools)
    (object : WanObject) : ReadFits tool (configCapability object) := by
  cases object with
  | gatewayTemplate | deviceProfile => exact .inr ⟨rfl, restricted⟩
  | _ => exact .inl rfl

section NamedTools

/-- Whatever its record, a named tool reads what fits its name. -/
def NamedTool.Sound (tool : NamedTool) : Prop :=
  ∀ record resolved, tool.dispatch record = .ok resolved → ReadFits tool.name resolved.capability

theorem sound_of_eq {tool : NamedTool} {resolve : ArgRecord → NamedDispatch}
    (same : ∀ record, tool.dispatch record = .ok (resolve record))
    (fits : ∀ record, ReadFits tool.name (resolve record).capability) : tool.Sound := by
  intro record resolved found
  rw [same] at found
  obtain rfl := Except.ok.inj found
  exact fits record

theorem dispatchScoped_ok {record : ArgRecord} {dispatch : Wan.WanScope → NamedDispatch}
    {resolved : NamedDispatch} (found : dispatchScoped record dispatch = .ok resolved) :
    ∃ scope, record.scope = some scope ∧ resolved = dispatch scope := by
  unfold dispatchScoped at found
  split at found
  · cases found
  · rename_i scope named
    exact ⟨scope, named, (Except.ok.inj found).symm⟩

theorem sound_of_scoped (tool : NamedTool)
    {resolve : ArgRecord → Wan.WanScope → NamedDispatch}
    (same : ∀ record, tool.dispatch record = dispatchScoped record (resolve record))
    (fits : ∀ record scope, ReadFits tool.name (resolve record scope).capability) :
    tool.Sound := by
  intro record resolved found
  rw [same] at found
  obtain ⟨scope, _, rfl⟩ := dispatchScoped_ok found
  exact fits record scope

theorem sound_listMistApplications : listMistApplications.Sound := by
  intro record resolved found
  unfold listMistApplications at found
  dsimp only at found
  split at found
  · cases found
  · obtain rfl := Except.ok.inj found
    exact .inl rfl

theorem sound_ordinary (tool : NamedTool) (resolve : ArgRecord → NamedDispatch)
    (same : ∀ record, tool.dispatch record = .ok (resolve record))
    (ordinary : ∀ record, (resolve record).capability = .ordinaryRead) : tool.Sound :=
  sound_of_eq same fun record => .inl (ordinary record)

theorem sound_privileged (tool : NamedTool) (resolve : ArgRecord → NamedDispatch)
    (same : ∀ record, tool.dispatch record = .ok (resolve record))
    (privileged : ∀ record, (resolve record).capability = .privilegedRead)
    (restricted : tool.name ∈ restrictedTools) : tool.Sound :=
  sound_of_eq same fun record => .inr ⟨privileged record, restricted⟩

theorem sound_scoped (tool : NamedTool) (resolve : ArgRecord → Wan.WanScope → NamedDispatch)
    (same : ∀ record, tool.dispatch record = dispatchScoped record (resolve record))
    (ordinary : ∀ record scope, (resolve record scope).capability = .ordinaryRead) : tool.Sound :=
  sound_of_scoped _ same fun record scope => .inl (ordinary record scope)

theorem namedTools_sound : ∀ tool ∈ namedTools, tool.Sound := by
  simp only [namedTools, List.forall_mem_cons]
  exact ⟨sound_privileged getMistDevice _ (fun _ => rfl) (fun _ => rfl) (by decide),
    sound_ordinary getMistDeviceStats _ (fun _ => rfl) (fun _ => rfl),
    sound_ordinary getMistInsight _ (fun _ => rfl) (fun _ => rfl),
    sound_ordinary getMistRrm _ (fun _ => rfl) (fun _ => rfl),
    sound_privileged getMistSelf _ (fun _ => rfl) (fun _ => rfl) (by decide),
    sound_ordinary getMistSite _ (fun _ => rfl) (fun _ => rfl),
    sound_ordinary getMistSle _ (fun _ => rfl) (fun _ => rfl),
    sound_ordinary getMistSleImpact _ (fun _ => rfl) (fun _ => rfl),
    sound_ordinary getMistWanEdgeStats _ (fun _ => rfl) (fun _ => rfl),
    sound_ordinary listMistAlarmDefinitions _ (fun _ => rfl) (fun _ => rfl),
    sound_listMistApplications,
    sound_ordinary listMistRogues _ (fun _ => rfl) (fun _ => rfl),
    sound_ordinary listMistSites _ (fun _ => rfl) (fun _ => rfl),
    sound_ordinary listMistSleMetrics _ (fun _ => rfl) (fun _ => rfl),
    sound_ordinary listMistUpgrades _ (fun _ => rfl) (fun _ => rfl),
    sound_of_scoped listMistWanConfig (fun _ => rfl)
      (fun record _ => readFits_config (by decide) record.object),
    sound_scoped listMistWanEdges _ (fun _ => rfl) (fun _ _ => rfl),
    sound_privileged listMistWlans _ (fun _ => rfl) (fun _ => rfl) (by decide),
    sound_scoped searchMistAlarms _ (fun _ => rfl) (fun _ _ => rfl),
    sound_privileged searchMistAuditLogs _ (fun _ => rfl) (fun _ => rfl) (by decide),
    sound_scoped searchMistBgpPeers _ (fun _ => rfl) (fun _ _ => rfl),
    sound_ordinary searchMistClients _ (fun _ => rfl) (fun _ => rfl),
    sound_ordinary searchMistEvents _ (fun _ => rfl) (fun _ => rfl),
    sound_ordinary searchMistInventory _ (fun _ => rfl) (fun _ => rfl),
    sound_ordinary searchMistPeerPaths _ (fun _ => rfl) (fun _ => rfl),
    sound_ordinary searchMistServicePathEvents _ (fun _ => rfl) (fun _ => rfl),
    sound_ordinary searchMistTunnels _ (fun _ => rfl) (fun _ => rfl),
    sound_ordinary troubleshootMist _ (fun _ => rfl) (fun _ => rfl),
    fun _ absent => absurd absent List.not_mem_nil⟩

end NamedTools

section Routes

/-- The reads of a call fit its tool. -/
def ToolCall.Fits : ToolCall → Prop
  | .invoke tool _ capability => ReadFits tool capability
  | .named tool _ _ _ capability => ReadFits tool capability
  | _ => True

variable [ServerPlatform] {handler : MistHandler} {caller : Option CallerCtx}

/-- A program answers at once, or it is the program of a call of its tool. -/
inductive Serves (handler : MistHandler) (caller : Option CallerCtx) (name : String)
    (program : MistProgram ToolOutcome) : Prop where
  | answers (outcome : ToolOutcome) (same : program = pure outcome)
  | calls (call : ToolCall) (named : call.tool = name) (fits : call.Fits)
      (same : program = call.program handler caller)

theorem serves_invalid {name : String} (reason : String) :
    Serves handler caller name (invalidArguments reason) := .answers _ rfl

theorem serves_refused {name : String} (error : ToolCallError) :
    Serves handler caller name (refuseTool error) := .answers _ rfl

theorem serves_withArgs {α : Type} {name : String} {read : Except String α}
    {run : α → MistProgram ToolOutcome} (runs : ∀ args, Serves handler caller name (run args)) :
    Serves handler caller name (withArgs read run) := by
  unfold withArgs
  split
  · exact serves_invalid _
  · exact runs _

theorem serves_local {name tool : String} (answer : Except ToolCallError Json) :
    Serves handler caller name (answerLocally caller tool answer) := by
  unfold answerLocally
  split
  · exact serves_refused _
  · split
    · exact serves_refused _
    · exact .answers _ rfl

theorem NamedTool.Sound.serves {tool : NamedTool} (sound : tool.Sound)
    (arguments : Json.Value) :
    Serves handler caller tool.name (tool.program handler caller arguments) := by
  unfold NamedTool.program
  split
  · exact serves_invalid _
  · rename_i record _
    split
    · exact serves_refused _
    · rename_i resolved found
      exact .calls (.named tool.name resolved.operationId record.toJson resolved.pathNames
        resolved.capability) rfl (sound record resolved found) rfl

/-- The organization is read as a named read of its identifier. -/
theorem serves_getMistOrg (arguments : Json.Value) :
    Serves handler caller "get_mist_org" (getMistOrg handler caller arguments) := by
  unfold getMistOrg
  split
  · exact serves_invalid _
  · rename_i record _
    refine .calls (.named "get_mist_org" "getOrg"
      (.object [("org_id", .string ((record.text "org_id").getD ""))]) ["org_id"] .ordinaryRead)
      rfl (.inl rfl) ?_
    simp [ToolCall.program, dispatchNamed, namedMaps, collectMaps, Json.isNull]

/-- An object is read as a named read of its organization and its identifier. -/
theorem serves_getMistWanConfig (arguments : Json.Value) :
    Serves handler caller "get_mist_wan_config" (getMistWanConfig handler caller arguments) := by
  unfold getMistWanConfig
  split
  · exact serves_invalid _
  · rename_i record _
    refine .calls (.named "get_mist_wan_config" (Wan.getConfig record.object).operationId
      (.object [("org_id", .string ((record.text "org_id").getD "")),
        (Wan.objectIdName record.object, .string ((record.text "object_id").getD ""))])
      ["org_id", Wan.objectIdName record.object] (configCapability record.object))
      rfl (readFits_config (by decide) record.object) ?_
    simp [ToolCall.program, dispatchNamed, namedMaps, collectMaps, Json.isNull]

/-- Every route serves the tool under its name. -/
theorem toolRouter_serves : ∀ route ∈ toolRouter handler caller, ∀ arguments,
    Serves handler caller route.1 (route.2 arguments) := by
  intro route member arguments
  rcases List.mem_append.mp member with own | named
  · simp only [ownRoutes, List.mem_cons, List.not_mem_nil, or_false] at own
    rcases own with rfl | rfl | rfl | rfl | rfl | rfl | rfl | rfl | rfl | rfl | rfl
    · exact serves_withArgs fun args => .calls (.apply args) rfl trivial rfl
    · exact serves_withArgs fun args => .calls (.approve args) rfl trivial rfl
    · exact serves_withArgs fun args => .calls (.getChangeSet args) rfl trivial rfl
    · exact serves_withArgs fun args => serves_local _
    · exact serves_getMistOrg arguments
    · exact serves_getMistWanConfig arguments
    · exact serves_withArgs fun args =>
        .calls (.invoke "invoke_mist_privileged_read" args .privilegedRead) rfl
          (.inr ⟨rfl, by decide⟩) rfl
    · exact serves_withArgs fun args => .calls (.invoke _ args .ordinaryRead) rfl (.inl rfl) rfl
    · exact serves_withArgs fun _ => serves_local _
    · exact serves_withArgs fun args => .calls (.plan args) rfl trivial rfl
    · exact serves_withArgs fun args => serves_local _
  · obtain ⟨tool, listed, rfl⟩ := List.mem_map.mp named
    exact (namedTools_sound tool listed).serves arguments

/-- Every call of a tool, known or not, answers at once or is a call of the server. -/
theorem callTool_serves (name : String) (arguments : Json.Value) :
    Serves handler caller name (callTool handler caller name arguments) := by
  unfold callTool
  split
  · rename_i tool found
    exact toolRouter_serves _ (IndexMap.mem_of_get found) arguments
  · exact .answers _ rfl

end Routes

end RustMist
