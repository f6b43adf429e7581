import AgentPact.Platform

/-!
# Pause signals

`agent_runs/pause_signal.py` and what a signal carries of
`governance/input_contracts.py`.

A signal pauses a run without ending it.  The invariants of its validator are a
field, so that every signal there is satisfies them.  A signal is redacted
before it is stored, and redaction keeps the invariants.

Parts of a signal that are only stored and compared are documents.
-/

namespace AgentPact

/-- How a run is paused. -/
inductive RunPauseOutcome where
  | awaitingInput | needsHuman
deriving DecidableEq, Repr

/-- The text of an outcome. -/
def RunPauseOutcome.value : RunPauseOutcome → String
  | .awaitingInput => "awaiting_input"
  | .needsHuman => "needs_human"

/-- What a caller may do about a pause. -/
inductive RunPauseAction where
  | submitInput | resume | takeOver | cancel
deriving DecidableEq, Repr

/-- The text of an action. -/
def RunPauseAction.value : RunPauseAction → String
  | .submitInput => "submit_input"
  | .resume => "resume"
  | .takeOver => "take_over"
  | .cancel => "cancel"

/-- How a paused run becomes runnable again. -/
inductive RunResumePolicy where
  | inputSubmission | humanTakeover | manualReview | noResume
deriving DecidableEq, Repr

/-- The text of a policy. -/
def RunResumePolicy.value : RunResumePolicy → String
  | .inputSubmission => "input_submission"
  | .humanTakeover => "human_takeover"
  | .manualReview => "manual_review"
  | .noResume => "no_resume"

/-- Where a value of a slot may come from. -/
inductive InputSource where
  | user | system | adapter | observed | model | rejectModel
deriving DecidableEq, Repr

/-- The text of a source. -/
def InputSource.value : InputSource → String
  | .user => "user"
  | .system => "system"
  | .adapter => "adapter"
  | .observed => "observed"
  | .model => "model"
  | .rejectModel => "reject_model"

/-- A slot of an input request. -/
structure InputSlotSpec where
  slotName : String
  source : InputSource
  required : Bool
  allowedSources : List InputSource
  /-- Its kind and sensitivity. -/
  declaration : Json
  sources_unique : allowedSources.Nodup
  source_allowed : source ∈ allowedSources
deriving DecidableEq

/-- The inputs a pause asks for. -/
structure InputRequest where
  requestId : String
  packId : String
  packVersion : String
  slots : List InputSlotSpec
  adapterRequirements : List Json
  bindings : List Json
  values : List (String × Json)
  status : Dict
  recovery : Bool
  externalEffectStarted : Bool
  slots_unique : (slots.map (·.slotName)).Nodup
deriving DecidableEq

/-- What a user is shown. -/
structure RunPausePromptMetadata where
  title : String
  message : String
  locale : Option String
deriving DecidableEq

/-- The content of a signal. -/
structure RunPauseContent where
  outcome : RunPauseOutcome
  reasonCode : String
  runId : String
  taskId : Option String
  stepId : Option String
  checkpointId : Option String
  inputRequest : Option InputRequest
  prompt : Option RunPausePromptMetadata
  allowedActions : List RunPauseAction
  resumePolicy : RunResumePolicy
  externalEffectStarted : Bool
  expiresAt : Option DateTime
deriving DecidableEq

/-- `validate_invariants`. -/
structure RunPauseContent.Valid (c : RunPauseContent) : Prop where
  unique : c.allowedActions.Nodup
  aware : ∀ t ∈ c.expiresAt, t.aware = true
  awaitingInput : c.outcome = .awaitingInput → c.externalEffectStarted = false ∧
    c.inputRequest.isSome ∧ .submitInput ∈ c.allowedActions ∧ c.resumePolicy = .inputSubmission
  needsHuman : c.outcome = .needsHuman → c.resumePolicy ≠ .inputSubmission
  request : ∀ r ∈ c.inputRequest, r.externalEffectStarted = c.externalEffectStarted ∧
    (r.recovery = true → c.outcome = .awaitingInput ∧ c.externalEffectStarted = false)
  effect : c.externalEffectStarted = true → .submitInput ∉ c.allowedActions

/-- A pause signal. -/
structure RunPauseSignal extends RunPauseContent where
  valid : toRunPauseContent.Valid
deriving DecidableEq

/-- The prompt every stored signal has. -/
def RunPausePromptMetadata.redact (p : RunPausePromptMetadata) : RunPausePromptMetadata :=
  { p with message := "Additional information is required to continue this run." }

/-- An input request without values. -/
def InputRequest.redact (r : InputRequest) : InputRequest :=
  { r with values := [], bindings := [], adapterRequirements := [] }

/-- `_redact_pause_signal`. -/
def RunPauseSignal.redact (s : RunPauseSignal) : RunPauseSignal where
  toRunPauseContent := { s.toRunPauseContent with
    prompt := s.prompt.map (·.redact)
    inputRequest := s.inputRequest.map (·.redact) }
  valid :=
    { unique := s.valid.unique
      aware := s.valid.aware
      awaitingInput := fun h => by simpa using s.valid.awaitingInput h
      needsHuman := s.valid.needsHuman
      request := by
        intro r hr
        obtain ⟨r', hr', rfl⟩ := Option.map_eq_some_iff.mp hr
        exact s.valid.request r' hr'
      effect := s.valid.effect }

/-- `model_dump(mode="json")` of a slot. -/
def InputSlotSpec.modelDump (s : InputSlotSpec) : Json :=
  .obj [("slot_name", .str s.slotName), ("source", .str s.source.value),
    ("required", .bool s.required), ("allowed_sources", .arr (s.allowedSources.map (.str ·.value))),
    ("declaration", s.declaration)]

/-- `model_dump(mode="json")` of a request. -/
def InputRequest.modelDump (r : InputRequest) : Json :=
  .obj [("request_id", .str r.requestId), ("pack_id", .str r.packId),
    ("pack_version", .str r.packVersion), ("slots", .arr (r.slots.map (·.modelDump))),
    ("adapter_requirements", .arr r.adapterRequirements), ("bindings", .arr r.bindings),
    ("values", .obj r.values), ("status", r.status.toJson), ("recovery", .bool r.recovery),
    ("recovery_mode", .str "pre_effect_only"),
    ("external_effect_started", .bool r.externalEffectStarted)]

/-- `model_dump(mode="json")` of a prompt. -/
def RunPausePromptMetadata.modelDump (p : RunPausePromptMetadata) : Json :=
  .obj [("title", .str p.title), ("message", .str p.message),
    ("locale", .ofOption .str p.locale), ("redacted", .bool true)]

/-- `model_dump(mode="json")` of a signal. -/
def RunPauseSignal.modelDump (P : Platform) (s : RunPauseSignal) : Json :=
  .obj [("outcome", .str s.outcome.value), ("reason_code", .str s.reasonCode),
    ("run_id", .str s.runId), ("task_id", .ofOption .str s.taskId),
    ("step_id", .ofOption .str s.stepId), ("checkpoint_id", .ofOption .str s.checkpointId),
    ("input_request", .ofOption (·.modelDump) s.inputRequest),
    ("prompt", .ofOption (·.modelDump) s.prompt),
    ("allowed_actions", .arr (s.allowedActions.map (.str ·.value))),
    ("resume_policy", .str s.resumePolicy.value),
    ("external_effect_started", .bool s.externalEffectStarted),
    ("expires_at", .ofOption (fun t => .str (P.isoformat t)) s.expiresAt)]

end AgentPact
