import AgentPact.Platform

/-!
# Pack runtimes

The envelopes that cross the boundary between the platform and a Pack
(`governance/pack_runtime.py`): the binding of a run, the exact identity of an
external effect, and what a Pack says about a run it advanced or probed.

What the model validators of the source demand is a field, so that a result
there is satisfies them.  A value that is no result is `none`, and the
`validatePack` functions turn it into the error the platform reports.
-/

namespace AgentPact

/-- The Pack a run is bound to. -/
structure PackRuntimeBinding where
  packId : String
  packVersion : String
  adapterId : String
  capabilityIds : List String
deriving DecidableEq

/-- `derive_pack_run_id`. -/
def derivePackRunId (P : Platform) (tenantId requestId : String) : String :=
  "run_" ++ (P.digest (.arr [.str "agentpact-agent-run/v1", .str tenantId, .str requestId])).hex

theorem derivePackRunId_ne_empty {P : Platform} {tenantId requestId : String} :
    derivePackRunId P tenantId requestId ≠ "" := by
  intro h
  have hlength := congrArg String.length h
  simp [derivePackRunId, String.length_append] at hlength

/-- The identity of a run as its Pack knows it. -/
structure PreparedRunReference where
  runId : String
  tenantId : String
  requestId : String
  packId : String
  packVersion : String
  adapterId : String
  admissionId : Option String
  contractId : Option String
  providerMode : String
  opaquePayload : List (String × Json)

/-- The exact identity of an external effect that waits for its proof. -/
structure ExecutionCheckpoint where
  permitId : String
  attemptId : String
  taskId : String
  stepId : String
  actionFingerprint : String
  observationHash : String
  idempotencyKeyDigest : Digest
  executionEffect : String
  resultProbeRef : String
  attemptStatus : String
deriving DecidableEq

/-- `attempt_status.casefold() == "unknown"`.  Besides the letters of either case, only the
Kelvin sign folds into this word. -/
def ExecutionCheckpoint.isUnknown (c : ExecutionCheckpoint) : Bool :=
  (c.attemptStatus.map fun x => if x = Char.ofNat 0x212A then 'k' else x.toLower) = "unknown"

/-! ## Advancing -/

/-- How far a Pack got. -/
inductive PackAdvanceStatus where
  | completed | awaitingApproval | pendingResultProbe | failed
deriving DecidableEq, Repr

/-- What a Pack says about a run it advanced. -/
structure PackAdvanceResult where
  status : PackAdvanceStatus
  runId : String
  stepId : Option String
  reasonCode : Option String
  /-- The step of its approval specification. -/
  approvalStepId : Option String
  executionCheckpoint : Option ExecutionCheckpoint
  approval_iff : approvalStepId.isSome ↔ status = .awaitingApproval
  checkpoint_iff : executionCheckpoint.isSome ↔ status = .pendingResultProbe
  reason : status ≠ .completed → reasonCode.isSome
  approval_step : ∀ s ∈ approvalStepId, stepId = some s
  checkpoint_step : ∀ c ∈ executionCheckpoint, stepId = some c.stepId ∧ c.isUnknown = true

/-- A `PackLifecycleError` with a code. -/
def packLifecycleError (code : String) : Raised := ⟨.packLifecycleError, code⟩

/-- `validate_pack_advance_result`. -/
def validatePackAdvanceResult (value : Option PackAdvanceResult) (runId : String) :
    Except Raised PackAdvanceResult :=
  match value with
  | none => .error (packLifecycleError "PACK_ADVANCE_RESULT_INVALID")
  | some result =>
      if result.runId = runId then .ok result
      else .error (packLifecycleError "PACK_ADVANCE_RESULT_CORRELATION_MISMATCH")

/-- A validated result is about the run it was asked for. -/
theorem validatePackAdvanceResult_runId {value : Option PackAdvanceResult} {runId : String}
    {result : PackAdvanceResult} (h : validatePackAdvanceResult value runId = .ok result) :
    result.runId = runId := by
  unfold validatePackAdvanceResult at h
  split at h
  case h_1 => cases h
  case h_2 =>
    split at h
    case isTrue hsame => cases h; exact hsame
    case isFalse => cases h

/-! ## Probing -/

/-- What a probe found. -/
inductive PackProbeStatus where
  | confirmed | notConfirmed | inconclusive
deriving DecidableEq, Repr

/-- What a Pack says about an effect it probed. -/
structure PackProbeResult where
  status : PackProbeStatus
  checkpoint : ExecutionCheckpoint
  reasonCode : String
  evidenceRefs : List String
  unknown : checkpoint.isUnknown = true

/-- A checkpoint names an execution. -/
def ExecutionCheckpoint.names (c : ExecutionCheckpoint)
    (taskId stepId permitId attemptId : String) : Bool :=
  c.taskId = taskId && c.stepId = stepId && c.permitId = permitId && c.attemptId = attemptId

/-- `validate_pack_probe_result`. -/
def validatePackProbeResult (value : Option PackProbeResult)
    (runId nativeTaskId nativeStepId permitId attemptId : String) :
    Except Raised PackProbeResult :=
  match value with
  | none => .error (packLifecycleError "PACK_PROBE_RESULT_INVALID")
  | some result =>
      if result.checkpoint.names nativeTaskId nativeStepId permitId attemptId = true ∧
          runId ≠ "" then .ok result
      else .error (packLifecycleError "PACK_PROBE_RESULT_CORRELATION_MISMATCH")

theorem validatePackProbeResult_eq_ok {value : Option PackProbeResult} {result : PackProbeResult}
    {runId nativeTaskId nativeStepId permitId attemptId : String} :
    validatePackProbeResult value runId nativeTaskId nativeStepId permitId attemptId =
        .ok result ↔
      value = some result ∧
        result.checkpoint.names nativeTaskId nativeStepId permitId attemptId = true ∧
        runId ≠ "" := by
  unfold validatePackProbeResult
  cases value with
  | none => simp
  | some r =>
      dsimp only
      split
      case isTrue h =>
        constructor
        · rintro ⟨⟩; exact ⟨rfl, h⟩
        · rintro ⟨⟨⟩, _⟩; rfl
      case isFalse h =>
        constructor
        · rintro ⟨⟩
        · rintro ⟨⟨⟩, hr⟩; exact absurd hr h

end AgentPact
