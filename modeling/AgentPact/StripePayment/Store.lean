import Mathlib.Data.Finset.Basic
import Mathlib.Logic.Function.Basic
import AgentPact.Base.Transaction
import AgentPact.Platform

/-!
# The simulated Stripe backend

`domains/stripe_payment/models.py` and `store.py`: the payments, the store that
commits them under an idempotency key, and the probe that reads them back.

A submission commits before it raises an ambiguous failure, so it is a
transaction whose writes stay when it raises.
-/

namespace AgentPact

open Base Transaction

namespace Stripe

/-! ## Payments -/

/-- Whether a value is false in a condition. -/
def falsy : Json → Bool
  | .null | .bool false | .num 0 | .str "" | .arr [] | .obj [] => true
  | .real q => q = 0
  | _ => false

/-- The currencies that are accepted. -/
inductive AllowedCurrency where
  | usd | eur | gbp | cny
deriving DecidableEq, Repr

/-- The text of a currency. -/
def AllowedCurrency.value : AllowedCurrency → String
  | .usd => "usd"
  | .eur => "eur"
  | .gbp => "gbp"
  | .cny => "cny"

/-- How far a payment is. -/
inductive StripePaymentStatus where
  | draft | submitted
deriving DecidableEq, Repr

/-- The text of a status. -/
def StripePaymentStatus.value : StripePaymentStatus → String
  | .draft => "draft"
  | .submitted => "submitted"

/-- What the backend makes of a submission. -/
inductive StripeOutcome where
  | succeeded | processing | canceled
deriving DecidableEq, Repr

/-- The text of an outcome. -/
def StripeOutcome.value : StripeOutcome → String
  | .succeeded => "succeeded"
  | .processing => "processing"
  | .canceled => "canceled"

/-- The facts of a payment. -/
structure StripePaymentFacts where
  paymentIntentId : String
  customerId : Option String
  amountMinor : Int
  currency : AllowedCurrency
  description : String
  objectVersion : Int
  amount_range : 0 < amountMinor ∧ amountMinor ≤ 1000000000
  version_pos : 1 ≤ objectVersion
deriving DecidableEq

namespace StripePaymentFacts

/-- `model_dump(mode="json")`. -/
def modelDump (f : StripePaymentFacts) : Json :=
  .obj [("payment_intent_id", .str f.paymentIntentId),
    ("customer_id", .ofOption .str f.customerId), ("amount_minor", .num f.amountMinor),
    ("currency", .str f.currency.value), ("description", .str f.description),
    ("object_version", .num f.objectVersion)]

/-- The facts after a commit at a version. -/
def committedAt (f : StripePaymentFacts) (expectedVersion : Int) (h : 1 ≤ expectedVersion) :
    StripePaymentFacts :=
  { f with objectVersion := expectedVersion + 1, version_pos := by omega }

end StripePaymentFacts

/-- A payment as the backend keeps it. -/
structure StripePaymentRecord where
  facts : StripePaymentFacts
  status : StripePaymentStatus
  requesterUserId : String
  approvalId : Option String
  idempotencyKey : Option String
  confirmationReference : Option String
  commitCount : Nat
deriving DecidableEq

/-- `model_dump(mode="json")`. -/
def StripePaymentRecord.modelDump (r : StripePaymentRecord) : Json :=
  .obj [("facts", r.facts.modelDump), ("status", .str r.status.value),
    ("requester_user_id", .str r.requesterUserId), ("approval_id", .ofOption .str r.approvalId),
    ("idempotency_key", .ofOption .str r.idempotencyKey),
    ("confirmation_reference", .ofOption .str r.confirmationReference),
    ("commit_count", .num r.commitCount)]

/-- A payment that was created for a requester. -/
def StripePaymentRecord.draft (facts : StripePaymentFacts) (requesterUserId : String) :
    StripePaymentRecord := ⟨facts, .draft, requesterUserId, none, none, none, 0⟩

/-- A `StripePaymentError`. -/
def paymentError (text : String) : Raised := ⟨.stripePaymentError, text⟩

/-! ## The store -/

/-- The fault that a submission meets. -/
inductive StripeFaultMode where
  | none | failBeforeCommit | commitThenTimeout | commitThenInconclusive
deriving DecidableEq, Repr

/-- The store, by the ids of the payments. -/
structure StripePaymentStore where
  records : String → Option StripePaymentRecord
  outcomes : String → Option StripeOutcome
  inconclusiveProbeIds : String → Bool

/-- The store without payments. -/
def StripePaymentStore.empty : StripePaymentStore := ⟨fun _ => none, fun _ => none, fun _ => false⟩

/-- A program on the store. -/
abbrev StoreTx (α : Type) := Transaction Raised StripePaymentStore α

/-- Keep a payment. -/
def StripePaymentStore.put (s : StripePaymentStore) (r : StripePaymentRecord) (id : String) :
    StripePaymentStore := { s with records := Function.update s.records id (some r) }

/-- `create_draft`. -/
def createDraft (facts : StripePaymentFacts) (requesterUserId : String) :
    StoreTx StripePaymentRecord := do
  let existing ← read fun s => s.records facts.paymentIntentId
  require (existing = none) (paymentError "Stripe PaymentIntent already exists")
  write fun s => s.put (.draft facts requesterUserId) facts.paymentIntentId
  pure (.draft facts requesterUserId)

/-- `require`. -/
def requireRecord (paymentIntentId : String) : StoreTx StripePaymentRecord :=
  fetch (fun s => s.records paymentIntentId) (paymentError "Stripe PaymentIntent does not exist")

/-- What a submission carries. -/
structure Submission where
  paymentIntentId : String
  expectedVersion : Int
  approvalId : String
  idempotencyKey : String
  outcome : StripeOutcome
  faultMode : StripeFaultMode
  version_pos : 1 ≤ expectedVersion

/-- A payment after the commit of a submission. -/
def StripePaymentRecord.commit (r : StripePaymentRecord) (x : Submission) : StripePaymentRecord where
  facts := r.facts.committedAt x.expectedVersion x.version_pos
  status := .submitted
  requesterUserId := r.requesterUserId
  approvalId := some x.approvalId
  idempotencyKey := some x.idempotencyKey
  confirmationReference :=
    some ("pi_confirm_" ++ x.paymentIntentId ++ "_" ++ toString (x.expectedVersion + 1))
  commitCount := r.commitCount + 1

/-- The store after the commit of a submission of a payment. -/
def StripePaymentStore.commit (s : StripePaymentStore) (r : StripePaymentRecord) (x : Submission) :
    StripePaymentStore where
  records := Function.update s.records x.paymentIntentId (some (r.commit x))
  outcomes := Function.update s.outcomes x.paymentIntentId (some x.outcome)
  inconclusiveProbeIds :=
    if x.faultMode = .commitThenInconclusive then
      Function.update s.inconclusiveProbeIds x.paymentIntentId true
    else s.inconclusiveProbeIds

/-- What the caller of a submission sees after its commit. -/
def StripeFaultMode.response (r : StripePaymentRecord) :
    StripeFaultMode → Except Raised StripePaymentRecord
  | .commitThenInconclusive => .error ⟨.ambiguousSubmissionFailure,
      "Stripe commit response and result probe are unavailable"⟩
  | .commitThenTimeout => .error ⟨.ambiguousSubmissionFailure,
      "Stripe commit completed before the response timed out"⟩
  | .none | .failBeforeCommit => .ok r

/-- `submit`. -/
def submit (x : Submission) : StoreTx StripePaymentRecord := do
  let r ← requireRecord x.paymentIntentId
  if r.idempotencyKey = some x.idempotencyKey then pure r
  else
    require (r.status = .draft) (paymentError "Stripe PaymentIntent is no longer a draft")
    require (r.facts.objectVersion = x.expectedVersion)
      (paymentError "Stripe PaymentIntent object version changed")
    require (x.faultMode ≠ .failBeforeCommit)
      ⟨.definiteSubmissionFailure, "Stripe failure occurred before commit"⟩
    write fun s => s.commit r x
    lift (x.faultMode.response (r.commit x))

namespace StripePaymentStore

variable (s : StripePaymentStore)

/-- `outcome`. -/
def outcome (paymentIntentId : String) : StripeOutcome :=
  (s.outcomes paymentIntentId).getD .succeeded

/-- `clear_probe_fault`. -/
def clearProbeFault (paymentIntentId : String) : StripePaymentStore :=
  { s with inconclusiveProbeIds := Function.update s.inconclusiveProbeIds paymentIntentId false }

end StripePaymentStore

/-! ## The probe -/

/-- The answer of a probe. -/
inductive ResultProbeStatus where
  | confirmed | notConfirmed | unknown
deriving DecidableEq, Repr

/-- What a probe saw. -/
structure ResultProbeEvidence where
  probeRef : String
  status : ResultProbeStatus
  resourceId : String
  checkedAt : DateTime
  observedVersion : Option Int
  businessReference : Option String
  factsHash : Option Digest
  reasons : List String
  metadata : List (String × Json)
deriving DecidableEq

/-- `RESULT_PROBE_REF`. -/
def resultProbeRef : String := "stripe.payment.submit.result-probe.v1"

/-- What an outcome says of a submission. -/
def StripeOutcome.probed : StripeOutcome → ResultProbeStatus × String
  | .succeeded => (.confirmed, "Authoritative PaymentIntent state confirms the submission")
  | .canceled => (.notConfirmed, "Authoritative PaymentIntent state is canceled")
  | .processing => (.unknown, "PaymentIntent is still processing")

/-- What the store says of a payment under a key. -/
def StripePaymentStore.probed (s : StripePaymentStore) (r : StripePaymentRecord)
    (resourceId idempotencyKey : String) : ResultProbeStatus × String :=
  if r.status = .draft then (.notConfirmed, "Stripe PaymentIntent remains in draft state")
  else if r.idempotencyKey ≠ some idempotencyKey then
    (.unknown, "Payment was submitted by a different idempotency key")
  else (s.outcome resourceId).probed

/-- `StripePaymentResultProbe.probe`. -/
def StripePaymentStore.probe (P : Platform) (s : StripePaymentStore) (checkedAt : DateTime)
    (resourceId idempotencyKey : String) : ResultProbeEvidence :=
  let blank (status : ResultProbeStatus) (reason : String) : ResultProbeEvidence :=
    ⟨resultProbeRef, status, resourceId, checkedAt, none, none, none, [reason], []⟩
  if s.inconclusiveProbeIds resourceId then
    blank .unknown "Stripe authoritative state is temporarily unavailable"
  else match s.records resourceId with
    | none => blank .notConfirmed "Stripe PaymentIntent does not exist"
    | some r => {
        probeRef := resultProbeRef
        status := (s.probed r resourceId idempotencyKey).1
        resourceId := resourceId
        checkedAt := checkedAt
        observedVersion := some r.facts.objectVersion
        businessReference := r.confirmationReference
        factsHash := some (P.digest r.facts.modelDump)
        reasons := [(s.probed r resourceId idempotencyKey).2]
        metadata := [("status", .str r.status.value), ("outcome", .str (s.outcome resourceId).value)] }

/-! ## What they do -/

/-- A payment is created where there is none with its id. -/
theorem createDraft_apply (facts : StripePaymentFacts) (requesterUserId : String)
    (s : StripePaymentStore) : createDraft facts requesterUserId s =
      if s.records facts.paymentIntentId = none then
        .ok (.draft facts requesterUserId)
          (s.put (.draft facts requesterUserId) facts.paymentIntentId)
      else .error (paymentError "Stripe PaymentIntent already exists") s := by
  unfold createDraft
  rw [read_bind]
  split
  case isTrue hnone =>
    rw [require_bind hnone]
    rfl
  case isFalse hsome => exact require_bind_not hsome

theorem StripePaymentStore.outcome_commit (s : StripePaymentStore) (r : StripePaymentRecord)
    (x : Submission) : (s.commit r x).outcome x.paymentIntentId = x.outcome := by
  unfold StripePaymentStore.outcome StripePaymentStore.commit
  dsimp only
  rw [Function.update_self]
  rfl

/-- A commit changes no other payment. -/
theorem StripePaymentStore.commit_of_ne (s : StripePaymentStore) (r : StripePaymentRecord)
    (x : Submission) {id : String} (h : id ≠ x.paymentIntentId) :
    (s.commit r x).records id = s.records id ∧ (s.commit r x).outcome id = s.outcome id := by
  unfold StripePaymentStore.outcome StripePaymentStore.commit
  dsimp only
  rw [Function.update_of_ne h, Function.update_of_ne h]
  exact ⟨rfl, rfl⟩

/-- A first submission of a draft at its version is not refused by the store: it commits, whatever
its caller sees, unless it fails before the commit. -/
theorem submit_draft {x : Submission} {s : StripePaymentStore} {r : StripePaymentRecord}
    (hr : s.records x.paymentIntentId = some r) (hkey : r.idempotencyKey = none)
    (hdraft : r.status = .draft) (hversion : r.facts.objectVersion = x.expectedVersion) :
    submit x s = if x.faultMode = .failBeforeCommit then
        .error ⟨.definiteSubmissionFailure, "Stripe failure occurred before commit"⟩ s
      else lift (x.faultMode.response (r.commit x)) (s.commit r x) := by
  have hfetch : requireRecord x.paymentIntentId s = .ok r s := fetch_eq_ok.mpr ⟨hr, rfl⟩
  unfold submit
  rw [bind_of_ok hfetch, if_neg (by rw [hkey]; exact nofun), require_bind hdraft,
    require_bind hversion]
  split
  case isTrue hfail => exact require_bind_not fun h => h hfail
  case isFalse hfail =>
    rw [require_bind hfail]
    rfl

/-- What a probe of a submitted payment under its own key answers. -/
theorem probe_status {P : Platform} {s : StripePaymentStore} (checkedAt : DateTime)
    {resourceId idempotencyKey : String} {r : StripePaymentRecord}
    (hr : s.records resourceId = some r) (hstatus : r.status = .submitted)
    (hkey : r.idempotencyKey = some idempotencyKey) :
    (s.probe P checkedAt resourceId idempotencyKey).status =
      if s.inconclusiveProbeIds resourceId then .unknown else (s.outcome resourceId).probed.1 := by
  unfold StripePaymentStore.probe StripePaymentStore.probed
  split
  case isTrue => rfl
  case isFalse =>
    rw [hr]
    simp [hstatus, hkey]

end Stripe

end AgentPact
