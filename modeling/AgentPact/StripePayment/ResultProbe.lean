import Mathlib.Algebra.Order.Floor.Defs
import Mathlib.Data.Rat.Floor
import AgentPact.Documents
import AgentPact.Governance.Attempts
import AgentPact.Governance.PackRuntime
import AgentPact.StripePayment.Store

/-!
# Probing a live payment

`domains/stripe_payment/result_probe.py` and the part of `live_browser.py` that
probes an attempt whose result is unknown: the reads of the Stripe API, the
evidence made of them, and what is persisted.

An answer of the API is a parameter, whatever it is.  Each session of the
database is a transaction of its own.
-/

namespace AgentPact

open Base Transaction

namespace Stripe

/-! ## The API -/

/-- How a request ends. -/
inductive ApiAnswer where
  /-- No response, with the exception's name. -/
  | unavailable (name : String)
  /-- A response with a status, and with a body if it is JSON. -/
  | answered (status : Nat) (body : Option Json)

/-- The answers to the two reads, by the id that is asked for. -/
structure StripeApi where
  checkoutSession : String → ApiAnswer
  paymentIntent : String → ApiAnswer

/-- `str` and `int` where they are more than a change of type. -/
structure Builtins where
  /-- `str`, of a value that is no text. -/
  strOf : Json → String
  /-- `int`, of a text. -/
  intOf : String → Option Int

/-- `str`. -/
def Builtins.str (B : Builtins) : Json → String
  | .str s => s
  | value => B.strOf value

/-- `int`, where it does not raise. -/
def Builtins.int (B : Builtins) : Json → Option Int
  | .num n => some n
  | .bool b => some (if b then 1 else 0)
  | .real q => some (if 0 ≤ q then ⌊q⌋ else ⌈q⌉)
  | .str s => B.intOf s
  | _ => none

/-- Whether a text is a prefix followed by letters, digits and underscores, and by at least one. -/
def isStripeId (start text : String) : Bool :=
  start.toList.isPrefixOf text.toList &&
    !(text.toList.drop start.length).isEmpty &&
    (text.toList.drop start.length).all fun c =>
      ('a' ≤ c && c ≤ 'z') || ('A' ≤ c && c ≤ 'Z') || ('0' ≤ c && c ≤ '9') || c = '_'

/-- The error of a probe. -/
def probeError (text : String) : Raised := ⟨.stripeProbeError, text⟩

/-- The error of a hosted checkout. -/
def checkoutError (text : String) : Raised := ⟨.stripeHostedCheckoutError, text⟩

/-- `validate_payment_intent_id`. -/
def validatePaymentIntentId (id : String) : Except Raised Unit :=
  ensure (isStripeId "pi_" id) (probeError "Stripe PaymentIntent id has an invalid format")

/-! ## The reads -/

/-- A payment as Stripe has it. -/
structure StripePaymentIntentRead where
  paymentIntentId : String
  status : String
  amountMinor : Int
  currency : String
  failureCode : Option String
  failureMessage : Option String
deriving DecidableEq

/-- A field that is a text or `None`, or is not there. -/
def optionalText (body : Json) (key : String) : Option (Option String) :=
  match body.field? key with
  | none | some .null => some none
  | some (.str s) => some (some s)
  | some _ => none

/-- The payment in a body, where it has one. -/
def readPaymentIntent? (B : Builtins) (body : Json) : Option StripePaymentIntentRead := do
  let id ← body.field? "id"
  let status ← body.field? "status"
  let amount ← body.field? "amount"
  let amountMinor ← B.int amount
  let currency ← body.field? "currency"
  let failureCode ← optionalText body "failure_code"
  let failureMessage ← optionalText body "failure_message"
  if B.str id = "" then none
  else some ⟨B.str id, B.str status, amountMinor, B.str currency, failureCode, failureMessage⟩

/-- `classify_payment_intent`. -/
def classifyPaymentIntent (r : StripePaymentIntentRead) : ResultProbeStatus :=
  if r.status = "succeeded" then .confirmed
  else if r.status = "canceled" then .notConfirmed
  else .unknown

/-- Whether a text contains another. -/
def containsText (text part : String) : Bool := decide (part.toList <:+: text.toList)

/-- `_probe_reason_code`. -/
def probeReasonCode (status : ResultProbeStatus) (reasons : List String) : String :=
  let text := (" ".intercalate reasons).map Char.toLower
  if containsText text "does not exist" || containsText text "404" then "payment_intent_absent"
  else if containsText text "unavailable" || containsText text "transport" ||
      containsText text "returned http" then "probe_network_or_stripe_api_error"
  else match status with
    | .confirmed => "payment_intent_succeeded"
    | .notConfirmed => "payment_intent_not_confirmed"
    | .unknown => "payment_intent_status_unknown"

/-- `_facts_digest`. -/
def factsDigest (P : Platform) (r : StripePaymentIntentRead) : Digest :=
  P.sha256 (r.paymentIntentId ++ "|" ++ r.status ++ "|" ++ toString r.amountMinor ++ "|" ++
    r.currency)

/-- `build_probe_evidence`. -/
def buildProbeEvidence (P : Platform) (resourceId idempotencyKey : String)
    (status : ResultProbeStatus) (r : Option StripePaymentIntentRead) (reasons : List String)
    (checkedAt : DateTime) : ResultProbeEvidence where
  probeRef := resultProbeRef
  status := status
  resourceId := resourceId
  checkedAt := checkedAt
  observedVersion := none
  businessReference := r.map (·.paymentIntentId)
  factsHash := r.map (factsDigest P)
  reasons := reasons
  metadata := [("idempotency_key_digest", .str (P.sha256 idempotencyKey).hex),
      ("reason_code", .str (probeReasonCode status reasons))] ++
    match r with
    | some r => [("stripe_status", .str r.status), ("failure_code", .ofOption .str r.failureCode)]
    | none => []

/-- The reasons of a payment that was read. -/
def StripePaymentIntentRead.reasons (r : StripePaymentIntentRead) : List String :=
  ("stripe_status=" ++ r.status) ::
    match r.failureCode with
    | some code => if code = "" then [] else ["failure_code=" ++ code]
    | none => []

section

variable (P : Platform) (B : Builtins)

/-- `StripeApiResultProbe.probe`. -/
def StripeApi.probe (api : StripeApi) (checkedAt : DateTime)
    (resourceId idempotencyKey : String) : Except Raised ResultProbeEvidence := do
  validatePaymentIntentId resourceId
  match api.paymentIntent resourceId with
  | .unavailable name => pure (buildProbeEvidence P resourceId idempotencyKey .unknown none
      ["authoritative read unavailable: " ++ name] checkedAt)
  | .answered status body =>
      if status = 404 then
        pure (buildProbeEvidence P resourceId idempotencyKey .notConfirmed none
          ["PaymentIntent does not exist: submission did not land"] checkedAt)
      else if status = 401 ∨ status = 403 then
        throw (probeError "Stripe probe credentials were rejected; probe identity is broken")
      else if status = 408 ∨ status = 409 ∨ status = 429 ∨ 500 ≤ status then
        pure (buildProbeEvidence P resourceId idempotencyKey .unknown none
          ["authoritative read returned HTTP " ++ toString status] checkedAt)
      else do
        ensure (status = 200) (probeError
          ("Unexpected Stripe read HTTP " ++ toString status ++ ": API contract broken"))
        let payload ← orRaise body (probeError "Stripe returned malformed PaymentIntent JSON")
        let r ← orRaise (readPaymentIntent? B payload)
          (probeError "Unexpected Stripe PaymentIntent payload")
        pure (buildProbeEvidence P resourceId idempotencyKey (classifyPaymentIntent r) (some r)
          r.reasons checkedAt)

/-- The object an answer carries. -/
def ApiAnswer.object : ApiAnswer → Except Raised Json
  | .unavailable name => .error (checkoutError ("Stripe API transport failed: " ++ name))
  | .answered status body => do
      ensure (status ≠ 401 ∧ status ≠ 403)
        ⟨.stripeLiveConfigurationError, "Stripe test credentials were rejected"⟩
      ensure (status < 400) (checkoutError ("Stripe API returned HTTP " ++ toString status))
      match body with
      | none => throw (checkoutError "Stripe API returned malformed JSON")
      | some (.obj fields) => pure (.obj fields)
      | some _ => throw (checkoutError "Stripe API returned a non-object response")

/-- A checkout session. -/
structure StripeHostedCheckoutSession where
  sessionId : String
  checkoutUrl : String
  paymentIntentId : Option String
deriving DecidableEq

/-- The payment of a session, which Stripe names or embeds. -/
def sessionPayment (payload : Json) : Json :=
  match payload.field? "payment_intent" with
  | some (.obj fields) => ((Json.obj fields).field? "id").getD .null
  | some value => value
  | none => .null

/-- The id of the payment of a session, where it has one. -/
def sessionPaymentId : Json → Except Raised (Option String)
  | .null => .ok none
  | .str id => do
      ensure (isStripeId "pi_" id)
        (checkoutError "Stripe Checkout Session exposed an invalid PaymentIntent")
      pure (some id)
  | _ => .error (checkoutError "Stripe Checkout Session exposed an invalid PaymentIntent")

/-- `retrieve_checkout_session`. -/
def StripeApi.retrieveCheckoutSession (api : StripeApi) (sessionId : String) :
    Except Raised StripeHostedCheckoutSession := do
  ensure (isStripeId "cs_" sessionId)
    (checkoutError "Stripe Checkout Session id has an invalid format")
  let payload ← (api.checkoutSession sessionId).object
  ensure (payload.field? "id" = some (.str sessionId))
    (checkoutError "Stripe Checkout Session response id does not match the requested id")
  let paymentIntentId ← sessionPaymentId (sessionPayment payload)
  let checkoutUrl := match payload.field? "url" with
    | some url => B.str url
    | none => "https://checkout.stripe.com/c/unknown"
  ensure (checkoutUrl ≠ "") ⟨.validationError, "checkout_url"⟩
  pure ⟨sessionId, checkoutUrl, paymentIntentId⟩

/-- `validate_stripe_test_key`. -/
def validateStripeTestKey (key : Option String) : Except Raised String := do
  let key := key.getD ""
  ensure (key ≠ "") ⟨.stripeLiveConfigurationError,
    "Missing STRIPE_SECRET_KEY; hosted Checkout requires a sk_test_* key"⟩
  ensure ("sk_test_".toList.isPrefixOf key.toList ∧ "sk_test_".length < key.length)
    ⟨.stripeLiveConfigurationError,
      "STRIPE_SECRET_KEY must start with sk_test_; refusing live Stripe credentials"⟩
  pure key

/-! ## The context of an attempt -/

/-- `get` of a dictionary that was persisted. -/
def contextField (context : List (String × Json)) (key : String) : Json :=
  ((Json.obj context).field? key).getD .null

/-- The checkout session that a context names. -/
def contextSession (context : List (String × Json)) : Json :=
  match contextField context "metadata" with
  | .obj metadata => contextField metadata "checkout_session_id"
  | _ => .null

/-- The context of an attempt, which is empty where there is none. -/
def probeContext (model : ExecutionAttemptModel) : List (String × Json) := model.resultProbe.getD []

/-- The error of an attempt that is not the one of a checkpoint. -/
def otherAttempt : Raised := checkoutError "Stripe probe does not match the exact persisted Attempt"

/-- The attempt of a checkpoint. -/
def attemptOf (checkpoint : ExecutionCheckpoint) : GovernanceTx ExecutionAttemptModel :=
  fetch (fun s => s.attempts.find? checkpoint.attemptId) otherAttempt

/-- `_load_probe_context`. -/
def loadProbeContext (checkpoint : ExecutionCheckpoint) :
    GovernanceTx (List (String × Json)) := atomic do
  let model ← attemptOf checkpoint
  require (model.status = .unknown ∧ model.permitId = some checkpoint.permitId ∧
      model.taskId = checkpoint.taskId ∧ model.stepId = checkpoint.stepId ∧
      model.resultProbeRef = some resultProbeRef ∧
      model.idempotencyKeyDigest = some checkpoint.idempotencyKeyDigest) otherAttempt
  pure (probeContext model)

/-- The resource that a call may probe, before the session is read again. -/
def resourceBefore (context : List (String × Json)) (resourceId checkoutSessionId : Option String) :
    Except Raised Json := do
  ensure (checkoutSessionId = none ∨ Json.ofOption .str checkoutSessionId = contextSession context)
    (checkoutError "Stripe Checkout Session does not match the exact persisted Attempt")
  let persisted := contextField context "resource_id"
  ensure (persisted = .null ∨ resourceId = none ∨ Json.ofOption .str resourceId = persisted)
    (checkoutError "Stripe probe resource does not match the exact persisted Attempt")
  let resource := if persisted ≠ .null ∧ resourceId = none then persisted
    else Json.ofOption .str resourceId
  ensure (persisted ≠ .null ∨ resource = .null ∨ checkoutSessionId ≠ none)
    (checkoutError
      "Stripe PaymentIntent may be bound only from the exact persisted Checkout Session")
  pure resource

/-- The resource that a call may probe, after its session was read again. -/
def resourceAfter (api : StripeApi) (checkoutSessionId : Option String) (resource : Json) :
    Except Raised Json :=
  match checkoutSessionId with
  | none => .ok resource
  | some sessionId =>
      if sessionId = "" then .ok resource
      else do
        let session ← api.retrieveCheckoutSession B sessionId
        ensure (session.sessionId = sessionId)
          (checkoutError "Stripe Checkout Session response id does not match the requested id")
        let exposed := Json.ofOption .str session.paymentIntentId
        ensure (resource = .null ∨ resource = exposed) (checkoutError
          "Stripe Checkout Session returned a different PaymentIntent than the persisted context")
        pure exposed

/-- The id in a resource. -/
def resourceId (resource : Json) : Except Raised String := do
  ensure (falsy resource = false)
    (checkoutError "Stripe probe requires the exact PaymentIntent returned by Checkout")
  match resource with
  | .str id => do
      validatePaymentIntentId id
      pure id
  | _ => throw ⟨.typeError, "expected string or bytes-like object"⟩

/-- What a call of `probe_governed` is given. -/
structure ProbeRequest where
  facts : StripePaymentFacts
  idempotencyKey : String
  checkpoint : ExecutionCheckpoint
  resourceId : Option String
  checkoutSessionId : Option String

/-- What a call of `probe_governed` finds. -/
structure ProbeEnvironment where
  /-- `STRIPE_SECRET_KEY`. -/
  secretKey : Option String
  checkedAt : DateTime
  /-- What the clock reads as the attempt is resolved. -/
  clock : Stamp

/-- `probe_governed`, up to the read of the payment: the id that will be read. -/
def resourceToProbe (env : ProbeEnvironment) (api : StripeApi) (x : ProbeRequest) :
    GovernanceTx String := do
  require (x.checkpoint.resultProbeRef = resultProbeRef ∧ x.checkpoint.attemptStatus = "unknown")
    (checkoutError "Stripe probe requires the exact UNKNOWN execution checkpoint")
  let same ← lift (compareDigest (P.sha256 x.idempotencyKey).hex
    x.checkpoint.idempotencyKeyDigest.hex)
  require (same = true)
    (checkoutError "Stripe probe idempotency key does not match the exact Attempt")
  let context ← loadProbeContext x.checkpoint
  let before ← lift (resourceBefore context x.resourceId x.checkoutSessionId)
  let _ ← lift (validateStripeTestKey env.secretKey)
  let after ← lift (resourceAfter B api x.checkoutSessionId before)
  lift (resourceId after)

/-! ## What is persisted -/

/-- The text of a status. -/
def ResultProbeStatus.value : ResultProbeStatus → String
  | .confirmed => "confirmed"
  | .notConfirmed => "not_confirmed"
  | .unknown => "unknown"

/-- `model_dump(mode="json")`, with some metadata. -/
def ResultProbeEvidence.modelDumpWith (e : ResultProbeEvidence) (metadata : List (String × Json)) :
    List (String × Json) :=
  [("probe_ref", .str e.probeRef), ("status", .str e.status.value),
    ("resource_id", .str e.resourceId), ("checked_at", .str (P.isoformat e.checkedAt)),
    ("observed_version", .ofOption .num e.observedVersion),
    ("business_reference", .ofOption .str e.businessReference),
    ("facts_hash", .ofOption (fun d => .str d.hex) e.factsHash),
    ("reasons", .arr (e.reasons.map .str)), ("metadata", .obj metadata)]

/-- Set a key of a dictionary. -/
def setField (fields : List (String × Json)) (key : String) (value : Json) : List (String × Json) :=
  if fields.any fun f => f.1 = key then
    fields.map fun f => if f.1 = key then (key, value) else f
  else fields ++ [(key, value)]

/-- The metadata that is persisted: that of the evidence, of the context, and the session. -/
def persistedMetadata (e : ResultProbeEvidence) (context : List (String × Json))
    (checkoutSessionId : Option String) : List (String × Json) :=
  let merged := match contextField context "metadata" with
    | .obj metadata => metadata.foldl (fun acc f => setField acc f.1 f.2) e.metadata
    | _ => e.metadata
  match checkoutSessionId with
  | some sessionId =>
      if sessionId = "" then merged else setField merged "checkout_session_id" (.str sessionId)
  | none => merged

/-- Whether a context may be bound to a resource. -/
def bindingAllowed (context : List (String × Json)) (resource : String)
    (checkoutSessionId : Option String) : Except Raised Unit := do
  ensure (contextSession context = .null ∨ checkoutSessionId = none ∨
      contextSession context = Json.ofOption .str checkoutSessionId)
    (checkoutError "Stripe Checkout Session changed for the persisted Attempt")
  ensure (contextField context "resource_id" = .null ∨
      contextField context "resource_id" = .str resource)
    (checkoutError "Stripe probe resource changed for the persisted Attempt")
  ensure (contextField context "resource_id" ≠ .null ∨
      (checkoutSessionId.getD "" ≠ "" ∧
        contextSession context = Json.ofOption .str checkoutSessionId))
    (checkoutError
      "Stripe PaymentIntent may be bound only from the exact persisted Checkout Session")

/-- Write the context of an attempt. -/
def withContext (payload : List (String × Json)) : Edit ExecutionAttemptModel where
  apply r := { r with resultProbe := some payload }
  key_apply _ := rfl
  tame h := h

/-- `_persist_probe_context`, for evidence. -/
def persistProbeContext (checkpoint : ExecutionCheckpoint) (e : ResultProbeEvidence)
    (checkoutSessionId : Option String) : GovernanceTx Unit := atomic do
  let model ← fetch (fun s => s.attempts.find? checkpoint.attemptId)
    (checkoutError "Stripe execution Attempt disappeared before probe persistence")
  require (model.status = .unknown)
    (checkoutError "Stripe probe context is not attached to an UNKNOWN Attempt")
  lift (bindingAllowed (probeContext model) e.resourceId checkoutSessionId)
  write fun s => s.updateAttempt checkpoint.attemptId (withContext
    (e.modelDumpWith P (persistedMetadata e (probeContext model) checkoutSessionId)))

/-- `_resolve_attempt`. -/
def resolveAttempt (env : ProbeEnvironment) (checkpoint : ExecutionCheckpoint)
    (e : ResultProbeEvidence) : GovernanceTx Unit := atomic do
  let model ← attemptOf checkpoint
  require (model.status = .unknown ∧ model.permitId = some checkpoint.permitId ∧
      model.resultProbeRef = some resultProbeRef ∧
      model.idempotencyKeyDigest = some checkpoint.idempotencyKeyDigest) otherAttempt
  let _ ← resolveUnknownExecutionAttempt checkpoint.attemptId (e.status = .confirmed)
    (e.modelDumpWith P e.metadata) none env.clock
  pure ()

/-- `probe_governed`. -/
def probeGoverned (env : ProbeEnvironment) (api : StripeApi) (x : ProbeRequest) :
    GovernanceTx ResultProbeEvidence := do
  let resource ← resourceToProbe P B env api x
  let e ← lift (api.probe P B env.checkedAt resource x.idempotencyKey)
  require (e.resourceId = resource ∧ e.probeRef = resultProbeRef)
    (checkoutError "Stripe result probe evidence is not bound to the exact PaymentIntent")
  persistProbeContext P x.checkpoint e x.checkoutSessionId
  if e.status = .unknown then pure e
  else
    resolveAttempt P env x.checkpoint e
    pure e

end

end Stripe

end AgentPact
