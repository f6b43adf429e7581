import AgentPact.StripePayment.ApprovedProbe

/-!
# The context of a probe over its calls

What the calls of `_persist_probe_context` and `_load_probe_context` make of the
context of one attempt, in any order and with any arguments.

A session or a payment that the context is bound to stays, a payment is bound
only with the session that was persisted before it, and a call with another
binding raises and changes nothing.  A load returns what was persisted last,
but not always its metadata: the old metadata is written over the new.  So a
load returns the metadata of the last evidence exactly if it extends what was
there (`loads_last_iff`).
-/

namespace AgentPact

open Base Transaction

namespace Stripe

namespace ProbeContext

/-! ## The calls -/

/-- A call of `_persist_probe_context`. -/
structure PersistCall where
  checkpoint : ExecutionCheckpoint
  evidence : Option ResultProbeEvidence
  checkoutSessionId : Option String
  reason : Option String
  /-- The metadata of the evidence is a dictionary. -/
  distinct : ∀ e ∈ evidence, (e.metadata.map (·.1)).Nodup

namespace PersistCall

variable (c : PersistCall)

/-- `new_resource`. -/
def newResource : Option String := c.evidence.map (·.resourceId)

/-- The status, the reasons and the metadata that a call persists. -/
def status : String := (c.evidence.map (·.status.value)).getD "unknown"

def reasons : List String :=
  match c.evidence with
  | some e => e.reasons
  | none => (c.reason.filter (· ≠ "")).toList

def metadata : List (String × Json) := (c.evidence.map (·.metadata)).getD []

/-- The metadata that is persisted: that of the call, of the context, and the session. -/
def mergedMetadata (context : List (String × Json)) : List (String × Json) :=
  let merged := match contextField context "metadata" with
    | .obj metadata => metadata.foldl (fun acc f => setField acc f.1 f.2) c.metadata
    | _ => c.metadata
  match c.checkoutSessionId with
  | some sessionId =>
      if sessionId = "" then merged else setField merged "checkout_session_id" (.str sessionId)
  | none => merged

/-- The context that is persisted. -/
def payload (P : Platform) (context : List (String × Json)) : List (String × Json) :=
  match c.evidence with
  | some e => e.modelDumpWith P (c.mergedMetadata context)
  | none =>
      [("probe_ref", .str resultProbeRef), ("status", .str ResultProbeStatus.unknown.value),
        ("resource_id", .null), ("reasons", .arr (c.reasons.map .str)),
        ("metadata", .obj (c.mergedMetadata context))]

/-- Whether a context may be bound as a call says. -/
def allowed (context : List (String × Json)) : Except Raised Unit := do
  ensure (contextSession context = .null ∨ c.checkoutSessionId = none ∨
      contextSession context = Json.ofOption .str c.checkoutSessionId)
    (checkoutError "Stripe Checkout Session changed for the persisted Attempt")
  ensure (contextField context "resource_id" = .null ∨
      contextField context "resource_id" = Json.ofOption .str c.newResource)
    (checkoutError "Stripe probe resource changed for the persisted Attempt")
  ensure (contextField context "resource_id" ≠ .null ∨ c.newResource = none ∨
      (c.checkoutSessionId.getD "" ≠ "" ∧
        contextSession context = Json.ofOption .str c.checkoutSessionId))
    (checkoutError
      "Stripe PaymentIntent may be bound only from the exact persisted Checkout Session")

/-- `_persist_probe_context`. -/
def run (P : Platform) : GovernanceTx Unit := atomic do
  let model ← fetch (fun s => s.attempts.find? c.checkpoint.attemptId)
    (checkoutError "Stripe execution Attempt disappeared before probe persistence")
  require (model.status = .unknown)
    (checkoutError "Stripe probe context is not attached to an UNKNOWN Attempt")
  lift (c.allowed (probeContext model))
  write fun s => s.updateAttempt c.checkpoint.attemptId
    (withContext (c.payload P (probeContext model)))

end PersistCall

theorem ensure_congr {p q : Prop} [Decidable p] [Decidable q] {e : Raised} (h : p ↔ q) :
    ensure p e = ensure q e := by
  unfold ensure
  by_cases hp : p
  · rw [if_pos hp, if_pos (h.mp hp)]
  · rw [if_neg hp, if_neg fun hq => hp (h.mpr hq)]

/-- With evidence, this is the call that a probe makes. -/
theorem run_of_evidence {P : Platform} {c : PersistCall} {e : ResultProbeEvidence}
    (he : c.evidence = some e) :
    c.run P = persistProbeContext P c.checkpoint e c.checkoutSessionId := by
  have hallowed : ∀ context, c.allowed context =
      bindingAllowed context e.resourceId c.checkoutSessionId := by
    intro context
    have hresource : c.newResource = some e.resourceId := by
      unfold PersistCall.newResource
      rw [he]
      rfl
    unfold PersistCall.allowed bindingAllowed
    rw [hresource]
    refine bind_congr fun _ => bind_congr fun _ => ensure_congr ?_
    simp
  have hpayload : ∀ context, c.payload P context =
      e.modelDumpWith P (persistedMetadata e context c.checkoutSessionId) := by
    intro context
    have hmerged : c.mergedMetadata context = persistedMetadata e context c.checkoutSessionId := by
      unfold PersistCall.mergedMetadata persistedMetadata PersistCall.metadata
      rw [he]
      rfl
    unfold PersistCall.payload
    rw [he, ← hmerged]
  unfold PersistCall.run persistProbeContext
  simp only [hallowed, hpayload]

/-- A call. -/
inductive ProbeCall where
  | persist (c : PersistCall)
  | load (checkpoint : ExecutionCheckpoint)

/-- The attempt of a call. -/
def ProbeCall.attemptId : ProbeCall → String
  | .persist c => c.checkpoint.attemptId
  | .load checkpoint => checkpoint.attemptId

/-- What a call makes of the store, whether it returns or raises. -/
def ProbeCall.after (P : Platform) (s : ExecutionStore) : ProbeCall → ExecutionStore
  | .persist c => left (c.run P s)
  | .load checkpoint => left (loadProbeContext checkpoint s)

/-- What calls make of the store. -/
def afterAll (P : Platform) (s : ExecutionStore) (calls : List ProbeCall) : ExecutionStore :=
  calls.foldl (ProbeCall.after P) s

/-- The context of an attempt in a store. -/
def contextOf (s : ExecutionStore) (attemptId : String) : List (String × Json) :=
  ((s.attempts.find? attemptId).map probeContext).getD []

/-- The last call that persisted something, and the context it found. -/
def lastPersisted (P : Platform) (s : ExecutionStore)
    (last : Option (List (String × Json) × PersistCall)) :
    List ProbeCall → Option (List (String × Json) × PersistCall)
  | [] => last
  | .persist c :: calls =>
      lastPersisted P (left (c.run P s))
        (if returned (c.run P s) then some (contextOf s c.checkpoint.attemptId, c) else last) calls
  | .load checkpoint :: calls =>
      lastPersisted P (left (loadProbeContext checkpoint s)) last calls

/-! ## Dictionaries -/

theorem find?_map_other {fields : List (String × Json)} {key other : String} {value : Json}
    (hother : other ≠ key) :
    ((fields.map fun f => if f.1 = key then (key, value) else f).find?
        fun f => f.1 = other).map (·.2) = (fields.find? fun f => f.1 = other).map (·.2) := by
  induction fields with
  | nil => rfl
  | cons f fields ih =>
      rw [List.map_cons]
      by_cases hf : f.1 = key
      · have hfother : ¬ f.1 = other := fun h => hother (h.symm.trans hf)
        rw [if_pos hf, List.find?_cons_of_neg (by simpa using Ne.symm hother),
          List.find?_cons_of_neg (by simpa using hfother), ih]
      · rw [if_neg hf]
        by_cases hfother : f.1 = other
        · rw [List.find?_cons_of_pos (by simpa using hfother),
            List.find?_cons_of_pos (by simpa using hfother)]
        · rw [List.find?_cons_of_neg (by simpa using hfother),
            List.find?_cons_of_neg (by simpa using hfother), ih]

theorem find?_map_self {fields : List (String × Json)} {key : String} {value : Json}
    (hany : (fields.any fun f => f.1 = key) = true) :
    (fields.map fun f => if f.1 = key then (key, value) else f).find? (fun f => f.1 = key) =
      some (key, value) := by
  induction fields with
  | nil => cases hany
  | cons f fields ih =>
      rw [List.map_cons]
      by_cases hf : f.1 = key
      · rw [if_pos hf, List.find?_cons_of_pos (by simp)]
      · rw [if_neg hf, List.find?_cons_of_neg (by simpa using hf)]
        refine ih ?_
        rw [List.any_cons] at hany
        simpa [hf] using hany

theorem field?_setField {fields : List (String × Json)} {key other : String} {value : Json} :
    (Json.obj (setField fields key value)).field? other =
      if other = key then some value else (Json.obj fields).field? other := by
  show ((setField fields key value).find? fun f => f.1 = other).map (·.2) = _
  unfold setField
  by_cases hany : (fields.any fun f => f.1 = key) = true
  · rw [if_pos hany]
    by_cases hother : other = key
    · subst hother
      rw [find?_map_self hany, if_pos rfl]
      rfl
    · rw [find?_map_other hother, if_neg hother]
      rfl
  · rw [if_neg hany, List.find?_append]
    by_cases hother : other = key
    · subst hother
      have hnone : fields.find? (fun f => f.1 = other) = none := by
        refine List.find?_eq_none.mpr fun f hf hkey => hany ?_
        exact List.any_eq_true.mpr ⟨f, hf, hkey⟩
      simp [hnone]
    · simp [hother, Ne.symm hother, Json.field?]

/-- What is merged into a dictionary goes before what was there. -/
theorem field?_merge {more base : List (String × Json)} (hdistinct : (more.map (·.1)).Nodup)
    {key : String} :
    (Json.obj (more.foldl (fun acc f => setField acc f.1 f.2) base)).field? key =
      ((Json.obj more).field? key).or ((Json.obj base).field? key) := by
  induction more generalizing base with
  | nil => rfl
  | cons f more ih =>
      rw [List.map_cons, List.nodup_cons] at hdistinct
      rw [List.foldl_cons, ih hdistinct.2, field?_setField]
      by_cases hkey : key = f.1
      · subst hkey
        have hfind : more.find? (fun g => g.1 = f.1) = none :=
          List.find?_eq_none.mpr fun g hg hsame =>
            hdistinct.1 (List.mem_map.mpr ⟨g, hg, of_decide_eq_true hsame⟩)
        simp [Json.field?, hfind]
      · have hhead : (Json.obj (f :: more)).field? key = (Json.obj more).field? key := by
          simp [Json.field?, Ne.symm hkey]
        rw [if_neg hkey, hhead]

theorem keys_setField_nodup {fields : List (String × Json)} {key : String} {value : Json}
    (h : (fields.map (·.1)).Nodup) : ((setField fields key value).map (·.1)).Nodup := by
  unfold setField
  by_cases hany : (fields.any fun f => f.1 = key) = true
  · rw [if_pos hany, List.map_map]
    have hsame : fields.map ((·.1) ∘ fun f => if f.1 = key then (key, value) else f) =
        fields.map (·.1) := by
      refine List.map_congr_left fun f _ => ?_
      by_cases hf : f.1 = key
      · simp [hf]
      · simp [hf]
    rw [hsame]
    exact h
  · rw [if_neg hany, List.map_append, List.nodup_append]
    refine ⟨h, List.nodup_singleton _, ?_⟩
    rintro a ha b hb rfl
    obtain ⟨f, hf, hkey⟩ := List.mem_map.mp ha
    refine hany (List.any_eq_true.mpr ⟨f, hf, decide_eq_true ?_⟩)
    exact hkey.trans (List.mem_singleton.mp hb)

theorem keys_merge_nodup {more base : List (String × Json)} (h : (base.map (·.1)).Nodup) :
    ((more.foldl (fun acc f => setField acc f.1 f.2) base).map (·.1)).Nodup := by
  induction more generalizing base with
  | nil => exact h
  | cons f more ih => exact ih (keys_setField_nodup h)

/-! ## What a call persists -/

/-- The metadata of a context, if it is a dictionary. -/
def metadataOf (context : List (String × Json)) : List (String × Json) :=
  match contextField context "metadata" with
  | .obj metadata => metadata
  | _ => []

/-- The metadata of a context is a dictionary. -/
def WellFormed (context : List (String × Json)) : Prop :=
  ((metadataOf context).map (·.1)).Nodup

section

variable {P : Platform} {c : PersistCall} {context : List (String × Json)}

theorem contextSession_eq : contextSession context =
    ((Json.obj (metadataOf context)).field? "checkout_session_id").getD .null := by
  unfold contextSession metadataOf
  cases contextField context "metadata" <;> rfl

theorem metadata_distinct : (c.metadata.map (·.1)).Nodup := by
  have h := c.distinct
  unfold PersistCall.metadata
  cases he : c.evidence with
  | none => exact List.nodup_nil
  | some e => exact h e he

theorem payload_field : contextField (c.payload P context) "metadata" =
      .obj (c.mergedMetadata context) ∧
    contextField (c.payload P context) "status" = .str c.status ∧
    contextField (c.payload P context) "reasons" = .arr (c.reasons.map .str) ∧
    contextField (c.payload P context) "resource_id" = Json.ofOption .str c.newResource := by
  unfold PersistCall.payload PersistCall.status PersistCall.reasons PersistCall.newResource
  cases c.evidence with
  | none => exact ⟨rfl, rfl, rfl, rfl⟩
  | some e => exact ⟨rfl, rfl, rfl, rfl⟩

theorem metadataOf_payload : metadataOf (c.payload P context) = c.mergedMetadata context := by
  unfold metadataOf
  rw [payload_field.1]

theorem mergedMetadata_eq : c.mergedMetadata context =
    match c.checkoutSessionId with
    | some sessionId =>
        if sessionId = "" then
          (metadataOf context).foldl (fun acc f => setField acc f.1 f.2) c.metadata
        else setField ((metadataOf context).foldl (fun acc f => setField acc f.1 f.2) c.metadata)
          "checkout_session_id" (.str sessionId)
    | none => (metadataOf context).foldl (fun acc f => setField acc f.1 f.2) c.metadata := by
  unfold PersistCall.mergedMetadata metadataOf
  cases contextField context "metadata" <;> rfl

theorem payload_wellFormed : WellFormed (c.payload P context) := by
  unfold WellFormed
  rw [metadataOf_payload, mergedMetadata_eq]
  have hmerge := @keys_merge_nodup (metadataOf context) _ (@metadata_distinct c)
  split
  · split
    · exact hmerge
    · exact keys_setField_nodup hmerge
  · exact hmerge

/-- The persisted metadata: the session that the call names, then what was there, then what the
call has. -/
theorem field?_mergedMetadata (hwell : WellFormed context) {key : String} :
    (Json.obj (c.mergedMetadata context)).field? key =
      if key = "checkout_session_id" ∧ c.checkoutSessionId.getD "" ≠ "" then
        some (Json.ofOption .str c.checkoutSessionId)
      else ((Json.obj (metadataOf context)).field? key).or ((Json.obj c.metadata).field? key) := by
  rw [mergedMetadata_eq]
  cases hsession : c.checkoutSessionId with
  | none => simpa using field?_merge hwell
  | some sessionId =>
      by_cases hempty : sessionId = ""
      · simpa [hempty] using field?_merge hwell
      · simp only [hempty, if_false]
        rw [field?_setField, field?_merge hwell]
        by_cases hkey : key = "checkout_session_id"
        · simp [hkey, hempty, Json.ofOption]
        · simp [hkey]

/-! ## Bindings -/

theorem allowed_eq_ok : c.allowed context = .ok () ↔
    (contextSession context = .null ∨ c.checkoutSessionId = none ∨
      contextSession context = Json.ofOption .str c.checkoutSessionId) ∧
    (contextField context "resource_id" = .null ∨
      contextField context "resource_id" = Json.ofOption .str c.newResource) ∧
    (contextField context "resource_id" ≠ .null ∨ c.newResource = none ∨
      (c.checkoutSessionId.getD "" ≠ "" ∧
        contextSession context = Json.ofOption .str c.checkoutSessionId)) := by
  unfold PersistCall.allowed
  simp only [except_bind_eq_ok, ensure_eq_ok, exists_const]

/-- A session stays. -/
theorem session_stays (hwell : WellFormed context) (hallowed : c.allowed context = .ok ())
    (hbound : contextSession context ≠ .null) :
    contextSession (c.payload P context) = contextSession context := by
  obtain ⟨hsession, _, _⟩ := allowed_eq_ok.mp hallowed
  rw [contextSession_eq, metadataOf_payload, field?_mergedMetadata hwell]
  by_cases hnamed : c.checkoutSessionId.getD "" ≠ ""
  · rw [if_pos ⟨rfl, hnamed⟩]
    rcases hsession with hnull | hnone | hsame
    · exact absurd hnull hbound
    · rw [hnone] at hnamed
      exact absurd rfl hnamed
    · exact hsame.symm
  · rw [if_neg fun h => hnamed h.2]
    rw [contextSession_eq] at hbound ⊢
    cases hfield : (Json.obj (metadataOf context)).field? "checkout_session_id" with
    | none =>
        rw [hfield] at hbound
        exact absurd rfl hbound
    | some value => rfl

/-- A payment stays. -/
theorem resource_stays (hallowed : c.allowed context = .ok ())
    (hbound : contextField context "resource_id" ≠ .null) :
    contextField (c.payload P context) "resource_id" = contextField context "resource_id" := by
  obtain ⟨_, hresource, _⟩ := allowed_eq_ok.mp hallowed
  rw [payload_field.2.2.2]
  exact (hresource.resolve_left hbound).symm

/-- A payment is bound only with the session that was there. -/
theorem resource_bound (hallowed : c.allowed context = .ok ())
    (hfree : contextField context "resource_id" = .null)
    (hbound : contextField (c.payload P context) "resource_id" ≠ .null) :
    ∃ sessionId, sessionId ≠ "" ∧ c.checkoutSessionId = some sessionId ∧
      contextSession context = .str sessionId := by
  obtain ⟨_, _, hexact⟩ := allowed_eq_ok.mp hallowed
  rw [payload_field.2.2.2] at hbound
  rcases hexact with hnot | hnone | ⟨hnamed, hsession⟩
  · exact absurd hfree hnot
  · rw [hnone] at hbound
    exact absurd rfl hbound
  · cases hid : c.checkoutSessionId with
    | none =>
        rw [hid] at hnamed
        exact absurd rfl hnamed
    | some sessionId =>
        rw [hid] at hnamed hsession
        exact ⟨sessionId, hnamed, rfl, hsession⟩

/-- A call that would change a binding. -/
def Rebinds (c : PersistCall) (context : List (String × Json)) : Prop :=
  (contextSession context ≠ .null ∧ c.checkoutSessionId ≠ none ∧
      contextSession context ≠ Json.ofOption .str c.checkoutSessionId) ∨
    (contextField context "resource_id" ≠ .null ∧
      contextField context "resource_id" ≠ Json.ofOption .str c.newResource)

theorem not_allowed_of_rebinds (h : Rebinds c context) : c.allowed context ≠ .ok () := by
  intro hallowed
  obtain ⟨hsession, hresource, _⟩ := allowed_eq_ok.mp hallowed
  rcases h with ⟨hbound, hnamed, hother⟩ | ⟨hbound, hother⟩
  · rcases hsession with hnull | hnone | hsame
    · exact hbound hnull
    · exact hnamed hnone
    · exact hother hsame
  · exact hresource.elim hbound hother

/-! ## Evidence -/

/-- A context with the evidence of a call, and with a session in its metadata. -/
structure Records (context : List (String × Json)) (c : PersistCall) : Prop where
  status : contextField context "status" = .str c.status
  reasons : contextField context "reasons" = .arr (c.reasons.map .str)
  metadata : ∃ metadata, contextField context "metadata" = .obj metadata ∧
    ∀ key, key ≠ "checkout_session_id" →
      (Json.obj metadata).field? key = (Json.obj c.metadata).field? key

/-- A call whose metadata has what the metadata of a context has, the session aside. -/
def Extends (c : PersistCall) (context : List (String × Json)) : Prop :=
  ∀ key value, key ≠ "checkout_session_id" →
    (Json.obj (metadataOf context)).field? key = some value →
      (Json.obj c.metadata).field? key = some value

/-- What a call persists has its evidence exactly if its metadata extends what was there. -/
theorem records_payload_iff (hwell : WellFormed context) :
    Records (c.payload P context) c ↔ Extends c context := by
  obtain ⟨hmetadata, hstatus, hreasons, _⟩ := @payload_field P c context
  have hfield : ∀ key, key ≠ "checkout_session_id" →
      (Json.obj (c.mergedMetadata context)).field? key =
        ((Json.obj (metadataOf context)).field? key).or ((Json.obj c.metadata).field? key) := by
    intro key hkey
    rw [field?_mergedMetadata hwell, if_neg fun h => hkey h.1]
  constructor
  · rintro ⟨_, _, metadata, heq, hsame⟩ key value hkey hvalue
    rw [hmetadata] at heq
    cases heq
    rw [← hsame key hkey, hfield key hkey, hvalue]
    rfl
  · intro hextends
    refine ⟨hstatus, hreasons, _, hmetadata, fun key hkey => ?_⟩
    rw [hfield key hkey]
    cases hvalue : (Json.obj (metadataOf context)).field? key with
    | none => rfl
    | some value => exact (hextends key value hkey hvalue).symm

/-! ## Runs -/

variable {s t : ExecutionStore} {attemptId : String}

theorem run_eq_ok : c.run P s = .ok () t ↔ ∃ m,
    s.attempts.find? c.checkpoint.attemptId = some m ∧ m.status = .unknown ∧
      c.allowed (probeContext m) = .ok () ∧
      t = s.updateAttempt c.checkpoint.attemptId
        (withContext (c.payload P (probeContext m))) := by
  simp only [PersistCall.run, atomic_eq_ok, bind_eq_ok, fetch_eq_ok, require_eq_ok, lift_eq_ok,
    write_eq_ok]
  constructor
  · rintro ⟨m, _, ⟨hm, rfl⟩, _, _, ⟨hunknown, rfl⟩, _, _, ⟨hallowed, rfl⟩, rfl⟩
    exact ⟨m, hm, hunknown, hallowed, rfl⟩
  · rintro ⟨m, hm, hunknown, hallowed, rfl⟩
    exact ⟨m, s, ⟨hm, rfl⟩, (), s, ⟨hunknown, rfl⟩, (), s, ⟨hallowed, rfl⟩, rfl⟩

/-- A call that returns was allowed, and its payload is the context. -/
theorem contextOf_run (h : c.run P s = .ok () t) :
    c.allowed (contextOf s c.checkpoint.attemptId) = .ok () ∧
      contextOf t c.checkpoint.attemptId =
        c.payload P (contextOf s c.checkpoint.attemptId) := by
  obtain ⟨m, hm, _, hallowed, rfl⟩ := run_eq_ok.mp h
  have hbefore : contextOf s c.checkpoint.attemptId = probeContext m := by
    unfold contextOf
    rw [hm]
    rfl
  rw [hbefore]
  refine ⟨hallowed, ?_⟩
  unfold contextOf
  rw [ExecutionStore.updateAttempt_attempts, Table.find?_update_self hm]
  rfl

theorem left_load (checkpoint : ExecutionCheckpoint) :
    left (loadProbeContext checkpoint s) = s := by
  have hkeeps : Keeps (loadProbeContext checkpoint) s := by
    refine .atomic fun context t ht => ?_
    simp only [attemptOf, bind_eq_ok, fetch_eq_ok, require_eq_ok, pure_apply,
      EStateM.Result.ok.injEq] at ht
    obtain ⟨m, _, ⟨_, rfl⟩, _, _, ⟨_, rfl⟩, _, rfl⟩ := ht
    rfl
  exact hkeeps

/-- A call that raises changes nothing, and one that returns leaves its payload. -/
theorem contextOf_left_run (c : PersistCall) :
    left (c.run P s) = s ∨
      (c.allowed (contextOf s c.checkpoint.attemptId) = .ok () ∧
        contextOf (left (c.run P s)) c.checkpoint.attemptId =
          c.payload P (contextOf s c.checkpoint.attemptId)) := by
  rcases (Clean.atomic _ : Clean (c.run P)).left_cases s with hsame | ⟨_, hok⟩
  · exact .inl hsame
  · exact .inr (contextOf_run hok)

/-- What a context keeps of an earlier one. -/
structure Keeping (before after : List (String × Json)) : Prop where
  wellFormed : WellFormed after
  session : contextSession before ≠ .null → contextSession after = contextSession before
  resource : contextField before "resource_id" ≠ .null →
    contextField after "resource_id" = contextField before "resource_id"

theorem Keeping.trans {first second third : List (String × Json)} (h : Keeping first second)
    (h' : Keeping second third) : Keeping first third where
  wellFormed := h'.wellFormed
  session hbound := by
    have hsecond := h.session hbound
    rw [h'.session (by rw [hsecond]; exact hbound), hsecond]
  resource hbound := by
    have hsecond := h.resource hbound
    rw [h'.resource (by rw [hsecond]; exact hbound), hsecond]

theorem keeping_after {call : ProbeCall} (hid : call.attemptId = attemptId)
    (hwell : WellFormed (contextOf s attemptId)) :
    Keeping (contextOf s attemptId) (contextOf (call.after P s) attemptId) := by
  subst hid
  cases call with
  | load checkpoint =>
      have hsame : (ProbeCall.load checkpoint).after P s = s := left_load checkpoint
      rw [hsame]
      exact ⟨hwell, fun _ => rfl, fun _ => rfl⟩
  | persist c =>
      rcases contextOf_left_run (P := P) (s := s) c with hsame | ⟨hallowed, hpayload⟩
      · show Keeping _ (contextOf (left (c.run P s)) _)
        rw [hsame]
        exact ⟨hwell, fun _ => rfl, fun _ => rfl⟩
      · show Keeping _ (contextOf (left (c.run P s)) c.checkpoint.attemptId)
        rw [hpayload]
        exact ⟨payload_wellFormed, session_stays hwell hallowed, resource_stays hallowed⟩

theorem keeping_afterAll {calls : List ProbeCall} (hone : ∀ call ∈ calls, call.attemptId = attemptId)
    (hwell : WellFormed (contextOf s attemptId)) :
    Keeping (contextOf s attemptId) (contextOf (afterAll P s calls) attemptId) := by
  induction calls generalizing s with
  | nil => exact ⟨hwell, fun _ => rfl, fun _ => rfl⟩
  | cons call calls ih =>
      have hfirst := keeping_after (P := P) (hone call (List.mem_cons_self ..)) hwell
      exact hfirst.trans (ih (fun other h => hone other (List.mem_cons_of_mem call h))
        hfirst.wellFormed)

/-- The context records the call that persisted last exactly if the metadata of this call extends
the context that it found. -/
theorem records_last_iff {calls : List ProbeCall}
    {last : Option (List (String × Json) × PersistCall)}
    (hone : ∀ call ∈ calls, call.attemptId = attemptId)
    (hwell : WellFormed (contextOf s attemptId))
    (hlast : ∀ before c, last = some (before, c) →
      (Records (contextOf s attemptId) c ↔ Extends c before))
    {before : List (String × Json)} (h : lastPersisted P s last calls = some (before, c)) :
    Records (contextOf (afterAll P s calls) attemptId) c ↔ Extends c before := by
  induction calls generalizing s last with
  | nil => exact hlast before c h
  | cons call calls ih =>
      have hrest : ∀ other ∈ calls, other.attemptId = attemptId :=
        fun other hother => hone other (List.mem_cons_of_mem call hother)
      have hid := hone call (List.mem_cons_self ..)
      have hwell' := (keeping_after (P := P) hid hwell).wellFormed
      cases call with
      | load checkpoint =>
          refine ih hrest hwell' ?_ h
          have hsame : (ProbeCall.load checkpoint).after P s = s := left_load checkpoint
          rw [hsame]
          exact hlast
      | persist d =>
          subst hid
          refine ih hrest hwell' ?_ h
          intro before' c' hnow
          cases hrun : d.run P s with
          | error e t =>
              have hsame : t = s := (Clean.atomic _ : Clean (d.run P)) s e t hrun
              simp only [hrun, returned, Bool.false_eq_true, if_false] at hnow
              show Records (contextOf (left (d.run P s)) _) c' ↔ _
              rw [hrun, left_error, hsame]
              exact hlast before' c' hnow
          | ok u t =>
              simp only [hrun, returned, if_true] at hnow
              cases hnow
              show Records (contextOf (left (d.run P s)) _) d ↔ _
              rw [hrun, left_ok]
              have hpayload := (contextOf_run hrun).2
              show Records (contextOf t d.checkpoint.attemptId) d ↔ _
              rw [hpayload]
              exact records_payload_iff hwell

end

/-- However the context of an attempt is persisted and loaded: a session and a payment that it is
bound to stay, a payment is bound only with the session that was persisted before, a call with
another binding raises and changes nothing, and a load returns the context, which has the evidence
that was persisted last exactly if its metadata extends what was there. -/
theorem loads_last_iff {P : Platform} {s : ExecutionStore} {attemptId : String}
    {calls : List ProbeCall} (hone : ∀ call ∈ calls, call.attemptId = attemptId)
    (hwell : WellFormed (contextOf s attemptId)) :
    Keeping (contextOf s attemptId) (contextOf (afterAll P s calls) attemptId) ∧
    (∀ c : PersistCall, c.checkpoint.attemptId = attemptId →
      contextField (contextOf (afterAll P s calls) attemptId) "resource_id" = .null →
      contextField (contextOf (left (c.run P (afterAll P s calls))) attemptId)
        "resource_id" ≠ .null →
      ∃ sessionId, sessionId ≠ "" ∧ c.checkoutSessionId = some sessionId ∧
        contextSession (contextOf (afterAll P s calls) attemptId) = .str sessionId) ∧
    (∀ c : PersistCall, c.checkpoint.attemptId = attemptId →
      Rebinds c (contextOf (afterAll P s calls) attemptId) →
      ∃ e, c.run P (afterAll P s calls) = .error e (afterAll P s calls)) ∧
    ∀ checkpoint context t, checkpoint.attemptId = attemptId →
      loadProbeContext checkpoint (afterAll P s calls) = .ok context t →
      context = contextOf (afterAll P s calls) attemptId ∧
        ∀ before c, lastPersisted P s none calls = some (before, c) →
          (Records context c ↔ Extends c before) := by
  refine ⟨keeping_afterAll hone hwell, ?_, ?_, ?_⟩
  · rintro c rfl hfree hbound
    rcases contextOf_left_run (P := P) (s := afterAll P s calls) c with hsame | ⟨hallowed, hpayload⟩
    · rw [hsame] at hbound
      exact absurd hfree hbound
    · rw [hpayload] at hbound
      exact resource_bound hallowed hfree hbound
  · rintro c rfl hrebinds
    cases hrun : c.run P (afterAll P s calls) with
    | ok u t => exact absurd (contextOf_run hrun).1 (not_allowed_of_rebinds hrebinds)
    | error e t =>
        have hsame := (Clean.atomic _ : Clean (c.run P)) _ e t hrun
        exact ⟨e, by rw [hsame]⟩
  · rintro checkpoint context t rfl hload
    have hcontext : context = contextOf (afterAll P s calls) checkpoint.attemptId := by
      simp only [loadProbeContext, attemptOf, atomic_eq_ok, bind_eq_ok, fetch_eq_ok,
        require_eq_ok, pure_apply, EStateM.Result.ok.injEq] at hload
      obtain ⟨m, _, ⟨hm, rfl⟩, _, _, ⟨_, rfl⟩, rfl, _⟩ := hload
      unfold contextOf
      rw [hm]
      rfl
    refine ⟨hcontext, fun before c hlast => ?_⟩
    rw [hcontext]
    exact records_last_iff hone hwell (by rintro _ _ ⟨⟩) hlast

/-! ## Metadata that stays -/

/-- An attempt whose session was persisted. -/
def boundAttempt : ExecutionAttemptModel :=
  { centsAttempt with
    resultProbe := some [("resource_id", .null),
      ("metadata", .obj [("checkout_session_id", .str "cs_1")])] }

def boundStore : ExecutionStore := ⟨.empty, ⟨[boundAttempt], List.pairwise_singleton ..⟩⟩

/-- Evidence of the payment of that session, with a reason. -/
def evidenceFor (reasonCode : String) : ResultProbeEvidence where
  probeRef := resultProbeRef
  status := .unknown
  resourceId := "pi_1"
  checkedAt := .utc 2
  observedVersion := none
  businessReference := none
  factsHash := none
  reasons := [reasonCode]
  metadata := [("reason_code", .str reasonCode)]

def persistReason (reasonCode : String) : PersistCall where
  checkpoint := centsRequest.checkpoint
  evidence := some (evidenceFor reasonCode)
  checkoutSessionId := some "cs_1"
  reason := none
  distinct := by
    rintro _ ⟨⟩
    exact List.nodup_singleton _

/-- Evidence is persisted twice, for two reasons. -/
def twoReasons : List ProbeCall :=
  [.persist (persistReason "unavailable"), .persist (persistReason "unknown")]

/-- The context that is loaded has the reason of the first evidence in its metadata, and the second
evidence was persisted last. -/
theorem stale_metadata_loaded : ∃ context t before c,
    loadProbeContext centsRequest.checkpoint (afterAll samplePlatform boundStore twoReasons) =
      .ok context t ∧
    lastPersisted samplePlatform boundStore none twoReasons = some (before, c) ∧
    c.evidence = some (evidenceFor "unknown") ∧ ¬ Records context c := by
  have hload : (match loadProbeContext centsRequest.checkpoint
      (afterAll samplePlatform boundStore twoReasons) with
    | .ok context _ => decide ((Json.obj (metadataOf context)).field? "reason_code" =
        some (.str "unavailable"))
    | .error _ _ => false) = true := by
    decide +kernel
  have hlast : (lastPersisted samplePlatform boundStore none twoReasons).map (·.2.evidence) =
      some (some (evidenceFor "unknown")) := by
    decide +kernel
  obtain ⟨⟨before, c⟩, hpersisted, hevidence⟩ := Option.map_eq_some_iff.mp hlast
  split at hload
  case h_2 => cases hload
  case h_1 context t hcontext =>
    refine ⟨context, t, before, c, hcontext, hpersisted, hevidence, ?_⟩
    rintro ⟨_, _, metadata, hmetadata, hsame⟩
    have hreason := of_decide_eq_true hload
    unfold metadataOf at hreason
    rw [hmetadata] at hreason
    have hnew : (Json.obj c.metadata).field? "reason_code" = some (.str "unknown") := by
      unfold PersistCall.metadata
      rw [hevidence]
      rfl
    rw [hsame "reason_code" (by decide), hnew] at hreason
    exact absurd hreason (by decide)

/-- The session is still the one that was persisted. -/
theorem loads_last_iff_sample :
    contextSession (contextOf (afterAll samplePlatform boundStore twoReasons) "attempt") =
      .str "cs_1" := by
  have hwell : WellFormed (contextOf boundStore "attempt") :=
    List.nodup_singleton "checkout_session_id"
  exact (loads_last_iff (by decide) hwell).1.session (by decide)

end ProbeContext

end Stripe

end AgentPact
