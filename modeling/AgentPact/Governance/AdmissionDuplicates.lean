import AgentPact.Governance.AdmissionOrder
import AgentPact.Governance.AdmissionPersistence
import AgentPact.Governance.AdmissionTerms

/-!
# Which admissions are duplicates

A repository that has an admission of a request takes another for a duplicate if
their fingerprints are equal.  They are if and only if the bundles have the same
terms, and the same was measured of the planner.  So a request that is prepared
again from the same records is a duplicate, and one whose plan was proposed
again is not.
-/

namespace AgentPact

/-- A platform tells two documents apart: it writes them as one text only if they have one text, and
their texts do not collide. -/
structure Platform.TellsApart (P : Platform) (x y : Json) : Prop where
  text : P.dumps x = P.dumps y ↔ x.canonical = y.canonical
  collisionFree : P.sha256 (P.dumps x) = P.sha256 (P.dumps y) → P.dumps x = P.dumps y

theorem Platform.TellsApart.digest_eq_iff {P : Platform} {x y : Json} (h : P.TellsApart x y) :
    P.digest x = P.digest y ↔ x.canonical = y.canonical :=
  ⟨fun hdigest => h.text.mp (h.collisionFree hdigest),
    fun hcanonical => congrArg P.sha256 (h.text.mpr hcanonical)⟩

namespace Admission

variable {O : Process} {e e' : Enumeration}

/-- The payloads of two fingerprints are told apart. -/
def Process.TellsApart (O : Process) (e e' : Enumeration) (a b : ObservedBundle) : Prop :=
  ∀ payload payload', fingerprintPayload O e a = .ok payload →
    fingerprintPayload O e' b = .ok payload' → O.platform.TellsApart payload payload'

/-- Fingerprints are equal if and only if the terms are, and what was measured of the planner. -/
theorem admissionFingerprint_eq_iff {a b : ObservedBundle} {d d' : Digest}
    (htells : O.TellsApart e e' a b) (ha : admissionFingerprint O e a = .ok d)
    (hb : admissionFingerprint O e' b = .ok d') :
    d = d' ↔ a.SameTerms b ∧ a.SameTelemetry b := by
  obtain ⟨payload, hpayload, hd⟩ := except_bind_eq_ok.mp ha
  obtain ⟨payload', hpayload', hd'⟩ := except_bind_eq_ok.mp hb
  cases hd
  cases hd'
  rw [(htells payload payload' hpayload hpayload').digest_eq_iff]
  obtain ⟨scope, hscope, rfl⟩ := fingerprintPayload_eq_ok hpayload
  obtain ⟨scope', hscope', rfl⟩ := fingerprintPayload_eq_ok hpayload'
  exact Process.canonical_terms_iff hscope hscope'

/-- The fingerprint tells exactly whether two bundles have the same terms, if and only if the same
was measured of the planner wherever they have. -/
theorem admissionFingerprint_exact_iff {a b : ObservedBundle} {d d' : Digest}
    (htells : O.TellsApart e e' a b) (ha : admissionFingerprint O e a = .ok d)
    (hb : admissionFingerprint O e' b = .ok d') :
    (d = d' ↔ a.SameTerms b) ↔ (a.SameTerms b → a.SameTelemetry b) := by
  rw [admissionFingerprint_eq_iff htells ha hb]
  constructor
  · intro h hterms
    exact (h.mpr hterms).2
  · intro h
    exact ⟨fun hboth => hboth.1, fun hterms => ⟨hterms, h hterms⟩⟩

/-- What a repository with an admission of a request makes of another. -/
theorem resolveExisting_duplicate_iff {a b : ObservedBundle} {d : Digest}
    {existing : GovernedTaskAdmissionModel} (htells : O.TellsApart e e' a b)
    (ha : admissionFingerprint O e a = .ok existing.admissionFingerprint)
    (hb : admissionFingerprint O e' b = .ok d) :
    resolveExisting existing d = .ok (toReceipt existing true) ↔
      a.SameTerms b ∧ a.SameTelemetry b := by
  rw [← admissionFingerprint_eq_iff htells ha hb]
  unfold resolveExisting
  split
  case isTrue h => exact ⟨fun _ => h, fun _ => rfl⟩
  case isFalse h => exact ⟨nofun, fun hsame => absurd hsame h⟩

/-! ## Preparing again -/

/-- A bundle has its own terms, made at whatever times. -/
theorem sameTerms_of_times (b : ObservedBundle) (submittedAt recordedAt : DateTime)
    (observation : Option PlannerObservation)
    (houtcome : b.plannerObservation.map (·.outcome) = observation.map (·.outcome)) :
    b.SameTerms { b with
      request := { b.request with submittedAt := submittedAt }
      auditRecord := { b.auditRecord with createdAt := recordedAt }
      plannerObservation := observation } where
  schemaVersion := rfl
  providerMode := rfl
  runtimeBinding := rfl
  outcome := houtcome
  admissionId := rfl
  task := rfl
  creationSnapshot := ⟨rfl, rfl⟩
  contract := ⟨rfl, rfl, rfl⟩
  lifetime := rfl
  request := ⟨rfl, ⟨rfl, rfl⟩, rfl⟩
  grants := List.forall₂_same.mpr fun _ _ => ⟨rfl, ⟨rfl, rfl⟩, rfl, rfl⟩
  plan := ⟨rfl, ⟨rfl, rfl⟩, List.forall₂_same.mpr fun _ _ => ⟨rfl, rfl, rfl, rfl, rfl, rfl, rfl, rfl⟩⟩
  workOrders := rfl
  auditRecord := rfl

/-- What a request is checked to be within does not depend on the time. -/
theorem checkRequest_unique {a : Proposal} {now : DateTime}
    {entry entry' : GrantProjectionEntry} {grant grant' : CapabilityGrant}
    (h : checkRequest a = .ok (entry, grant))
    (h' : checkRequest { a with now := now } = .ok (entry', grant')) :
    entry = entry' ∧ grant = grant' := by
  obtain ⟨e₁, hentry, h⟩ := except_bind_eq_ok.mp h
  obtain ⟨g₁, hgrant, h⟩ := except_bind_eq_ok.mp h
  obtain ⟨e₂, hentry', h'⟩ := except_bind_eq_ok.mp h'
  obtain ⟨g₂, hgrant', h'⟩ := except_bind_eq_ok.mp h'
  simp only [check, except_bind_eq_ok, ensure_eq_ok] at h h'
  obtain ⟨_, _, _, _, _, _, _, _, h⟩ := h
  obtain ⟨_, _, _, _, _, _, _, _, h'⟩ := h'
  cases h
  cases h'
  obtain ⟨_, _, hmem, hid, _⟩ := validateCapabilityRequest_eq_ok hentry
  obtain ⟨_, _, hmem', hid', _⟩ := validateCapabilityRequest_eq_ok hentry'
  refine ⟨List.inj_on_of_nodup_map a.projection.unique hmem hmem' (hid.trans hid'.symm), ?_⟩
  exact Except.ok.inj (hgrant.symm.trans hgrant')

/-- A request that is prepared again at another time has the same terms. -/
theorem prepare_again {a : Proposal} {now : DateTime} {b b' : TaskAdmissionBundle}
    (h : prepare O a = .ok b) (h' : prepare O { a with now := now } = .ok b') :
    b.unobserved.SameTerms b'.unobserved ∧ b.unobserved.SameTelemetry b'.unobserved := by
  obtain ⟨_, _, h⟩ := except_bind_eq_ok.mp h
  obtain ⟨⟨entry, grant⟩, hrequest, h⟩ := except_bind_eq_ok.mp h
  obtain ⟨_, _, h⟩ := except_bind_eq_ok.mp h
  obtain ⟨_, _, h⟩ := except_bind_eq_ok.mp h
  obtain ⟨_, _, h⟩ := except_bind_eq_ok.mp h
  obtain ⟨_, _, h'⟩ := except_bind_eq_ok.mp h'
  obtain ⟨⟨entry', grant'⟩, hrequest', h'⟩ := except_bind_eq_ok.mp h'
  obtain ⟨_, _, h'⟩ := except_bind_eq_ok.mp h'
  obtain ⟨_, _, h'⟩ := except_bind_eq_ok.mp h'
  obtain ⟨_, _, h'⟩ := except_bind_eq_ok.mp h'
  obtain ⟨rfl, rfl⟩ := checkRequest_unique hrequest hrequest'
  cases h
  cases h'
  exact ⟨sameTerms_of_times _ a.request.submittedAt now none rfl, rfl⟩

/-- A request that is prepared again at another time is a duplicate. -/
theorem prepared_again_duplicate {a : Proposal} {now : DateTime} {b b' : TaskAdmissionBundle}
    {d : Digest} {existing : GovernedTaskAdmissionModel} (h : prepare O a = .ok b)
    (h' : prepare O { a with now := now } = .ok b')
    (htells : O.TellsApart e e' b.unobserved b'.unobserved)
    (ha : admissionFingerprint O e b.unobserved = .ok existing.admissionFingerprint)
    (hb : admissionFingerprint O e' b'.unobserved = .ok d) :
    resolveExisting existing d = .ok (toReceipt existing true) :=
  (resolveExisting_duplicate_iff htells ha hb).mpr (prepare_again h h')

/-! ## A plan proposed again -/

section Retry

/-- A call of the planner that took some milliseconds. -/
def timedObservation (ms : Rat) (h : 0 ≤ ms ∧ ms ≤ 3600000) : PlannerObservation where
  providerMode := "live"
  disposition := .accepted
  codes := []
  providerCalls := 1
  repairCount := 0
  durationMs := some ms
  providerDurationMs := none
  usage := none
  mode_known := by decide
  providerCalls_le := by decide
  repairCount_le := by decide
  durationMs_bound := by simpa [DurationBound] using h
  providerDurationMs_bound := by simp [DurationBound]

/-- The bundle of the sample task, prepared at some time. -/
def retriedBundle (observation : PlannerObservation) (now : DateTime) : ObservedBundle where
  schemaVersion := "phase2-task-admission-bundle-v1"
  providerMode := "live"
  runtimeBinding := none
  admissionId := "admission_0"
  task := paymentProposal.task
  creationSnapshot := paymentSnapshot
  contract := paymentContract
  request := { paymentRequest with submittedAt := now }
  grants := [paymentGrant]
  plan := paymentProposal.plan
  workOrders := paymentProposal.workOrders
  auditRecord := ⟨"governed_task_admitted", "admission_0", "request", "task", "org", "contract",
    "plan", "grant", "pay", "1", "policy", "0", .audit, now⟩
  plannerObservation := some observation

theorem retriedBundle_payload (observation : PlannerObservation) (now : DateTime) :
    fingerprintPayload O e (retriedBundle observation now) =
      .ok (O.terms (retriedBundle observation now) paymentContract.dataScope.toJson) := by
  refine fingerprintPayload_of_timed ⟨?_, ?_, ?_⟩ rfl rfl
  · rintro t ⟨⟩
    rfl
  · intro g hg
    cases List.mem_singleton.mp hg
    rfl
  · intro g hg
    cases List.mem_singleton.mp hg
    rfl

/-- How long the planner took, which tells the documents of the examples apart. -/
def durationText (doc : Json) : String :=
  match (doc.field? "planner_observation").bind (·.field? "duration_ms") with
  | some (.real ms) => "\x7b\"duration_ms\":" ++ toString ms.num ++ ".0\x7d"
  | _ => "\x7b\x7d"

/-- A process that writes how long the planner took. -/
def timingProcess : Process :=
  { sampleProcess with platform := { samplePlatform with dumps := durationText } }

/-- The planner took five milliseconds. -/
def fastObservation : PlannerObservation := timedObservation 5 (by decide)

/-- The planner took seven milliseconds. -/
def slowObservation : PlannerObservation := timedObservation 7 (by decide)

theorem retriedBundle_fingerprint (observation : PlannerObservation) (now : DateTime) :
    admissionFingerprint O e (retriedBundle observation now) = .ok (O.platform.digest
      (O.terms (retriedBundle observation now) paymentContract.dataScope.toJson)) :=
  except_bind_of_ok (retriedBundle_payload observation now) rfl

theorem admissionFingerprint_exact_iff_sample :
    let first := retriedBundle fastObservation (.utc 2)
    let second := retriedBundle fastObservation (.utc 9)
    ∃ d d', admissionFingerprint timingProcess paymentFirst first = .ok d ∧
      admissionFingerprint timingProcess refundFirst second = .ok d' ∧
      ((d = d' ↔ first.SameTerms second) ↔
        (first.SameTerms second → first.SameTelemetry second)) := by
  intro first second
  have htells : timingProcess.TellsApart paymentFirst refundFirst first second := by
    intro payload payload' hpayload hpayload'
    rw [retriedBundle_payload] at hpayload hpayload'
    cases hpayload
    cases hpayload'
    exact ⟨⟨fun _ => rfl, fun _ => rfl⟩, fun _ => rfl⟩
  have hfirst := retriedBundle_fingerprint (O := timingProcess) (e := paymentFirst) fastObservation
    (.utc 2)
  have hsecond := retriedBundle_fingerprint (O := timingProcess) (e := refundFirst) fastObservation
    (.utc 9)
  exact ⟨_, _, hfirst, hsecond, admissionFingerprint_exact_iff htells hfirst hsecond⟩

/-- The plan of a request is proposed again, with the same outcome but in another time.  The bundles
have the same terms, and the fingerprints differ. -/
theorem slow_retry_conflicts :
    let first := retriedBundle fastObservation (.utc 2)
    let second := retriedBundle slowObservation (.utc 9)
    ∃ d d', timingProcess.TellsApart paymentFirst paymentFirst first second ∧
      admissionFingerprint timingProcess paymentFirst first = .ok d ∧
      admissionFingerprint timingProcess paymentFirst second = .ok d' ∧
      first.SameTerms second ∧ d ≠ d' := by
  intro first second
  have hdigests : timingProcess.platform.digest
        (timingProcess.terms first paymentContract.dataScope.toJson) ≠
      timingProcess.platform.digest
        (timingProcess.terms second paymentContract.dataScope.toJson) := by
    decide +kernel
  have hterms : first.SameTerms second :=
    sameTerms_of_times first (.utc 9) (.utc 9) (some slowObservation) rfl
  refine ⟨_, _, ?_, retriedBundle_fingerprint _ _, retriedBundle_fingerprint _ _, hterms, hdigests⟩
  intro payload payload' hpayload hpayload'
  rw [retriedBundle_payload] at hpayload hpayload'
  cases hpayload
  cases hpayload'
  refine ⟨⟨fun htext => absurd (congrArg samplePlatform.sha256 htext) hdigests, fun hcanonical => ?_⟩,
    fun hdigest => absurd hdigest hdigests⟩
  obtain ⟨_, htelemetry⟩ := (Process.canonical_terms_iff (O := timingProcess) (a := first)
    (b := second) rfl rfl).mp hcanonical
  unfold ObservedBundle.SameTelemetry at htelemetry
  exact absurd htelemetry (by decide)

end Retry

end Admission

end AgentPact
