import AgentPact.Governance.AdmissionAuthority
import AgentPact.Governance.AdmissionPayload

/-!
# Admission and the orders of sets

`prepare` compares sets as sets, with one exception: the scope of the contract
is a document, and it is compared with the document of the requested scope,
which lists the resources in the order they are iterated in.  So a contract that
lists them in another order than this process does is refused, and nothing else
in `prepare` or in the canonical payload depends on an order.
-/

namespace AgentPact

/-- The document of a scope, with its resources in some order. -/
def CapabilityDataScope.listed (s : CapabilityDataScope) (ids : List String) : JsonDict :=
  ⟨[("department_id", .ofOption .str s.departmentId),
    ("business_line_id", .ofOption .str s.businessLineId), ("resource_ids", .arr (ids.map .str)),
    ("attributes", s.attributes.toJson)], by simp⟩

namespace Admission

/-! ## What `prepare` checks -/

/-- The scope of a contract is a requested scope, with its resources in some order. -/
def TaskContract.Lists (c : TaskContract) (s : CapabilityDataScope) (ids : List String) : Prop :=
  c.dataScope.same (s.listed ids)

/-- The records of a proposal agree, but for the scope of the contract. -/
structure RecordsAgree (P : Platform) (a : Proposal) : Prop where
  audit : a.task.mode = .audit ∧ a.contract.mode = .audit
  snapshotTask : a.task.taskId = a.creationSnapshot.taskId ∧
    a.task.organizationId = a.creationSnapshot.organizationId
  contractTask : a.contract.taskId = a.task.taskId ∧
    a.contract.organizationId = a.task.organizationId
  tenant : a.request.tenantId = a.task.organizationId
  goal : a.contract.goal = a.task.goal
  plan : a.plan.taskId = a.task.taskId ∧ a.plan.contractId = a.contract.contractId
  request : a.creationSnapshot.requestId = some a.request.requestId
  snapshotInitiator : a.creationSnapshot.initiatorId = a.request.principalRef
  snapshotWorkload : a.creationSnapshot.servicePrincipalId = a.projection.workloadPrincipalId
  contractInitiator : a.contract.initiatorId = some a.request.principalRef
  contractWorkload : a.contract.servicePrincipalId = a.projection.workloadPrincipalId
  policy : a.contract.policyVersion = a.creationSnapshot.policyVersion
  snapshot : a.contract.authorizationSnapshot.toJson.value = (a.creationSnapshot.modelDump P).value
  current : a.contract.expired a.now = .ok false
  policyVersion : dictGet a.request.contractVersions "policy" = some a.contract.policyVersion
  contractVersion :
    dictGet a.request.contractVersions "task_contract" = some (toString a.contract.version)

theorem checkIdentities_eq_ok {O : Process} {a : Proposal} :
    checkIdentities O a = .ok () ↔ RecordsAgree O.platform a ∧
      a.contract.Lists a.request.requestedScope (O.iterate a.request.requestedScope.resourceIds) := by
  simp only [checkIdentities, check, except_bind_eq_ok, ensure_eq_ok]
  constructor
  · rintro ⟨_, h₁, _, h₂, _, h₃, _, h₄, _, h₅, _, h₆, _, h₇, _, h₈, _, h₉, _, h₁₀, _, h₁₁, _, h₁₂, _,
      h₁₃, _, h₁₄, _, rfl, _, h₁₅, _, h₁₆, hscope⟩
    exact ⟨⟨h₁, h₂, h₃, h₄, h₅, h₆, h₇, h₈, h₉, h₁₀, h₁₁, h₁₂, h₁₃, h₁₄, h₁₅, h₁₆⟩, hscope⟩
  · rintro ⟨h, hscope⟩
    exact ⟨(), h.audit, (), h.snapshotTask, (), h.contractTask, (), h.tenant, (), h.goal, (), h.plan,
      (), h.request, (), h.snapshotInitiator, (), h.snapshotWorkload, (), h.contractInitiator, (),
      h.contractWorkload, (), h.policy, (), h.snapshot, false, h.current, (), rfl, (),
      h.policyVersion, (), h.contractVersion, hscope⟩

/-- All that `prepare` checks, but for the scope of the contract. -/
structure OtherwiseAdmissible (P : Platform) (a : Proposal) : Prop where
  records : RecordsAgree P a
  request : ∃ entry grant, checkRequest a = .ok (entry, grant)
  plan : checkPlan a = .ok ()
  bundled : ((referencedGrants a).map (·.grantId)).toFinset =
    (a.plan.steps.map (·.grantId)).toFinset
  policies : ∀ g ∈ referencedGrants a, g.policySnapshotVersion = a.contract.policyVersion

theorem prepare_accepts_iff {O : Process} {a : Proposal} :
    (∃ b, prepare O a = .ok b) ↔ OtherwiseAdmissible O.platform a ∧
      a.contract.Lists a.request.requestedScope (O.iterate a.request.requestedScope.resourceIds) := by
  constructor
  · rintro ⟨b, h⟩
    obtain ⟨_, hidentities, h⟩ := except_bind_eq_ok.mp h
    obtain ⟨⟨entry, grant⟩, hrequest, h⟩ := except_bind_eq_ok.mp h
    obtain ⟨_, hplan, h⟩ := except_bind_eq_ok.mp h
    obtain ⟨_, hbundled, h⟩ := except_bind_eq_ok.mp h
    obtain ⟨_, hpolicies, _⟩ := except_bind_eq_ok.mp h
    obtain ⟨hrecords, hscope⟩ := checkIdentities_eq_ok.mp hidentities
    exact ⟨⟨hrecords, ⟨entry, grant, hrequest⟩, hplan, ensure_eq_ok.mp hbundled,
      ensure_eq_ok.mp hpolicies⟩, hscope⟩
  · rintro ⟨h, hscope⟩
    obtain ⟨entry, grant, hrequest⟩ := h.request
    exact ⟨_, except_bind_of_ok (checkIdentities_eq_ok.mpr ⟨h.records, hscope⟩)
      (except_bind_of_ok hrequest (except_bind_of_ok h.plan
        (ensure_bind_of h.bundled (ensure_bind_of h.policies rfl))))⟩

/-! ## Listed scopes -/

/-- A number equals a number. -/
theorem number_real_cases (q : Rat) :
    (Json.real q).value = .num q.num ∨ (Json.real q).value = .real q := by
  by_cases hq : q.den = 1
  · exact .inl (if_pos hq)
  · exact .inr (if_neg hq)

/-- A value that equals a string is that string. -/
theorem eq_str_of_value {x : Json} {text : String} (h : x.value = .str text) : x = .str text := by
  cases x with
  | str other => exact h
  | real q => exact absurd (number_real_cases q) (by rintro (hq | hq) <;> cases hq.symm.trans h)
  | null | bool b | num n | arr xs | obj fields => cases h

/-- Values that equal strings are those strings. -/
theorem eq_strs_of_values {xs : List Json} {texts : List String}
    (h : Json.normalAll Json.number xs = texts.map .str) : xs = texts.map .str := by
  induction xs generalizing texts with
  | nil =>
      cases texts with
      | nil => rfl
      | cons text texts => cases h
  | cons x xs ih =>
      cases texts with
      | nil => cases h
      | cons text texts =>
          obtain ⟨hx, hxs⟩ := List.cons.inj h
          rw [eq_str_of_value hx, ih hxs]
          rfl

theorem normalAll_strs (texts : List String) :
    Json.normalAll Json.number (texts.map .str) = texts.map .str := by
  induction texts with
  | nil => rfl
  | cons text texts ih =>
      rw [List.map_cons, Json.normalAll, ih]
      rfl

/-- A value that equals a list of strings is that list. -/
theorem eq_strings_of_value {x : Json} {texts : List String}
    (h : x.value = (Json.arr (texts.map .str)).value) : x = .arr (texts.map .str) := by
  rw [show (Json.arr (texts.map .str)).value = .arr (texts.map .str) from
    congrArg Json.arr (normalAll_strs texts)] at h
  cases x with
  | arr xs => rw [eq_strs_of_values (Json.arr.inj h)]
  | real q => exact absurd (number_real_cases q) (by rintro (hq | hq) <;> cases hq.symm.trans h)
  | null | bool b | num n | str text | obj fields => cases h

/-- The list of a listed scope. -/
theorem TaskContract.Lists.resources {c : TaskContract} {s : CapabilityDataScope}
    {ids : List String} (h : c.Lists s ids) :
    c.dataScope.get "resource_ids" = .arr (ids.map .str) :=
  eq_strings_of_value (h.get "resource_ids")

/-- A contract lists its resources in one order. -/
theorem TaskContract.Lists.unique {c : TaskContract} {s : CapabilityDataScope}
    {ids ids' : List String} (h : c.Lists s ids) (h' : c.Lists s ids') : ids = ids' := by
  have hsame : Json.arr (ids.map .str) = .arr (ids'.map .str) := h.resources.symm.trans h'.resources
  have hinj : Function.Injective Json.str := fun _ _ heq => Json.str.inj heq
  exact hinj.list_map (Json.arr.inj hsame)

/-- The scope of a contract that lists its resources can be sorted. -/
theorem TaskContract.Lists.sortable {c : TaskContract} {s : CapabilityDataScope}
    {ids : List String} (h : c.Lists s ids) :
    ∃ scope, c.dataScope.toJson.sortScopeResources = .ok scope := by
  have hfield : c.dataScope.toJson.field? "resource_ids" = some (.arr (ids.map .str)) := by
    have hget := h.resources
    unfold JsonDict.get at hget
    unfold JsonDict.toJson Json.field?
    cases hfind : (c.dataScope.fields.find? fun f => f.1 = "resource_ids").map (·.2) with
    | none => rw [hfind] at hget; cases hget
    | some x =>
        rw [hfind] at hget
        exact hfind.trans (congrArg some hget)
  rw [Json.sortScopeResources, hfield]
  exact ⟨_, except_bind_of_ok (Json.sorted_str ids) rfl⟩

/-! ## Two orders -/

/-- `prepare`, where the sets of its arguments are iterated by an enumeration.  It iterates one of
them. -/
def prepareIn (O : Process) (e : Enumeration) (a : Proposal) : Except Raised TaskAdmissionBundle :=
  prepare (O.at e .requestedResources) a

/-- Two enumerations of the sets of some arguments lead to one outcome. -/
structure OrderFree (O : Process) (a : Proposal) (e e' : Enumeration) : Prop where
  accepts : (∃ b, prepareIn O e a = .ok b) ↔ ∃ b, prepareIn O e' a = .ok b
  payload : ∀ b b', prepareIn O e a = .ok b → prepareIn O e' a = .ok b' →
    ∃ payload, canonicalTaskAdmissionPayload O e b.unobserved = .ok payload ∧
      canonicalTaskAdmissionPayload O e' b'.unobserved = .ok payload

/-- What `prepare` returns shows no order. -/
theorem prepareIn_unique {O : Process} {a : Proposal} {e e' : Enumeration}
    {b b' : TaskAdmissionBundle} (h : prepareIn O e a = .ok b) (h' : prepareIn O e' a = .ok b') :
    b = b' := by
  have hsame : prepareIn O e a = prepareIn O e' a := by
    obtain ⟨_, hidentities, _⟩ := except_bind_eq_ok.mp h
    obtain ⟨_, hidentities', _⟩ := except_bind_eq_ok.mp h'
    unfold prepareIn prepare
    rw [hidentities, hidentities']
    rfl
  rw [h, h'] at hsame
  exact Except.ok.inj hsame

/-- Two orders lead to one outcome if and only if the contract lists the resources in both of them
or in neither, unless something else is refused anyway. -/
theorem prepare_orderFree_iff (O : Process) (a : Proposal) (e e' : Enumeration) :
    OrderFree O a e e' ↔
      (OtherwiseAdmissible O.platform a →
        ∀ ids, a.contract.Lists a.request.requestedScope ids →
          (e.order .requestedResources a.request.requestedScope.resourceIds = ids ↔
            e'.order .requestedResources a.request.requestedScope.resourceIds = ids)) := by
  have haccepts : ∀ e : Enumeration, (∃ b, prepareIn O e a = .ok b) ↔
      OtherwiseAdmissible O.platform a ∧ a.contract.Lists a.request.requestedScope
        (e.order .requestedResources a.request.requestedScope.resourceIds) :=
    fun e => prepare_accepts_iff
  constructor
  · intro hfree hadmissible ids hids
    have hiff := hfree.accepts
    rw [haccepts, haccepts] at hiff
    constructor
    · rintro rfl
      exact (hiff.mp ⟨hadmissible, hids⟩).2.unique hids
    · rintro rfl
      exact (hiff.mpr ⟨hadmissible, hids⟩).2.unique hids
  · intro h
    refine ⟨?_, fun b b' hb hb' => ?_⟩
    · rw [haccepts, haccepts]
      constructor
      · rintro ⟨hadmissible, hids⟩
        have horder := (h hadmissible _ hids).mp rfl
        exact ⟨hadmissible, horder ▸ hids⟩
      · rintro ⟨hadmissible, hids⟩
        have horder := (h hadmissible _ hids).mpr rfl
        exact ⟨hadmissible, horder ▸ hids⟩
    · cases prepareIn_unique hb hb'
      obtain ⟨_, hids⟩ := (haccepts e).mp ⟨b, hb⟩
      have hcontract : b.contract = a.contract := (prepare_eq_ok hb).choose_spec.contract
      obtain ⟨scope, hscope⟩ := hids.sortable
      rw [← hcontract] at hscope
      refine ⟨O.payload b.unobserved scope, ?_, ?_⟩
      · rw [canonicalTaskAdmissionPayload_eq]
        exact congrArg (Except.map _) hscope
      · rw [canonicalTaskAdmissionPayload_eq]
        exact congrArg (Except.map _) hscope

/-- At most one element comes in one order. -/
theorem eq_of_perm_of_length_le_one {α : Type} {xs ys : List α} (hperm : xs.Perm ys)
    (hlength : xs.length ≤ 1) : xs = ys := by
  cases xs with
  | nil => exact (List.nil_perm.mp hperm).symm
  | cons x xs =>
      have hnil : xs = [] := List.eq_nil_of_length_eq_zero (by simpa using hlength)
      subst hnil
      exact List.singleton_perm.mp hperm

/-- The order of at most one resource does not matter. -/
theorem orderFree_of_card_le_one {O : Process} {a : Proposal} {e e' : Enumeration}
    (h : a.request.requestedScope.resourceIds.card ≤ 1) : OrderFree O a e e' := by
  obtain ⟨hnodup, hset⟩ := e.complete .requestedResources a.request.requestedScope.resourceIds
  obtain ⟨hnodup', hset'⟩ := e'.complete .requestedResources a.request.requestedScope.resourceIds
  have hperm := List.perm_of_nodup_nodup_toFinset_eq hnodup hnodup' (hset.trans hset'.symm)
  rw [← hset, List.toFinset_card_of_nodup hnodup] at h
  have horder := eq_of_perm_of_length_le_one hperm h
  exact (prepare_orderFree_iff O a e e').mpr fun _ ids _ => by rw [horder]

/-! ## Two resources -/

/-- The enumeration that iterates some elements in the order they are listed in. -/
def Enumeration.listing (ids : List String) (hnodup : ids.Nodup) : Enumeration where
  order _ s := if ids.toFinset = s then ids else s.sort (· ≤ ·)
  complete _ s := by
    split
    case isTrue h => exact ⟨hnodup, h⟩
    case isFalse => exact ⟨s.sort_nodup _, s.sort_toFinset _⟩

/-- The order in which the contract lists the resources. -/
def paymentFirst : Enumeration := .listing ["payment", "refund"] (by decide)

/-- The opposite order. -/
def refundFirst : Enumeration := .listing ["refund", "payment"] (by decide)

/-- The scope of a payment and its refund. -/
def refundScope : CapabilityDataScope := { paymentScope with resourceIds := {"payment", "refund"} }

/-- The proposal to admit the sample task for a payment and its refund. -/
def refundProposal : Proposal :=
  { paymentProposal with
    contract := { paymentContract with
      dataScope := ⟨[("department_id", .str "dept"), ("business_line_id", .null),
        ("resource_ids", .arr [.str "payment", .str "refund"]), ("attributes", .obj [])],
        by decide⟩ }
    request := { paymentRequest with requestedScope := refundScope }
    projection := ⟨"user", some "agent", "org", "0", .utc 1,
      [⟨"grant", "pay", "1", refundScope, {.transition}, .utc 100⟩], by decide⟩
    grants := ⟨[{ paymentGrant with dataScope := refundScope }], by decide⟩ }

/-- A process that iterates two resources in the order of the contract accepts what one that iterates
them in the opposite order refuses. -/
theorem resource_order_decides :
    (∃ b, prepareIn sampleProcess paymentFirst refundProposal = .ok b) ∧
    prepareIn sampleProcess refundFirst refundProposal =
      .error ⟨.valueError, "TaskContract data scope must match the CapabilityRequest"⟩ ∧
    ¬ OrderFree sampleProcess refundProposal paymentFirst refundFirst := by
  have haccepts : (prepareIn sampleProcess paymentFirst refundProposal).isOk = true := by
    decide +kernel
  have hrefuses : checkIdentities (sampleProcess.at refundFirst .requestedResources)
      refundProposal =
        .error ⟨.valueError, "TaskContract data scope must match the CapabilityRequest"⟩ := by
    decide +kernel
  have hraised : prepareIn sampleProcess refundFirst refundProposal =
      .error ⟨.valueError, "TaskContract data scope must match the CapabilityRequest"⟩ :=
    except_bind_eq_error.mpr (.inl hrefuses)
  have hok : ∃ b, prepareIn sampleProcess paymentFirst refundProposal = .ok b := by
    cases hprepare : prepareIn sampleProcess paymentFirst refundProposal with
    | error raised => rw [hprepare] at haccepts; cases haccepts
    | ok b => exact ⟨b, rfl⟩
  refine ⟨hok, hraised, fun hfree => ?_⟩
  obtain ⟨b, hb⟩ := hfree.accepts.mp hok
  rw [hraised] at hb
  cases hb

end Admission

end AgentPact
