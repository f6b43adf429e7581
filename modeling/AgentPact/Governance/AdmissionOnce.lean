import AgentPact.Governance.AdmissionAuthority
import AgentPact.Governance.AdmissionPersistence

/-!
# An admission is persisted once

Any number of calls of `persist_atomic` run interleaved, for any requests.

The rows that the calls added are those of the calls that returned without
finding a duplicate, in the order they inserted them.  `Ledger` says so, and the
unique keys of the tables then leave one of them for each request.  `Answered`
is the other half of the invariant: every receipt is that of a row, and every
conflict names a row with another fingerprint.

A row may also be refused because another request has its id or its task.  Then
a call raises the error of the database, unless its own request has been
admitted by then.
-/

namespace AgentPact

open Base

namespace Admission

variable {ι : Type} {R : Repository}

/-! ## The tables -/

/-- Every admission has its row in the outbox, under its id. -/
structure AdmissionStore.Paired (s : AdmissionStore) : Prop where
  named : ∀ o ∈ s.outbox.rows, o.outboxId = "outbox_" ++ o.admissionId
  owned : ∀ o ∈ s.outbox.rows, ∃ m ∈ s.admissions.rows, m.admissionId = o.admissionId
  announced : ∀ m ∈ s.admissions.rows, ∃ o ∈ s.outbox.rows, o.admissionId = m.admissionId

theorem admission_clash_iff {a b : GovernedTaskAdmissionModel} : Schema.clash a b = true ↔
    a.admissionId = b.admissionId ∨ a.about = b.about ∨
      (a.organizationId = b.organizationId ∧ a.taskId = b.taskId) := by
  simp [Schema.clash, or_assoc]

theorem outbox_clash_iff {a b : GovernanceOutboxModel} : Schema.clash a b = true ↔
    a.outboxId = b.outboxId ∨ (a.admissionId = b.admissionId ∧ a.eventType = b.eventType) := by
  simp [Schema.clash]

theorem outboxId_injective {a b : String} (h : "outbox_" ++ a = "outbox_" ++ b) : a = b :=
  String.append_right_inj _ |>.mp h

theorem insertBoth?_eq_some {s t : AdmissionStore} {c : AdmissionCall} :
    s.insertBoth? c = some t ↔
      s.admissions.insert? c.model = some t.admissions ∧
        s.outbox.insert? c.outbox = some t.outbox := by
  unfold AdmissionStore.insertBoth?
  cases s.admissions.insert? c.model with
  | none => simp
  | some admissions =>
      cases s.outbox.insert? c.outbox with
      | none => simp
      | some outbox =>
          constructor
          · intro h
            cases h
            exact ⟨rfl, rfl⟩
          · rintro ⟨h, h'⟩
            cases t
            cases h
            cases h'
            rfl

/-- The rows of a call are refused only where an admission clashes with the call's. -/
theorem AdmissionStore.Paired.refused {s : AdmissionStore} (h : s.Paired) {c : AdmissionCall}
    (hrefused : s.insertBoth? c = none) :
    ∃ m ∈ s.admissions.rows, Schema.clash m c.model = true := by
  by_contra hnone
  have hadmissions : ∀ m ∈ s.admissions.rows, ¬ Schema.clash m c.model = true :=
    fun m hm hclash => hnone ⟨m, hm, hclash⟩
  have houtbox : ∀ o ∈ s.outbox.rows, ¬ Schema.clash o c.outbox = true := by
    intro o ho hclash
    have hid : o.admissionId = c.model.admissionId := by
      rcases outbox_clash_iff.mp hclash with hsame | ⟨hsame, _⟩
      · rw [h.named o ho, c.outbox_id] at hsame
        exact outboxId_injective hsame
      · exact hsame.trans c.outbox_admission
    obtain ⟨m, hm, hmid⟩ := h.owned o ho
    exact hadmissions m hm (admission_clash_iff.mpr (.inl (hmid.trans hid)))
  obtain ⟨admissions, ha⟩ := Table.exists_insert? hadmissions
  obtain ⟨outbox, ho⟩ := Table.exists_insert? houtbox
  have hinserted : s.insertBoth? c = some ⟨admissions, outbox⟩ :=
    insertBoth?_eq_some.mpr ⟨ha, ho⟩
  rw [hrefused] at hinserted
  cases hinserted

theorem AdmissionStore.Paired.insertBoth {s t : AdmissionStore} (h : s.Paired) {c : AdmissionCall}
    (hinsert : s.insertBoth? c = some t) : t.Paired := by
  obtain ⟨ha, ho⟩ := insertBoth?_eq_some.mp hinsert
  constructor
  · intro o hmem
    rcases (Table.mem_insert? ho).mp hmem with hmem | rfl
    · exact h.named o hmem
    · rw [c.outbox_id, c.outbox_admission]
  · intro o hmem
    rcases (Table.mem_insert? ho).mp hmem with hmem | rfl
    · obtain ⟨m, hm, hid⟩ := h.owned o hmem
      exact ⟨m, (Table.mem_insert? ha).mpr (.inl hm), hid⟩
    · exact ⟨c.model, (Table.mem_insert? ha).mpr (.inr rfl), c.outbox_admission.symm⟩
  · intro m hmem
    rcases (Table.mem_insert? ha).mp hmem with hmem | rfl
    · obtain ⟨o, ho', hid⟩ := h.announced m hmem
      exact ⟨o, (Table.mem_insert? ho).mpr (.inl ho'), hid⟩
    · exact ⟨c.outbox, (Table.mem_insert? ho).mpr (.inr rfl), c.outbox_admission⟩

/-- An admission is the only one of its request, and has one row in the outbox. -/
theorem AdmissionStore.Paired.select {s : AdmissionStore} (h : s.Paired)
    {m : GovernedTaskAdmissionModel} (hm : m ∈ s.admissions.rows) :
    s.admissions.select (fun x => x.about = m.about) = [m] ∧
      ∃ o, s.outbox.select (fun o => o.admissionId = m.admissionId) = [o] := by
  constructor
  · refine Table.select_eq_singleton hm (by simp) fun x _ hx => ?_
    exact admission_clash_iff.mpr (.inr (.inl (of_decide_eq_true hx)))
  · obtain ⟨o, ho, hid⟩ := h.announced m hm
    refine ⟨o, Table.select_eq_singleton ho (by simpa using hid) fun x hx hxid => ?_⟩
    have hsame : x.admissionId = o.admissionId := (of_decide_eq_true hxid).trans hid.symm
    refine outbox_clash_iff.mpr (.inl ?_)
    rw [h.named x hx, h.named o ho, hsame]

theorem findExisting_eq_some {s : AdmissionStore} {about : String × String}
    {m : GovernedTaskAdmissionModel} (h : s.findExisting about = some m) :
    m ∈ s.admissions.rows ∧ m.about = about := by
  have hmem := Table.mem_select.mp (List.mem_of_mem_head? h)
  exact ⟨hmem.1, of_decide_eq_true hmem.2⟩

theorem findExisting_eq_none {s : AdmissionStore} {about : String × String}
    (h : s.findExisting about = none) {m : GovernedTaskAdmissionModel}
    (hm : m ∈ s.admissions.rows) : m.about ≠ about := by
  intro hsame
  have hmem : m ∈ s.admissions.select fun m => m.about = about :=
    Table.mem_select.mpr ⟨hm, decide_eq_true hsame⟩
  rw [List.head?_eq_none_iff.mp h] at hmem
  cases hmem

/-- The admission of a request is found. -/
theorem AdmissionStore.Paired.findExisting {s : AdmissionStore} (h : s.Paired)
    {m : GovernedTaskAdmissionModel} (hm : m ∈ s.admissions.rows) :
    s.findExisting m.about = some m := by
  unfold AdmissionStore.findExisting
  rw [(h.select hm).1]
  rfl

/-! ## What a step does -/

/-- What a step of a call may do. -/
inductive CallMove (s : AdmissionStore) : CallPhase → AdmissionStore → CallPhase → Prop
  /-- It changes no table and answers nothing. -/
  | silent {φ ψ : CallPhase} (hφ : ∀ c result, φ ≠ .done c result)
      (hψ : ∀ c result, ψ ≠ .done c result) (hreread : ∀ c, ψ ≠ .rereading c) :
      CallMove s φ s ψ
  /-- Its rows are refused. -/
  | refused {c : AdmissionCall} (h : s.insertBoth? c = none) :
      CallMove s (.inserting c) s (.rereading c)
  /-- It has inserted its rows. -/
  | inserted {c : AdmissionCall} {t : AdmissionStore} (h : s.insertBoth? c = some t) :
      CallMove s (.inserting c) t (.done c (.ok (toReceipt c.model false)))
  /-- It found the admission of its request. -/
  | found {φ : CallPhase} {c : AdmissionCall} {m : GovernedTaskAdmissionModel}
      (hφ : ∀ c result, φ ≠ .done c result) (h : s.findExisting c.model.about = some m) :
      CallMove s φ s (.done c (resolveExisting m c.model.admissionFingerprint))
  /-- It found none after its rows were refused. -/
  | notFound {c : AdmissionCall} (h : s.findExisting c.model.about = none) :
      CallMove s (.rereading c) s (.done c (.error notUnique))

theorem CallPhase.next_move {s t : AdmissionStore} {φ ψ : CallPhase} {label : CallLabel}
    (h : φ.next R s label = some (t, ψ)) : CallMove s φ t ψ := by
  cases φ with
  | idle =>
      cases label with
      | start bundle committedAt =>
          unfold CallPhase.next at h
          dsimp only at h
          split at h
          case h_1 c hprepared =>
            clear hprepared
            cases h
            exact .silent (by simp) (by simp) (by simp)
          case h_2 e hrefused =>
            clear hrefused
            cases h
            exact .silent (by simp) (by simp) (by simp)
      | _ => cases h
  | refused e => cases h
  | finding c =>
      cases label with
      | find =>
          unfold CallPhase.next at h
          dsimp only at h
          split at h
          case h_1 m hfound =>
            cases h
            exact .found (by simp) hfound
          case h_2 =>
            cases h
            exact .silent (by simp) (by simp) (by simp)
      | fail e =>
          cases h
          exact .silent (by simp) (by simp) (by simp)
      | _ => cases h
  | inserting c =>
      cases label with
      | insert =>
          unfold CallPhase.next at h
          dsimp only at h
          split at h
          case h_1 t' hinserted =>
            cases h
            exact .inserted hinserted
          case h_2 hrefused =>
            cases h
            exact .refused hrefused
      | fail e =>
          cases h
          exact .silent (by simp) (by simp) (by simp)
      | _ => cases h
  | rereading c =>
      cases label with
      | reread =>
          unfold CallPhase.next at h
          dsimp only at h
          split at h
          case h_1 m hfound =>
            cases h
            exact .found (by simp) hfound
          case h_2 hnone =>
            cases h
            exact .notFound hnone
      | fail e =>
          cases h
          exact .silent (by simp) (by simp) (by simp)
      | _ => cases h
  | failed c e => cases h
  | done c result => cases h

/-! ## The invariant -/

/-- An admission that keeps a call's rows out, though it is for another request. -/
def Taken (s : AdmissionStore) (m : GovernedTaskAdmissionModel) : Prop :=
  ∃ x ∈ s.admissions.rows, x.about ≠ m.about ∧
    (x.admissionId = m.admissionId ∨ (x.organizationId = m.organizationId ∧ x.taskId = m.taskId))

/-- What the calls were told is what the tables say. -/
structure Answered (w : AdmissionWorld ι) : Prop where
  returned : ∀ i c r, w.phase i = .done c (.ok r) → ∃ m ∈ w.store.admissions.rows,
    m.about = c.model.about ∧ m.admissionFingerprint = c.model.admissionFingerprint ∧
      r = toReceipt m r.duplicate ∧ (r.duplicate = false → m = c.model)
  raised : ∀ i c e, w.phase i = .done c (.error e) →
    (e = admissionConflict ∧ ∃ m ∈ w.store.admissions.rows, m.about = c.model.about ∧
      m.admissionFingerprint ≠ c.model.admissionFingerprint) ∨
    (e = notUnique ∧ Taken w.store c.model)
  rereading : ∀ i c, w.phase i = .rereading c →
    ∃ m ∈ w.store.admissions.rows, Schema.clash m c.model = true

/-- The rows that were added are those of the calls that found no duplicate, in some order. -/
structure Ledger (s₀ : AdmissionStore) (w : AdmissionWorld ι) (order : List (ι × AdmissionCall)) :
    Prop where
  admissions : w.store.admissions.rows = s₀.admissions.rows ++ order.map (·.2.model)
  outbox : w.store.outbox.rows = s₀.outbox.rows ++ order.map (·.2.outbox)
  distinct : (order.map (·.1)).Nodup
  fresh : ∀ i c, (i, c) ∈ order ↔ w.phase i = .done c (.ok (toReceipt c.model false))

theorem resolveExisting_ne_fresh {m m' : GovernedTaskAdmissionModel} {fingerprint : Digest} :
    resolveExisting m fingerprint ≠ .ok (toReceipt m' false) := by
  unfold resolveExisting
  split
  · intro h
    have hduplicate := congrArg TaskAdmissionReceipt.duplicate (Except.ok.inj h)
    cases hduplicate
  · exact nofun

/-- The tables never lose a row. -/
theorem CallMove.grows {s t : AdmissionStore} {φ ψ : CallPhase} (h : CallMove s φ t ψ)
    {m : GovernedTaskAdmissionModel} (hm : m ∈ s.admissions.rows) : m ∈ t.admissions.rows := by
  cases h with
  | inserted h => exact (Table.mem_insert? (insertBoth?_eq_some.mp h).1).mpr (.inl hm)
  | _ => exact hm

theorem CallMove.paired {s t : AdmissionStore} {φ ψ : CallPhase} (h : CallMove s φ t ψ)
    (hs : s.Paired) : t.Paired := by
  cases h with
  | inserted h => exact hs.insertBoth h
  | _ => exact hs

/-- What a move tells its call is what the tables say. -/
theorem CallMove.answers {s t : AdmissionStore} {φ ψ : CallPhase} (h : CallMove s φ t ψ)
    (hs : s.Paired) (hreread : ∀ c, φ = .rereading c →
      ∃ m ∈ s.admissions.rows, Schema.clash m c.model = true) :
    Answered (⟨t, fun _ => ψ⟩ : AdmissionWorld Unit) := by
  cases h with
  | silent hφ hψ hquiet =>
      exact ⟨fun _ c r h => absurd h (hψ c _), fun _ c e h => absurd h (hψ c _),
        fun _ c h => absurd h (hquiet c)⟩
  | refused h =>
      refine ⟨by simp, by simp, fun _ c hc => ?_⟩
      cases hc
      exact hs.refused h
  | @inserted c t h =>
      have hmem : c.model ∈ t.admissions.rows :=
        (Table.mem_insert? (insertBoth?_eq_some.mp h).1).mpr (.inr rfl)
      refine ⟨fun _ d r hr => ?_, by simp, by simp⟩
      cases hr
      exact ⟨c.model, hmem, rfl, rfl, rfl, fun _ => rfl⟩
  | @found _ c m hφ h =>
      obtain ⟨hm, habout⟩ := findExisting_eq_some h
      by_cases hsame : m.admissionFingerprint = c.model.admissionFingerprint
      · have hresolve : resolveExisting m c.model.admissionFingerprint = .ok (toReceipt m true) :=
          if_pos hsame
        rw [hresolve]
        refine ⟨fun _ d r hr => ?_, by simp, by simp⟩
        cases hr
        exact ⟨m, hm, habout, hsame, rfl, nofun⟩
      · have hresolve : resolveExisting m c.model.admissionFingerprint = .error admissionConflict :=
          if_neg hsame
        rw [hresolve]
        refine ⟨by simp, fun _ d e he => ?_, by simp⟩
        cases he
        exact .inl ⟨rfl, m, hm, habout, hsame⟩
  | @notFound c h =>
      refine ⟨by simp, fun _ d e he => ?_, by simp⟩
      cases he
      obtain ⟨m, hm, hclash⟩ := hreread c rfl
      have hother := findExisting_eq_none h hm
      refine .inr ⟨rfl, m, hm, hother, ?_⟩
      rcases admission_clash_iff.mp hclash with hid | habout | htask
      · exact .inl hid
      · exact absurd habout hother
      · exact .inr htask

variable [DecidableEq ι]

/-- A step moves one call. -/
theorem AdmissionStep.move {label : ι × CallLabel} {w v : AdmissionWorld ι}
    (h : AdmissionStep R label w v) : ∃ i t ψ, CallMove w.store (w.phase i) t ψ ∧
      v = ⟨t, Function.update w.phase i ψ⟩ := by
  obtain ⟨⟨t, ψ⟩, hnext, rfl⟩ := Option.map_eq_some_iff.mp h
  exact ⟨label.1, t, ψ, CallPhase.next_move hnext, rfl⟩

theorem Answered.step {label : ι × CallLabel} {w v : AdmissionWorld ι} (h : Answered w)
    (hpaired : w.store.Paired) (hstep : AdmissionStep R label w v) : Answered v := by
  obtain ⟨i, t, ψ, hmove, rfl⟩ := hstep.move
  have hanswers := hmove.answers hpaired (h.rereading i)
  constructor
  · intro j c r hj
    change Function.update w.phase i ψ j = _ at hj
    by_cases hij : j = i
    · subst hij
      rw [Function.update_self] at hj
      exact hanswers.returned () c r hj
    · rw [Function.update_of_ne hij] at hj
      obtain ⟨m, hm, hrest⟩ := h.returned j c r hj
      exact ⟨m, hmove.grows hm, hrest⟩
  · intro j c e hj
    change Function.update w.phase i ψ j = _ at hj
    by_cases hij : j = i
    · subst hij
      rw [Function.update_self] at hj
      exact hanswers.raised () c e hj
    · rw [Function.update_of_ne hij] at hj
      rcases h.raised j c e hj with ⟨he, m, hm, hrest⟩ | ⟨he, m, hm, hrest⟩
      · exact .inl ⟨he, m, hmove.grows hm, hrest⟩
      · exact .inr ⟨he, m, hmove.grows hm, hrest⟩
  · intro j c hj
    change Function.update w.phase i ψ j = _ at hj
    by_cases hij : j = i
    · subst hij
      rw [Function.update_self] at hj
      exact hanswers.rereading () c hj
    · rw [Function.update_of_ne hij] at hj
      obtain ⟨m, hm, hclash⟩ := h.rereading j c hj
      exact ⟨m, hmove.grows hm, hclash⟩

/-- A step that adds no rows leaves the ledger as it was. -/
theorem Ledger.unchanged {s₀ : AdmissionStore} {w : AdmissionWorld ι}
    {order : List (ι × AdmissionCall)} (h : Ledger s₀ w order) {i : ι} {ψ : CallPhase}
    (hbefore : ∀ c result, w.phase i ≠ .done c result)
    (hafter : ∀ c, ψ ≠ .done c (.ok (toReceipt c.model false))) :
    Ledger s₀ ⟨w.store, Function.update w.phase i ψ⟩ order := by
  refine ⟨h.admissions, h.outbox, h.distinct, fun j c => ?_⟩
  rw [h.fresh]
  change _ ↔ Function.update w.phase i ψ j = _
  by_cases hij : j = i
  · subst hij
    rw [Function.update_self]
    exact ⟨fun hdone => absurd hdone (hbefore c _), fun hdone => absurd hdone (hafter c)⟩
  · rw [Function.update_of_ne hij]

theorem Ledger.step {s₀ : AdmissionStore} {w v : AdmissionWorld ι} {label : ι × CallLabel}
    {order : List (ι × AdmissionCall)} (h : Ledger s₀ w order) (hstep : AdmissionStep R label w v) :
    ∃ order', Ledger s₀ v order' := by
  obtain ⟨i, t, ψ, hmove, rfl⟩ := hstep.move
  generalize hφ : w.phase i = φ at hmove
  cases hmove with
  | silent hbefore hafter _ =>
      exact ⟨order, h.unchanged (fun c result => hφ ▸ hbefore c result) fun c => hafter c _⟩
  | refused =>
      exact ⟨order, h.unchanged (fun c result => by simp [hφ]) (by simp)⟩
  | found hbefore =>
      refine ⟨order, h.unchanged (fun c result => hφ ▸ hbefore c result) fun c hc => ?_⟩
      injection hc with _ hresult
      exact resolveExisting_ne_fresh hresult
  | notFound =>
      exact ⟨order, h.unchanged (fun c result => by simp [hφ]) (by simp)⟩
  | @inserted c t hinsert =>
      obtain ⟨ha, ho⟩ := insertBoth?_eq_some.mp hinsert
      have hnew : i ∉ order.map (·.1) := by
        intro hmem
        obtain ⟨⟨j, d⟩, hd, rfl⟩ := List.mem_map.mp hmem
        have hdone := (h.fresh j d).mp hd
        rw [hφ] at hdone
        cases hdone
      refine ⟨order ++ [(i, c)], ?_, ?_, ?_, fun j d => ?_⟩
      · rw [(Table.insert?_eq_some.mp ha).2, h.admissions, List.map_append, List.append_assoc]
        rfl
      · rw [(Table.insert?_eq_some.mp ho).2, h.outbox, List.map_append, List.append_assoc]
        rfl
      · rw [List.map_append, List.nodup_append]
        refine ⟨h.distinct, List.nodup_singleton i, ?_⟩
        intro x hx y hy heq
        rw [heq, List.mem_singleton.mp hy] at hx
        exact hnew hx
      · rw [List.mem_append, h.fresh, List.mem_singleton, Prod.mk.injEq]
        change _ ↔ Function.update w.phase i _ j = _
        by_cases hij : j = i
        · subst hij
          rw [Function.update_self, hφ]
          constructor
          · rintro (hdone | ⟨_, rfl⟩)
            · cases hdone
            · rfl
          · intro hdone
            injection hdone with hsame
            exact .inr ⟨rfl, hsame.symm⟩
        · rw [Function.update_of_ne hij]
          exact ⟨fun hd => hd.resolve_right fun heq => hij heq.1, .inl⟩

/-- What holds in every state that calls can reach. -/
structure Persisted (s₀ : AdmissionStore) (w : AdmissionWorld ι) : Prop where
  paired : w.store.Paired
  answered : Answered w
  ledger : ∃ order, Ledger s₀ w order

theorem AdmissionStep.paired {label : ι × CallLabel} {w v : AdmissionWorld ι}
    (hstep : AdmissionStep R label w v) (h : w.store.Paired) : v.store.Paired := by
  obtain ⟨i, t, ψ, hmove, rfl⟩ := hstep.move
  exact hmove.paired h

theorem Persisted.of_reaches {s₀ : AdmissionStore} (hpaired : s₀.Paired) {w : AdmissionWorld ι}
    (hrun : Reaches (AdmissionStep R) always ⟨s₀, fun _ => .idle⟩ w) : Persisted s₀ w := by
  refine hrun.invariant (fun v label v' _ h hstep => ?_) ⟨hpaired, ⟨by simp, by simp, by simp⟩, [], ?_⟩
  · obtain ⟨order, hledger⟩ := h.ledger
    exact ⟨hstep.paired h.paired, h.answered.step h.paired hstep, hledger.step hstep⟩
  · exact ⟨by simp, by simp, .nil, by simp⟩

omit [DecidableEq ι] in
/-- Calls that added rows for one request are one call. -/
theorem Ledger.unique {s₀ : AdmissionStore} {w : AdmissionWorld ι}
    {order : List (ι × AdmissionCall)} (h : Ledger s₀ w order) {i j : ι} {c d : AdmissionCall}
    (hi : (i, c) ∈ order) (hj : (j, d) ∈ order) (habout : c.model.about = d.model.about) :
    i = j := by
  have hconsistent := w.store.admissions.consistent
  rw [h.admissions, List.pairwise_append, List.pairwise_map] at hconsistent
  have : Std.Symm fun x y : ι × AdmissionCall => ¬ Schema.clash x.2.model y.2.model = true :=
    ⟨fun _ _ hxy hyx => hxy (Schema.clash_symm hyx)⟩
  by_contra hne
  have hapart := hconsistent.2.1.forall hi hj fun heq => hne (congrArg Prod.fst heq)
  exact hapart (admission_clash_iff.mpr (.inr (.inl habout)))

/-! ## The law -/

/-- Calls of `persist_atomic` in any interleaving.  Where a call has returned, its request has one
admission, announced once, and the receipt is that of the admission.  Calls of one request that
return agree, and at most one of them found no duplicate.  A call that raises names a conflict with
the admission of its request, or was kept out by that of another.  While a request has an admission,
a call with another fingerprint goes on to the conflict.  The rows that were added are those of the
calls that found no duplicate. -/
theorem admission_persisted_once {s₀ : AdmissionStore} (hpaired : s₀.Paired)
    {w : AdmissionWorld ι} (hrun : Reaches (AdmissionStep R) always ⟨s₀, fun _ => .idle⟩ w) :
    (∀ i c r, w.phase i = .done c (.ok r) → ∃ m o,
      w.store.admissions.select (fun x => x.about = c.model.about) = [m] ∧
      w.store.outbox.select (fun x => x.admissionId = m.admissionId) = [o] ∧
      m.admissionFingerprint = c.model.admissionFingerprint ∧ r = toReceipt m r.duplicate) ∧
    (∀ i j c d r q, w.phase i = .done c (.ok r) → w.phase j = .done d (.ok q) →
      c.model.about = d.model.about →
      c.model.admissionFingerprint = d.model.admissionFingerprint ∧
      q = { r with duplicate := q.duplicate } ∧
      (r.duplicate = false → q.duplicate = false → i = j)) ∧
    (∀ j d e, w.phase j = .done d (.error e) →
      (e = admissionConflict ∧ ∃ m ∈ w.store.admissions.rows, m.about = d.model.about ∧
        m.admissionFingerprint ≠ d.model.admissionFingerprint) ∨
      (e = notUnique ∧ Taken w.store d.model)) ∧
    (∀ j d m, m ∈ w.store.admissions.rows → m.about = d.model.about →
      m.admissionFingerprint ≠ d.model.admissionFingerprint →
      (∀ r, w.phase j ≠ .done d (.ok r)) ∧
      (CallPhase.finding d).next R w.store .find =
        some (w.store, .done d (.error admissionConflict)) ∧
      (CallPhase.inserting d).next R w.store .insert = some (w.store, .rereading d) ∧
      (CallPhase.rereading d).next R w.store .reread =
        some (w.store, .done d (.error admissionConflict))) ∧
    ∃ order, Ledger s₀ w order := by
  have h := Persisted.of_reaches hpaired hrun
  obtain ⟨order, hledger⟩ := h.ledger
  have hone : ∀ m ∈ w.store.admissions.rows, ∀ m' ∈ w.store.admissions.rows,
      m.about = m'.about → m = m' := fun m hm m' hm' habout =>
    Table.eq_of_clash hm hm' (admission_clash_iff.mpr (.inr (.inl habout)))
  refine ⟨?_, ?_, h.answered.raised, ?_, order, hledger⟩
  · intro i c r hi
    obtain ⟨m, hm, habout, hfingerprint, hreceipt, _⟩ := h.answered.returned i c r hi
    obtain ⟨hselect, o, houtbox⟩ := h.paired.select hm
    rw [habout] at hselect
    exact ⟨m, o, hselect, houtbox, hfingerprint, hreceipt⟩
  · intro i j c d r q hi hj habout
    obtain ⟨m, hm, hmc, hfingerprint, hreceipt, hfresh⟩ := h.answered.returned i c r hi
    obtain ⟨m', hm', hmd, hfingerprint', hreceipt', hfresh'⟩ := h.answered.returned j d q hj
    have hsame : m = m' := hone m hm m' hm' (hmc.trans (habout.trans hmd.symm))
    subst hsame
    refine ⟨hfingerprint.symm.trans hfingerprint', ?_, fun hr hq => ?_⟩
    · rw [hreceipt']
      conv => rhs; rw [hreceipt]
      rfl
    · have hmodel : c.model = d.model := (hfresh hr).symm.trans (hfresh' hq)
      rw [hfresh hr, hr] at hreceipt
      rw [hfresh' hq, hq] at hreceipt'
      have hic : (i, c) ∈ order := (hledger.fresh i c).mpr (hreceipt ▸ hi)
      have hjd : (j, d) ∈ order := (hledger.fresh j d).mpr (hreceipt' ▸ hj)
      exact hledger.unique hic hjd habout
  · intro j d m hm habout hother
    have hfound : w.store.findExisting d.model.about = some m := by
      rw [← habout]
      exact h.paired.findExisting hm
    have hconflict : resolveExisting m d.model.admissionFingerprint = .error admissionConflict :=
      if_neg hother
    have hrefused : w.store.insertBoth? d = none := by
      cases hinsert : w.store.insertBoth? d with
      | none => rfl
      | some t =>
          have hclear := (Table.insert?_eq_some.mp (insertBoth?_eq_some.mp hinsert).1).1
          exact absurd (admission_clash_iff.mpr (.inr (.inl habout))) (hclear m hm)
    refine ⟨fun r hr => ?_, ?_, ?_, ?_⟩
    · obtain ⟨m', hm', habout', hfingerprint, _⟩ := h.answered.returned j d r hr
      have hsame : m = m' := hone m hm m' hm' (habout.trans habout'.symm)
      subst hsame
      exact hother hfingerprint
    · simp only [CallPhase.next, hfound, hconflict]
    · simp only [CallPhase.next, hrefused]
    · simp only [CallPhase.next, hfound, hconflict]

/-! ## A request whose task is taken -/

/-- The bundle of a request to pay. -/
def paymentBundle (admissionId requestId taskId : String) : TaskAdmissionBundle where
  schemaVersion := "phase2-task-admission-bundle-v1"
  providerMode := "recorded"
  runtimeBinding := none
  admissionId := admissionId
  task := ⟨taskId, "org", "Pay", .audit⟩
  creationSnapshot := { paymentSnapshot with taskId := taskId, requestId := some requestId }
  contract := { paymentContract with taskId := taskId }
  request := { paymentRequest with requestId := requestId }
  grants := [paymentGrant]
  plan := { paymentProposal.plan with taskId := taskId, requestId := some requestId }
  workOrders := paymentProposal.workOrders
  auditRecord := ⟨"governed_task_admitted", admissionId, requestId, taskId, "org", "contract",
    "plan", "grant", "pay", "1", "policy", "0", .audit, .utc 2⟩

/-- A repository that tells bundles apart by their tasks. -/
def paymentRepository : Repository where
  allowedTenantIds := {"org"}
  allowedCapabilityIds := {"pay"}
  admissionFingerprint b := .ok (if b.task.taskId = "task" then .zero else .ofNat 1)
  bundleFingerprint _ := .zero

/-- The tables without rows, and no call begun. -/
def emptyAdmissions : AdmissionWorld Bool := ⟨⟨.empty, .empty⟩, fun _ => .idle⟩

theorem emptyAdmissions_paired : emptyAdmissions.store.Paired := ⟨nofun, nofun, nofun⟩

/-- A request is admitted with a task. -/
def firstRun : List (Bool × CallLabel) :=
  [(true, .start (paymentBundle "a" "first" "task") (.utc 2)), (true, .find), (true, .insert)]

/-- A call asks for the task under a second request and is kept out, and another admits the second
request with a task of its own. -/
def secondRun : List (Bool × CallLabel) :=
  [(false, .start (paymentBundle "b" "second" "task") (.utc 3)), (false, .find), (false, .insert),
    (false, .reread), (true, .start (paymentBundle "b" "second" "other") (.utc 4)), (true, .find),
    (true, .insert)]

theorem firstRun_isSome :
    (firstRun.foldlM (AdmissionWorld.next paymentRepository) emptyAdmissions).isSome := by
  decide +kernel

/-- The tables once the first request has been admitted. -/
def firstAdmitted : AdmissionStore := (Option.get _ firstRun_isSome).store

theorem firstAdmitted_paired : firstAdmitted.Paired := by
  have hreaches := Reaches.foldlM (fun _ _ _ h => h) firstRun (fun _ _ _ => trivial)
    emptyAdmissions _ (Option.some_get firstRun_isSome).symm
  exact (Persisted.of_reaches emptyAdmissions_paired hreaches).paired

/-- One of two calls for the second request succeeded and the other was kept out, with another
fingerprint. -/
def endedApart (w : AdmissionWorld Bool) : Bool :=
  match w.phase true, w.phase false with
  | .done c (.ok _), .done d (.error e) => decide (e = notUnique ∧
      c.model.about = ("org", "second") ∧ d.model.about = ("org", "second") ∧
      c.model.admissionFingerprint ≠ d.model.admissionFingerprint)
  | _, _ => false

theorem secondRun_ends : ∃ w : AdmissionWorld Bool,
    Reaches (AdmissionStep paymentRepository) always ⟨firstAdmitted, fun _ => .idle⟩ w ∧
    ∃ c d r, w.phase true = .done c (.ok r) ∧ w.phase false = .done d (.error notUnique) ∧
      c.model.about = ("org", "second") ∧ d.model.about = ("org", "second") ∧
      c.model.admissionFingerprint ≠ d.model.admissionFingerprint := by
  have hrun : (secondRun.foldlM (AdmissionWorld.next paymentRepository)
      ⟨firstAdmitted, fun _ => .idle⟩).any endedApart = true := by
    decide +kernel
  obtain ⟨w, hw, hended⟩ := (Option.any_eq_true _ _).mp hrun
  have hreaches := Reaches.foldlM (fun _ _ _ h => h) secondRun (fun _ _ _ => trivial) _ w hw
  unfold endedApart at hended
  split at hended
  case h_1 c r d e hc hd =>
    obtain ⟨rfl, hrest⟩ := of_decide_eq_true hended
    exact ⟨w, hreaches, c, d, r, hc, hd, hrest⟩
  case h_2 => cases hended

theorem admission_persisted_once_sample : ∃ (w : AdmissionWorld Bool) (m : _),
    Reaches (AdmissionStep paymentRepository) always ⟨firstAdmitted, fun _ => .idle⟩ w ∧
    w.store.admissions.select (fun x => x.about = ("org", "second")) = [m] := by
  obtain ⟨w, hreaches, c, d, r, hc, _, habout, _⟩ := secondRun_ends
  obtain ⟨m, _, hm, _⟩ := (admission_persisted_once firstAdmitted_paired hreaches).1 true c r hc
  exact ⟨w, m, hreaches, habout ▸ hm⟩

/-- A call with another fingerprint need not raise the conflict, though all calls are for one
request. -/
theorem other_fingerprint_kept_out : ¬ ∀ (R : Repository) (s₀ : AdmissionStore)
    (w : AdmissionWorld Bool) (about : String × String), s₀.Paired →
    Reaches (AdmissionStep R) always ⟨s₀, fun _ => .idle⟩ w →
    (∀ i c result, w.phase i = .done c result → c.model.about = about) →
    ∀ i j c d r result, w.phase i = .done c (.ok r) → w.phase j = .done d result →
      c.model.admissionFingerprint ≠ d.model.admissionFingerprint →
      result = .error admissionConflict := by
  intro h
  obtain ⟨w, hreaches, c, d, r, hc, hd, habout, habout', hother⟩ := secondRun_ends
  have hone : ∀ i e result, w.phase i = .done e result → e.model.about = ("org", "second") := by
    intro i e result he
    cases i with
    | true =>
        rw [hc] at he
        cases he
        exact habout
    | false =>
        rw [hd] at he
        cases he
        exact habout'
  have hconflict := h paymentRepository _ w _ firstAdmitted_paired hreaches hone true false c d r _
    hc hd hother
  injection hconflict with hsame
  exact absurd hsame (by decide)

end Admission

end AgentPact
