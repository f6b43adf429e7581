import AgentPact.BrowserLoop.Loop

/-!
# What a run of the browser loop has asked and heard

Predicates on the history of a run.

An execution is *uncertain* when its command writes and its answer leaves open
whether the write happened.  It is *disposed of* when the verifier answered for
that action afterwards, and *continued* when it answered `continue`.  `Closed`
and `Continued` say that of every uncertain execution of a history.

`OpenAt` names an uncertain execution that is not disposed of.  The last lemma
says that there is only one in a history that was closed before it and executed
nothing after it.
-/

namespace AgentPact

open Base

/-- A history of port calls. -/
abbrev LoopHistory := History PortCall.Answer

/-- An answered call of `execute`. -/
def executed (command : AuthorizedAction) (answer : Except PortError BrowserActionResult) :
    Sigma PortCall.Answer := ⟨.execute command, answer⟩

/-- The write may have happened, as far as the answer tells. -/
def uncertain (command : AuthorizedAction) (answer : Except PortError BrowserActionResult) :
    Bool :=
  isWrite command.authorization.effect && match answer with
    | .ok result => result.effectMayHaveStarted || result.pendingResultProbe
    | .error e => e.effectMayHaveStarted

theorem uncertain_write {command : AuthorizedAction}
    {answer : Except PortError BrowserActionResult} (h : uncertain command answer = true) :
    isWrite command.authorization.effect = true := by
  unfold uncertain at h
  exact (Bool.and_eq_true_iff.mp h).1

/-- The verifier gave a verdict on the result of a command. -/
def VerdictOn (command : AuthorizedAction) (result : BrowserActionResult)
    (v : VerificationDisposition) (x : Sigma PortCall.Answer) : Prop :=
  ∃ request verification, x = ⟨.verify request, .ok verification⟩ ∧
    request.actionResult = some result ∧ request.decision.decided = .action command.action ∧
    request.before.observationId = command.observationId ∧ verification.disposition = v

/-- The verifier gave some verdict on an execution. -/
def Disposed (command : AuthorizedAction) (answer : Except PortError BrowserActionResult)
    (rest : LoopHistory) : Prop :=
  ∃ result v, answer = .ok result ∧ ∃ x ∈ rest, VerdictOn command result v x

/-- The verifier let the run continue after an execution. -/
def ContinuedAfter (command : AuthorizedAction) (answer : Except PortError BrowserActionResult)
    (rest : LoopHistory) : Prop :=
  ∃ result, answer = .ok result ∧ ∃ x ∈ rest, VerdictOn command result .continue x

/-- An uncertain execution without a verdict, with what was before and after it. -/
structure OpenAt (h pre : LoopHistory) (command : AuthorizedAction)
    (answer : Except PortError BrowserActionResult) (post : LoopHistory) : Prop where
  split : h = pre ++ executed command answer :: post
  uncertain : uncertain command answer = true
  undisposed : ¬ Disposed command answer post

/-- Every uncertain execution has a verdict. -/
def Closed (h : LoopHistory) : Prop := ∀ pre command answer post, ¬ OpenAt h pre command answer post

/-- After every uncertain execution the verifier let the run continue. -/
def Continued (h : LoopHistory) : Prop :=
  ∀ pre command answer post, h = pre ++ executed command answer :: post →
    uncertain command answer = true → ContinuedAfter command answer post

/-- Some write returned that its effect may have started. -/
def Flagged (h : LoopHistory) : Prop :=
  ∃ command result, executed command (.ok result) ∈ h ∧
    isWrite command.authorization.effect = true ∧ result.effectMayHaveStarted = true

/-- Whether the first event of a history was accepted, if there is one. -/
def firstEmit : LoopHistory → Option Bool
  | [] => none
  | ⟨.emit _, .ok _⟩ :: _ => some true
  | ⟨.emit _, .error _⟩ :: _ => some false
  | _ :: rest => firstEmit rest

/-- Nothing is executed in it. -/
def NoExecute (h : LoopHistory) : Prop := ∀ command answer, executed command answer ∉ h

/-! ## Growing histories -/

theorem noExecute_append {h h' : LoopHistory} :
    NoExecute (h ++ h') ↔ NoExecute h ∧ NoExecute h' := by
  simp only [NoExecute, List.mem_append, not_or]
  exact ⟨fun H => ⟨fun c a => (H c a).1, fun c a => (H c a).2⟩,
    fun H c a => ⟨H.1 c a, H.2 c a⟩⟩

/-- A call that is not `execute` is not an execution. -/
theorem noExecute_singleton {x : Sigma PortCall.Answer} (hx : ∀ command, x.1 ≠ .execute command) :
    NoExecute [x] := by
  intro command answer hmem
  rw [List.mem_singleton] at hmem
  subst hmem
  exact hx command rfl

theorem Disposed.append {command : AuthorizedAction}
    {answer : Except PortError BrowserActionResult} {rest : LoopHistory} (more : LoopHistory)
    (h : Disposed command answer rest) : Disposed command answer (rest ++ more) := by
  obtain ⟨result, v, ha, x, hx, hv⟩ := h
  exact ⟨result, v, ha, x, List.mem_append_left _ hx, hv⟩

theorem ContinuedAfter.append {command : AuthorizedAction}
    {answer : Except PortError BrowserActionResult} {rest : LoopHistory} (more : LoopHistory)
    (h : ContinuedAfter command answer rest) : ContinuedAfter command answer (rest ++ more) := by
  obtain ⟨result, ha, x, hx, hv⟩ := h
  exact ⟨result, ha, x, List.mem_append_left _ hx, hv⟩

theorem ContinuedAfter.disposed {command : AuthorizedAction}
    {answer : Except PortError BrowserActionResult} {rest : LoopHistory}
    (h : ContinuedAfter command answer rest) : Disposed command answer rest := by
  obtain ⟨result, ha, x, hx, hv⟩ := h
  exact ⟨result, _, ha, x, hx, hv⟩

/-- An execution in a longer history was in the shorter one, or comes after it. -/
theorem split_append {α : Type} {h more pre post : List α} {x : α}
    (hsplit : h ++ more = pre ++ x :: post) :
    (∃ mid, h = pre ++ x :: mid ∧ post = mid ++ more) ∨
      ∃ mid, pre = h ++ mid ∧ more = mid ++ x :: post := by
  rcases List.append_eq_append_iff.mp hsplit with ⟨mid, hpre, hmore⟩ | ⟨mid, hh, hrest⟩
  · exact .inr ⟨mid, hpre, hmore⟩
  · cases mid with
    | nil =>
        refine .inr ⟨[], by simpa using hh.symm, by simpa using hrest.symm⟩
    | cons y mid =>
        simp only [List.cons_append, List.cons.injEq] at hrest
        obtain ⟨rfl, hpost⟩ := hrest
        exact .inl ⟨mid, hh, hpost⟩

theorem Continued.nil : Continued [] := by
  intro pre command answer post h
  simp at h

/-- What does not execute keeps a history continued. -/
theorem Continued.append {h more : LoopHistory} (hh : Continued h) (hmore : NoExecute more) :
    Continued (h ++ more) := by
  intro pre command answer post hsplit huncertain
  rcases split_append hsplit with ⟨mid, hmid, rfl⟩ | ⟨mid, _, hmid⟩
  · exact (hh pre command answer mid hmid huncertain).append more
  · exact absurd (hmid ▸ List.mem_append_right _ (List.mem_cons_self ..)) (hmore command answer)

/-- An execution that is certain, or continued, keeps a history continued. -/
theorem Continued.execute {h rest : LoopHistory} {command : AuthorizedAction}
    {answer : Except PortError BrowserActionResult} (hh : Continued h) (hrest : NoExecute rest)
    (hnew : uncertain command answer = true → ContinuedAfter command answer rest) :
    Continued (h ++ executed command answer :: rest) := by
  intro pre command' answer' post hsplit huncertain
  rcases split_append hsplit with ⟨mid, hmid, rfl⟩ | ⟨mid, _, hmid⟩
  · exact (hh pre command' answer' mid hmid huncertain).append _
  · cases mid with
    | nil =>
        simp only [List.nil_append, List.cons.injEq] at hmid
        obtain ⟨heq, rfl⟩ := hmid
        cases heq
        exact hnew huncertain
    | cons y mid =>
        simp only [List.cons_append, List.cons.injEq] at hmid
        obtain ⟨_, rfl⟩ := hmid
        exact absurd (List.mem_append_right _ (List.mem_cons_self ..)) (hrest command' answer')

theorem Continued.closed {h : LoopHistory} (hh : Continued h) : Closed h :=
  fun pre command answer post hopen =>
    hopen.undisposed (hh pre command answer post hopen.split hopen.uncertain).disposed

/-- What does not execute keeps a history closed. -/
theorem Closed.append {h more : LoopHistory} (hh : Closed h) (hmore : NoExecute more) :
    Closed (h ++ more) := by
  intro pre command answer post hopen
  rcases split_append hopen.split with ⟨mid, hmid, rfl⟩ | ⟨mid, _, hmid⟩
  · exact hh pre command answer mid
      ⟨hmid, hopen.uncertain, fun hd => hopen.undisposed (hd.append _)⟩
  · exact absurd (hmid ▸ List.mem_append_right _ (List.mem_cons_self ..)) (hmore command answer)

/-- A history stays closed over an execution that is certain or has a verdict. -/
theorem Closed.execute {h rest : LoopHistory} {command : AuthorizedAction}
    {answer : Except PortError BrowserActionResult} (hh : Closed h) (hrest : NoExecute rest)
    (hnew : uncertain command answer = true → Disposed command answer rest) :
    Closed (h ++ executed command answer :: rest) := by
  intro pre command' answer' post hopen
  rcases split_append hopen.split with ⟨mid, hmid, rfl⟩ | ⟨mid, _, hmid⟩
  · exact hh pre command' answer' mid
      ⟨hmid, hopen.uncertain, fun hd => hopen.undisposed (hd.append _)⟩
  · cases mid with
    | nil =>
        simp only [List.nil_append, List.cons.injEq] at hmid
        obtain ⟨heq, rfl⟩ := hmid
        cases heq
        exact hopen.undisposed (hnew hopen.uncertain)
    | cons y mid =>
        simp only [List.cons_append, List.cons.injEq] at hmid
        obtain ⟨_, rfl⟩ := hmid
        exact hrest command' answer' (List.mem_append_right _ (List.mem_cons_self ..))

/-- The open execution of a history that was closed before it and executed nothing after. -/
theorem OpenAt.unique {h pre pre' post post' : LoopHistory} {command command' : AuthorizedAction}
    {answer answer' : Except PortError BrowserActionResult} (hopen : OpenAt h pre command answer post)
    (hpre : Closed pre) (hpost : NoExecute post)
    (hopen' : OpenAt h pre' command' answer' post') :
    pre' = pre ∧ command' = command ∧ answer' = answer ∧ post' = post := by
  have hsplit := hopen.split.symm.trans hopen'.split
  rcases split_append hsplit with ⟨mid, hmid, rfl⟩ | ⟨mid, hpre', hmid⟩
  · exact absurd ⟨hmid, hopen'.uncertain, fun hd => hopen'.undisposed (hd.append _)⟩
      (hpre pre' command' answer' mid)
  · cases mid with
    | nil =>
        simp only [List.nil_append, List.cons.injEq] at hmid
        obtain ⟨heq, rfl⟩ := hmid
        cases heq
        exact ⟨by simpa using hpre', rfl, rfl, rfl⟩
    | cons y mid =>
        simp only [List.cons_append, List.cons.injEq] at hmid
        obtain ⟨_, rfl⟩ := hmid
        exact absurd (List.mem_append_right _ (List.mem_cons_self ..)) (hpost command' answer')

theorem Flagged.append {h : LoopHistory} (more : LoopHistory) (hh : Flagged h) :
    Flagged (h ++ more) := by
  obtain ⟨command, result, hmem, hrest⟩ := hh
  exact ⟨command, result, List.mem_append_left _ hmem, hrest⟩

theorem flagged_append_of_noExecute {h more : LoopHistory} (hmore : NoExecute more) :
    Flagged (h ++ more) ↔ Flagged h := by
  refine ⟨fun ⟨command, result, hmem, hrest⟩ => ?_, fun hh => hh.append more⟩
  rcases List.mem_append.mp hmem with hmem | hmem
  · exact ⟨command, result, hmem, hrest⟩
  · exact absurd hmem (hmore command (.ok result))

/-- One more execution flags a history when it is a write that says so. -/
theorem flagged_execute {h : LoopHistory} {command : AuthorizedAction}
    {answer : Except PortError BrowserActionResult} :
    Flagged (h ++ [executed command answer]) ↔ Flagged h ∨
      ∃ result, answer = .ok result ∧ isWrite command.authorization.effect = true ∧
        result.effectMayHaveStarted = true := by
  constructor
  · rintro ⟨command', result, hmem, hwrite, hstarted⟩
    rcases List.mem_append.mp hmem with hmem | hmem
    · exact .inl ⟨command', result, hmem, hwrite, hstarted⟩
    · cases List.mem_singleton.mp hmem
      exact .inr ⟨result, rfl, hwrite, hstarted⟩
  · rintro (hflagged | ⟨result, rfl, hwrite, hstarted⟩)
    · exact hflagged.append _
    · exact ⟨command, result, List.mem_append_right _ (List.mem_singleton_self _), hwrite, hstarted⟩

/-- The first event is the first of the front part, if that has one. -/
theorem firstEmit_append {h more : LoopHistory} :
    firstEmit (h ++ more) = (firstEmit h).or (firstEmit more) := by
  induction h with
  | nil => rfl
  | cons x h ih =>
      obtain ⟨c, r⟩ := x
      cases c with
      | emit event => cases r <;> rfl
      | _ => exact ih

end AgentPact
