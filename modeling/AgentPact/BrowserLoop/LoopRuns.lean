import AgentPact.BrowserLoop.LoopSafety

/-!
# Runs of the browser loop

What the safety of the loop says of a run with any ports: whatever they answer
and raise, and however far the run has come.

The property of the report is stated with the exact condition it needs.  An
uncertain write is reported as unknown exactly when the event sink accepted the
first event after it, or a write had returned by then that its effect may have
started.  The last section has a run where the sink rejects that event, and the
report says failed.
-/

namespace AgentPact

open Base Session

namespace BrowserLoop

variable (L : BrowserLoop) (run : BrowserLoopRunContext)

/-- Every execution was authorised for what was just observed, and no uncertain execution came
before it that the verifier did not let continue. -/
theorem execute_authorised {h pre post : LoopHistory} {command : AuthorizedAction}
    {answer : Except PortError BrowserActionResult}
    {d : Dialogue PortCall.Answer (Except PortError BrowserLoopReport × RunState)}
    (hwalk : Dialogue.Walk (L.runLoop run .initial) h d)
    (hsplit : h = pre ++ executed command answer :: post) :
    (∃ observation decision policy now started,
      L.Authorised run pre command observation decision policy now started) ∧
    Continued pre :=
  Dialogue.Holds.asked_of_walk runLoop_holds hwalk hsplit

/-- A run returns a report.  It says unknown of every uncertain write without a verdict, exactly
when each of these was heard of: the first event after it was accepted, or a write up to it had
returned that its effect may have started. -/
theorem report_unknown_iff {h : LoopHistory} {r : Except PortError BrowserLoopReport}
    {s : RunState} (hwalk : Dialogue.Walk (L.runLoop run .initial) h (.ret (r, s))) :
    ∃ report, r = .ok report ∧
      ((∀ pre command answer post, OpenAt h pre command answer post →
          report.status = .unknown) ↔
        ∀ pre command answer post, OpenAt h pre command answer post →
          Flagged (pre ++ [executed command answer]) ∨ firstEmit post = some true) :=
  Dialogue.Holds.ret_of_walk runLoop_holds hwalk

/-! ## A run -/

section Run

/-- A loop with the default limits. -/
def sampleLoop : BrowserLoop where
  platform := samplePlatform
  integritySecret := "secret"
  domainBinding := none
  config := ⟨20, 3, 30, by decide⟩
  secret_ne := by decide

/-- What the loop is run on. -/
def sampleRun : BrowserLoopRunContext := ⟨"run", "task", "step", "pay", none, none, none⟩

/-- A click that pays. -/
def payAction : BrowserAction := ⟨.click, "pay", some "button", none, none, none, [], 0, 0, 0⟩

/-- Ports that let the click through as an external write, and lose its outcome.  The sink takes
what `accepts` says. -/
def losingPorts (accepts : BrowserLoopEvent → Bool) : (c : PortCall) → c.Answer
  | .observe => .ok ⟨"https://shop.example/", none, "<html></html>", "button", .utc 0⟩
  | .domainDecide _ => .ok none
  | .prepareModelInput observation =>
      .ok ⟨observation.observationId, "pay", observation.url, observation.modelDom⟩
  | .decide input => .ok ⟨.action payAction, input.observationId, "PAY"⟩
  | .authorizeAction observation _ actionFingerprint => .ok
      ⟨.allow ⟨"permit", actionFingerprint, observation.observationId, "key", .externalWrite⟩
        ⟨.locator, 0, ["evidence"], rfl⟩, "ALLOWED"⟩
  | .execute _ => .error (.other ⟨.runtimeError, "connection lost"⟩)
  | .verify _ => .ok ⟨.continue, "CONTINUE", []⟩
  | .emit event => if accepts event then .ok () else .error (.other ⟨.runtimeError, "sink"⟩)
  | .now => .utc 0

/-- The run with these ports. -/
def losingRun (accepts : BrowserLoopEvent → Bool) :
    LoopHistory × Except PortError BrowserLoopReport × RunState :=
  Dialogue.play (fun _ => losingPorts accepts) (sampleLoop.runLoop sampleRun .initial) []

theorem losingRun_walk (accepts : BrowserLoopEvent → Bool) :
    Dialogue.Walk (sampleLoop.runLoop sampleRun .initial) (losingRun accepts).1
      (.ret ((losingRun accepts).2.1, (losingRun accepts).2.2)) := Dialogue.walk_play _ _ _

/-- Whether an answered call is an execution of a write that raised some other exception. -/
def isLostWrite : Sigma PortCall.Answer → Bool
  | ⟨.execute command, .error (.other _)⟩ => isWrite command.authorization.effect
  | _ => false

/-- A lost write is open: nothing the verifier is asked afterwards is about a result of it. -/
theorem openAt_of_isLostWrite {h : LoopHistory} {i : Nat} (hi : h[i]?.any isLostWrite = true) :
    ∃ command answer, OpenAt h (h.take i) command answer (h.drop (i + 1)) := by
  cases hx : h[i]? with
  | none =>
      rw [hx] at hi
      cases hi
  | some x =>
      rw [hx] at hi
      obtain ⟨hlt, hget⟩ := List.getElem?_eq_some_iff.mp hx
      have hsplit : h = h.take i ++ x :: h.drop (i + 1) := by
        rw [← hget, List.getElem_cons_drop, List.take_append_drop]
      obtain ⟨c, answer⟩ := x
      cases c with
      | execute command =>
          cases answer with
          | ok result => cases hi
          | error e =>
              refine ⟨command, .error e, hsplit, ?_, ?_⟩
              · cases e with
                | other raised => exact Bool.and_eq_true_iff.mpr ⟨hi, rfl⟩
                | _ => cases hi
              · rintro ⟨result, _, hresult, _⟩
                cases hresult
      | _ => cases hi

/-- The runtime loses the write in its fourteenth call, and the report says unknown. -/
theorem losingRun_accepted :
    (losingRun fun _ => true).1[13]?.any isLostWrite = true ∧
      (losingRun fun _ => true).2.1.toOption.map (·.status) = some .unknown := by
  decide +kernel

/-- The run calls the runtime once, with authority. -/
theorem execute_authorised_sample :
    ∃ command observation decision policy now started, sampleLoop.Authorised sampleRun
      ((losingRun fun _ => true).1.take 13) command observation decision policy now started := by
  obtain ⟨command, answer, hopen⟩ := openAt_of_isLostWrite losingRun_accepted.1
  exact ⟨command, (execute_authorised sampleLoop sampleRun (losingRun_walk fun _ => true)
    hopen.split).1⟩

/-- A sink that takes every event is told of the write that was lost. -/
theorem report_unknown_iff_sample :
    (losingRun fun _ => true).2.1.toOption.map (·.status) = some .unknown ∧
      ∃ command answer,
        OpenAt (losingRun fun _ => true).1 ((losingRun fun _ => true).1.take 13) command answer
          ((losingRun fun _ => true).1.drop 14) ∧
        (Flagged ((losingRun fun _ => true).1.take 13 ++ [executed command answer]) ∨
          firstEmit ((losingRun fun _ => true).1.drop 14) = some true) := by
  obtain ⟨hlost, hstatus⟩ := losingRun_accepted
  obtain ⟨command, answer, hopen⟩ := openAt_of_isLostWrite hlost
  obtain ⟨report, hreport, hiff⟩ :=
    report_unknown_iff sampleLoop sampleRun (losingRun_walk fun _ => true)
  refine ⟨hstatus, command, answer, hopen, hiff.mp (fun _ _ _ _ _ => ?_) _ _ _ _ hopen⟩
  rw [hreport] at hstatus
  exact Option.some.inj hstatus

/-- A sink that takes every event but the terminal one. -/
def refusesTerminal (event : BrowserLoopEvent) : Bool := event.stage ≠ .terminal

/-- The runtime raised on an external write, and the report says failed. -/
theorem report_failed_after_lost_write :
    ∃ h report s pre command answer post,
      Dialogue.Walk (sampleLoop.runLoop sampleRun .initial) h (.ret (.ok report, s)) ∧
      OpenAt h pre command answer post ∧ report.status = .failed := by
  have hwalk := losingRun_walk refusesTerminal
  have hran : (losingRun refusesTerminal).1[13]?.any isLostWrite = true ∧
      (losingRun refusesTerminal).2.1.toOption.map (·.status) = some .failed := by
    decide +kernel
  generalize losingRun refusesTerminal = played at hwalk hran
  obtain ⟨h, r, s⟩ := played
  obtain ⟨hlost, hstatus⟩ := hran
  obtain ⟨command, answer, hopen⟩ := openAt_of_isLostWrite hlost
  cases r with
  | error e => cases hstatus
  | ok report => exact ⟨h, report, s, _, _, _, _, hwalk, hopen, Option.some.inj hstatus⟩

end Run

end BrowserLoop

end AgentPact
