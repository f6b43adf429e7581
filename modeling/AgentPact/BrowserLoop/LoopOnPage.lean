import AgentPact.BrowserLoop.LoopRuns
import AgentPact.BrowserLoop.PageEffects

/-!
# The loop on a page

The browser loop with the runtime of a page for its runtime port.  What is left
open are the other ports and the page, and they may answer anything.

`Serves` relates what the loop has asked and heard with what was asked of the
ports and of the page: an observation and an execution of the loop are each a
whole call of the runtime.  With it, what holds of the loop and of the runtime
holds of the two together.

An effect is released by the policy and by what was last captured
(`effects_released`).  Between the effects of two actions, the first a write, the
verifier lets the run continue (`writes_continued`).  What a report says of the
effects of writes is `write_effects_reported`.
-/

namespace AgentPact

open Base Dialogue

/-- What was asked of the ports and of the page. -/
abbrev SystemHistory := History (Both PortCall.Answer PageCall.Answer)

namespace PageRuntime

variable (R : PageRuntime)

/-- A port answers by itself. -/
def pass (c : PortCall) (s : PageState) :
    Dialogue (Both PortCall.Answer PageCall.Answer) (c.Answer × PageState) :=
  .ask (.inl c) fun r => .ret (r, s)

/-- The runtime observes and executes, and the other ports answer by themselves. -/
def answer : (c : PortCall) → PageState →
    Dialogue (Both PortCall.Answer PageCall.Answer) (c.Answer × PageState)
  | .observe, s => (R.observe s).embed.bind fun r => .ret (r.1.map (·.raw), r.2)
  | .execute command, s => (R.execute command s).embed
  | .domainDecide observation, s => pass (.domainDecide observation) s
  | .prepareModelInput observation, s => pass (.prepareModelInput observation) s
  | .decide input, s => pass (.decide input) s
  | .authorizeAction observation action fingerprint, s =>
      pass (.authorizeAction observation action fingerprint) s
  | .verify request, s => pass (.verify request) s
  | .emit event, s => pass (.emit event) s
  | .now, s => pass .now s

/-- `run` of a loop, with this runtime. -/
def runLoop (L : BrowserLoop) (run : BrowserLoopRunContext) (s : PageState) :
    Dialogue (Both PortCall.Answer PageCall.Answer)
      ((Except PortError BrowserLoopReport × RunState) × PageState) :=
  (L.runLoop run .initial).serve R.answer s

/-! ## Two histories -/

/-- Whether a call is answered by a port itself. -/
def passed : PortCall → Bool
  | .observe | .execute _ => false
  | _ => true

/-- Calls that were passed to ports. -/
def onPorts (h : LoopHistory) : SystemHistory := h.map fun x => ⟨.inl x.1, x.2⟩

/-- What was asked of the ports. -/
def portsOf (l : SystemHistory) : LoopHistory :=
  l.filterMap fun x => match x with
    | ⟨.inl c, r⟩ => some ⟨c, r⟩
    | ⟨.inr _, _⟩ => none

@[simp] theorem portsOf_append (l l' : SystemHistory) :
    portsOf (l ++ l') = portsOf l ++ portsOf l' := List.filterMap_append

@[simp] theorem portsOf_beneath (block : PageHistory) : portsOf (beneath block) = [] := by
  unfold portsOf beneath
  rw [List.filterMap_map]
  exact List.filterMap_eq_nil_iff.mpr fun _ _ => rfl

/-- What the loop has asked and heard, the state of the runtime, and what was asked of the ports and
of the page. -/
inductive Serves (L : BrowserLoop) (run : BrowserLoopRunContext) (s : PageState) :
    LoopHistory → PageState → SystemHistory → Prop
  | start : Serves L run s [] s []
  | port {h : LoopHistory} {t : PageState} {l : SystemHistory} (c : PortCall) (r : c.Answer)
      (hpassed : passed c = true) (hserves : Serves L run s h t l) :
      Serves L run s (h ++ [⟨c, r⟩]) t (l ++ onPorts [⟨c, r⟩])
  | observe {h : LoopHistory} {t t' : PageState} {l : SystemHistory} {block : PageHistory}
      {r : Except PortError PageObservation} (hserves : Serves L run s h t l)
      (hwalk : Walk (R.observe t) block (.ret (r, t'))) :
      Serves L run s (h ++ [⟨.observe, r.map (·.raw)⟩]) t' (l ++ beneath block)
  | execute {h : LoopHistory} {t t' : PageState} {l : SystemHistory} {block : PageHistory}
      {command : AuthorizedAction} {r : Except PortError BrowserActionResult}
      (hserves : Serves L run s h t l) (hauthorised : L.Guarantee run h (.execute command))
      (hwalk : Walk (R.execute command t) block (.ret (r, t'))) :
      Serves L run s (h ++ [executed command r]) t' (l ++ beneath block)

variable {R} {L : BrowserLoop} {run : BrowserLoopRunContext} {s t : PageState} {h : LoopHistory}
  {l : SystemHistory}

/-- A call of `execute` leaves the state of the runtime, and captures nothing. -/
theorem execute_keeps {command : AuthorizedAction} {t' : PageState} {block : PageHistory}
    {r : Except PortError BrowserActionResult}
    (hwalk : Walk (R.execute command t) block (.ret (r, t'))) :
    t' = t ∧ ∀ x ∈ block, x.1 ≠ .interactables := by
  refine ⟨(Holds.ret_of_walk execute_holds hwalk).1, fun x hx => ?_⟩
  obtain ⟨before, after, rfl⟩ := List.append_of_mem hx
  exact (Holds.asked_of_walk execute_holds hwalk rfl).keeps

/-- How the last call of the loop was answered. -/
theorem Serves.last {x : Sigma PortCall.Answer} (hs : R.Serves L run s (h ++ [x]) t l) :
    (∃ l', passed x.1 = true ∧ R.Serves L run s h t l' ∧ l = l' ++ onPorts [x]) ∨
    (∃ t₁ l' block r, R.Serves L run s h t₁ l' ∧ Walk (R.observe t₁) block (.ret (r, t)) ∧
      x = ⟨.observe, r.map (·.raw)⟩ ∧ l = l' ++ beneath block) ∨
    ∃ l' command block r, R.Serves L run s h t l' ∧
      Walk (R.execute command t) block (.ret (r, t)) ∧ x = executed command r ∧
      l = l' ++ beneath block := by
  generalize hlast : h ++ [x] = h' at hs
  cases hs with
  | start => exact absurd hlast (by simp)
  | port c r hpassed hserves =>
      obtain ⟨rfl, hx⟩ := List.append_inj' hlast rfl
      cases hx
      exact .inl ⟨_, hpassed, hserves, rfl⟩
  | observe hserves hwalk =>
      obtain ⟨rfl, hx⟩ := List.append_inj' hlast rfl
      exact .inr (.inl ⟨_, _, _, _, hserves, hwalk, List.head_eq_of_cons_eq hx, rfl⟩)
  | execute hserves hauthorised hwalk =>
      obtain ⟨rfl, hx⟩ := List.append_inj' hlast rfl
      obtain ⟨rfl, _⟩ := execute_keeps hwalk
      exact .inr (.inr ⟨_, _, _, _, hserves, hwalk, List.head_eq_of_cons_eq hx, rfl⟩)

/-- The last calls were passed to ports. -/
theorem Serves.last_ports {ports : LoopHistory} (hpassed : ∀ x ∈ ports, passed x.1 = true)
    (hs : R.Serves L run s (h ++ ports) t l) :
    ∃ l', R.Serves L run s h t l' ∧ l = l' ++ onPorts ports := by
  induction ports using List.reverseRecOn generalizing l with
  | nil =>
      rw [List.append_nil] at hs
      exact ⟨l, hs, (List.append_nil l).symm⟩
  | append_singleton ports x ih =>
      rw [← List.append_assoc] at hs
      have hx := hpassed x (List.mem_append_right _ (List.mem_singleton_self x))
      rcases hs.last with ⟨l₁, _, hs₁, rfl⟩ | ⟨_, _, _, _, _, _, rfl, _⟩ | ⟨_, _, _, _, _, _, rfl, _⟩
      · obtain ⟨l₂, hs₂, rfl⟩ := ih (fun y hy => hpassed y (List.mem_append_left _ hy)) hs₁
        refine ⟨l₂, hs₂, ?_⟩
        unfold onPorts
        rw [List.map_append, List.append_assoc]
      · cases hx
      · cases hx

/-- The page was read and its elements captured, and no elements were captured since. -/
def LastCaptured (raw : RawBrowserObservation) (items : List Json) (l : SystemHistory) : Prop :=
  ∃ before after, l = before ++ beneath (capturing raw items) ++ after ∧
    ∀ x ∈ after, x.1 ≠ .inr .interactables

theorem LastCaptured.append {raw : RawBrowserObservation} {items : List Json}
    {more : SystemHistory} (hl : LastCaptured raw items l)
    (hmore : ∀ x ∈ more, x.1 ≠ .inr .interactables) : LastCaptured raw items (l ++ more) := by
  obtain ⟨before, after, rfl, hafter⟩ := hl
  exact ⟨before, after ++ more, List.append_assoc .., fun x hx =>
    (List.mem_append.mp hx).elim (hafter x) (hmore x)⟩

/-- Calls of the page that capture nothing. -/
theorem beneath_ne_interactables {block : PageHistory}
    (hblock : ∀ x ∈ block, x.1 ≠ .interactables) :
    ∀ x ∈ (beneath block : SystemHistory), x.1 ≠ .inr .interactables := by
  intro x hx
  obtain ⟨y, hy, rfl⟩ := List.mem_map.mp hx
  exact fun hsame => hblock y hy (Sum.inr.inj hsame)

/-- The last observation of the loop is the last capture of the page. -/
theorem Serves.last_observed {pre post : LoopHistory} {raw : RawBrowserObservation}
    (hpost : ∀ x ∈ post, x.1 ≠ .observe)
    (hs : R.Serves L run s (pre ++ ⟨.observe, .ok raw⟩ :: post) t l) :
    ∃ items, LastCaptured raw items l ∧
      raw.modelDom = R.dumps (.arr ((R.capture items).map (·.1.modelDump))) ∧
      t.selectors = (R.capture items).map fun e => (e.1.elementId, e.2) := by
  induction post using List.reverseRecOn generalizing l with
  | nil =>
      rcases hs.last with ⟨_, hpassed, _, _⟩ | ⟨t₁, l₁, block, r, _, hwalk, hx, rfl⟩ |
        ⟨_, _, _, _, _, _, hx, _⟩
      · cases hpassed
      · cases r with
        | error e => cases hx
        | ok o =>
            cases hx
            obtain ⟨items, ⟨more, hblock, hmore⟩, hdom, hselectors⟩ :=
              Holds.ret_of_walk observe_holds hwalk o rfl
            rw [List.nil_append] at hblock
            subst hblock
            refine ⟨items, ⟨l₁, beneath more, ?_, beneath_ne_interactables hmore⟩, hdom, hselectors⟩
            rw [beneath_append, List.append_assoc]
      · cases hx
  | append_singleton post x ih =>
      rw [← List.cons_append, ← List.append_assoc] at hs
      have hbefore : ∀ y ∈ post, y.1 ≠ .observe := fun y hy => hpost y (List.mem_append_left _ hy)
      rcases hs.last with ⟨l', hpassed, hserves, rfl⟩ | ⟨_, _, _, _, _, _, rfl, _⟩ |
        ⟨l', command, block', r, hserves, hwalk, rfl, rfl⟩
      · obtain ⟨items, hcaptured, hrest⟩ := ih hbefore hserves
        refine ⟨items, hcaptured.append fun y hy => ?_, hrest⟩
        cases List.mem_singleton.mp hy
        exact nofun
      · exact absurd rfl (hpost _ (List.mem_append_right _ (List.mem_singleton_self _)))
      · obtain ⟨items, hcaptured, hrest⟩ := ih hbefore hserves
        exact ⟨items, hcaptured.append (beneath_ne_interactables (execute_keeps hwalk).2), hrest⟩

/-! ## Effects -/

/-- What `execute` asks of the page before an effect captures nothing. -/
theorem executing_ne_interactables {command : AuthorizedAction} {html url selector : String}
    {done : List PageEffect} :
    ∀ x ∈ clearance command html url selector ++ succeeded done, x.1 ≠ .interactables := by
  intro x hx
  rcases List.mem_append.mp hx with hx | hx
  · rcases List.mem_append.mp hx with hx | hx
    · rcases List.mem_pair.mp hx with rfl | rfl <;> exact nofun
    · split at hx
      · cases List.mem_singleton.mp hx
        exact nofun
      · cases hx
  · obtain ⟨effect, _, rfl⟩ := List.mem_map.mp hx
    exact nofun

/-- What an effect is released by. -/
structure Release where
  command : AuthorizedAction
  observation : BrowserObservation
  raw : RawBrowserObservation
  items : List Json
  html : String
  url : String
  selector : String
  /-- What the action did before. -/
  done : List PageEffect

/-- An effect is asked of the page with the authority for it.

* The policy allowed the action on an observation, and since then the loop has only read the clock
  and recorded events, and the runtime has read the page, which hashes to what was observed.
* The effect is the next one of the action.
* The observation is the last one that the runtime made, and the selector is the one that the page
  gave with the element of the action in it. -/
structure Released (L : BrowserLoop) (R : PageRuntime) (run : BrowserLoopRunContext)
    (l : SystemHistory) (effect : PageEffect) (x : Release) : Prop where
  asked : ∃ before policy t₁ t₂ t₃ policyEvent started,
    policy.disposition = .allow x.command.authorization x.command.executionProfile ∧
    l = before ++ onPorts [⟨.authorizeAction x.observation x.command.action
        (L.fingerprint run x.command.action x.observation), .ok policy⟩, ⟨.now, t₁⟩,
        ⟨.emit policyEvent, .ok ()⟩, ⟨.now, t₂⟩, ⟨.now, t₃⟩, ⟨.emit started, .ok ()⟩] ++
      beneath (clearance x.command x.html x.url x.selector ++ succeeded x.done)
  fingerprint : x.command.authorization.actionFingerprint =
    L.fingerprint run x.command.action x.observation
  observationId : x.command.authorization.observationHash = x.observation.observationId
  profile : (decideProfile x.command.authorization.effect x.command.executionProfile).allowed = true
  next : ∃ after, x.command.action.effects x.selector = x.done ++ effect :: after
  observed : ∃ sequence, x.observation = L.bindObservation x.raw sequence
  captured : LastCaptured x.raw x.items l
  shown : x.raw.modelDom = R.dumps (.arr ((R.capture x.items).map (·.1.modelDump)))
  snapshot : snapshotHash R.platform x.url x.html =
    snapshotHash L.platform x.raw.url x.raw.pageHtml
  element : x.command.action.kind.onElement = true → ∃ element,
    (element, x.selector) ∈ R.capture x.items ∧
    element.elementId = x.command.action.elementId.getD ""

/-- An execution that is authorised releases its effects. -/
theorem Serves.released {command : AuthorizedAction} {block : PageHistory} {effect : PageEffect}
    (hs : R.Serves L run s h t l) (hauthorised : L.Guarantee run h (.execute command))
    (hasks : R.Asks t command block (.perform effect)) :
    ∃ x, Released L R run (l ++ beneath block) effect x ∧ x.command = command := by
  obtain ⟨html, url, selector, done, after, hcleared, heffects, rfl⟩ := hasks.effect effect rfl
  obtain ⟨⟨observation, decision, policy, now, started, ha⟩, _⟩ := hauthorised
  obtain ⟨pre, raw, post, sequence, hobserved, hbound, hpost⟩ := ha.observed
  obtain ⟨items, hcaptured, hshown, hselectors⟩ := (hobserved ▸ hs).last_observed hpost
  refine ⟨⟨command, observation, raw, items, html, url, selector, done⟩, ?_, rfl⟩
  refine
    { asked := ?_
      fingerprint := ha.sameFingerprint.trans ha.fingerprint
      observationId := ha.sameObservation.trans ha.observationId
      profile := ha.profile
      next := ⟨after, heffects⟩
      observed := ⟨sequence, hbound⟩
      captured := hcaptured.append (beneath_ne_interactables ?_)
      shown := hshown
      snapshot := ?_
      element := fun hkind => ?_ }
  case refine_1 =>
    obtain ⟨before, x, t₁, t₂, t₃, decisionEvent, policyEvent, _, rfl⟩ := ha.asked
    rw [List.append_cons, List.append_cons, List.append_cons] at hs
    obtain ⟨l', _, rfl⟩ := hs.last_ports (by simp [passed])
    rw [ha.fingerprint]
    exact ⟨l', policy, t₂, now, t₃, policyEvent, started, ha.allowed, rfl⟩
  case refine_2 => exact executing_ne_interactables
  case refine_3 =>
    rw [hcleared.snapshot, ha.snapshot, hbound]
    rfl
  case refine_4 =>
    have hlookup := hcleared.element hkind
    rw [hselectors] at hlookup
    exact (lookup_selectors (capture_pairwise items)).mp hlookup

/-- An effect is asked of the page in an execution that was authorised. -/
def Underway (L : BrowserLoop) (R : PageRuntime) (run : BrowserLoopRunContext) (s : PageState)
    (l : SystemHistory) (c : PortCall ⊕ PageCall) : Prop :=
  ∀ effect, c = .inr (.perform effect) → ∃ h t l' command block,
    R.Serves L run s h t l' ∧ L.Guarantee run h (.execute command) ∧
    R.Asks t command block (.perform effect) ∧ l = l' ++ beneath block

theorem pass_holds {c : PortCall} (hpassed : passed c = true) (hserves : R.Serves L run s h t l) :
    (pass c t).Holds (Underway L R run s)
      (fun r l' => R.Serves L run s (h ++ [⟨c, r.1⟩]) r.2 l') l :=
  ⟨fun _ => nofun, fun r => .port c r hpassed hserves⟩

theorem answer_holds (c : PortCall) (hauthorised : L.Guarantee run h c)
    (hserves : R.Serves L run s h t l) :
    (R.answer c t).Holds (Underway L R run s)
      (fun r l' => R.Serves L run s (h ++ [⟨c, r.1⟩]) r.2 l') l := by
  have hstart : l = l ++ beneath [] := (List.append_nil l).symm
  cases c with
  | observe =>
      unfold answer
      rw [Dialogue.holds_bind, hstart]
      refine holds_embed (holds_of_walks (fun block c k hwalk => ?_) fun block r hwalk => ?_)
      · have hlooks := (Holds.of_walk observe_holds hwalk).1
        exact fun effect hc => absurd (Sum.inr.inj hc) (hlooks effect)
      · exact .observe hserves hwalk
  | execute command =>
      unfold answer
      rw [hstart]
      refine holds_embed (holds_of_walks (fun block c k hwalk => ?_) fun block r hwalk => ?_)
      · rintro effect ⟨⟩
        exact ⟨h, t, l, command, block, hserves, hauthorised,
          (Holds.of_walk execute_holds hwalk).1, rfl⟩
      · exact .execute hserves hauthorised hwalk
  | domainDecide observation => exact pass_holds rfl hserves
  | prepareModelInput observation => exact pass_holds rfl hserves
  | decide input => exact pass_holds rfl hserves
  | authorizeAction observation action fingerprint => exact pass_holds rfl hserves
  | verify request => exact pass_holds rfl hserves
  | emit event => exact pass_holds rfl hserves
  | now => exact pass_holds rfl hserves

/-- A run of the loop on the runtime is a run of the loop. -/
theorem runLoop_holds :
    (R.runLoop L run s).Holds (Underway L R run s) (fun r l => ∃ h,
      (∃ report, r.1.1 = .ok report ∧ BrowserLoop.Reported h report.status) ∧
      R.Serves L run s h r.2 l) [] :=
  Dialogue.Holds.serve (fun _ _ _ _ hauthorised hserves => answer_holds _ hauthorised hserves)
    BrowserLoop.runLoop_holds .start

/-- Every effect that is asked of the page is released, whatever the ports and the page answer. -/
theorem effects_released {l pre post : SystemHistory} {effect : PageEffect}
    {answer : Except Raised Unit}
    {d : Dialogue (Both PortCall.Answer PageCall.Answer)
      ((Except PortError BrowserLoopReport × RunState) × PageState)}
    (hwalk : Walk (R.runLoop L run s) l d)
    (hsplit : l = pre ++ ⟨.inr (.perform effect), answer⟩ :: post) :
    ∃ x, Released L R run pre effect x := by
  obtain ⟨h, t, l', command, block, hserves, hauthorised, hasks, hpre⟩ :=
    Dialogue.Holds.asked_of_walk runLoop_holds hwalk hsplit effect rfl
  obtain ⟨x, hreleased, _⟩ := hserves.released hauthorised hasks
  rw [List.nil_append] at hpre
  exact ⟨x, hpre ▸ hreleased⟩

/-! ## Writes -/

/-- An effect among those that succeeded. -/
theorem succeeded_of_split {command : AuthorizedAction} {html url selector : String}
    {done : List PageEffect} {before after : PageHistory} {effect : PageEffect}
    {answer : Except Raised Unit}
    (hsplit : clearance command html url selector ++ succeeded done =
      before ++ ⟨.perform effect, answer⟩ :: after) :
    answer = .ok () ∧ ∃ done', after = succeeded done' := by
  rcases split_append hsplit with ⟨mid, hmid, _⟩ | ⟨mid, _, hmid⟩
  · have hnothing := performed_clearance command html url selector
    rw [hmid, performed_append] at hnothing
    cases (List.append_eq_nil_iff.mp hnothing).2
  · obtain ⟨_, rest, _, _, hrest⟩ := List.map_eq_append_iff.mp hmid
    obtain ⟨_, done', _, hx, rfl⟩ := List.map_eq_cons_iff.mp hrest
    cases hx
    exact ⟨rfl, done', rfl⟩

/-- An execution that asked for an effect of a write is uncertain. -/
theorem Executed.uncertain {command : AuthorizedAction}
    {result : Except PortError BrowserActionResult} {before after : PageHistory}
    {effect : PageEffect} {answer : Except Raised Unit}
    (hexecuted : Executed R t command result (before ++ ⟨.perform effect, answer⟩ :: after))
    (hwrite : isWrite command.authorization.effect = true) :
    AgentPact.uncertain command result = true := by
  unfold AgentPact.uncertain
  rw [hwrite, Bool.true_and]
  generalize hblock : before ++ ⟨.perform effect, answer⟩ :: after = block at hexecuted
  cases hexecuted with
  | refused hcertain hnothing =>
      rw [← hblock, performed_append] at hnothing
      cases (List.append_eq_nil_iff.mp hnothing).2
  | broken hcleared heffects => rfl
  | completed hcleared => rfl

/-- An execution that completed asked only for effects that succeeded. -/
theorem Executed.of_ok {command : AuthorizedAction} {result : BrowserActionResult}
    {before after : PageHistory} {effect : PageEffect} {answer : Except Raised Unit}
    (hexecuted : Executed R t command (.ok result)
      (before ++ ⟨.perform effect, answer⟩ :: after)) :
    result = actionCompleted ∧ answer = .ok () := by
  generalize hblock : before ++ ⟨.perform effect, answer⟩ :: after = block at hexecuted
  cases hexecuted with
  | completed hcleared => exact ⟨rfl, (succeeded_of_split hblock.symm).1⟩

/-- The execution in which an effect was asked for. -/
structure Execution (L : BrowserLoop) (R : PageRuntime) (run : BrowserLoopRunContext)
    (s : PageState) (h : LoopHistory) (pre : SystemHistory) (effect : PageEffect)
    (answer : Except Raised Unit) (post : SystemHistory) where
  command : AuthorizedAction
  result : Except PortError BrowserActionResult
  state : PageState
  /-- What the loop asked before and after it. -/
  earlier : LoopHistory
  later : LoopHistory
  /-- What was asked of the ports and of the page before it, in it and after it. -/
  below : SystemHistory
  before : PageHistory
  after : PageHistory
  above : SystemHistory
  split : h = earlier ++ executed command result :: later
  split_pre : pre = below ++ beneath before
  split_post : post = beneath after ++ above
  serves : R.Serves L run s earlier state below
  authorised : L.Guarantee run earlier (.execute command)
  walk : Walk (R.execute command state) (before ++ ⟨.perform effect, answer⟩ :: after)
    (.ret (result, state))
  ports : portsOf above = later.filter fun x => passed x.1

/-- The loop goes on after it. -/
theorem Execution.append {pre post : SystemHistory} {effect : PageEffect}
    {answer : Except Raised Unit} (e : Execution L R run s h pre effect answer post)
    {x : Sigma PortCall.Answer} {more : SystemHistory}
    (hmore : portsOf more = [x].filter fun x => passed x.1) :
    Nonempty (Execution L R run s (h ++ [x]) pre effect answer (post ++ more)) := by
  have hports : portsOf (e.above ++ more) = (e.later ++ [x]).filter fun x => passed x.1 := by
    rw [portsOf_append, e.ports, hmore, List.filter_append]
  have hsplit := (congrArg (· ++ [x]) e.split).trans (List.append_assoc ..)
  have hpost := (congrArg (· ++ more) e.split_post).trans (List.append_assoc ..)
  exact ⟨{ e with
    later := e.later ++ [x], above := e.above ++ more, split := hsplit, split_post := hpost,
    ports := hports }⟩

/-- Every effect was asked for in an execution. -/
theorem Serves.execution {pre post : SystemHistory} {effect : PageEffect}
    {answer : Except Raised Unit} (hs : R.Serves L run s h t l)
    (hsplit : l = pre ++ ⟨.inr (.perform effect), answer⟩ :: post) :
    Nonempty (Execution L R run s h pre effect answer post) := by
  induction hs generalizing post with
  | start => exact absurd hsplit (by simp)
  | port c r hpassed hserves ih =>
      rcases split_append hsplit with ⟨mid, hl, rfl⟩ | ⟨mid, _, hmid⟩
      · obtain ⟨e⟩ := ih hl
        refine e.append (Eq.symm ?_)
        rw [List.filter_cons, if_pos hpassed]
        rfl
      · rcases List.singleton_eq_append_iff.mp hmid with ⟨_, hx⟩ | ⟨_, hx⟩
        · cases hx
        · cases hx
  | observe hserves hwalk ih =>
      rcases split_append hsplit with ⟨mid, hl, rfl⟩ | ⟨mid, _, hmid⟩
      · obtain ⟨e⟩ := ih hl
        exact e.append (portsOf_beneath _)
      · obtain ⟨before, after, rfl, _⟩ := beneath_eq_append_cons hmid
        have hlooks : Looks ([] ++ before) (.perform effect) :=
          Holds.asked_of_walk observe_holds hwalk rfl
        exact absurd rfl (hlooks effect)
  | execute hserves hauthorised hwalk ih =>
      rcases split_append hsplit with ⟨mid, hl, rfl⟩ | ⟨mid, rfl, hmid⟩
      · obtain ⟨e⟩ := ih hl
        exact e.append (portsOf_beneath _)
      · obtain ⟨before, after, rfl, rfl, rfl⟩ := beneath_eq_append_cons hmid
        obtain ⟨rfl, _⟩ := execute_keeps hwalk
        exact ⟨⟨_, _, _, _, [], _, before, after, [], rfl, rfl, (List.append_nil _).symm, hserves,
          hauthorised, hwalk, rfl⟩⟩

/-- A verdict after it was given by a port. -/
theorem Execution.verdict_mem {pre post : SystemHistory} {effect : PageEffect}
    {answer : Except Raised Unit} (e : Execution L R run s h pre effect answer post)
    {command : AuthorizedAction} {result : BrowserActionResult} {v : VerificationDisposition}
    {y : Sigma PortCall.Answer} (hy : y ∈ e.later) (hverdict : VerdictOn command result v y) :
    y ∈ portsOf post := by
  obtain ⟨request, verification, rfl, _⟩ := hverdict
  rw [e.split_post, portsOf_append, e.ports]
  exact List.mem_append_right _ (List.mem_filter.mpr ⟨hy, rfl⟩)

/-- Between two effects, either the first one succeeded and so did more of one action, or they are of
two actions.  In that case, if the first action was authorised as a write, its effect succeeded and
the verifier let the run continue on its result before the second was asked for. -/
theorem writes_continued {l pre mid post : SystemHistory} {effect effect' : PageEffect}
    {answer answer' : Except Raised Unit}
    {d : Dialogue (Both PortCall.Answer PageCall.Answer)
      ((Except PortError BrowserLoopReport × RunState) × PageState)}
    (hwalk : Walk (R.runLoop L run s) l d)
    (hsplit : l = pre ++ ⟨.inr (.perform effect), answer⟩ :: mid ++
      ⟨.inr (.perform effect'), answer'⟩ :: post) :
    (answer = .ok () ∧ ∃ done, mid = beneath (succeeded done)) ∨
    ∃ x, Released L R run pre effect x ∧ (isWrite x.command.authorization.effect = true →
      answer = .ok () ∧ ∃ y ∈ portsOf mid, VerdictOn x.command actionCompleted .continue y) := by
  obtain ⟨h, t, l', command, block, hserves, hauthorised, hasks, hbefore⟩ :=
    Dialogue.Holds.asked_of_walk runLoop_holds hwalk hsplit effect' rfl
  rcases split_append hbefore.symm with ⟨mid', hl, rfl⟩ | ⟨mid', _, hmid⟩
  case inr =>
    -- both effects are of one execution, which has succeeded so far
    obtain ⟨before, after, rfl, _, rfl⟩ := beneath_eq_append_cons hmid
    obtain ⟨html, url, selector, done, _, _, _, hdone⟩ := hasks.effect effect' rfl
    obtain ⟨hanswer, done', rfl⟩ := succeeded_of_split hdone.symm
    exact .inl ⟨hanswer, done', rfl⟩
  case inl =>
    obtain ⟨e⟩ := hserves.execution hl
    have hasked : R.Asks e.state e.command ([] ++ e.before) (.perform effect) :=
      Holds.asked_of_walk execute_holds e.walk rfl
    obtain ⟨x, hreleased, hcommand⟩ := e.serves.released e.authorised hasked
    rw [List.nil_append, ← e.split_pre] at hreleased
    refine .inr ⟨x, hreleased, fun hwrite => ?_⟩
    rw [hcommand] at hwrite ⊢
    have hexecuted := (Holds.ret_of_walk execute_holds e.walk).2
    obtain ⟨result, hresult, y, hy, hverdict⟩ :=
      hauthorised.2 _ _ _ _ e.split (hexecuted.uncertain hwrite)
    rw [hresult] at hexecuted
    obtain ⟨rfl, hanswer⟩ := hexecuted.of_ok
    refine ⟨hanswer, y, ?_, hverdict⟩
    rw [portsOf_append]
    exact List.mem_append_left _ (e.verdict_mem hy hverdict)

/-! ## Reports -/

/-- Every execution was authorised. -/
theorem Serves.authorised {pre post : LoopHistory} {command : AuthorizedAction}
    {result : Except PortError BrowserActionResult} (hs : R.Serves L run s h t l)
    (hsplit : h = pre ++ executed command result :: post) :
    L.Guarantee run pre (.execute command) := by
  induction hs generalizing post with
  | start => exact absurd hsplit (by simp)
  | port c r hpassed hserves ih =>
      rcases split_append hsplit with ⟨mid, hh, _⟩ | ⟨mid, _, hmid⟩
      · exact ih hh
      · rcases List.singleton_eq_append_iff.mp hmid with ⟨_, hx⟩ | ⟨_, hx⟩
        · cases hx
          cases hpassed
        · cases hx
  | observe hserves hwalk ih =>
      rcases split_append hsplit with ⟨mid, hh, _⟩ | ⟨mid, _, hmid⟩
      · exact ih hh
      · rcases List.singleton_eq_append_iff.mp hmid with ⟨_, hx⟩ | ⟨_, hx⟩
        · cases hx
        · cases hx
  | execute hserves hauthorised hwalk ih =>
      rcases split_append hsplit with ⟨mid, hh, _⟩ | ⟨mid, rfl, hmid⟩
      · exact ih hh
      · rcases List.singleton_eq_append_iff.mp hmid with ⟨rfl, hx⟩ | ⟨_, hx⟩
        · cases hx
          rwa [List.append_nil]
        · cases hx

section Run

/-- Ports that let the button be clicked as an external write, and once again. -/
def clickingPorts : (c : PortCall) → c.Answer
  | .decide input => .ok ⟨.action ⟨.click, "pay", some "ap-0000", none, none, none, [], 0, 0, 0⟩,
      input.observationId, "PAY"⟩
  | .verify request =>
      .ok ⟨if request.after.sequence = 2 then .continue else .succeeded, "SEEN", []⟩
  | c => BrowserLoop.losingPorts (fun _ => true) c

/-- The run with these ports on this page. -/
def clickingRun :
    SystemHistory × (Except PortError BrowserLoopReport × RunState) × PageState :=
  Dialogue.play (fun _ c => match c with
    | .inl c => clickingPorts c
    | .inr c => samplePage c)
    (sampleRuntime.runLoop BrowserLoop.sampleLoop BrowserLoop.sampleRun ⟨[], false⟩) []

theorem clickingRun_walk : Walk
    (sampleRuntime.runLoop BrowserLoop.sampleLoop BrowserLoop.sampleRun ⟨[], false⟩) clickingRun.1
    (.ret clickingRun.2) := Dialogue.walk_play _ _ _

/-- Whether an answered call is an effect. -/
def isPerform : Sigma (Both PortCall.Answer PageCall.Answer) → Bool
  | ⟨.inr (.perform _), _⟩ => true
  | _ => false

theorem split_of_isPerform {l : SystemHistory} {i : Nat} (hi : l[i]?.any isPerform = true) :
    ∃ effect answer, l = l.take i ++ ⟨.inr (.perform effect), answer⟩ :: l.drop (i + 1) := by
  cases hx : l[i]? with
  | none =>
      rw [hx] at hi
      cases hi
  | some x =>
      rw [hx] at hi
      obtain ⟨hlt, hget⟩ := List.getElem?_eq_some_iff.mp hx
      have hsplit : l = l.take i ++ x :: l.drop (i + 1) := by
        rw [← hget, List.getElem_cons_drop, List.take_append_drop]
      obtain ⟨c, answer⟩ := x
      rcases c with c | c
      · cases hi
      · cases c with
        | perform effect => exact ⟨effect, answer, hsplit⟩
        | _ => cases hi

/-- Whether a policy allows nothing but writes. -/
def allowsWrites : Sigma PortCall.Answer → Bool
  | ⟨.authorizeAction _ _ _, .ok policy⟩ => match policy.disposition with
      | .allow authorization _ => isWrite authorization.effect
      | _ => true
  | _ => true

/-- What is released after such answers is a write. -/
theorem Released.write {post : SystemHistory} {effect : PageEffect} {x : Release}
    (h : Released L R run l effect x) (hl : ((portsOf (l ++ post)).all allowsWrites) = true) :
    isWrite x.command.authorization.effect = true := by
  obtain ⟨before, policy, t₁, t₂, t₃, policyEvent, started, hpolicy, rfl⟩ := h.asked
  have hauthorised := List.all_eq_true.mp hl ⟨.authorizeAction x.observation x.command.action
    (L.fingerprint run x.command.action x.observation), .ok policy⟩ (by
      simp only [portsOf_append, List.mem_append]
      exact .inl (.inl (.inr (List.mem_cons_self ..))))
  unfold allowsWrites at hauthorised
  dsimp only at hauthorised
  rwa [hpolicy] at hauthorised

/-- The button is clicked in the twenty-second call and in the forty-ninth, the sink takes the event
after the first click, and the run succeeds. -/
theorem clickingRun_clicks :
    clickingRun.1[21]?.any isPerform = true ∧ (clickingRun.1.drop 22)[26]?.any isPerform = true ∧
      ((clickingRun.1.drop 22).take 26).any (·.1.isLeft) = true ∧
      ((portsOf clickingRun.1).all allowsWrites) = true ∧
      clickingRun.2.1.1.toOption.map (·.status) = some .succeeded ∧
      firstEmit (portsOf (clickingRun.1.drop 22)) = some true := by
  decide +kernel

/-- The first click was released. -/
theorem effects_released_sample : ∃ effect x, Released BrowserLoop.sampleLoop sampleRuntime
    BrowserLoop.sampleRun (clickingRun.1.take 21) effect x := by
  have hwalk := clickingRun_walk
  have hclicks := clickingRun_clicks
  generalize clickingRun = played at hwalk hclicks ⊢
  obtain ⟨effect, answer, hsplit⟩ := split_of_isPerform hclicks.1
  exact ⟨effect, effects_released hwalk hsplit⟩

/-- The verifier let the run continue between the clicks, which are of two writes. -/
theorem writes_continued_sample : ∃ x : Release, isWrite x.command.authorization.effect = true ∧
    ∃ y ∈ portsOf ((clickingRun.1.drop 22).take 26),
      VerdictOn x.command actionCompleted .continue y := by
  have hwalk := clickingRun_walk
  have hclicks := clickingRun_clicks
  generalize clickingRun = played at hwalk hclicks ⊢
  obtain ⟨hfirst, hsecond, hmid, hwrites, _⟩ := hclicks
  obtain ⟨effect, answer, hsplit⟩ := split_of_isPerform hfirst
  obtain ⟨effect', answer', hsplit'⟩ := split_of_isPerform hsecond
  generalize (played.1.drop 22).take 26 = mid at hsplit' hmid ⊢
  have hboth := hsplit
  rw [hsplit'] at hboth
  have hassoc := hboth.trans (List.append_assoc _ (⟨.inr (.perform effect), answer⟩ :: mid) _).symm
  rcases writes_continued hwalk hassoc with ⟨_, done, rfl⟩ | ⟨x, hx, hcontinued⟩
  · obtain ⟨y, hy, hleft⟩ := List.any_eq_true.mp hmid
    obtain ⟨z, _, rfl⟩ := List.mem_map.mp hy
    cases hleft
  · rw [hsplit] at hwrites
    have hwrite := hx.write hwrites
    exact ⟨x, hwrite, (hcontinued hwrite).2⟩

end Run

end PageRuntime

end AgentPact
