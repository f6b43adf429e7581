import AgentPact.BrowserLoop.PageRuntime
import AgentPact.JsonDump

/-!
# What a runtime does to its page

Nothing is done to the page before a command is cleared: the runtime is open, the
authorization is bound to the action and the observation, the profile is allowed,
and the page was just read and is as it was observed (`Cleared`).  Then the
effects of the action are asked for in order, up to the first one that fails.

What the runtime says of it is what it did.  `Executed` has a constructor for each
way in which a call of `execute` may end, and `execute_holds` is the whole of it.
-/

namespace AgentPact

open Base Session

namespace PageRuntime

/-! ## Histories of a page -/

/-- The calls of a page and its answers. -/
abbrev PageHistory := History PageCall.Answer

/-- The effects that were asked for. -/
def performed (h : PageHistory) : List PageEffect :=
  h.filterMap fun x => match x.1 with
    | .perform effect => some effect
    | _ => none

@[simp] theorem performed_append (h h' : PageHistory) :
    performed (h ++ h') = performed h ++ performed h' := List.filterMap_append

/-- Effects that the page answered. -/
def succeeded (effects : List PageEffect) : PageHistory :=
  effects.map fun effect => ⟨.perform effect, .ok ()⟩

@[simp] theorem performed_succeeded (effects : List PageEffect) :
    performed (succeeded effects) = effects := by
  unfold performed succeeded
  rw [List.filterMap_map]
  exact List.filterMap_some

/-- The page is read. -/
def readings (html url : String) : PageHistory := [⟨.content, .ok html⟩, ⟨.url, .ok url⟩]

/-- The calls of a command that is cleared. -/
def clearance (command : AuthorizedAction) (html url selector : String) : PageHistory :=
  readings html url ++
    if command.action.kind.onElement then [⟨.count selector, .ok 1⟩] else []

@[simp] theorem performed_clearance (command : AuthorizedAction) (html url selector : String) :
    performed (clearance command html url selector) = [] := by
  unfold clearance
  split <;> rfl

/-! ## Clearance -/

/-- What is checked of a command before the page is read. -/
structure Bound (s : PageState) (command : AuthorizedAction) : Prop where
  unclosed : s.closed = false
  sameFingerprint : command.authorization.actionFingerprint = command.actionFingerprint
  sameObservation : command.authorization.observationHash = command.observationId
  profile : (decideProfile command.authorization.effect command.executionProfile).allowed = true

/-- A command may be executed on the page that was read. -/
structure Cleared (R : PageRuntime) (s : PageState) (command : AuthorizedAction)
    (html url selector : String) : Prop where
  bound : Bound s command
  snapshot : snapshotHash R.platform url html = command.expectedSnapshotHash
  element : command.action.kind.onElement = true →
    s.selectors.lookup (command.action.elementId.getD "") = some selector

/-- How a call of `execute` ends. -/
inductive Executed (R : PageRuntime) (s : PageState) (command : AuthorizedAction) :
    Except PortError BrowserActionResult → PageHistory → Prop
  /-- It is refused, and does nothing to the page. -/
  | refused {e : PortError} {h : PageHistory} (hcertain : e ≠ .runtime true)
      (hnothing : performed h = []) : Executed R s command (.error e) h
  /-- The page fails at an effect. -/
  | broken {html url selector : String} {before after : List PageEffect} {effect : PageEffect}
      {raised : Raised} (hcleared : Cleared R s command html url selector)
      (heffects : command.action.effects selector = before ++ effect :: after) :
      Executed R s command (.error (.runtime true))
        (clearance command html url selector ++ succeeded before ++
          [⟨.perform effect, .error raised⟩])
  | completed {html url selector : String} (hcleared : Cleared R s command html url selector) :
      Executed R s command (.ok actionCompleted)
        (clearance command html url selector ++ succeeded (command.action.effects selector))

/-- What holds as the page is called: an effect is the next one of a command that is cleared, and no
elements are captured. -/
structure Asks (R : PageRuntime) (s : PageState) (command : AuthorizedAction) (h : PageHistory)
    (c : PageCall) : Prop where
  keeps : c ≠ .interactables
  effect : ∀ effect, c = .perform effect → ∃ html url selector before after,
    Cleared R s command html url selector ∧
    command.action.effects selector = before ++ effect :: after ∧
    h = clearance command html url selector ++ succeeded before

variable {R : PageRuntime} {s : PageState} {command : AuthorizedAction} {h : PageHistory}

theorem Asks.of_ne {c : PageCall} (hkeeps : c ≠ .interactables)
    (hc : ∀ effect, c ≠ .perform effect) : Asks R s command h c :=
  ⟨hkeeps, fun effect heffect => absurd heffect (hc effect)⟩

theorem ok_of_mapError {ε ε' α : Type} {f : ε → ε'} {x : Except ε α} {a : α}
    (h : x.mapError f = .ok a) : x = .ok a := by
  cases x with
  | ok a' => cases h; rfl
  | error e => cases h

/-- An exception that is handed on is no `BrowserRuntimeError`. -/
theorem other_of_mapError {α : Type} {x : Except Raised α} {started : Bool}
    (h : x.mapError PortError.other = .error (.runtime started)) : False := by
  cases x <;> cases h

/-! ## Preflight -/

/-- What validating a command comes to. -/
def Validated (R : PageRuntime) (s : PageState) (command : AuthorizedAction)
    (r : Except PortError Unit) (s' : PageState) (h : PageHistory) : Prop :=
  s' = s ∧ match r with
    | .ok _ => ∃ html url, Bound s command ∧
        snapshotHash R.platform url html = command.expectedSnapshotHash ∧ h = readings html url
    | .error e => e ≠ .runtime true ∧ performed h = []

theorem validateCommand_holds :
    Holds (Asks R s command) (R.validateCommand command) s [] (Validated R s command) := by
  unfold validateCommand ensureOpen
  refine .bind (R := fun r s' h => s' = s ∧ h = [] ∧ match r with
    | .ok _ => s.closed = false
    | .error e => e = .runtime false) (.state_bind (holds_require (fun _ => ⟨rfl, rfl, rfl⟩)
      fun hopen => ⟨rfl, rfl, hopen⟩)) ?_ ?_
  case refine_2 => rintro e s' h ⟨rfl, rfl, rfl⟩; exact ⟨rfl, nofun, rfl⟩
  rintro _ s' h ⟨rfl, rfl, hopen⟩
  refine .lift_bind (fun e he => ⟨rfl, ?_, rfl⟩) fun bound hbound => ?_
  · rintro rfl
    exact other_of_mapError he
  refine .require_bind (fun _ => ⟨rfl, nofun, rfl⟩) fun htrue => ?_
  subst htrue
  refine .lift_bind (fun e he => ⟨rfl, ?_, rfl⟩) fun decision hdecision => ?_
  · rintro rfl
    exact other_of_mapError he
  obtain ⟨hfingerprint, hobservation⟩ := compareBoth_eq_true (ok_of_mapError hbound)
  have hallowed := (requireAllowedProfile_eq_ok.mp (ok_of_mapError hdecision)).1
  refine .ask_bind (.of_ne nofun fun _ => nofun) fun html => ?_
  refine .lift_bind (fun e he => ⟨rfl, ?_, rfl⟩) fun html' hhtml => ?_
  · rintro rfl
    exact other_of_mapError he
  refine .ask_bind (.of_ne nofun fun _ => nofun) fun url => ?_
  refine .lift_bind (fun e he => ⟨rfl, ?_, rfl⟩) fun url' hurl => ?_
  · rintro rfl
    exact other_of_mapError he
  refine holds_require (fun _ => ⟨rfl, nofun, rfl⟩) fun hsame => ?_
  rw [ok_of_mapError hhtml, ok_of_mapError hurl]
  exact ⟨rfl, html', url', ⟨hopen, hfingerprint, hobservation, hallowed⟩, hsame, rfl⟩

/-- What a preflight comes to. -/
def Preflighted (R : PageRuntime) (s : PageState) (command : AuthorizedAction)
    (r : Except PortError Unit) (s' : PageState) (h : PageHistory) : Prop :=
  s' = s ∧ match r with
    | .ok _ => ∃ html url selector, Cleared R s command html url selector ∧
        h = clearance command html url selector
    | .error e => e ≠ .runtime true ∧ performed h = []

/-- The element of an action has a selector, or the page may have changed. -/
theorem selectorOf_bind {G : PageHistory → PageCall → Prop} {β : Type} {action : BrowserAction}
    {f : String → OnPage β} {Q : Except PortError β → PageState → PageHistory → Prop}
    (hnone : s.selectors.lookup (action.elementId.getD "") = none → Q (.error .stale) s h)
    (hsome : ∀ selector, s.selectors.lookup (action.elementId.getD "") = some selector →
      Holds G (f selector) s h Q) : Holds G (selectorOf action >>= f) s h Q := by
  unfold selectorOf
  rw [holds_bind, holds_bind, holds_state, after_ok]
  split
  case h_1 selector hfound => exact hsome selector hfound
  case h_2 hfound => exact hnone hfound

theorem preflight_holds :
    Holds (Asks R s command) (R.preflight command) s [] (Preflighted R s command) := by
  unfold preflight
  refine validateCommand_holds.bind ?_ fun e s' h herror => herror
  rintro _ s' h ⟨rfl, html, url, hbound, hsnapshot, rfl⟩
  split
  case isFalse hkind =>
    refine ⟨rfl, html, url, "", ⟨hbound, hsnapshot, fun h => absurd h hkind⟩, ?_⟩
    unfold clearance
    rw [if_neg hkind, List.append_nil]
  case isTrue hkind =>
    refine selectorOf_bind (fun _ => ⟨rfl, nofun, rfl⟩) fun selector hselector => ?_
    refine .ask_bind (.of_ne nofun fun _ => nofun) fun count => ?_
    refine .lift_bind (fun e he => ⟨rfl, ?_, ?_⟩) fun count' hcount => ?_
    · rintro rfl
      exact other_of_mapError he
    · rfl
    · rw [ok_of_mapError hcount]
      refine holds_require (fun _ => ⟨rfl, nofun, rfl⟩) fun hunique => ?_
      refine ⟨rfl, html, url, selector, ⟨hbound, hsnapshot, fun _ => hselector⟩, ?_⟩
      unfold clearance
      rw [if_pos hkind, hunique]

/-! ## Performing -/

/-- What the calls of an action come to. -/
def Invoked (R : PageRuntime) (s : PageState) (command : AuthorizedAction)
    (html url selector : String) (r : Except PortError Unit) (s' : PageState) (h : PageHistory) :
    Prop :=
  s' = s ∧ match r with
    | .ok _ => h = clearance command html url selector ++
        succeeded (command.action.effects selector)
    | .error e => Executed R s command (.error e) h

/-- Effects are asked for one after the other, until one fails. -/
theorem performAll_holds {html url selector : String} {before after : List PageEffect}
    (hcleared : Cleared R s command html url selector)
    (heffects : command.action.effects selector = before ++ after) :
    Holds (Asks R s command) (performAll after) s
      (clearance command html url selector ++ succeeded before)
      (Invoked R s command html url selector) := by
  induction after generalizing before with
  | nil =>
      refine ⟨rfl, ?_⟩
      rw [heffects, List.append_nil]
  | cons effect after ih =>
      have hasks : Asks R s command (clearance command html url selector ++ succeeded before)
          (.perform effect) := by
        refine ⟨nofun, ?_⟩
        rintro _ ⟨⟩
        exact ⟨html, url, selector, before, after, hcleared, heffects, rfl⟩
      refine .ask_bind hasks fun answer => ?_
      cases answer with
      | error raised => exact ⟨rfl, .broken hcleared heffects⟩
      | ok _ =>
          have hnext : command.action.effects selector = (before ++ [effect]) ++ after := by
            rw [heffects, List.append_assoc]
            rfl
          have hrest := ih hnext
          unfold succeeded at hrest ⊢
          rw [List.map_append, ← List.append_assoc] at hrest
          exact hrest

/-- Where an action is on no element, its effects name no selector. -/
theorem effects_of_not_onElement {a : BrowserAction} (hkind : ¬ a.kind.onElement = true)
    (selector selector' : String) : a.effects selector = a.effects selector' := by
  unfold BrowserAction.effects
  cases hk : a.kind with
  | click => rw [hk] at hkind; exact absurd rfl hkind
  | inputText => rw [hk] at hkind; exact absurd rfl hkind
  | selectOption => rw [hk] at hkind; exact absurd rfl hkind
  | keypress => rw [hk] at hkind; exact absurd rfl hkind
  | gotoUrl => rfl
  | scroll => rfl
  | wait => rfl

theorem invoke_holds {html url selector : String}
    (hcleared : Cleared R s command html url selector) :
    Holds (Asks R s command) (invoke command) s (clearance command html url selector)
      (Invoked R s command html url selector) := by
  have hall : Holds (Asks R s command) (performAll (command.action.effects selector)) s
      (clearance command html url selector) (Invoked R s command html url selector) := by
    have hstart : Holds (Asks R s command) (performAll (command.action.effects selector)) s
        (clearance command html url selector ++ succeeded []) _ := performAll_holds hcleared rfl
    unfold succeeded at hstart
    rwa [List.map_nil, List.append_nil] at hstart
  unfold invoke
  split
  case isFalse hkind => rwa [effects_of_not_onElement hkind "" selector]
  case isTrue hkind =>
    refine .lift_bind (fun e he => ⟨rfl, .refused ?_ (performed_clearance ..)⟩) fun _ _ => ?_
    · rintro rfl
      unfold asRuntimeError at he
      cases hmechanism : requireExecutionMechanism command.executionProfile .locator with
      | ok u => rw [hmechanism] at he; cases he
      | error raised => rw [hmechanism] at he; cases he
    · refine selectorOf_bind (fun _ => ⟨rfl, .refused nofun (performed_clearance ..)⟩) ?_
      intro selector' hselector
      cases hselector.symm.trans (hcleared.element hkind)
      exact hall

/-- A call of `execute` asks only for effects of its command, after the command is cleared, and says
what it did. -/
theorem execute_holds :
    Holds (Asks R s command) (R.execute command) s []
      fun r s' h => s' = s ∧ Executed R s command r h := by
  unfold execute
  refine preflight_holds.bind ?_ fun e s' h ⟨hs, hcertain, hnothing⟩ =>
    ⟨hs, .refused hcertain hnothing⟩
  rintro _ s' h ⟨rfl, html, url, selector, hcleared, rfl⟩
  unfold executePreflighted
  refine (invoke_holds hcleared).bind ?_ fun e s' h herror => herror
  rintro _ s' h ⟨rfl, rfl⟩
  exact ⟨rfl, .completed hcleared⟩

/-- What a call of `execute` says is what it did, whatever the page answers.  It asks for all of the
action and completes, or is broken at an effect, or is refused and asks for none. -/
theorem execute_says_what_it_did {r : Except PortError BrowserActionResult} {s' : PageState}
    (hwalk : Dialogue.Walk (R.execute command s) h (.ret (r, s'))) :
    s' = s ∧ Executed R s command r h := Dialogue.Holds.ret_of_walk execute_holds hwalk

theorem sampleElements_pos : 1 ≤ 500 := by decide

/-- A runtime with the default limit. -/
def sampleRuntime : PageRuntime where
  platform := samplePlatform
  builtins := Analysis.asciiBuiltins
  dumps doc := String.ofList (Json.write (fun _ => []) doc)
  captureScreenshot := false
  maxElements := 500
  ownsPage := false
  maxElements_pos := sampleElements_pos

/-- A page with one button. -/
def samplePage : (c : PageCall) → c.Answer
  | .url => .ok "https://shop.example/"
  | .title => .ok none
  | .content => .ok "<html></html>"
  | .interactables => .ok (.arr [.obj [("selector", .str "#pay"), ("tag_name", .str "button")]])
  | .screenshot => .ok []
  | .frames => .ok ⟨[], none⟩
  | .frameMetadata _ => .ok ⟨"", .null, none⟩
  | .count _ => .ok 1
  | .perform _ => .ok ()
  | .close => .ok ()
  | .now => .utc 0

/-- A click on its button. -/
def clickCommand : AuthorizedAction where
  action := ⟨.click, "pay", some "ap-0000", none, none, none, [], 0, 0, 0⟩
  actionFingerprint := "action"
  observationId := "observation"
  expectedSnapshotHash := snapshotHash samplePlatform "https://shop.example/" "<html></html>"
  authorization := ⟨"permit", "action", "observation", "key", .externalWrite⟩
  executionProfile := ⟨.locator, 0, ["evidence"], ExecutionMechanism.locator_rank⟩

/-- The click, on the page as it was observed. -/
def clickExecution : PageHistory × Except PortError BrowserActionResult × PageState :=
  Dialogue.play (fun _ => samplePage)
    (sampleRuntime.execute clickCommand ⟨[("ap-0000", "#pay")], false⟩) []

/-- The button is clicked, as the result says. -/
theorem execute_says_what_it_did_sample : performed clickExecution.1 = [.click "#pay"] ∧
    Executed sampleRuntime ⟨[("ap-0000", "#pay")], false⟩ clickCommand (.ok actionCompleted)
      clickExecution.1 := by
  have hran : performed clickExecution.1 = [.click "#pay"] ∧ clickExecution.2.1.isOk = true := by
    decide +kernel
  have hwalk : Dialogue.Walk (sampleRuntime.execute clickCommand ⟨[("ap-0000", "#pay")], false⟩)
      clickExecution.1 (.ret clickExecution.2) := Dialogue.walk_play _ _ _
  have hexecuted := (execute_says_what_it_did hwalk).2
  generalize clickExecution = played at hran hexecuted ⊢
  obtain ⟨h, r, s'⟩ := played
  refine ⟨hran.1, ?_⟩
  cases r with
  | error e => cases hran.2
  | ok result =>
      cases hexecuted with
      | completed hcleared => exact .completed hcleared

/-! ## Observing -/

theorem fourDigits_inj {m n : Nat} (h : fourDigits m = fourDigits n) : m = n := by
  have hvalue : ∀ k, Nat.ofDigitChars 10 (fourDigits k).toList 0 = k := by
    intro k
    unfold fourDigits
    rw [String.toList_ofList, Nat.ofDigitChars_append, Nat.ofDigitChars_replicate_zero,
      Nat.mul_zero, Nat.ofDigitChars_toDigits (by decide) (by decide)]
  rw [← hvalue m, h, hvalue n]

theorem elementIdOf_inj {m n : Nat} (h : elementIdOf m = elementIdOf n) : m = n := by
  have hlists := congrArg String.toList h
  unfold elementIdOf at hlists
  rw [String.toList_append, String.toList_append] at hlists
  exact fourDigits_inj (String.toList_inj.mp (List.append_cancel_left hlists))

/-- An element that is captured has the id of its place. -/
theorem elementId_of_captured {item : Json × Nat} {e : BrowserElement × String}
    (h : R.captured item = some e) : e.1.elementId = elementIdOf item.2 := by
  unfold captured at h
  split at h
  case h_1 fields _ =>
    split at h
    case h_1 => cases h; rfl
    case h_2 => cases h
  case h_2 => cases h

/-- No two elements of a capture have one id. -/
theorem capture_pairwise (items : List Json) :
    (R.capture items).Pairwise fun e e' => e.1.elementId ≠ e'.1.elementId := by
  unfold capture
  have hindices : ((items.take R.maxElements).zipIdx.map (·.2)).Nodup := by
    rw [List.zipIdx_map_snd]
    exact List.nodup_range' ..
  refine List.pairwise_filterMap.mpr ((List.pairwise_map.mp hindices).imp ?_)
  intro item item' hne e he e' he'
  rw [elementId_of_captured he, elementId_of_captured he']
  exact fun hsame => hne (elementIdOf_inj hsame)

/-- The selector of an id is the one of the element that has it. -/
theorem lookup_selectors {elements : List (BrowserElement × String)} {id selector : String}
    (hpairwise : elements.Pairwise fun e e' => e.1.elementId ≠ e'.1.elementId) :
    (elements.map fun e => (e.1.elementId, e.2)).lookup id = some selector ↔
      ∃ element, (element, selector) ∈ elements ∧ element.elementId = id := by
  induction elements with
  | nil => simp
  | cons e elements ih =>
      obtain ⟨hfirst, hrest⟩ := List.pairwise_cons.mp hpairwise
      rw [List.map_cons, List.lookup_cons]
      by_cases hid : id = e.1.elementId
      · subst hid
        rw [beq_self_eq_true]
        constructor
        · rintro ⟨⟩
          exact ⟨e.1, List.mem_cons_self .., rfl⟩
        · rintro ⟨element, hmem, hsame⟩
          rcases List.mem_cons.mp hmem with rfl | hmem
          · rfl
          · exact absurd hsame.symm (hfirst _ hmem)
      · rw [beq_false_of_ne hid]
        refine (ih hrest).trans ⟨?_, ?_⟩
        · rintro ⟨element, hmem, hsame⟩
          exact ⟨element, List.mem_cons_of_mem _ hmem, hsame⟩
        · rintro ⟨element, hmem, hsame⟩
          rcases List.mem_cons.mp hmem with rfl | hmem
          · exact absurd hsame.symm hid
          · exact ⟨element, hmem, hsame⟩

/-- A call that does nothing to the page. -/
def Looks (_ : PageHistory) (c : PageCall) : Prop := ∀ effect, c ≠ .perform effect

/-- More was asked, and no elements were captured. -/
def Onwards (h h' : PageHistory) : Prop := ∃ more, h' = h ++ more ∧ ∀ x ∈ more, x.1 ≠ .interactables

theorem Onwards.refl (h : PageHistory) : Onwards h h :=
  ⟨[], (List.append_nil h).symm, fun _ hx => absurd hx List.not_mem_nil⟩

theorem Onwards.ask (h : PageHistory) {c : PageCall} (r : c.Answer) (hc : c ≠ .interactables) :
    Onwards h (h ++ [⟨c, r⟩]) := by
  refine ⟨_, rfl, fun x hx => ?_⟩
  cases List.mem_singleton.mp hx
  exact hc

theorem Onwards.trans {h h' h'' : PageHistory} (hh : Onwards h h') (hh' : Onwards h' h'') :
    Onwards h h'' := by
  obtain ⟨more, rfl, hmore⟩ := hh
  obtain ⟨more', rfl, hmore'⟩ := hh'
  exact ⟨more ++ more', List.append_assoc .., fun x hx =>
    (List.mem_append.mp hx).elim (hmore x) (hmore' x)⟩

/-- A later part of an observation asks on, and leaves the state. -/
def Extends (s : PageState) (h : PageHistory) {α : Type} (_ : Except PortError α) (s' : PageState)
    (h' : PageHistory) : Prop := s' = s ∧ Onwards h h'

theorem ensureOpen_bind {G : PageHistory → PageCall → Prop} {β : Type} {f : Unit → OnPage β}
    {Q : Except PortError β → PageState → PageHistory → Prop}
    (hclosed : s.closed = true → Q (.error (.runtime false)) s h)
    (hopen : s.closed = false → Holds G (f ()) s h Q) : Holds G (ensureOpen >>= f) s h Q := by
  unfold ensureOpen
  rw [holds_bind]
  exact .state_bind (holds_require (fun hnot => hclosed (Bool.of_not_eq_false hnot)) hopen)

theorem screenshot_holds : Holds Looks screenshot s h (Extends s h) := by
  unfold screenshot
  refine ensureOpen_bind (fun _ => ⟨rfl, .refl h⟩) fun _ => ?_
  exact .ask_bind (fun _ => nofun) fun bytes => ⟨rfl, .ask h bytes nofun⟩

theorem screenshots_holds : Holds Looks R.screenshots s h (Extends s h) := by
  unfold screenshots
  split
  · exact screenshot_holds.bind (fun _ _ _ hs => hs) fun _ _ _ hs => hs
  · exact ⟨rfl, .refl h⟩

theorem frameMetadata_holds {ids : List (Nat × String)} (frames : List Nat) :
    Holds Looks (R.frameMetadata ids frames) s h (Extends s h) := by
  induction frames generalizing h with
  | nil => exact ⟨rfl, .refl h⟩
  | cons frame frames ih =>
      unfold frameMetadata
      refine .ask_bind (fun _ => nofun) fun metadata => ?_
      have hasked := Onwards.ask h (c := .frameMetadata frame) metadata nofun
      refine .lift_bind (fun _ _ => ⟨rfl, hasked⟩) fun metadata _ => ?_
      refine ih.bind ?_ fun _ _ _ ⟨hs, hmore⟩ => ⟨hs, hasked.trans hmore⟩
      rintro rest s' h' ⟨rfl, hmore⟩
      exact ⟨rfl, hasked.trans hmore⟩

theorem enumerateIframes_holds : Holds Looks R.enumerateIframes s h (Extends s h) := by
  unfold enumerateIframes
  refine ensureOpen_bind (fun _ => ⟨rfl, .refl h⟩) fun _ => ?_
  refine .ask_bind (fun _ => nofun) fun found => ?_
  have hasked := Onwards.ask h (c := .frames) found nofun
  refine .lift_bind (fun _ _ => ⟨rfl, hasked⟩) fun found _ => ?_
  split
  · exact ⟨rfl, hasked⟩
  · exact (frameMetadata_holds _).mono fun _ _ _ ⟨hs, hmore⟩ => ⟨hs, hasked.trans hmore⟩

/-- The page is read, and its elements are captured. -/
def capturing (raw : RawBrowserObservation) (items : List Json) : PageHistory :=
  [⟨.url, .ok raw.url⟩, ⟨.title, .ok raw.title⟩, ⟨.content, .ok raw.pageHtml⟩,
    ⟨.interactables, .ok (.arr items)⟩]

/-- The runtime observed its page: it captured the elements once, right after it read the page.  It
shows them to the model, and remembers their selectors. -/
structure Observed (R : PageRuntime) (s' : PageState) (o : PageObservation) (items : List Json)
    (h : PageHistory) : Prop where
  captured : Onwards (capturing o.raw items) h
  modelDom : o.raw.modelDom = R.dumps (.arr ((R.capture items).map (·.1.modelDump)))
  selectors : s'.selectors = (R.capture items).map fun e => (e.1.elementId, e.2)

theorem observe_holds :
    Holds Looks R.observe s [] fun r s' h => ∀ o, r = .ok o → ∃ items, Observed R s' o items h := by
  unfold observe pageState captureInteractableTree
  refine ensureOpen_bind (fun _ => nofun) fun _ => ?_
  rw [holds_bind]
  refine ensureOpen_bind (fun _ => nofun) fun _ => ?_
  refine .ask_bind (fun _ => nofun) fun url => .lift_bind (fun _ _ => nofun) fun url' hurl => ?_
  refine .ask_bind (fun _ => nofun) fun title => .lift_bind (fun _ _ => nofun) fun title' htitle => ?_
  refine .ask_bind (fun _ => nofun) fun html => .lift_bind (fun _ _ => nofun) fun html' hhtml => ?_
  rw [holds_pure, after_ok, holds_bind]
  refine .ask_bind (fun _ => nofun) fun raw => .lift_bind (fun _ _ => nofun) fun raw' hraw => ?_
  rw [ok_of_mapError hurl, ok_of_mapError htitle, ok_of_mapError hhtml, ok_of_mapError hraw]
  split
  case h_2 => exact nofun
  case h_1 items =>
  rw [holds_bind, holds_change, after_ok, holds_pure, after_ok]
  refine screenshots_holds.bind ?_ fun _ _ _ _ => nofun
  rintro screenshots s' h ⟨rfl, hscreenshots⟩
  refine enumerateIframes_holds.bind ?_ fun _ _ _ _ => nofun
  rintro iframes s' h' ⟨rfl, hiframes⟩
  refine .ask_bind (fun _ => nofun) fun capturedAt => ?_
  rintro _ ⟨⟩
  have hmore := (hscreenshots.trans hiframes).trans (.ask h' (c := .now) capturedAt nofun)
  exact ⟨items, hmore, rfl, rfl⟩

end PageRuntime

end AgentPact
