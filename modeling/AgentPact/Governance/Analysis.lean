import AgentPact.Base.LowerCase
import AgentPact.Governance.Admission
import AgentPact.Governance.ExecutionGuard

/-!
# The analysis of actions

What an action is taken for, and what the policy says to it
(`governance/analysis.py`).

An action on an element is classified by words in the text of the element.  More
words can only be found when the text goes on, and each class that is gated comes
before the classes that are not.  `appended_is_gated` is the result: an action
that is gated stays gated, whatever is appended to the text of its element.
-/

namespace AgentPact

open Base

namespace Analysis

/-! ## Records -/

/-- Whether a page is ready. -/
inductive PageReadiness where
  | loading | ready | transitioning | blocked | unknown
deriving DecidableEq, Repr

/-- The text of a readiness. -/
def PageReadiness.value : PageReadiness → String
  | .loading => "loading"
  | .ready => "ready"
  | .transitioning => "transitioning"
  | .blocked => "blocked"
  | .unknown => "unknown"

/-- What is observed of a page, as far as the analysis reads it. -/
structure ObservationContext where
  observationId : String
  pageUrl : String
  snapshotHash : String
  readiness : PageReadiness
  readinessConfidence : Rat

/-- What an action is taken for. -/
structure ActionIntent where
  intentId : String
  taskId : String
  stepId : String
  actionFingerprint : String
  observationId : String
  operation : String
  effect : ExecutionEffect
  target : List (String × Json)
  sensitiveDataTypes : List String
  extractedFacts : List (String × Json)
  confidence : Rat
  evidence : List String
  expectedOutcome : List (String × Json)

/-- The functions of Python on texts. -/
structure Builtins where
  /-- `str`, of a value that is no text. -/
  strOf : Json → String
  /-- `str.strip`. -/
  strip : String → String
  /-- `str.lower`. -/
  cases : CaseTable

namespace Builtins

variable (B : Builtins)

/-- `str`. -/
def str : Json → String
  | .str s => s
  | value => B.strOf value

/-- `str.lower`. -/
def lower (text : String) : String := B.cases.lower text

end Builtins

/-- Whether a value counts as true. -/
def truthy : Json → Bool
  | .null => false
  | .bool b => b
  | .num n => n ≠ 0
  | .real q => q ≠ 0
  | .str s => s ≠ ""
  | .arr xs => !xs.isEmpty
  | .obj fields => !fields.isEmpty

/-- Whether one of some words is in a text. -/
def mentions (text : String) (words : List String) : Bool :=
  words.any fun word => decide (word.toList <:+: text.toList)

/-! ## Elements -/

/-- An element, if the action has one. -/
abbrev Element := Option (List (String × Json))

/-- `if not element`. -/
def Element.fields? : Element → Option (List (String × Json))
  | some (field :: fields) => some (field :: fields)
  | _ => none

/-- `element.get("attributes") or {}`.  What is no dictionary has no attributes to get. -/
def attributesOf (fields : List (String × Json)) : Except Raised (List (String × Json)) :=
  match (Json.obj fields).field? "attributes" with
  | some (.obj attributes) => .ok attributes
  | some value =>
      if truthy value then .error ⟨.attributeError, "object has no attribute"⟩ else .ok []
  | none => .ok []

/-- The values that make up the text of an element. -/
def textValues (fields attributes : List (String × Json)) : List (Option Json) :=
  [(Json.obj fields).field? "text", (Json.obj attributes).field? "aria-label",
    (Json.obj attributes).field? "title", (Json.obj attributes).field? "value"]

variable (B : Builtins)

/-- The text of a value, which is not there where the value counts as false. -/
def textOf? (value : Option Json) : Option String :=
  (value.filter fun value => truthy value).map B.str

/-- `_element_text`. -/
def elementText (element : Element) : Except Raised String :=
  match element.fields? with
  | none => .ok ""
  | some fields => do
      let attributes ← attributesOf fields
      pure (" ".intercalate ((textValues fields attributes).filterMap (textOf? B)))

/-- The name of a fact, for an attribute that states one. -/
def factName? (key : String) : Option String :=
  let normalizedKey := (B.lower key).toList
  if "data-".toList <+: normalizedKey then
    let fieldName := (normalizedKey.drop 5).map fun c => if c = '-' then '_' else c
    if "governance_".toList <+: fieldName then none else some (String.ofList fieldName)
  else none

/-- `_element_facts`. -/
def elementFacts (element : Element) : Except Raised (List (String × Json)) :=
  match element.fields? with
  | none => .ok []
  | some fields => do
      let attributes ← attributesOf fields
      pure (attributes.foldl (fun facts a =>
        match factName? B a.1 with
        | some name => Json.setField name a.2 facts
        | none => facts) [])

/-! ## Classes -/

/-- `_CRITICAL_WORDS`. -/
def criticalWords : List String := ["transfer", "payment", "wire", "delete"]

/-- `_READ_WORDS`. -/
def readWords : List String :=
  ["download", "export", "extract", "read", "search", "navigate", "query"]

/-- `_SENSITIVE_DOWNLOAD_WORDS`. -/
def sensitiveDownloadWords : List String :=
  ["customer", "statement", "account", "transaction", "beneficiary"]

/-- `SUPPORTED_TYPED_ACTION_TYPES`. -/
def supportedTypedActionTypes : List String :=
  ["checkbox", "click", "close_page", "complete", "download_file", "drag", "extract", "goto_url",
    "hover", "input_text", "keypress", "left_mouse", "move", "null_action", "reload_page", "scroll",
    "select_option", "solve_captcha", "terminate", "upload_file", "verification_code", "wait"]

/-- `normalize_typed_action_type`. -/
def normalizeTypedActionType (value : Option Json) : String :=
  let normalized := B.lower (B.strip ((textOf? B value).getD ""))
  if normalized ∈ supportedTypedActionTypes then normalized else "unknown"

/-- `_operation`. -/
def operation (actionType targetText : String) : String :=
  let combined := actionType ++ " " ++ targetText
  if mentions combined ["approve"] then "approve"
  else if mentions combined criticalWords then
    if mentions combined ["transfer", "payment", "wire", "pay"] then "payment" else "delete"
  else if mentions combined ["submit"] || mentions combined ["confirm"] then "submit"
  else if mentions combined readWords then
    if mentions combined ["download", "export"] then "download" else "read"
  else actionType

/-- `_effect`. -/
def effectOf (operation : String) : ExecutionEffect :=
  if operation ∈ ["payment", "delete"] then .externalWrite
  else if operation ∈ ["approve", "submit", "input_text", "click", "select_option"] then
    .internalWrite
  else if operation ∈ ["download", "read", "navigate", "extract"] then .read
  else .none

/-- `_sensitive_data_types`. -/
def sensitiveDataTypes (operation targetText : String) : List String :=
  if operation = "download" ∧ mentions (B.lower targetText) sensitiveDownloadWords = true then
    ["financial"]
  else if mentions (B.lower targetText) ["password"] then ["credential"]
  else []

/-! ## Analysis -/

/-- An action of a step of a task. -/
structure TypedAction where
  taskId : String
  stepId : String
  /-- `action.model_dump(mode="json", exclude_none=True)`. -/
  payload : List (String × Json)

/-- `analyze_action`.  The identifier is fresh. -/
def analyzeAction (P : Platform) (action : TypedAction) (observation : ObservationContext)
    (element : Element) (hmacSecret : Option String) (intentId : String) :
    Except Raised ActionIntent := do
  let actionType := normalizeTypedActionType B ((Json.obj action.payload).field? "action_type")
  let shown ← elementText B element
  let text := B.lower shown
  let operation := operation actionType text
  let fingerprint ← Guard.actionFingerprint P
    ⟨action.taskId, action.stepId, Guard.Value.ofFields action.payload⟩ observation.snapshotHash hmacSecret
  let facts ← elementFacts B element
  pure
    { intentId := intentId
      taskId := action.taskId
      stepId := action.stepId
      actionFingerprint := fingerprint
      observationId := observation.observationId
      operation := operation
      effect := effectOf operation
      target := [("element_id", ((Json.obj action.payload).field? "element_id").getD .null),
        ("text", .str shown)]
      sensitiveDataTypes := sensitiveDataTypes B operation text
      extractedFacts := facts
      confidence := if element.fields?.isSome then 7 / 10 else 45 / 100
      evidence := ["action_type=" ++ actionType,
        "target_text=" ++ String.ofList (shown.toList.take 120)]
      expectedOutcome := [("page_url", .str observation.pageUrl)] }

/-- `MIN_READINESS_CONFIDENCE`. -/
def minReadinessConfidence : Rat := 6 / 10

/-- What the policy says of an observation, if it says anything. -/
def readinessVerdict? (observation : ObservationContext) :
    Option (DecisionOutcome × RiskLevel × List String) :=
  match observation.readiness with
  | .loading | .transitioning | .blocked =>
      some (.needsHuman, .unknown, ["Page readiness is " ++ observation.readiness.value])
  | .unknown => some (.needsHuman, .unknown, ["Page readiness is unknown"])
  | .ready =>
      if observation.readinessConfidence < minReadinessConfidence then
        some (.needsHuman, .unknown,
          ["Page readiness confidence is below the governed minimum of 0.60"])
      else none

/-- What the policy says of an intent. -/
def intentVerdict (intent : ActionIntent) : DecisionOutcome × RiskLevel × List String :=
  if intent.effect = .externalWrite ∧ intent.confidence < 6 / 10 then
    (.needsHuman, .unknown, ["External state change has insufficient grounded target evidence"])
  else if intent.operation ∈ ["payment", "approve", "delete"] then
    (.requireApproval, if intent.operation ∈ ["payment", "delete"] then .critical else .high,
      ["High-impact operation classified as " ++ intent.operation])
  else if intent.operation = "submit" then
    (.requireApproval, .high, ["Submit operation may cross a business commit boundary"])
  else if intent.operation = "download" ∧ "financial" ∈ intent.sensitiveDataTypes then
    (.requireApproval, .high, ["Download target appears to contain financial customer data"])
  else (.allow, .low, ["Audit-only baseline rule"])

/-- Whether a contract has expired. -/
def hasExpired (taskContract : Option Admission.TaskContract) (now : DateTime) :
    Except Raised Bool :=
  match taskContract.bind (·.expiresAt) with
  | some expiresAt => expiresAt.le now
  | none => .ok false

/-- `evaluate_audit_policy`.  The identifier is fresh. -/
def evaluateAuditPolicy (intent : ActionIntent) (observation : Option ObservationContext)
    (taskContract : Option Admission.TaskContract) (policyVersion : String) (now : DateTime)
    (decisionId : String) : Except Raised PolicyDecision := do
  let expired ← hasExpired taskContract now
  let outside := taskContract.any fun contract =>
    contract.allowedOperations ≠ ∅ && intent.operation ∉ contract.allowedOperations
  let verdict : DecisionOutcome × RiskLevel × List String :=
    if expired then (.deny, .high, ["Task contract has expired"])
    else if outside then
      (.deny, .high, ["Operation " ++ intent.operation ++ " is outside the task contract"])
    else
      match observation.bind readinessVerdict? with
      | some verdict => verdict
      | none => intentVerdict intent
  pure
    { decisionId := decisionId
      intentId := intent.intentId
      outcome := verdict.1
      riskLevel := verdict.2.1
      reasons := verdict.2.2
      matchedRules := ["audit:" ++ intent.operation ++ ":" ++ intent.effect.value]
      policyVersion := policyVersion }

/-! ## Words of an element -/

/-- The four texts of an element. -/
def shownTexts (element : Element) : Except Raised (List String) :=
  match element.fields? with
  | none => .ok ["", "", "", ""]
  | some fields => do
      let attributes ← attributesOf fields
      pure ((textValues fields attributes).map fun value => (textOf? B value).getD "")

/-- Each of the four texts of an element goes on in the other. -/
def Extends (element changed : Element) : Prop :=
  ∃ texts texts', shownTexts B element = .ok texts ∧ shownTexts B changed = .ok texts' ∧
    List.Forall₂ (fun text text' => ∃ more, text' = text ++ more) texts texts'

/-- The words the classes are told by. -/
def classWords : List String :=
  ["approve", "pay", "submit", "confirm"] ++ criticalWords ++ readWords ++ sensitiveDownloadWords

theorem isWord_of_mem : ∀ word ∈ classWords, CaseTable.IsWord word.toList := by decide

theorem mentions_iff {text : String} {words : List String} :
    mentions text words = true ↔ ∃ word ∈ words, word.toList <:+: text.toList := by
  simp [mentions]

theorem flatMap_intercalate {g : Char → List Char} (hg : g ' ' = [' ']) (parts : List (List Char)) :
    ([' '].intercalate parts).flatMap g = [' '].intercalate (parts.map fun part => part.flatMap g) := by
  induction parts with
  | nil => rfl
  | cons part parts ih =>
      cases parts with
      | nil => simp [List.intercalate]
      | cons next parts =>
          show (part ++ ' ' :: [' '].intercalate (next :: parts)).flatMap g = _
          rw [List.flatMap_append, List.flatMap_cons, hg, ih]
          rfl

/-- A word is in the text of an element if and only if it is in one of the four texts. -/
theorem infix_elementText_iff {word : List Char} (hword : CaseTable.IsWord word)
    {g : Char → List Char} (hg : g ' ' = [' ']) {element : Element} {shown : String}
    {texts : List String} (hshown : elementText B element = .ok shown)
    (htexts : shownTexts B element = .ok texts) :
    word <:+: shown.toList.flatMap g ↔ ∃ text ∈ texts, word <:+: text.toList.flatMap g := by
  have hblank : ' ' ∉ word := fun h => (hword.2 _ h).1 rfl
  unfold elementText at hshown
  unfold shownTexts at htexts
  cases hfields : element.fields? with
  | none =>
      rw [hfields] at hshown htexts
      cases hshown
      cases htexts
      have hempty : ¬ word <:+: [] := fun h => hword.1 (List.infix_nil.mp h)
      simp [hempty]
  | some fields =>
      rw [hfields] at hshown htexts
      obtain ⟨attributes, hattributes, hshown⟩ := except_bind_eq_ok.mp hshown
      obtain ⟨attributes', hattributes', htexts⟩ := except_bind_eq_ok.mp htexts
      obtain rfl := Except.ok.inj (hattributes.symm.trans hattributes')
      cases hshown
      cases htexts
      rw [String.toList_intercalate, show " ".toList = [' '] from rfl, flatMap_intercalate hg,
        infix_intercalate_iff hword.1 hblank]
      constructor
      · rintro ⟨part, hpart, hinfix⟩
        obtain ⟨letters, hletters, rfl⟩ := List.mem_map.mp hpart
        obtain ⟨text, htext, rfl⟩ := List.mem_map.mp hletters
        obtain ⟨value, hvalue, hsome⟩ := List.mem_filterMap.mp htext
        exact ⟨text, List.mem_map.mpr ⟨value, hvalue, by rw [hsome]; rfl⟩, hinfix⟩
      · rintro ⟨text, htext, hinfix⟩
        obtain ⟨value, hvalue, rfl⟩ := List.mem_map.mp htext
        cases hsome : textOf? B value with
        | none =>
            rw [hsome] at hinfix
            exact absurd (List.infix_nil.mp hinfix) hword.1
        | some text =>
            rw [hsome] at hinfix
            exact ⟨_, List.mem_map_of_mem (List.mem_map_of_mem
              (List.mem_filterMap.mpr ⟨value, hvalue, hsome⟩)), hinfix⟩

variable {B}

/-- A word of an element is a word of what the element goes on to. -/
theorem Extends.infix_flatMap {element changed : Element} (hext : Extends B element changed)
    {word : List Char} (hword : CaseTable.IsWord word) {g : Char → List Char} (hg : g ' ' = [' '])
    {shown shown' : String} (hshown : elementText B element = .ok shown)
    (hshown' : elementText B changed = .ok shown') (h : word <:+: shown.toList.flatMap g) :
    word <:+: shown'.toList.flatMap g := by
  obtain ⟨texts, texts', htexts, htexts', hforall⟩ := hext
  obtain ⟨text, htext, hinfix⟩ := (infix_elementText_iff B hword hg hshown htexts).mp h
  obtain ⟨text', htext', more, rfl⟩ := exists_of_forall₂_right hforall.flip htext
  refine (infix_elementText_iff B hword hg hshown' htexts').mpr ⟨_, htext', ?_⟩
  rw [String.toList_append, List.flatMap_append]
  exact List.infix_append_of_infix_left hinfix

/-- Words that are found in an element are found in what it goes on to. -/
theorem Extends.mentions {element changed : Element} (hext : Extends B element changed)
    {words : List String} (hwords : words ⊆ classWords) {actionType shown shown' : String}
    (hshown : elementText B element = .ok shown) (hshown' : elementText B changed = .ok shown')
    (h : Analysis.mentions (actionType ++ " " ++ B.lower shown) words = true) :
    Analysis.mentions (actionType ++ " " ++ B.lower shown') words = true := by
  have htoList : ∀ text : String, (actionType ++ " " ++ text).toList =
      actionType.toList ++ ' ' :: text.toList := by
    intro text
    rw [String.toList_append, String.toList_append, List.append_assoc]
    rfl
  obtain ⟨word, hmem, hinfix⟩ := mentions_iff.mp h
  have hword := isWord_of_mem word (hwords hmem)
  have hblank : ' ' ∉ word.toList := fun h => (hword.2 _ h).1 rfl
  refine mentions_iff.mpr ⟨word, hmem, ?_⟩
  rw [htoList, infix_blank_iff hword.1 hblank] at hinfix ⊢
  refine hinfix.imp_right fun hlower => ?_
  rw [Builtins.lower, B.cases.infix_lower_iff hword] at hlower ⊢
  exact hext.infix_flatMap hword B.cases.plainLower_blank hshown hshown' hlower

/-- The same for words in a text that is put in lower case once more. -/
theorem Extends.mentions_lower {element changed : Element} (hext : Extends B element changed)
    {words : List String} (hwords : words ⊆ classWords) {shown shown' : String}
    (hshown : elementText B element = .ok shown) (hshown' : elementText B changed = .ok shown')
    (h : Analysis.mentions (B.lower (B.lower shown)) words = true) :
    Analysis.mentions (B.lower (B.lower shown')) words = true := by
  obtain ⟨word, hmem, hinfix⟩ := mentions_iff.mp h
  have hword := isWord_of_mem word (hwords hmem)
  refine mentions_iff.mpr ⟨word, hmem, ?_⟩
  have hblank : (B.cases.plainLower ' ').flatMap B.cases.plainLower = [' '] := by
    rw [B.cases.plainLower_blank, List.flatMap_singleton, B.cases.plainLower_blank]
  rw [Builtins.lower, Builtins.lower, B.cases.infix_lower_lower_iff hword, List.flatMap_assoc]
    at hinfix ⊢
  exact hext.infix_flatMap hword hblank hshown hshown' hinfix

/-! ## What is gated -/

/-- The classes that are always gated. -/
def gatedOperations : List String := ["approve", "payment", "delete", "submit"]

/-- The words that lead to one of them. -/
def gatedWords : List String := ["approve", "submit", "confirm"] ++ criticalWords

/-- An action is in a gated class if and only if a word of these classes is found. -/
theorem mem_gatedOperations_iff {actionType text : String} (htype : actionType ∉ gatedOperations) :
    operation actionType text ∈ gatedOperations ↔
      mentions (actionType ++ " " ++ text) gatedWords = true := by
  have hwords : mentions (actionType ++ " " ++ text) gatedWords =
      (mentions (actionType ++ " " ++ text) ["approve"] ||
        (mentions (actionType ++ " " ++ text) ["submit"] ||
          (mentions (actionType ++ " " ++ text) ["confirm"] ||
            mentions (actionType ++ " " ++ text) criticalWords))) := by
    simp [mentions, gatedWords]
  rw [hwords]
  unfold operation
  dsimp only
  split_ifs with happrove hcritical hpay hsubmit hread hdownload
  · simp [happrove, gatedOperations]
  · simp [hcritical, gatedOperations]
  · simp [hcritical, gatedOperations]
  · rw [Bool.or_eq_true] at hsubmit
    rcases hsubmit with h | h <;> simp [h, gatedOperations]
  · rw [Bool.or_eq_true, not_or] at hsubmit
    simp [happrove, hcritical, hsubmit.1, hsubmit.2, gatedOperations]
  · rw [Bool.or_eq_true, not_or] at hsubmit
    simp [happrove, hcritical, hsubmit.1, hsubmit.2, gatedOperations]
  · rw [Bool.or_eq_true, not_or] at hsubmit
    simp [happrove, hcritical, hsubmit.1, hsubmit.2, htype]

/-- An action is a download or gated, if words of a download are found. -/
theorem gated_or_download {actionType text : String}
    (hread : mentions (actionType ++ " " ++ text) readWords = true)
    (hdownload : mentions (actionType ++ " " ++ text) ["download", "export"] = true) :
    operation actionType text ∈ gatedOperations ∨ operation actionType text = "download" := by
  unfold operation
  dsimp only
  split_ifs
  · exact .inl (by decide)
  · exact .inl (by decide)
  · exact .inl (by decide)
  · exact .inl (by decide)
  · exact .inr rfl

/-- Words of a download are found in what is one. -/
theorem mentions_of_download {actionType text : String} (htype : actionType ≠ "download")
    (h : operation actionType text = "download") :
    mentions (actionType ++ " " ++ text) readWords = true ∧
      mentions (actionType ++ " " ++ text) ["download", "export"] = true := by
  unfold operation at h
  dsimp only at h
  split_ifs at h with happrove hcritical hpay hsubmit hread hdownload
  · exact absurd h (by decide)
  · exact absurd h (by decide)
  · exact absurd h (by decide)
  · exact absurd h (by decide)
  · exact ⟨hread, hdownload⟩
  · exact absurd h (by decide)
  · exact absurd h htype

/-- No action type is the name of a class that can be gated. -/
theorem normalizeTypedActionType_spec (value : Option Json) :
    normalizeTypedActionType B value ∉ gatedOperations ∧
      normalizeTypedActionType B value ≠ "download" := by
  have hall : ∀ name ∈ supportedTypedActionTypes, name ∉ gatedOperations ∧ name ≠ "download" := by
    decide
  unfold normalizeTypedActionType
  dsimp only
  split
  case isTrue h => exact hall _ h
  case isFalse => decide

/-- An intent is gated: its class is, or it downloads financial data. -/
def ActionIntent.IsGated (intent : ActionIntent) : Prop :=
  intent.operation ∈ gatedOperations ∨
    intent.operation = "download" ∧ "financial" ∈ intent.sensitiveDataTypes

/-- What the policy says of a gated intent is not that it may go on. -/
theorem intentVerdict_ne_allow {intent : ActionIntent} (h : intent.IsGated) :
    (intentVerdict intent).1 ≠ .allow := by
  unfold intentVerdict
  split_ifs with hweak hhigh hcritical hsubmit hfinancial
  · nofun
  · nofun
  · nofun
  · nofun
  · nofun
  · rcases h with hgated | hdownload
    · simp only [gatedOperations, List.mem_cons, List.not_mem_nil, or_false] at hgated hhigh
      tauto
    · exact absurd hdownload hfinancial

theorem readinessVerdict?_ne_allow {observation : ObservationContext}
    {verdict : DecisionOutcome × RiskLevel × List String}
    (h : readinessVerdict? observation = some verdict) : verdict.1 ≠ .allow := by
  unfold readinessVerdict? at h
  split at h
  case h_5 =>
    split at h
    case isTrue => cases h; nofun
    case isFalse => cases h
  all_goals
    cases h
    nofun

/-- No policy decision about a gated intent is `ALLOW`. -/
theorem evaluateAuditPolicy_ne_allow {intent : ActionIntent} (hgated : intent.IsGated)
    {observation : Option ObservationContext} {taskContract : Option Admission.TaskContract}
    {policyVersion decisionId : String} {now : DateTime} {decision : PolicyDecision}
    (h : evaluateAuditPolicy intent observation taskContract policyVersion now decisionId =
      .ok decision) :
    decision.outcome ≠ .allow := by
  unfold evaluateAuditPolicy at h
  obtain ⟨expired, -, h⟩ := except_bind_eq_ok.mp h
  obtain rfl := Except.ok.inj h
  dsimp only
  split
  · nofun
  · split
    · nofun
    · split
      case h_1 verdict hverdict =>
        obtain ⟨seen, -, hseen⟩ := Option.bind_eq_some_iff.mp hverdict
        exact readinessVerdict?_ne_allow hseen
      case h_2 => exact intentVerdict_ne_allow hgated

/-- What an analysis takes an action for. -/
theorem analyzeAction_eq_ok {P : Platform} {action : TypedAction} {observation : ObservationContext}
    {element : Element} {hmacSecret : Option String} {intentId : String} {intent : ActionIntent}
    (h : analyzeAction B P action observation element hmacSecret intentId = .ok intent) :
    ∃ shown, elementText B element = .ok shown ∧
      intent.operation = operation (normalizeTypedActionType B
        ((Json.obj action.payload).field? "action_type")) (B.lower shown) ∧
      intent.sensitiveDataTypes =
        sensitiveDataTypes B intent.operation (B.lower shown) := by
  dsimp only [analyzeAction] at h
  obtain ⟨shown, hshown, h⟩ := except_bind_eq_ok.mp h
  obtain ⟨fingerprint, -, h⟩ := except_bind_eq_ok.mp h
  obtain ⟨facts, -, h⟩ := except_bind_eq_ok.mp h
  obtain rfl := Except.ok.inj h
  exact ⟨shown, hshown, by dsimp only, by dsimp only⟩

/-- A download has financial data if and only if its text says so. -/
theorem financial_mem_iff {targetText : String} :
    "financial" ∈ sensitiveDataTypes B "download" targetText ↔
      mentions (B.lower targetText) sensitiveDownloadWords = true := by
  unfold sensitiveDataTypes
  split_ifs with hfinancial hpassword
  · simp [hfinancial.2]
  · simpa using hfinancial
  · simpa using hfinancial

/-- An action that is gated on an element is gated on what the element goes on to. -/
theorem isGated_of_extends {P : Platform} {action : TypedAction} {observation : ObservationContext}
    {element changed : Element} {hmacSecret : Option String} {intentId intentId' : String}
    {intent intent' : ActionIntent} (hext : Extends B element changed)
    (h : analyzeAction B P action observation element hmacSecret intentId = .ok intent)
    (h' : analyzeAction B P action observation changed hmacSecret intentId' = .ok intent')
    (hgated : intent.IsGated) : intent'.IsGated := by
  obtain ⟨shown, hshown, hoperation, htypes⟩ := analyzeAction_eq_ok h
  obtain ⟨shown', hshown', hoperation', htypes'⟩ := analyzeAction_eq_ok h'
  obtain ⟨htype, hnot⟩ :=
    normalizeTypedActionType_spec (B := B) ((Json.obj action.payload).field? "action_type")
  rcases hgated with hgated | ⟨hdownload, hfinancial⟩
  · left
    rw [hoperation, mem_gatedOperations_iff htype] at hgated
    rw [hoperation', mem_gatedOperations_iff htype]
    exact hext.mentions (by decide) hshown hshown' hgated
  · rw [htypes, hdownload, financial_mem_iff] at hfinancial
    rw [hoperation] at hdownload
    obtain ⟨hread, hwords⟩ := mentions_of_download hnot hdownload
    rcases gated_or_download (hext.mentions (by decide) hshown hshown' hread)
      (hext.mentions (by decide) hshown hshown' hwords) with hgated' | hdownload'
    · exact .inl (hoperation' ▸ hgated')
    · right
      rw [← hoperation'] at hdownload'
      refine ⟨hdownload', ?_⟩
      rw [htypes', hdownload', financial_mem_iff]
      exact hext.mentions_lower (by decide) hshown hshown' hfinancial

/-- An action that is approved, pays, deletes, submits or downloads financial data on an element is
not let through, whatever is appended to the texts of the element. -/
theorem appended_is_gated {P : Platform} {action : TypedAction} {observation : ObservationContext}
    {element changed : Element} {hmacSecret : Option String} {intentId intentId' : String}
    {intent intent' : ActionIntent} (hext : Extends B element changed)
    (h : analyzeAction B P action observation element hmacSecret intentId = .ok intent)
    (hgated : intent.operation = "approve" ∨ intent.operation = "payment" ∨
      intent.operation = "delete" ∨ intent.operation = "submit" ∨
      intent.operation = "download" ∧ "financial" ∈ intent.sensitiveDataTypes)
    (h' : analyzeAction B P action observation changed hmacSecret intentId' = .ok intent')
    {seen : Option ObservationContext} {taskContract : Option Admission.TaskContract}
    {policyVersion decisionId : String} {now : DateTime} {decision : PolicyDecision}
    (hdecision : evaluateAuditPolicy intent' seen taskContract policyVersion now decisionId =
      .ok decision) :
    decision.outcome ≠ .allow := by
  refine evaluateAuditPolicy_ne_allow (isGated_of_extends hext h h' ?_) hdecision
  simp only [ActionIntent.IsGated, gatedOperations, List.mem_cons, List.not_mem_nil, or_false]
  tauto

/-! ## Example -/

/-- `str` of nothing but texts, and the letters of ASCII. -/
def asciiBuiltins : Builtins where
  strOf _ := ""
  strip := id
  cases := asciiCases

/-- A click. -/
def click : TypedAction := ⟨"task", "step", [("action_type", .str "click")]⟩

/-- A page that is ready. -/
def readyPage : ObservationContext := ⟨"observation", "https://bank.example", "hash", .ready, 1⟩

/-- A button with a label. -/
def button (label : String) : Element := some [("text", .str label)]

theorem appended_is_gated_sample :
    ∃ intent intent' decision,
      analyzeAction asciiBuiltins Guard.signingPlatform click readyPage (button "Confirm")
        (some "key") "first" = .ok intent ∧
      analyzeAction asciiBuiltins Guard.signingPlatform click readyPage
        (button "Confirm, or export the report") (some "key") "second" = .ok intent' ∧
      evaluateAuditPolicy intent' (some readyPage) none "phase2-v1" (.utc 0) "decision" =
        .ok decision ∧ decision.outcome ≠ .allow := by
  obtain ⟨intent, h⟩ : ∃ intent, analyzeAction asciiBuiltins Guard.signingPlatform click readyPage
      (button "Confirm") (some "key") "first" = .ok intent := ⟨_, rfl⟩
  obtain ⟨intent', h'⟩ : ∃ intent, analyzeAction asciiBuiltins Guard.signingPlatform click readyPage
      (button "Confirm, or export the report") (some "key") "second" = .ok intent := ⟨_, rfl⟩
  obtain ⟨decision, hdecision⟩ : ∃ decision, evaluateAuditPolicy intent' (some readyPage) none
      "phase2-v1" (.utc 0) "decision" = .ok decision := ⟨_, rfl⟩
  have hext : Extends asciiBuiltins (button "Confirm") (button "Confirm, or export the report") :=
    ⟨_, _, rfl, rfl, .cons ⟨", or export the report", by decide⟩ (.cons ⟨"", rfl⟩
      (.cons ⟨"", rfl⟩ (.cons ⟨"", rfl⟩ .nil)))⟩
  have hsubmit : intent.operation = "submit" := by
    obtain ⟨shown, hshown, hoperation, -⟩ := analyzeAction_eq_ok h
    have htext : elementText asciiBuiltins (button "Confirm") = .ok "Confirm" := by decide +kernel
    obtain rfl := Except.ok.inj (htext.symm.trans hshown)
    rw [hoperation]
    decide +kernel
  exact ⟨intent, intent', decision, h, h', hdecision,
    appended_is_gated hext h (.inr (.inr (.inr (.inl hsubmit)))) h' hdecision⟩

end Analysis

end AgentPact
