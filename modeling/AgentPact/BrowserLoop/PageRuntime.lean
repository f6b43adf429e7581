import AgentPact.BrowserLoop.Loop
import AgentPact.Governance.Analysis

/-!
# The runtime of a page

`PlaywrightPageRuntime` of `browser_loop/runtime.py`, with the mechanisms of
`governance/execution_profiles.py` that it asks for.

The runtime is a session with its page.  A call of the page is a question, and the
page may answer it with a value or with an exception of its own, whatever it
answered before: between two calls it may have become another page.

The runtime remembers which selector each element of its last capture had, and
whether it was closed.  `PageEffect` are the calls that do something to the page,
and `BrowserAction.effects` the ones that an action stands for.
-/

namespace AgentPact

open Base Session

/-! ## Mechanisms -/

/-- The text of a mechanism. -/
def ExecutionMechanism.value : ExecutionMechanism → String
  | .locator => "locator"
  | .label => "label"
  | .coordinate => "coordinate"
  | .javascript => "javascript"
  | .cuaCoordinate => "cua_coordinate"

/-- `execution_mechanism_is_allowed`, with the profile that is active. -/
def executionMechanismIsAllowed (active : Option ExecutionProfile)
    (mechanism : ExecutionMechanism) : Bool :=
  match active with
  | none => true
  | some profile =>
      if profile.mechanism = .cuaCoordinate then
        mechanism = .cuaCoordinate || mechanism = .coordinate
      else if mechanism = .cuaCoordinate then false
      else mechanism.fallbackRank ≤ profile.mechanism.fallbackRank

/-- `require_execution_mechanism`, with the profile that is active. -/
def requireExecutionMechanism (active : ExecutionProfile) (mechanism : ExecutionMechanism) :
    Except Raised Unit :=
  ensure (executionMechanismIsAllowed (some active) mechanism = true)
    ⟨.executionProfileRejected, "Execution mechanism " ++ mechanism.value ++
      " exceeds governed profile " ++ active.mechanism.value⟩

/-! ## The page -/

/-- A call that does something to the page. -/
inductive PageEffect where
  | click (selector : String)
  | fill (selector text : String)
  | selectOption (selector : String) (value : Option String)
  | press (selector key : String)
  | goto (url : Option String)
  | scrollBy (x y : Int)
  | waitForTimeout (milliseconds : Rat)
deriving DecidableEq

/-- The frames of a page, and its main frame if the page names one. -/
structure PageFrames where
  frames : List Nat
  mainFrame : Option Nat

/-- What a frame says about itself. -/
structure FrameMetadata where
  url : String
  name : Json
  parentFrame : Option Nat

/-- A call of the page. -/
inductive PageCall where
  | url
  | title
  | content
  /-- `evaluate`, with the script that lists what can be interacted with. -/
  | interactables
  | screenshot
  | frames
  | frameMetadata (frame : Nat)
  /-- `locator(selector).count()`. -/
  | count (selector : String)
  | perform (effect : PageEffect)
  /-- The callback that closes the page. -/
  | close
  | now
deriving DecidableEq

/-- What a page answers. -/
@[reducible] def PageCall.Answer : PageCall → Type
  | .url => Except Raised String
  | .title => Except Raised (Option String)
  | .content => Except Raised String
  | .interactables => Except Raised Json
  | .screenshot => Except Raised (List UInt8)
  | .frames => Except Raised PageFrames
  | .frameMetadata _ => Except Raised FrameMetadata
  | .count _ => Except Raised Nat
  | .perform _ => Except Raised Unit
  | .close => Except Raised Unit
  | .now => DateTime

/-! ## Observations -/

/-- An element that can be interacted with. -/
structure BrowserElement where
  elementId : String
  tagName : String
  role : Option String
  name : Option String
  text : Option String
  enabled : Bool
deriving DecidableEq

/-- `model_dump(mode="json", exclude_none=True)` of an element. -/
def BrowserElement.modelDump (e : BrowserElement) : Json :=
  .obj ([("element_id", .str e.elementId), ("tag_name", .str e.tagName)] ++
    optionalField "role" e.role ++ optionalField "name" e.name ++ optionalField "text" e.text ++
    [("enabled", .bool e.enabled)])

/-- What is known of a child frame. -/
structure BrowserFrame where
  frameId : String
  url : String
  name : Option String
  parentFrameId : Option String
deriving DecidableEq

/-- `RawBrowserObservation`, with the parts that the loop only hands on. -/
structure PageObservation where
  raw : RawBrowserObservation
  screenshots : List (List UInt8)
  elements : List BrowserElement
  iframes : List BrowserFrame

/-! ## The runtime -/

/-- `PlaywrightPageRuntime`, without its page. -/
structure PageRuntime where
  platform : Platform
  builtins : Analysis.Builtins
  /-- `json.dumps`, in ASCII and without blanks. -/
  dumps : Json → String
  captureScreenshot : Bool
  maxElements : Nat
  /-- Whether there is a callback that closes the page. -/
  ownsPage : Bool
  /-- The constructor refuses less than one element. -/
  maxElements_pos : 1 ≤ maxElements

/-- What a runtime remembers. -/
structure PageState where
  selectors : List (String × String)
  closed : Bool
deriving DecidableEq

/-- A program of the runtime. -/
abbrev OnPage (α : Type) := Session PageCall.Answer PageState PortError α

/-- A number with four digits or more. -/
def fourDigits (n : Nat) : String :=
  String.ofList (List.replicate (4 - (Nat.toDigits 10 n).length) '0' ++ Nat.toDigits 10 n)

/-- The id of an element, by where it is in the capture. -/
def elementIdOf (index : Nat) : String := "ap-" ++ fourDigits index

/-- An exception of the page, as a `BrowserRuntimeError`. -/
def asRuntimeError {α : Type} (effectMayHaveStarted : Bool) (answer : Except Raised α) :
    Except PortError α :=
  answer.mapError fun _ => .runtime effectMayHaveStarted

/-- Whether an action is on an element. -/
def ActionKind.onElement : ActionKind → Bool
  | .click | .inputText | .selectOption | .keypress => true
  | .gotoUrl | .scroll | .wait => false

/-- What an action does to the page, where its element has a selector. -/
def BrowserAction.effects (a : BrowserAction) (selector : String) : List PageEffect :=
  match a.kind with
  | .click => [.click selector]
  | .inputText => [.fill selector (a.text.getD "")]
  | .selectOption => [.selectOption selector a.optionValue]
  | .keypress => a.keys.map (.press selector)
  | .gotoUrl => [.goto a.url]
  | .scroll => [.scrollBy a.scrollX a.scrollY]
  | .wait => [.waitForTimeout (a.waitSeconds * 1000)]

/-- The result of an action. -/
def actionCompleted : BrowserActionResult := ⟨true, true, "ACTION_COMPLETED", none⟩

/-- `_snapshot_hash`. -/
def snapshotHash (P : Platform) (url html : String) : Digest := P.sha256 (url ++ "\n" ++ html)

namespace PageRuntime

variable (R : PageRuntime)

/-- `_optional_string`. -/
def optionalString (value : Json) : Option String :=
  match value with
  | .null => none
  | value =>
      let text := R.builtins.strip (R.builtins.str value)
      if text = "" then none else some text

/-- An element of the capture. -/
def elementOf (index : Nat) (item : Json) : BrowserElement where
  elementId := elementIdOf index
  tagName :=
    let tagName := (item.field? "tag_name").getD .null
    if Analysis.truthy tagName then R.builtins.str tagName else "unknown"
  role := R.optionalString ((item.field? "role").getD .null)
  name := R.optionalString ((item.field? "name").getD .null)
  text := R.optionalString ((item.field? "text").getD .null)
  enabled := Analysis.truthy ((item.field? "enabled").getD (.bool true))

/-- An element with its selector, if the page named one. -/
def captured (item : Json × Nat) : Option (BrowserElement × String) :=
  match item.1 with
  | .obj fields =>
      match (Json.obj fields).field? "selector" with
      | some (.str selector) => some (R.elementOf item.2 (.obj fields), selector)
      | _ => none
  | _ => none

/-- The elements that are captured, with their selectors. -/
def capture (items : List Json) : List (BrowserElement × String) :=
  (items.take R.maxElements).zipIdx.filterMap R.captured

/-- `_ensure_open`. -/
def ensureOpen : OnPage Unit := do
  let s ← state
  require (s.closed = false) (.runtime false)

/-- `page_state`. -/
def pageState : OnPage (String × Option String × String) := do
  ensureOpen
  let url : Except Raised String ← ask PageCall.url
  let url ← lift (asRuntimeError false url)
  let title : Except Raised (Option String) ← ask PageCall.title
  let title ← lift (asRuntimeError false title)
  let html : Except Raised String ← ask PageCall.content
  let html ← lift (asRuntimeError false html)
  pure (url, title, html)

/-- `screenshot`. -/
def screenshot : OnPage (List UInt8) := do
  ensureOpen
  let bytes : Except Raised (List UInt8) ← ask PageCall.screenshot
  lift (asRuntimeError false bytes)

/-- The screenshots of an observation. -/
def screenshots : OnPage (List (List UInt8)) :=
  if R.captureScreenshot then do
    let bytes ← screenshot
    pure [bytes]
  else pure []

/-- The ids of the frames, in the order in which they get them. -/
def frameIds (mainFrame : Nat) (frames : List Nat) : List (Nat × String) :=
  frames.foldl (fun ids frame =>
    if frame ∈ ids.map (·.1) then ids
    else ids ++ [(frame, "frame-" ++ fourDigits ids.length)]) [(mainFrame, "main")]

/-- The metadata of some frames. -/
def frameMetadata (ids : List (Nat × String)) : List Nat → OnPage (List BrowserFrame)
  | [] => pure []
  | frame :: frames => do
      let metadata : Except Raised FrameMetadata ← ask (PageCall.frameMetadata frame)
      let metadata ← lift (asRuntimeError false metadata)
      let rest ← frameMetadata ids frames
      pure (⟨(ids.lookup frame).getD "", metadata.url, R.optionalString metadata.name,
        metadata.parentFrame.bind fun parent => ids.lookup parent⟩ :: rest)

/-- `enumerate_iframes`. -/
def enumerateIframes : OnPage (List BrowserFrame) := do
  ensureOpen
  let found : Except Raised PageFrames ← ask PageCall.frames
  let found ← lift (asRuntimeError false found)
  match found.frames with
  | [] => pure []
  | first :: _ =>
      let mainFrame := found.mainFrame.getD first
      R.frameMetadata (frameIds mainFrame found.frames) (found.frames.filter (· ≠ mainFrame))

/-- `_capture_interactable_tree`. -/
def captureInteractableTree : OnPage (String × List BrowserElement) := do
  let answer : Except Raised Json ← ask PageCall.interactables
  let raw ← lift (asRuntimeError false answer)
  match raw with
  | .arr items => do
      let elements := R.capture items
      change fun s => { s with selectors := elements.map fun e => (e.1.elementId, e.2) }
      pure (R.dumps (.arr (elements.map (·.1.modelDump))), elements.map (·.1))
  | _ => lift (.error (.runtime false))

/-- `observe`. -/
def observe : OnPage PageObservation := do
  ensureOpen
  let (url, title, html) ← pageState
  let (modelDom, elements) ← R.captureInteractableTree
  let screenshots ← R.screenshots
  let iframes ← R.enumerateIframes
  let capturedAt : DateTime ← ask PageCall.now
  pure ⟨⟨url, title, html, modelDom, capturedAt⟩, screenshots, elements, iframes⟩

/-- `close`. -/
def close : OnPage Unit := do
  let s ← state
  if s.closed then pure ()
  else if R.ownsPage then do
    let answer : Except Raised Unit ← ask PageCall.close
    lift (asRuntimeError false answer)
    change fun s => { s with closed := true }
  else lift (.error (.runtime false))

/-- `_validate_command`. -/
def validateCommand (command : AuthorizedAction) : OnPage Unit := do
  ensureOpen
  let bound ← lift ((compareBoth command.authorization.actionFingerprint command.actionFingerprint
    command.authorization.observationHash command.observationId).mapError .other)
  require (bound = true) (.runtime false)
  let _ ← lift ((requireAllowedProfile command.authorization.effect
    command.executionProfile).mapError .other)
  let html : Except Raised String ← ask PageCall.content
  let html ← lift (html.mapError .other)
  let url : Except Raised String ← ask PageCall.url
  let url ← lift (url.mapError .other)
  require (snapshotHash R.platform url html = command.expectedSnapshotHash) .stale

/-- The selector of the element of an action. -/
def selectorOf (action : BrowserAction) : OnPage String := do
  let s ← state
  match s.selectors.lookup (action.elementId.getD "") with
  | some selector => pure selector
  | none => lift (.error .stale)

/-- `preflight`. -/
def preflight (command : AuthorizedAction) : OnPage Unit := do
  R.validateCommand command
  if command.action.kind.onElement then do
    let selector ← selectorOf command.action
    let count : Except Raised Nat ← ask (PageCall.count selector)
    let count ← lift (count.mapError .other)
    require (count = 1) .stale
  else pure ()

/-- Do something to the page, and something else after it. -/
def performAll : List PageEffect → OnPage Unit
  | [] => pure ()
  | effect :: effects => do
      let answer : Except Raised Unit ← ask (PageCall.perform effect)
      lift (asRuntimeError true answer)
      performAll effects

/-- The calls of the page that an action is. -/
def invoke (command : AuthorizedAction) : OnPage Unit :=
  if command.action.kind.onElement then do
    lift (asRuntimeError false (requireExecutionMechanism command.executionProfile .locator))
    let selector ← selectorOf command.action
    performAll (command.action.effects selector)
  else performAll (command.action.effects "")

/-- `execute_preflighted`. -/
def executePreflighted (command : AuthorizedAction) : OnPage BrowserActionResult := do
  invoke command
  pure actionCompleted

/-- `execute`. -/
def execute (command : AuthorizedAction) : OnPage BrowserActionResult := do
  R.preflight command
  executePreflighted command

end PageRuntime

end AgentPact
