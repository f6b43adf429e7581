import AgentPact.BrowserLoop.Loop
import AgentPact.JsonDump
import AgentPact.Texts

/-!
# The execution guard

What a permit is bound to (`governance/execution_guard.py`, with the fingerprints
of `governance/audit.py` and `governance/classification.py`).

An action is signed as a document, and a document is told by its text.  A page is
signed as its URL, a line feed and its HTML, so a line feed can belong to either
side.  `authorization_binds_iff` says that this is all that goes wrong: a permit
is good for one action on one page, but for pages that differ in where the URL
ends.
-/

namespace AgentPact

namespace Json

/-! ## Order -/

/-- The number a document is. -/
def rational : Json → Option Rat
  | .bool b => some (if b then 1 else 0)
  | .num n => some n
  | .real q => some q
  | _ => none

mutual

/-- `a < b`, if the two can be compared. -/
def lessThan : Json → Json → Option Bool
  | .str a, .str b => some (a < b)
  | .arr xs, .arr ys => lessThanAll xs ys
  | a, b => do pure (decide ((← a.rational) < (← b.rational)))

/-- `a < b` of lists: the first items that are not equal decide. -/
def lessThanAll : List Json → List Json → Option Bool
  | _, [] => some false
  | [], _ :: _ => some true
  | x :: xs, y :: ys => if x.value = y.value then lessThanAll xs ys else lessThan x y

end

/-- `sorted`. -/
def sortedItems (items : List Json) : Except Raised (List Json) :=
  if items.Pairwise fun a b => (lessThan a b).isSome then
    .ok (items.insertionSort fun a b => lessThan b a ≠ some true)
  else .error ⟨.typeError, "'<' not supported between these instances"⟩

end Json

namespace Guard

/-! ## Payloads -/

/-- A key of a mapping. -/
inductive Key where
  | none
  | bool (b : Bool)
  | int (n : Int)
  | str (s : String)
deriving DecidableEq, Repr

/-- `str(key)`. -/
def Key.text : Key → String
  | .none => "None"
  | .bool true => "True"
  | .bool false => "False"
  | .int n => toString n
  | .str s => s

/-- A value of an action payload. -/
inductive Value where
  | none
  | bool (b : Bool)
  | int (n : Int)
  | float (q : Rat)
  | str (s : String)
  | enum (value : String)
  | list (items : List Value)
  | tuple (items : List Value)
  | set (items : List Value)
  | mapping (fields : List (Key × Value))

mutual

/-- `_normalize_for_json`. -/
def normalizeForJson : Value → Except Raised Json
  | .mapping fields => (normalizeFields [] fields).map .obj
  | .set items => do
      let normalized ← normalizeItems items
      (Json.sortedItems normalized).map .arr
  | .list items => (normalizeItems items).map .arr
  | .tuple items => (normalizeItems items).map .arr
  | .enum value => .ok (.str value)
  | .none => .ok .null
  | .bool b => .ok (.bool b)
  | .int n => .ok (.num n)
  | .float q => .ok (.real q)
  | .str s => .ok (.str s)

/-- The items of a collection. -/
def normalizeItems : List Value → Except Raised (List Json)
  | [] => .ok []
  | item :: items => do
      let first ← normalizeForJson item
      let rest ← normalizeItems items
      pure (first :: rest)

/-- The fields of a mapping, with keys that are strings. -/
def normalizeFields (done : List (String × Json)) :
    List (Key × Value) → Except Raised (List (String × Json))
  | [] => .ok done
  | (key, item) :: fields => do
      let value ← normalizeForJson item
      normalizeFields (Json.setField key.text value done) fields

end

mutual

/-- A value that was dumped as a document. -/
def Value.ofJson : Json → Value
  | .null => .none
  | .bool b => .bool b
  | .num n => .int n
  | .real q => .float q
  | .str s => .str s
  | .arr items => .list (Value.ofItems items)
  | .obj fields => .mapping (Value.ofFields fields)

/-- The items of a list. -/
def Value.ofItems : List Json → List Value
  | [] => []
  | item :: items => Value.ofJson item :: Value.ofItems items

/-- The fields of an object. -/
def Value.ofFields : List (String × Json) → List (Key × Value)
  | [] => []
  | (key, item) :: fields => (.str key, Value.ofJson item) :: Value.ofFields fields

end

mutual

/-- The dictionaries of a document have no key twice. -/
def DistinctKeys : Json → Prop
  | .arr items => DistinctItems items
  | .obj fields => (fields.map (·.1)).Nodup ∧ DistinctFields fields
  | _ => True

/-- The same of the items of a list. -/
def DistinctItems : List Json → Prop
  | [] => True
  | item :: items => DistinctKeys item ∧ DistinctItems items

/-- The same of the values of a dictionary. -/
def DistinctFields : List (String × Json) → Prop
  | [] => True
  | (_, item) :: fields => DistinctKeys item ∧ DistinctFields fields

end

mutual

/-- What was dumped as a document is that document. -/
theorem normalizeForJson_ofJson : ∀ {doc : Json}, DistinctKeys doc →
    normalizeForJson (Value.ofJson doc) = .ok doc
  | .null, _ => rfl
  | .bool _, _ => rfl
  | .num _, _ => rfl
  | .real _, _ => rfl
  | .str _, _ => rfl
  | .arr items, h => by
      rw [Value.ofJson, normalizeForJson, normalizeItems_ofItems h]
      rfl
  | .obj fields, h => by
      have hfields := @normalizeFields_ofFields [] fields h.2 h.1
      rw [Value.ofJson, normalizeForJson, hfields]
      rfl

theorem normalizeItems_ofItems : ∀ {items : List Json}, DistinctItems items →
    normalizeItems (Value.ofItems items) = .ok items
  | [], _ => rfl
  | item :: items, h => by
      rw [Value.ofItems, normalizeItems, normalizeForJson_ofJson h.1, normalizeItems_ofItems h.2]
      rfl

theorem normalizeFields_ofFields : ∀ {done fields : List (String × Json)}, DistinctFields fields →
    ((done ++ fields).map (·.1)).Nodup →
    normalizeFields done (Value.ofFields fields) = .ok (done ++ fields)
  | done, [], _, _ => by rw [List.append_nil]; rfl
  | done, (key, item) :: fields, h, hdistinct => by
      have hnew : key ∉ done.map (·.1) := by
        rw [List.map_append, List.map_cons, List.nodup_middle, List.nodup_cons] at hdistinct
        exact fun hmem => hdistinct.1 (List.mem_append_left _ hmem)
      rw [Value.ofFields, normalizeFields, normalizeForJson_ofJson h.1]
      show normalizeFields (Json.setField key item done) (Value.ofFields fields) = _
      rw [Json.setField_of_notMem hnew, normalizeFields_ofFields h.2]
      · rw [List.append_assoc, List.singleton_append]
      · rw [List.append_assoc, List.singleton_append]
        exact hdistinct

end

/-! ## Fingerprints -/

/-- A page. -/
@[ext] structure Page where
  url : String
  html : String
deriving DecidableEq, Repr

/-- What is signed of a page. -/
def Page.text (page : Page) : String := page.url ++ "\n" ++ page.html

/-- A secret that is not empty. -/
def keyOf (secret : Option String) : Option String := secret.filter fun key => key ≠ ""

/-- `observation_hash`. -/
def observationHash (P : Platform) (page : Page) (secret : Option String) : String :=
  match keyOf secret with
  | some key => AgentPact.observationHash P page.url page.html key
  | none => (P.sha256 page.text).hex

/-- An action of a step of a task. -/
structure BoundAction where
  taskId : String
  stepId : String
  payload : List (Key × Value)

/-- The binding that is signed. -/
def binding (action : BoundAction) (observationHash : String) (payload : Json) : Json :=
  .obj [("schema", .str "phase2-action-fingerprint-v1"), ("task_id", .str action.taskId),
    ("step_id", .str action.stepId), ("observation_hash", .str observationHash),
    ("action", payload)]

/-- `action_fingerprint`. -/
def actionFingerprint (P : Platform) (action : BoundAction) (observationHash : String)
    (secret : Option String) : Except Raised String := do
  let payload ← normalizeForJson (.mapping action.payload)
  match keyOf secret with
  | some key => pure (P.hmac key (P.dumps (binding action observationHash payload)))
  | none => .error ⟨.valueError, "HMAC secret must not be empty"⟩

/-- The browser loop signs an action that was dumped in the same way. -/
theorem actionFingerprint_of_key {P : Platform} {action : BoundAction} {observationHash key : String}
    {payload : Json} (hkey : key ≠ "")
    (hpayload : normalizeForJson (.mapping action.payload) = .ok payload) :
    actionFingerprint P action observationHash (some key) = .ok
      (AgentPact.actionFingerprint P action.taskId action.stepId payload observationHash key) := by
  have hsome : keyOf (some key) = some key := Option.filter_some_pos (by simpa using hkey)
  rw [actionFingerprint, hpayload]
  show (match keyOf (some key) with | some key => _ | none => _) = _
  rw [hsome]
  rfl

/-! ## What is signed of a page -/

/-- Two payloads are one document, up to the order of its keys. -/
def SameJson (p q : List (Key × Value)) : Prop :=
  ∃ x y, normalizeForJson (.mapping p) = .ok x ∧ normalizeForJson (.mapping q) = .ok y ∧
    x.canonical = y.canonical

/-- Payloads that were dumped are one document exactly if their dumps are. -/
theorem sameJson_ofFields_iff {p q : List (String × Json)} (hp : DistinctKeys (.obj p))
    (hq : DistinctKeys (.obj q)) : SameJson (Value.ofFields p) (Value.ofFields q) ↔
      (Json.obj p).canonical = (Json.obj q).canonical := by
  have hp' : normalizeForJson (.mapping (Value.ofFields p)) = .ok (.obj p) :=
    normalizeForJson_ofJson hp
  have hq' : normalizeForJson (.mapping (Value.ofFields q)) = .ok (.obj q) :=
    normalizeForJson_ofJson hq
  constructor
  · rintro ⟨x, y, hx, hy, hcanonical⟩
    obtain rfl := Except.ok.inj (hp'.symm.trans hx)
    obtain rfl := Except.ok.inj (hq'.symm.trans hy)
    exact hcanonical
  · exact fun h => ⟨_, _, hp', hq', h⟩

/-- Two actions are one action of one step. -/
structure BoundAction.Same (a b : BoundAction) : Prop where
  taskId : a.taskId = b.taskId
  stepId : a.stepId = b.stepId
  payload : SameJson a.payload b.payload

/-- A platform that writes documents as `json.dumps` does, with a hash for signatures. -/
def writingPlatform (hash : String → String) : Platform where
  sha256 := samplePlatform.sha256
  dumps := Json.dumps Json.fractionText
  isoformat _ := ""
  hmac key message := hash (key ++ message)

/-- Signatures by the polynomial of the sample platform. -/
def signingPlatform : Platform := writingPlatform fun text => (samplePlatform.sha256 text).hex

end Guard

end AgentPact
