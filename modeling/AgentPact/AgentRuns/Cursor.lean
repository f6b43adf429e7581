import AgentPact.AgentRuns.Projection
import AgentPact.Base.Base64
import AgentPact.Base.IsoFormat
import AgentPact.Base.JsonText

/-!
# Cursors

The codec of the cursor that a page of runs ends with (`agent_runs/service.py`):
an instant and a run id as a JSON object, in base 64.

`decodeCursor_encodeCursor` is the round trip, for every instant and every id of a
run.  A foreign text is refused with `INVALID_CURSOR`, with two exceptions that are
not caught: a document that is nested too deep for the interpreter, and an instant
that leaves the range of years when it is converted to UTC.
`decodeCursor_clean_iff` says that these are the only ones.
-/

namespace AgentPact

open Base JsonText

/-! ## Texts -/

/-- The code points of a string. -/
def codes (s : String) : Text := ⟨s.toList.map Char.toNat, joined_toNat _⟩

theorem codes_injective : Function.Injective codes := by
  intro s t h
  have hmap := congrArg Subtype.val h
  have hinj : Function.Injective Char.toNat := fun a b hab => Char.toNat_inj.mp hab
  exact String.toList_inj.mp (hinj.list_map hmap)

/-- What the ids of runs begin with. -/
def runPrefix : List Nat := (codes "run_").1

/-- `startswith("run_")`. -/
def startsRun (runId : List Nat) : Bool := runPrefix.isPrefixOf runId

/-! ## Encoding -/

/-- The text of an instant. -/
def instantText (t : Nat) : Text :=
  ⟨IsoFormat.isoformat t, joined_of_lt fun c hc =>
    Nat.lt_trans (IsoFormat.isoformat_lt t c hc) (by decide)⟩

/-- The members of a cursor, in the order of their keys. -/
def cursorMembers (createdAt : Nat) (runId : Text) : List (Text × Text) :=
  [(codes "created_at", instantText createdAt), (codes "run_id", runId)]

/-- A text as it travels: UTF-8, base 64, no padding. -/
def armor (text : List Char) : List Nat := Base64.stripPadding (Base64.encode (utf8Encode text))

/-- `_encode_cursor`. -/
def encodeCursor (createdAt : DateTime) (runId : Text) : List Nat :=
  armor (writeObject ((cursorMembers createdAt.asUtc.micros.toNat runId).map plain))

/-! ## Decoding -/

/-- The text a cursor carries. -/
def payloadText (cursor : List Nat) : Except Raised (List Char) := do
  ensure (∀ c ∈ cursor, c < 128)
    ⟨.valueError, "string argument should contain only ASCII characters"⟩
  let raw ← orRaise (Base64.decode (cursor ++ Base64.padding cursor))
    ⟨.valueError, "Incorrect padding"⟩
  orRaise (utf8Decode raw) ⟨.valueError, "invalid continuation byte"⟩

/-- What reading a document raises. -/
def jsonError : Fault → Raised
  | .invalid => ⟨.valueError, "Expecting value"⟩
  | .tooDeep => ⟨.runtimeError, "maximum recursion depth exceeded"⟩
  | .unfinished => ⟨.runtimeError, "unfinished"⟩

/-- Whether a value can be an element of a set. -/
def Hashable : JsonText.Json → Bool
  | .array _ | .object _ => false
  | _ => true

/-- The elements of `set(payload)`. -/
def setOf : JsonText.Json → Except Raised (List JsonText.Json)
  | .object members => .ok (members.map fun m => .str m.1)
  | .array elements =>
      if elements.all Hashable then .ok elements else .error ⟨.typeError, "unhashable type"⟩
  | .str s =>
      .ok (s.1.attach.map fun c =>
        .str ⟨[c.1], .singleton _, by simpa using s.2.lt c.1 c.2⟩)
  | _ => .error ⟨.typeError, "object is not iterable"⟩

/-- Whether a value is a string. -/
def isText (s : Text) : JsonText.Json → Bool
  | .str t => t = s
  | _ => false

/-- Whether a set is `{"created_at", "run_id"}`. -/
def areCursorKeys (elements : List JsonText.Json) : Bool :=
  elements.any (isText (codes "created_at")) && elements.any (isText (codes "run_id")) &&
    elements.all fun e => isText (codes "created_at") e || isText (codes "run_id") e

/-- `payload[key]`.  The last of several members with one key counts. -/
def subscript (key : Text) : JsonText.Json → Except Raised JsonText.Json
  | .object members =>
      orRaise ((members.reverse.find? (·.1 = key)).map (·.2)) ⟨.keyError, "key"⟩
  | .array _ => .error ⟨.typeError, "list indices must be integers or slices, not str"⟩
  | .str _ => .error ⟨.typeError, "string indices must be integers, not 'str'"⟩
  | _ => .error ⟨.typeError, "object is not subscriptable"⟩

/-- The string that a value has to be. -/
def asText (e : Raised) : JsonText.Json → Except Raised Text
  | .str s => .ok s
  | _ => .error e

/-- `astimezone(timezone.utc)`. -/
def astimezone (localMicros : Nat) (offset : Int) : Except Raised DateTime :=
  DateTime.add ⟨localMicros, true⟩ (-offset)

/-- What `_decode_cursor` reads before it converts the instant. -/
def readCursor (l : Limits) (cursor : List Nat) : Except Raised (Nat × Int × Text) := do
  let text ← payloadText cursor
  let payload ← (loads l text).mapError jsonError
  let elements ← setOf payload
  ensure (areCursorKeys elements = true) ⟨.valueError, ""⟩
  let runIdValue ← subscript (codes "run_id") payload
  let runId ← asText ⟨.valueError, ""⟩ runIdValue
  let createdValue ← subscript (codes "created_at") payload
  let created ← asText ⟨.typeError, "fromisoformat: argument must be str"⟩ createdValue
  let instant ← orRaise (IsoFormat.fromisoformat created.1)
    ⟨.valueError, "Invalid isoformat string"⟩
  -- a naive datetime is refused together with a foreign id
  let offset ← orRaise (instant.2.filter fun _ => startsRun runId.1) ⟨.valueError, ""⟩
  pure (instant.1, offset, runId)

/-- `_decode_cursor`.  The other classes that it catches are below `ValueError`. -/
def decodeCursor (l : Limits) (cursor : List Nat) : Except Raised (DateTime × Text) :=
  Except.mapError (asAgentRunError [.valueError, .typeError, .keyError] "INVALID_CURSOR") do
    let (localMicros, offset, runId) ← readCursor l cursor
    let createdAt ← astimezone localMicros offset
    pure (⟨createdAt.micros, false⟩, runId)

/-! ## The round trip -/

section

variable {l : Limits} {cursor : List Nat} {text : List Char} {runId : Text}

theorem payloadText_armor (text : List Char) : payloadText (armor text) = .ok text := by
  have hbytes := utf8Encode_lt text
  have hascii : ∀ c ∈ armor text, c < 128 := by
    unfold armor
    rw [Base64.stripPadding_encode hbytes]
    exact Base64.lt_of_mem_encodeUnpadded hbytes
  unfold payloadText
  refine ensure_bind_of hascii ?_
  refine except_bind_of_ok (orRaise_eq_ok.mpr (Base64.decode_encode_unpadded hbytes)) ?_
  exact orRaise_eq_ok.mpr (utf8Decode_utf8Encode text)

theorem keys_ne : codes "created_at" ≠ codes "run_id" := by
  intro h
  exact absurd (codes_injective h) (by decide)

/-- What is encoded is read back. -/
theorem readCursor_armor (hnesting : 0 < l.nesting) {t : Nat} (ht : t ≤ IsoFormat.maxMicros)
    (hrun : startsRun runId.1 = true) :
    readCursor l (armor (writeObject ((cursorMembers t runId).map plain))) = .ok (t, 0, runId) := by
  have hloads := loads_writeObject l hnesting (cursorMembers t runId)
  have hcreated : codes "created_at" ≠ codes "run_id" := keys_ne
  unfold readCursor
  refine except_bind_of_ok (payloadText_armor _) ?_
  rw [hloads]
  refine except_bind_of_ok rfl ?_
  refine except_bind_of_ok rfl ?_
  refine ensure_bind_of ?_ ?_
  · simp [areCursorKeys, isText, cursorMembers, asRead]
  · have hrunId : subscript (codes "run_id") (.object ((cursorMembers t runId).map asRead)) =
        .ok (.str runId) := by
      simp [subscript, cursorMembers, asRead, orRaise]
    have hinstant : subscript (codes "created_at")
        (.object ((cursorMembers t runId).map asRead)) = .ok (.str (instantText t)) := by
      simp [subscript, cursorMembers, asRead, orRaise, hcreated.symm]
    refine except_bind_of_ok hrunId ?_
    refine except_bind_of_ok rfl ?_
    refine except_bind_of_ok hinstant ?_
    refine except_bind_of_ok rfl ?_
    refine except_bind_of_ok (orRaise_eq_ok.mpr (IsoFormat.fromisoformat_isoformat ht)) ?_
    refine except_bind_of_ok (a := 0) (orRaise_eq_ok.mpr ?_) rfl
    simp [hrun]

/-- The instants there are. -/
def DateTime.InYears (t : DateTime) : Prop := 0 ≤ t.micros ∧ t.micros ≤ DateTime.maxMicros

/-- A cursor denotes exactly the instant and the run it was made of. -/
theorem decodeCursor_encodeCursor (hnesting : 0 < l.nesting) {t : DateTime} (ht : t.InYears)
    (hrun : startsRun runId.1 = true) :
    decodeCursor l (encodeCursor t runId) = .ok (⟨t.micros, false⟩, runId) := by
  obtain ⟨hnonneg, hle⟩ := ht
  have hmax : t.micros.toNat ≤ IsoFormat.maxMicros := by
    unfold DateTime.maxMicros at hle
    unfold IsoFormat.maxMicros
    omega
  have hadd : astimezone t.micros.toNat 0 = .ok (DateTime.utc t.micros) := by
    refine DateTime.add_eq_ok.mpr ?_
    have hmicros : ((t.micros.toNat : Int)) + -0 = t.micros := by omega
    simp only [hmicros]
    exact ⟨⟨hnonneg, hle⟩, rfl⟩
  unfold decodeCursor
  rw [mapError_eq_ok]
  refine except_bind_of_ok (readCursor_armor hnesting hmax hrun) ?_
  exact except_bind_of_ok hadd rfl

/-! ## Foreign texts -/

/-- The exceptions that `_decode_cursor` catches. -/
def Raised.Caught (e : Raised) : Prop := e.cls ∈ [ErrorClass.valueError, .typeError, .keyError]

theorem asAgentRunError_of_caught {e : Raised} (h : e.Caught) :
    asAgentRunError [.valueError, .typeError, .keyError] "INVALID_CURSOR" e =
      agentRunError "INVALID_CURSOR" := by
  obtain ⟨cls, message⟩ := e
  unfold asAgentRunError
  rw [if_pos]
  simp only [Raised.Caught, List.mem_cons, List.not_mem_nil, or_false] at h
  rcases h with rfl | rfl | rfl <;> rfl

/-- The document nests containers deeper than the interpreter allows. -/
def TooDeep (l : Limits) (cursor : List Nat) : Prop :=
  ∃ text, payloadText cursor = .ok text ∧ l.nesting < depth l.intDigits text

/-- A text is a cursor: it carries an object of an instant with an offset and the id of a run. -/
structure CursorText (l : Limits) (cursor : List Nat) (localMicros : Nat) (offset : Int)
    (runId : Text) : Prop where
  document : ∃ text members created, payloadText cursor = .ok text ∧
    loads l text = .ok (.object members) ∧
    areCursorKeys (members.map fun m => .str m.1) = true ∧
    subscript (codes "run_id") (.object members) = .ok (.str runId) ∧
    subscript (codes "created_at") (.object members) = .ok (.str created) ∧
    IsoFormat.fromisoformat created.1 = some (localMicros, some offset)
  startsRun : startsRun runId.1 = true

/-- A cursor whose instant is not in the years 1 to 9999 of UTC. -/
def OutOfYears (l : Limits) (cursor : List Nat) : Prop :=
  ∃ localMicros offset runId, CursorText l cursor localMicros offset runId ∧
    ¬ (0 ≤ (localMicros : Int) - offset ∧ (localMicros : Int) - offset ≤ DateTime.maxMicros)

theorem orRaise_eq_error {α : Type} {o : Option α} {e e' : Raised} (h : orRaise o e = .error e') :
    e' = e := by
  cases o with
  | none => cases h; rfl
  | some a => cases h

theorem ensure_eq_error {p : Prop} [Decidable p] {e e' : Raised} (h : ensure p e = .error e') :
    e' = e := by
  unfold ensure at h
  split at h <;> cases h
  rfl

theorem payloadText_error {e : Raised} (h : payloadText cursor = .error e) : e.Caught := by
  unfold payloadText at h
  rcases except_bind_eq_error.mp h with h | ⟨_, -, h⟩
  · rw [ensure_eq_error h]
    exact List.mem_cons_self ..
  · rcases except_bind_eq_error.mp h with h | ⟨_, -, h⟩ <;>
    · rw [orRaise_eq_error h]
      exact List.mem_cons_self ..

theorem setOf_error {payload : JsonText.Json} {e : Raised} (h : setOf payload = .error e) :
    e.Caught := by
  have htype : Raised.Caught ⟨.typeError, e.text⟩ := by simp [Raised.Caught]
  unfold setOf at h
  split at h
  · cases h
  · split at h
    · cases h
    · cases h
      exact htype
  · cases h
  · cases h
    exact htype

theorem subscript_error {key : Text} {payload : JsonText.Json} {e : Raised}
    (h : subscript key payload = .error e) : e.Caught := by
  unfold subscript at h
  split at h
  · rw [orRaise_eq_error h]
    simp [Raised.Caught]
  · cases h
    simp [Raised.Caught]
  · cases h
    simp [Raised.Caught]
  · cases h
    simp [Raised.Caught]

theorem asText_eq_ok {e : Raised} {value : JsonText.Json} {s : Text} (h : asText e value = .ok s) :
    value = .str s := by
  cases value with
  | str t => cases h; rfl
  | _ => cases h

theorem asText_error {e e' : Raised} {value : JsonText.Json} (h : asText e value = .error e') :
    e' = e := by
  cases value with
  | str t => cases h
  | _ => cases h; rfl

/-- What is read is a cursor. -/
theorem readCursor_eq_ok {localMicros : Nat} {offset : Int} :
    readCursor l cursor = .ok (localMicros, offset, runId) ↔
      CursorText l cursor localMicros offset runId := by
  constructor
  · intro h
    unfold readCursor at h
    obtain ⟨text, htext, h⟩ := except_bind_eq_ok.mp h
    obtain ⟨payload, hpayload, h⟩ := except_bind_eq_ok.mp h
    have hloads : loads l text = .ok payload := by
      cases hread : loads l text with
      | ok value => rw [hread] at hpayload; cases hpayload; rfl
      | error fault => rw [hread] at hpayload; cases hpayload
    obtain ⟨elements, helements, h⟩ := except_bind_eq_ok.mp h
    obtain ⟨_, hkeys, h⟩ := except_bind_eq_ok.mp h
    rw [ensure_eq_ok] at hkeys
    obtain ⟨runIdValue, hrunId, h⟩ := except_bind_eq_ok.mp h
    obtain ⟨runId', hasText, h⟩ := except_bind_eq_ok.mp h
    rw [asText_eq_ok hasText] at hrunId
    obtain ⟨createdValue, hcreated, h⟩ := except_bind_eq_ok.mp h
    obtain ⟨created, hasText', h⟩ := except_bind_eq_ok.mp h
    rw [asText_eq_ok hasText'] at hcreated
    obtain ⟨instant, hinstant, h⟩ := except_bind_eq_ok.mp h
    rw [orRaise_eq_ok] at hinstant
    obtain ⟨offset', hoffset, h⟩ := except_bind_eq_ok.mp h
    rw [orRaise_eq_ok, Option.filter_eq_some_iff] at hoffset
    obtain ⟨hoffset, hrun⟩ := hoffset
    cases h
    -- only an object can be asked for a key
    cases payload with
    | object members =>
        cases helements
        refine ⟨⟨text, members, created, htext, hloads, hkeys, hrunId, hcreated, ?_⟩, hrun⟩
        rw [hinstant, ← hoffset]
    | _ => cases hrunId
  · rintro ⟨⟨text, members, created, htext, hloads, hkeys, hrunId, hcreated, hinstant⟩, hrun⟩
    unfold readCursor
    refine except_bind_of_ok htext ?_
    rw [hloads]
    refine except_bind_of_ok rfl ?_
    refine except_bind_of_ok rfl ?_
    refine ensure_bind_of hkeys ?_
    refine except_bind_of_ok hrunId ?_
    refine except_bind_of_ok rfl ?_
    refine except_bind_of_ok hcreated ?_
    refine except_bind_of_ok rfl ?_
    refine except_bind_of_ok (orRaise_eq_ok.mpr hinstant) ?_
    refine except_bind_of_ok (a := offset) (orRaise_eq_ok.mpr ?_) rfl
    simp [hrun]

/-- What keeps a cursor from being read is caught, unless it is too deep. -/
theorem readCursor_error {e : Raised} (h : readCursor l cursor = .error e) :
    e.Caught ∨ TooDeep l cursor := by
  have hvalue : ∀ message, Raised.Caught ⟨.valueError, message⟩ := fun _ => List.mem_cons_self ..
  unfold readCursor at h
  rcases except_bind_eq_error.mp h with h | ⟨text, htext, h⟩
  · exact .inl (payloadText_error h)
  rcases except_bind_eq_error.mp h with h | ⟨payload, -, h⟩
  · cases hloads : loads l text with
    | ok payload => rw [hloads] at h; cases h
    | error fault =>
        rw [hloads] at h
        cases h
        cases fault with
        | invalid => exact .inl (hvalue _)
        | tooDeep => exact .inr ⟨text, htext, (loads_tooDeep_iff l text).mp hloads⟩
        | unfinished => exact absurd hloads (loads_finishes l text)
  left
  rcases except_bind_eq_error.mp h with h | ⟨_, -, h⟩
  · exact setOf_error h
  rcases except_bind_eq_error.mp h with h | ⟨_, -, h⟩
  · rw [ensure_eq_error h]
    exact hvalue _
  rcases except_bind_eq_error.mp h with h | ⟨_, -, h⟩
  · exact subscript_error h
  rcases except_bind_eq_error.mp h with h | ⟨_, -, h⟩
  · rw [asText_error h]
    exact hvalue _
  rcases except_bind_eq_error.mp h with h | ⟨_, -, h⟩
  · exact subscript_error h
  rcases except_bind_eq_error.mp h with h | ⟨_, -, h⟩
  · rw [asText_error h]
    simp [Raised.Caught]
  rcases except_bind_eq_error.mp h with h | ⟨_, -, h⟩
  · rw [orRaise_eq_error h]
    exact hvalue _
  rcases except_bind_eq_error.mp h with h | ⟨_, -, h⟩
  · rw [orRaise_eq_error h]
    exact hvalue _
  · cases h

/-- A document that is too deep is not read, and the exception is not caught. -/
theorem decodeCursor_of_tooDeep (h : TooDeep l cursor) :
    decodeCursor l cursor = .error ⟨.runtimeError, "maximum recursion depth exceeded"⟩ := by
  obtain ⟨text, htext, hdeep⟩ := h
  have hread : readCursor l cursor =
      .error ⟨.runtimeError, "maximum recursion depth exceeded"⟩ := by
    unfold readCursor
    refine except_bind_of_ok htext ?_
    rw [(loads_tooDeep_iff l text).mpr hdeep]
    rfl
  unfold decodeCursor
  rw [hread]
  rfl

theorem decodeCursor_of_outOfYears (h : OutOfYears l cursor) :
    decodeCursor l cursor = .error ⟨.overflowError, "date value out of range"⟩ := by
  obtain ⟨localMicros, offset, runId, hcursor, hrange⟩ := h
  have hconvert : astimezone localMicros offset =
      .error ⟨.overflowError, "date value out of range"⟩ := by
    unfold astimezone DateTime.add
    rw [if_neg]
    rwa [← sub_eq_add_neg]
  unfold decodeCursor
  rw [readCursor_eq_ok.mpr hcursor]
  show Except.mapError _ (astimezone localMicros offset >>= _) = _
  rw [hconvert]
  rfl

theorem decodeCursor_of_inYears {localMicros : Nat} {offset : Int}
    (h : CursorText l cursor localMicros offset runId)
    (hrange : 0 ≤ (localMicros : Int) - offset ∧ (localMicros : Int) - offset ≤ DateTime.maxMicros) :
    decodeCursor l cursor = .ok (⟨(localMicros : Int) - offset, false⟩, runId) := by
  have hconvert : astimezone localMicros offset = .ok ⟨(localMicros : Int) - offset, true⟩ := by
    refine DateTime.add_eq_ok.mpr ?_
    simp only [← sub_eq_add_neg]
    exact ⟨hrange, trivial⟩
  unfold decodeCursor
  rw [readCursor_eq_ok.mpr h, mapError_eq_ok]
  refine except_bind_of_ok rfl ?_
  exact except_bind_of_ok hconvert rfl

/-- A cursor is decoded to a naive instant in UTC that it is encoded from, or refused. -/
def DecodedCleanly (l : Limits) (cursor : List Nat) : Prop :=
  (∃ t runId, decodeCursor l cursor = .ok (t, runId) ∧ t.aware = false ∧ t.InYears ∧
    decodeCursor l (encodeCursor t runId) = .ok (t, runId)) ∨
  decodeCursor l cursor = .error (agentRunError "INVALID_CURSOR")

/-- Every text is decoded or refused, unless it nests too deep or denotes an instant out of the
years. -/
theorem decodeCursor_clean_iff (l : Limits) (cursor : List Nat) :
    DecodedCleanly l cursor ↔ ¬ TooDeep l cursor ∧ ¬ OutOfYears l cursor := by
  constructor
  · intro hclean
    constructor
    · intro hdeep
      have hraised := decodeCursor_of_tooDeep hdeep
      rcases hclean with ⟨t, runId, hok, -⟩ | herror
      · rw [hraised] at hok
        cases hok
      · rw [hraised] at herror
        cases herror
    · intro hout
      have hraised := decodeCursor_of_outOfYears hout
      rcases hclean with ⟨t, runId, hok, -⟩ | herror
      · rw [hraised] at hok
        cases hok
      · rw [hraised] at herror
        cases herror
  · rintro ⟨hshallow, hin⟩
    cases hread : readCursor l cursor with
    | ok r =>
        obtain ⟨localMicros, offset, runId⟩ := r
        have hcursor := readCursor_eq_ok.mp hread
        have hrange : 0 ≤ (localMicros : Int) - offset ∧
            (localMicros : Int) - offset ≤ DateTime.maxMicros := by
          by_contra hnot
          exact hin ⟨localMicros, offset, runId, hcursor, hnot⟩
        have hnesting : 0 < l.nesting := by
          obtain ⟨_, _, _, _, hloads, _⟩ := hcursor.document
          exact nesting_pos_of_loads hloads
        refine .inl ⟨_, runId, decodeCursor_of_inYears hcursor hrange, rfl, hrange, ?_⟩
        exact decodeCursor_encodeCursor hnesting hrange hcursor.startsRun
    | error e =>
        right
        have hcaught := (readCursor_error hread).resolve_right hshallow
        unfold decodeCursor
        rw [hread]
        exact congrArg Except.error (asAgentRunError_of_caught hcaught)

/-- There is a cursor that is too deep for any interpreter. -/
theorem tooDeep_brackets (l : Limits) :
    TooDeep l (armor (List.replicate (l.nesting + 1) '[')) :=
  ⟨_, payloadText_armor _, depth_brackets l.intDigits l.nesting⟩

end

/-- The first hour of year 1, an hour east of UTC. -/
def earlyMembers : List (Text × Text) :=
  [(codes "created_at", codes "0001-01-01T00:00:00+01:00"), (codes "run_id", codes "run_")]

/-- A cursor of that instant. -/
def earlyCursor : List Nat :=
  (codes "eyJjcmVhdGVkX2F0IjoiMDAwMS0wMS0wMVQwMDowMDowMCswMTowMCIsInJ1bl9pZCI6InJ1bl8ifQ").1

theorem earlyCursor_eq : earlyCursor = armor (writeObject (earlyMembers.map plain)) := by
  decide +kernel

/-- Two cursors that are not refused cleanly. -/
theorem foreign_cursors_raise :
    decodeCursor ⟨900, 4300⟩ earlyCursor = .error ⟨.overflowError, "date value out of range"⟩ ∧
      ¬ DecodedCleanly ⟨900, 4300⟩ earlyCursor ∧
      ¬ DecodedCleanly ⟨900, 4300⟩ (armor (List.replicate 901 '[')) := by
  have hraised : decodeCursor ⟨900, 4300⟩ earlyCursor =
      .error ⟨.overflowError, "date value out of range"⟩ := by
    refine decodeCursor_of_outOfYears ⟨0, 3600000000, codes "run_", ⟨⟨_, earlyMembers.map asRead,
      codes "0001-01-01T00:00:00+01:00", ?_, loads_writeObject _ (by decide) earlyMembers,
      ?_, ?_, ?_, ?_⟩, ?_⟩, ?_⟩
    · rw [earlyCursor_eq]
      exact payloadText_armor _
    · decide
    · rfl
    · rfl
    · decide
    · decide
    · decide
  refine ⟨hraised, ?_, ?_⟩
  · rintro (⟨t, runId, hok, -⟩ | herror)
    · rw [hraised] at hok
      cases hok
    · rw [hraised] at herror
      cases herror
  · rintro (⟨t, runId, hok, -⟩ | herror)
    · rw [decodeCursor_of_tooDeep (tooDeep_brackets ⟨900, 4300⟩)] at hok
      cases hok
    · rw [decodeCursor_of_tooDeep (tooDeep_brackets ⟨900, 4300⟩)] at herror
      cases herror

end AgentPact
