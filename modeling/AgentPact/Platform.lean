import Mathlib.Algebra.GroupWithZero.Nat
import Mathlib.Data.List.Basic
import Mathlib.Data.List.Pairwise

/-!
# The platform the code runs on

The Python values the modelled functions read and raise: exceptions, datetimes,
JSON documents, string dictionaries and hash digests.

A datetime is its number of microseconds since year 1 and whether it carries a
time zone.  An aware datetime is kept in UTC, since every use of one compares
or subtracts instants.  Mixing a naive and an aware datetime raises
`TypeError`, and leaving the range of years raises `OverflowError`.

A dictionary is its entries in strictly increasing order of their keys, so that
equality of dictionaries does not depend on an order of insertion.

The hash functions and the canonical JSON text are fields of `Platform`.  Every
definition that hashes takes a `Platform`, and no theorem assumes more about it
than it says.
-/

namespace AgentPact

/-! ## Exceptions -/

/-- The exception classes the modelled code raises or catches. -/
inductive ErrorClass where
  | valueError | typeError | lookupError | keyError | overflowError | runtimeError
  | permissionError
  | validationError
  | integrityError
  | permitValidationError
  | executionAttemptError
  | executionAttemptRecoveryRequired
  | executionProfileRejected
  | persistedExecutionError
  | browserRuntimeError
  | staleObservationError
  | governedPlanError
  | agentRunError
  | pendingActionError
  | approvalPauseError
  | approvalPersistenceError
  | packLifecycleError
  | resumeExecutionError
  | plannerOutputError
  | taskAdmissionConflict
  | stripePaymentError
  | definiteSubmissionFailure
  | ambiguousSubmissionFailure
  | stripeProbeError
  | stripeHostedCheckoutError
  | stripeLiveConfigurationError
  | stripeM10NotWired
  | governedDryRunError
  | attributeError
  | executionAuthorizationError
  | noResultFound
  | httpException
deriving DecidableEq, Repr

/-- The class an exception class is declared under, if it is one of these. -/
def ErrorClass.base? : ErrorClass → Option ErrorClass
  | .validationError | .permitValidationError | .executionAttemptError => some .valueError
  | .pendingActionError | .approvalPauseError | .approvalPersistenceError => some .valueError
  | .resumeExecutionError | .plannerOutputError | .executionAuthorizationError => some .valueError
  | .executionAttemptRecoveryRequired => some .executionAttemptError
  | .executionProfileRejected => some .permissionError
  | .taskAdmissionConflict | .stripePaymentError | .governedDryRunError => some .valueError
  | .definiteSubmissionFailure | .ambiguousSubmissionFailure => some .stripePaymentError
  | .stripeProbeError | .stripeHostedCheckoutError | .stripeLiveConfigurationError =>
      some .runtimeError
  | .stripeM10NotWired => some .runtimeError
  | .persistedExecutionError | .browserRuntimeError | .governedPlanError => some .runtimeError
  | .agentRunError | .packLifecycleError => some .runtimeError
  | .staleObservationError => some .browserRuntimeError
  | .keyError => some .lookupError
  | _ => none

/-- A raised exception: its class and its text. -/
structure Raised where
  /-- The class. -/
  cls : ErrorClass
  /-- The text. -/
  text : String
deriving DecidableEq, Repr

/-- `except c` catches a class and the classes below it. -/
def ErrorClass.caughtBy (c : ErrorClass) (e : Raised) : Bool :=
  e.cls = c || e.cls.base? = some c || (e.cls.base?.bind ErrorClass.base?) = some c

/-- Raise an exception unless a condition holds. -/
def ensure (p : Prop) [Decidable p] (e : Raised) : Except Raised Unit :=
  if p then .ok () else .error e

/-- A value, or an exception where there is none. -/
def orRaise {α : Type} (o : Option α) (e : Raised) : Except Raised α :=
  match o with
  | some a => .ok a
  | none => .error e

theorem except_bind_eq_ok {ε α β : Type} {x : Except ε α} {f : α → Except ε β} {b : β} :
    (x >>= f) = .ok b ↔ ∃ a, x = .ok a ∧ f a = .ok b := by
  cases x with
  | ok a => exact ⟨fun h => ⟨a, rfl, h⟩, by rintro ⟨_, ⟨⟩, h⟩; exact h⟩
  | error e => simp [bind, Except.bind]

theorem except_bind_of_ok {ε α β : Type} {x : Except ε α} {f : α → Except ε β} {a : α}
    {result : Except ε β} (h : x = .ok a) (hrest : f a = result) : (x >>= f) = result := by
  rw [h]
  exact hrest

theorem except_bind_eq_error {ε α β : Type} {x : Except ε α} {f : α → Except ε β} {e : ε} :
    (x >>= f) = .error e ↔ x = .error e ∨ ∃ a, x = .ok a ∧ f a = .error e := by
  cases x with
  | ok a => simp [bind, Except.bind]
  | error e' => simp [bind, Except.bind]

@[simp] theorem mapError_eq_ok {α : Type} {f : Raised → Raised} {x : Except Raised α} {a : α} :
    x.mapError f = .ok a ↔ x = .ok a := by
  cases x <;> simp [Except.mapError]

@[simp] theorem ensure_eq_ok {p : Prop} [Decidable p] {e : Raised} {u : Unit} :
    ensure p e = .ok u ↔ p := by
  unfold ensure
  split
  case isTrue h => simp [h]
  case isFalse h => simp [h]

theorem ensure_bind_of {α : Type} {p : Prop} [Decidable p] {e : Raised}
    {f : Unit → Except Raised α} {result : Except Raised α} (h : p) (hrest : f () = result) :
    (ensure p e >>= f) = result :=
  except_bind_of_ok (ensure_eq_ok.mpr h) hrest

@[simp] theorem orRaise_eq_ok {α : Type} {o : Option α} {e : Raised} {a : α} :
    orRaise o e = .ok a ↔ o = some a := by
  cases o with
  | none => exact ⟨nofun, nofun⟩
  | some b => simp [orRaise]

/-! ## Datetimes -/

/-- A `datetime`. -/
structure DateTime where
  /-- Microseconds since year 1, in UTC for an aware datetime. -/
  micros : Int
  /-- Whether it carries a time zone. -/
  aware : Bool
deriving DecidableEq, Repr

namespace DateTime

/-- The last microsecond of year 9999. -/
def maxMicros : Int := 315537897599999999

/-- One second. -/
def second : Int := 1000000

/-- `a < b`. -/
def lt (a b : DateTime) : Except Raised Bool :=
  if a.aware = b.aware then .ok (a.micros < b.micros)
  else .error ⟨.typeError, "can't compare offset-naive and offset-aware datetimes"⟩

/-- `a <= b`. -/
def le (a b : DateTime) : Except Raised Bool :=
  if a.aware = b.aware then .ok (a.micros ≤ b.micros)
  else .error ⟨.typeError, "can't compare offset-naive and offset-aware datetimes"⟩

/-- The chain `start <= t < stop`. -/
def within (t start stop : DateTime) : Except Raised Bool := do
  if ← start.le t then t.lt stop else pure false

/-- `a - b`, in microseconds. -/
def sub (a b : DateTime) : Except Raised Int :=
  if a.aware = b.aware then .ok (a.micros - b.micros)
  else .error ⟨.typeError, "can't subtract offset-naive and offset-aware datetimes"⟩

/-- `a + timedelta`, with the delta in microseconds. -/
def add (a : DateTime) (delta : Int) : Except Raised DateTime :=
  if 0 ≤ a.micros + delta ∧ a.micros + delta ≤ maxMicros then .ok ⟨a.micros + delta, a.aware⟩
  else .error ⟨.overflowError, "date value out of range"⟩

/-- The aware datetime at an instant. -/
def utc (t : Int) : DateTime := ⟨t, true⟩

/-- A naive datetime read as UTC, `value.replace(tzinfo=timezone.utc)`. -/
def asUtc (a : DateTime) : DateTime := utc a.micros

theorem lt_eq_ok {a b : DateTime} {r : Bool} :
    a.lt b = .ok r ↔ a.aware = b.aware ∧ r = decide (a.micros < b.micros) := by
  unfold lt
  split
  case isTrue h => simp [h, eq_comm]
  case isFalse h => simp [h]

theorem le_eq_ok {a b : DateTime} {r : Bool} :
    a.le b = .ok r ↔ a.aware = b.aware ∧ r = decide (a.micros ≤ b.micros) := by
  unfold le
  split
  case isTrue h => simp [h, eq_comm]
  case isFalse h => simp [h]

/-- A time is within an interval that is open at its end. -/
theorem within_eq_true {t start stop : DateTime} :
    t.within start stop = .ok true ↔
      (start.aware = t.aware ∧ t.aware = stop.aware) ∧
        start.micros ≤ t.micros ∧ t.micros < stop.micros := by
  unfold within
  rw [except_bind_eq_ok]
  constructor
  · rintro ⟨r, hle, hlt⟩
    obtain ⟨haware, rfl⟩ := le_eq_ok.mp hle
    by_cases h : start.micros ≤ t.micros
    · rw [if_pos (decide_eq_true h)] at hlt
      obtain ⟨haware', hless⟩ := lt_eq_ok.mp hlt
      exact ⟨⟨haware, haware'⟩, h, of_decide_eq_true hless.symm⟩
    · rw [if_neg (by simpa using h)] at hlt
      cases hlt
  · rintro ⟨⟨haware, haware'⟩, hle, hlt⟩
    refine ⟨true, le_eq_ok.mpr ⟨haware, by simpa using hle⟩, ?_⟩
    exact lt_eq_ok.mpr ⟨haware', by simpa using hlt⟩

theorem add_eq_ok {a b : DateTime} {d : Int} :
    a.add d = .ok b ↔
      (0 ≤ a.micros + d ∧ a.micros + d ≤ maxMicros) ∧ b = ⟨a.micros + d, a.aware⟩ := by
  unfold add
  split
  case isTrue h => simp [h, eq_comm]
  case isFalse h => simp [h]

end DateTime

/-! ## Documents and dictionaries -/

/-- A JSON document. -/
inductive Json where
  | null
  | bool (b : Bool)
  | num (n : Int)
  | real (q : Rat)
  | str (s : String)
  | arr (xs : List Json)
  | obj (fields : List (String × Json))
deriving Repr

namespace Json

mutual

/-- Whether two documents are the same. -/
def same : Json → Json → Bool
  | .null, .null => true
  | .bool a, .bool b => a = b
  | .num a, .num b => a = b
  | .real a, .real b => a = b
  | .str a, .str b => a = b
  | .arr xs, .arr ys => sameAll xs ys
  | .obj xs, .obj ys => sameFields xs ys
  | _, _ => false

/-- Whether two lists of documents are the same. -/
def sameAll : List Json → List Json → Bool
  | [], [] => true
  | x :: xs, y :: ys => same x y && sameAll xs ys
  | _, _ => false

/-- Whether two lists of fields are the same. -/
def sameFields : List (String × Json) → List (String × Json) → Bool
  | [], [] => true
  | (k, x) :: xs, (l, y) :: ys => k = l && same x y && sameFields xs ys
  | _, _ => false

end

mutual

theorem same_iff : ∀ {a b : Json}, same a b = true ↔ a = b
  | .null, b => by cases b <;> simp [same]
  | .bool a, b => by cases b <;> simp [same]
  | .num a, b => by cases b <;> simp [same]
  | .real a, b => by cases b <;> simp [same]
  | .str a, b => by cases b <;> simp [same]
  | .arr xs, b => by cases b <;> simp [same, sameAll_iff]
  | .obj xs, b => by cases b <;> simp [same, sameFields_iff]

theorem sameAll_iff : ∀ {xs ys : List Json}, sameAll xs ys = true ↔ xs = ys
  | [], ys => by cases ys <;> simp [sameAll]
  | x :: xs, ys => by cases ys <;> simp [sameAll, same_iff, sameAll_iff]

theorem sameFields_iff : ∀ {xs ys : List (String × Json)}, sameFields xs ys = true ↔ xs = ys
  | [], ys => by cases ys <;> simp [sameFields]
  | (k, x) :: xs, ys => by
      cases ys <;> simp [sameFields, same_iff, sameFields_iff, Prod.ext_iff]

end

instance : DecidableEq Json := fun _ _ => decidable_of_iff _ same_iff

end Json

/-- An optional document, `null` when there is none. -/
def Json.ofOption {α : Type} (f : α → Json) : Option α → Json
  | none => .null
  | some a => f a

/-- A dictionary with string keys and values. -/
structure Dict where
  /-- Its entries. -/
  entries : List (String × String)
  /-- The keys increase strictly. -/
  sorted : entries.Pairwise fun a b => a.1 < b.1

namespace Dict

instance : DecidableEq Dict := fun a b =>
  decidable_of_iff (a.entries = b.entries)
    ⟨fun h => by cases a; cases b; cases h; rfl, fun h => h ▸ rfl⟩

/-- The empty dictionary. -/
def empty : Dict := ⟨[], .nil⟩

/-- The document of a dictionary. -/
def toJson (d : Dict) : Json := .obj (d.entries.map fun e => (e.1, .str e.2))

end Dict

/-! ## Hashing -/

/-- Whether a character is a lower-case hexadecimal digit. -/
def isHexDigit (c : Char) : Bool := ('0' ≤ c && c ≤ '9') || ('a' ≤ c && c ≤ 'f')

/-- A digest: 64 lower-case hexadecimal digits. -/
structure Digest where
  /-- The digits. -/
  hex : String
  /-- There are 64 of them, and all are digits. -/
  wellFormed : hex.toList.length = 64 ∧ hex.toList.all isHexDigit = true

namespace Digest

instance : DecidableEq Digest := fun a b =>
  decidable_of_iff (a.hex = b.hex)
    ⟨fun h => by cases a; cases b; cases h; rfl, fun h => h ▸ rfl⟩

/-- The digest of 64 zeros, which no event stands behind. -/
def zero : Digest :=
  ⟨"0000000000000000000000000000000000000000000000000000000000000000", by decide⟩

end Digest

/-- The hash functions and the canonical text of a document. -/
structure Platform where
  /-- `hashlib.sha256(text.encode("utf-8")).hexdigest()`. -/
  sha256 : String → Digest
  /-- `json.dumps` with sorted keys and no blanks. -/
  dumps : Json → String
  /-- The text a datetime has in a document. -/
  isoformat : DateTime → String
  /-- `hmac.new(secret, message, hashlib.sha256).hexdigest()`. -/
  hmac : String → String → String

/-- The digest of a document. -/
def Platform.digest (P : Platform) (value : Json) : Digest := P.sha256 (P.dumps value)

instance neZero_sixteen : NeZero 16 := ⟨by decide⟩

/-- A hexadecimal digit. -/
def hexDigit (n : Fin 16) : Char := if n < 10 then Char.ofNat (48 + n) else Char.ofNat (87 + n)

theorem isHexDigit_hexDigit : ∀ n, isHexDigit (hexDigit n) = true := by decide

/-- The digest with the last 64 hexadecimal digits of a number, lowest first. -/
def Digest.ofNat (n : Nat) : Digest where
  hex := String.ofList ((List.range 64).map fun i => hexDigit (Fin.ofNat 16 (n / 16 ^ i)))
  wellFormed := by simp [isHexDigit_hexDigit]

/-- A platform with a polynomial for a hash, to run the model on examples. -/
def samplePlatform : Platform where
  sha256 text := .ofNat
    (text.toByteArray.data.toList.foldl (fun h b => (257 * h + b.toNat) % 2 ^ 256) 0)
  dumps _ := ""
  isoformat _ := ""
  hmac _ _ := Digest.zero.hex

/-- Whether a string has ASCII characters only, which UTF-8 encodes below 128. -/
def isAscii (s : String) : Bool := s.toByteArray.data.toList.all fun b => decide (b.toNat < 128)

/-- `hmac.compare_digest` on two strings.  It refuses other than ASCII text. -/
def compareDigest (a b : String) : Except Raised Bool :=
  if isAscii a && isAscii b then .ok (a = b)
  else .error ⟨.typeError, "comparing strings with non-ASCII characters is not supported"⟩

theorem compareDigest_eq_ok {a b : String} {r : Bool} :
    compareDigest a b = .ok r ↔ (isAscii a && isAscii b) = true ∧ r = decide (a = b) := by
  unfold compareDigest
  split
  case isTrue h => simp [h, eq_comm]
  case isFalse h => simp [h]

/-- The conjunction `compare_digest(a, b) and compare_digest(c, d)`. -/
def compareBoth (a b c d : String) : Except Raised Bool := do
  if ← compareDigest a b then compareDigest c d else pure false

theorem compareBoth_eq_true {a b c d : String} (h : compareBoth a b c d = .ok true) :
    a = b ∧ c = d := by
  unfold compareBoth at h
  cases hab : compareDigest a b with
  | error e => rw [hab] at h; cases h
  | ok r =>
      rw [hab] at h
      have hr := (compareDigest_eq_ok.mp hab).2
      cases r with
      | false => cases h
      | true =>
          have hd := (compareDigest_eq_ok.mp h).2
          exact ⟨by simpa using hr, by simpa using hd⟩

end AgentPact
