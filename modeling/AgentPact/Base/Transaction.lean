import Mathlib.Logic.Relation

/-!
# Transactions over a store

A transaction is a program that reads and writes a store and may raise.  A
raise keeps the writes made before it, as an uncommitted session does.
`Transaction.atomic` is the block around it: it commits the writes of a program
that returns, and takes back those of one that raises.

The first part inverts a run.  A program that returned or raised is taken apart
at its binds, its guards and its reads, so that a proof never unfolds the
monad.

The second part follows what a program may do to the store.  `Within R x` says
that whatever `x` does, it leaves the store `R`-related to the store it found.
The rules for `Within` follow the program text, so that a program made of steps
is within the closure of what the steps may do.
-/

namespace Base

/-- A program that reads and writes a store `σ` and may raise an `ε`. -/
abbrev Transaction (ε σ α : Type) := EStateM ε σ α

namespace Transaction

variable {ε σ τ α β : Type}

/-! ## Programs -/

/-- Raise unless a condition holds. -/
def require (p : Prop) [Decidable p] (e : ε) : Transaction ε σ Unit :=
  if p then pure () else throw e

/-- Read from the store, raising if there is nothing to read. -/
def fetch (read : σ → Option α) (e : ε) : Transaction ε σ α := fun s =>
  match read s with
  | some a => .ok a s
  | none => .error e s

/-- A computation that does not touch the store. -/
def lift (x : Except ε α) : Transaction ε σ α := fun s =>
  match x with
  | .ok a => .ok a s
  | .error e => .error e s

/-- A computation that only reads the store. -/
def query (x : σ → Except ε α) : Transaction ε σ α := fun s => lift (x s) s

/-- Read from the store. -/
def read (f : σ → α) : Transaction ε σ α := fun s => .ok (f s) s

/-- Write to the store, raising if the write is refused. -/
def write? (put : σ → Option σ) (e : ε) : Transaction ε σ Unit := fun s =>
  match put s with
  | some s' => .ok () s'
  | none => .error e s

/-- Write to the store. -/
def write (put : σ → σ) : Transaction ε σ Unit := fun s => .ok () (put s)

/-- Run a program, and take its writes back if it raises. -/
def atomic (x : Transaction ε σ α) : Transaction ε σ α := fun s =>
  match x s with
  | .ok a s' => .ok a s'
  | .error e _ => .error e s

/-- Run a program, and raise another exception for the one it raises. -/
def translating (f : ε → ε) (x : Transaction ε σ α) : Transaction ε σ α := fun s =>
  match x s with
  | .ok a s' => .ok a s'
  | .error e s' => .error (f e) s'

/-- Run a program, and go on without its result if it raises an exception that is caught.  The
writes made before it stay. -/
def attempt (caught : ε → Bool) (x : Transaction ε σ α) : Transaction ε σ (Option α) := fun s =>
  match x s with
  | .ok a s' => .ok (some a) s'
  | .error e s' => if caught e then .ok none s' else .error e s'

/-- Run a program on a part of a larger store. -/
def on (read : τ → σ) (put : σ → τ → τ) (x : Transaction ε σ α) : Transaction ε τ α := fun t =>
  match x (read t) with
  | .ok a s' => .ok a (put s' t)
  | .error e s' => .error e (put s' t)

/-- The store a run leaves, whether it returned or raised. -/
def left : EStateM.Result ε σ α → σ
  | .ok _ s => s
  | .error _ s => s

@[simp] theorem left_ok {a : α} {s : σ} : left (.ok a s : EStateM.Result ε σ α) = s := rfl

@[simp] theorem left_error {e : ε} {s : σ} :
    left (.error e s : EStateM.Result ε σ α) = s := rfl

/-- Whether a run returned. -/
def returned : EStateM.Result ε σ α → Bool
  | .ok _ _ => true
  | .error _ _ => false

theorem exists_of_returned {r : EStateM.Result ε σ α} (h : returned r = true) :
    ∃ a, r = .ok a (left r) := by
  cases r with
  | ok a s => exact ⟨a, rfl⟩
  | error e s => cases h

/-- What a run raised. -/
def raised : EStateM.Result ε σ α → Option ε
  | .ok _ _ => none
  | .error e _ => some e

theorem exists_of_raised {r : EStateM.Result ε σ α} {e : ε} (h : raised r = some e) :
    r = .error e (left r) := by
  cases r with
  | ok a s => cases h
  | error e' s => cases h; rfl

/-! ## Inverting a run -/

@[simp] theorem pure_apply {a : α} {s : σ} :
    (pure a : Transaction ε σ α) s = .ok a s := rfl

@[simp] theorem throw_apply {e : ε} {s : σ} :
    (throw e : Transaction ε σ α) s = .error e s := rfl

theorem bind_eq_ok {x : Transaction ε σ α} {f : α → Transaction ε σ β} {s t : σ} {b : β} :
    (x >>= f) s = .ok b t ↔ ∃ a s', x s = .ok a s' ∧ f a s' = .ok b t := by
  change EStateM.bind x f s = _ ↔ _
  unfold EStateM.bind
  cases hx : x s with
  | ok a s' => exact ⟨fun h => ⟨a, s', rfl, h⟩, by rintro ⟨_, _, ⟨⟩, h⟩; exact h⟩
  | error e s' => simp

theorem bind_eq_error {x : Transaction ε σ α} {f : α → Transaction ε σ β} {s t : σ} {e : ε} :
    (x >>= f) s = .error e t ↔
      x s = .error e t ∨ ∃ a s', x s = .ok a s' ∧ f a s' = .error e t := by
  change EStateM.bind x f s = _ ↔ _
  unfold EStateM.bind
  cases hx : x s with
  | ok a s' =>
      exact ⟨fun h => .inr ⟨a, s', rfl, h⟩, by rintro (⟨⟨⟩⟩ | ⟨_, _, ⟨⟩, h⟩); exact h⟩
  | error e s' => simp

/-- A bind goes on after a program that returns. -/
theorem bind_of_ok {x : Transaction ε σ α} {f : α → Transaction ε σ β} {s s' : σ} {a : α}
    (h : x s = .ok a s') : (x >>= f) s = f a s' := by
  change EStateM.bind x f s = _
  unfold EStateM.bind
  rw [h]

/-- A bind stops at a raise. -/
theorem bind_of_error {x : Transaction ε σ α} {f : α → Transaction ε σ β} {s s' : σ} {e : ε}
    (h : x s = .error e s') : (x >>= f) s = .error e s' := by
  change EStateM.bind x f s = _
  unfold EStateM.bind
  rw [h]

theorem require_apply {p : Prop} [Decidable p] {e : ε} {s : σ} :
    (require p e : Transaction ε σ Unit) s = if p then .ok () s else .error e s := by
  unfold require
  split <;> rfl

@[simp] theorem require_eq_ok {p : Prop} [Decidable p] {e : ε} {s t : σ} {u : Unit} :
    (require p e : Transaction ε σ Unit) s = .ok u t ↔ p ∧ t = s := by
  rw [require_apply]
  split
  case isTrue h => simp [h, eq_comm]
  case isFalse h => simp [h]

@[simp] theorem require_eq_error {p : Prop} [Decidable p] {e e' : ε} {s t : σ} :
    (require p e : Transaction ε σ Unit) s = .error e' t ↔ ¬ p ∧ e' = e ∧ t = s := by
  rw [require_apply]
  split
  case isTrue h => simp [h]
  case isFalse h => simp [h, eq_comm]

/-- A guard that holds is passed. -/
theorem require_bind {p : Prop} [Decidable p] {e : ε} {f : Unit → Transaction ε σ β} {s : σ}
    (h : p) : (require p e >>= f) s = f () s :=
  bind_of_ok (require_eq_ok.mpr ⟨h, rfl⟩)

/-- A guard that fails raises. -/
theorem require_bind_not {p : Prop} [Decidable p] {e : ε} {f : Unit → Transaction ε σ β}
    {s : σ} (h : ¬ p) : (require p e >>= f) s = .error e s :=
  bind_of_error (require_eq_error.mpr ⟨h, rfl, rfl⟩)

/-- A guard is passed exactly when it holds. -/
theorem require_bind_eq_ok {p : Prop} [Decidable p] {e : ε} {f : Unit → Transaction ε σ β}
    {s t : σ} {b : β} : (require p e >>= f) s = .ok b t ↔ p ∧ f () s = .ok b t := by
  by_cases h : p
  · simp [require_bind h, h]
  · simp [require_bind_not h, h]

@[simp] theorem fetch_eq_ok {read : σ → Option α} {e : ε} {s t : σ} {a : α} :
    fetch read e s = .ok a t ↔ read s = some a ∧ t = s := by
  unfold fetch
  cases read s with
  | none => simp
  | some b => simp [eq_comm]

@[simp] theorem fetch_eq_error {read : σ → Option α} {e e' : ε} {s t : σ} :
    fetch read e s = .error e' t ↔ read s = none ∧ e' = e ∧ t = s := by
  unfold fetch
  cases read s with
  | none => simp [eq_comm]
  | some b => simp

/-- What is fetched is handed to what follows. -/
theorem fetch_bind_eq_ok {g : σ → Option α} {e : ε} {f : α → Transaction ε σ β} {s t : σ}
    {b : β} : (fetch g e >>= f) s = .ok b t ↔ ∃ a, g s = some a ∧ f a s = .ok b t := by
  simp only [bind_eq_ok, fetch_eq_ok]
  constructor
  · rintro ⟨a, _, ⟨hread, rfl⟩, h⟩
    exact ⟨a, hread, h⟩
  · rintro ⟨a, hread, h⟩
    exact ⟨a, s, ⟨hread, rfl⟩, h⟩

@[simp] theorem lift_eq_ok {x : Except ε α} {s t : σ} {a : α} :
    (lift x : Transaction ε σ α) s = .ok a t ↔ x = .ok a ∧ t = s := by
  unfold lift
  cases x with
  | ok b => simp [eq_comm]
  | error e => simp

@[simp] theorem lift_eq_error {x : Except ε α} {s t : σ} {e : ε} :
    (lift x : Transaction ε σ α) s = .error e t ↔ x = .error e ∧ t = s := by
  unfold lift
  cases x with
  | ok b => simp
  | error e' => simp [eq_comm]

/-- A result that is lifted is handed to what follows. -/
theorem lift_bind_eq_ok {x : Except ε α} {f : α → Transaction ε σ β} {s t : σ} {b : β} :
    (lift x >>= f) s = .ok b t ↔ ∃ a, x = .ok a ∧ f a s = .ok b t := by
  simp only [bind_eq_ok, lift_eq_ok]
  constructor
  · rintro ⟨a, _, ⟨hx, rfl⟩, h⟩
    exact ⟨a, hx, h⟩
  · rintro ⟨a, hx, h⟩
    exact ⟨a, s, ⟨hx, rfl⟩, h⟩

@[simp] theorem query_eq_ok {x : σ → Except ε α} {s t : σ} {a : α} :
    query x s = .ok a t ↔ x s = .ok a ∧ t = s := lift_eq_ok

@[simp] theorem query_eq_error {x : σ → Except ε α} {s t : σ} {e : ε} :
    query x s = .error e t ↔ x s = .error e ∧ t = s := lift_eq_error

@[simp] theorem read_eq_ok {f : σ → α} {s t : σ} {a : α} :
    (read f : Transaction ε σ α) s = .ok a t ↔ a = f s ∧ t = s := by
  simp [read, eq_comm]

@[simp] theorem read_ne_error {f : σ → α} {s t : σ} {e : ε} :
    (read f : Transaction ε σ α) s ≠ .error e t := by
  simp [read]

/-- A read hands on what is in the store. -/
theorem read_bind {f : σ → α} {k : α → Transaction ε σ β} {s : σ} :
    (read f >>= k) s = k (f s) s :=
  bind_of_ok (read_eq_ok.mpr ⟨rfl, rfl⟩)

@[simp] theorem write?_eq_ok {put : σ → Option σ} {e : ε} {s t : σ} {u : Unit} :
    write? put e s = .ok u t ↔ put s = some t := by
  unfold write?
  cases put s with
  | none => simp
  | some s' => simp

@[simp] theorem write?_eq_error {put : σ → Option σ} {e e' : ε} {s t : σ} :
    write? put e s = .error e' t ↔ put s = none ∧ e' = e ∧ t = s := by
  unfold write?
  cases put s with
  | none => simp [eq_comm]
  | some s' => simp

@[simp] theorem write_eq_ok {put : σ → σ} {s t : σ} {u : Unit} :
    (write put : Transaction ε σ Unit) s = .ok u t ↔ t = put s := by
  simp [write, eq_comm]

@[simp] theorem write_ne_error {put : σ → σ} {s t : σ} {e : ε} :
    (write put : Transaction ε σ Unit) s ≠ .error e t := by
  simp [write]

@[simp] theorem atomic_eq_ok {x : Transaction ε σ α} {s t : σ} {a : α} :
    atomic x s = .ok a t ↔ x s = .ok a t := by
  unfold atomic
  cases x s with
  | ok b s' => simp
  | error e s' => simp

/-- A block that raises leaves the store as it found it. -/
theorem atomic_eq_error {x : Transaction ε σ α} {s t : σ} {e : ε} :
    atomic x s = .error e t ↔ (∃ t', x s = .error e t') ∧ t = s := by
  unfold atomic
  cases x s with
  | ok b s' => simp
  | error e' s' => simp [eq_comm]

@[simp] theorem translating_eq_ok {f : ε → ε} {x : Transaction ε σ α} {s t : σ} {a : α} :
    translating f x s = .ok a t ↔ x s = .ok a t := by
  unfold translating
  cases x s with
  | ok b s' => simp
  | error e s' => simp

/-- An attempt returns what its program returned, or nothing if the exception is caught. -/
theorem attempt_eq_ok {caught : ε → Bool} {x : Transaction ε σ α} {s t : σ} {r : Option α} :
    attempt caught x s = .ok r t ↔ (∃ a, x s = .ok a t ∧ r = some a) ∨
      ∃ e, x s = .error e t ∧ caught e = true ∧ r = none := by
  unfold attempt
  cases x s with
  | ok a s' =>
      constructor
      · rintro ⟨⟩
        exact .inl ⟨a, rfl, rfl⟩
      · rintro (⟨_, ⟨⟩, rfl⟩ | ⟨_, ⟨⟩, _⟩)
        rfl
  | error e s' =>
      dsimp only
      constructor
      · intro h
        split at h
        case isTrue hcaught =>
          cases h
          exact .inr ⟨e, rfl, hcaught, rfl⟩
        case isFalse => cases h
      · rintro (⟨_, ⟨⟩, _⟩ | ⟨_, ⟨⟩, hcaught, rfl⟩)
        rw [if_pos hcaught]

/-- An attempt raises what its program raised, if it is not caught. -/
theorem attempt_eq_error {caught : ε → Bool} {x : Transaction ε σ α} {s t : σ} {e : ε} :
    attempt caught x s = .error e t ↔ x s = .error e t ∧ caught e = false := by
  unfold attempt
  cases x s with
  | ok a s' => simp
  | error e' s' =>
      dsimp only
      split
      case isTrue h =>
        refine ⟨nofun, ?_⟩
        rintro ⟨⟨⟩, hnot⟩
        cases h.symm.trans hnot
      case isFalse h =>
        refine ⟨?_, ?_⟩
        · rintro ⟨⟩
          exact ⟨rfl, Bool.eq_false_iff.mpr h⟩
        · rintro ⟨⟨⟩, _⟩
          rfl

/-- Which exception is raised makes no difference to the store. -/
@[simp] theorem left_translating {f : ε → ε} {x : Transaction ε σ α} {s : σ} :
    left (translating f x s) = left (x s) := by
  unfold translating
  cases x s with
  | ok a s' => rfl
  | error e s' => rfl

/-- What follows a program and writes nothing makes no difference to the store. -/
theorem left_bind_of_keeps {x : Transaction ε σ α} {f : α → Transaction ε σ β} {s : σ}
    (h : ∀ a t, x s = .ok a t → left (f a t) = t) : left ((x >>= f) s) = left (x s) := by
  cases hx : x s with
  | ok a t => rw [bind_of_ok hx]; exact h a t hx
  | error e t => rw [bind_of_error hx]; rfl

@[simp] theorem left_query {x : σ → Except ε α} {s : σ} : left (query x s) = s := by
  unfold query lift
  cases x s <;> rfl

/-! ## One part at a time

What holds of every end of a program is shown along its text. -/

/-- A program raises, or what follows goes on from where it returned. -/
theorem bind_elim {C : EStateM.Result ε σ β → Prop} {x : Transaction ε σ α}
    {f : α → Transaction ε σ β} {s : σ} (herror : ∀ e t, x s = .error e t → C (.error e t))
    (hok : ∀ a t, x s = .ok a t → C (f a t)) : C ((x >>= f) s) := by
  cases h : x s with
  | ok a t => exact (bind_of_ok h : (x >>= f) s = _) ▸ hok a t h
  | error e t => exact (bind_of_error h : (x >>= f) s = _) ▸ herror e t h

/-- A computation raises, or the program goes on with its result. -/
theorem lift_bind_elim {C : EStateM.Result ε σ β → Prop} {x : Except ε α}
    {f : α → Transaction ε σ β} {s : σ} (herror : ∀ e, x = .error e → C (.error e s))
    (hok : ∀ a, x = .ok a → C (f a s)) : C ((lift x >>= f) s) := by
  cases x with
  | ok a => exact (bind_of_ok (lift_eq_ok.mpr ⟨rfl, rfl⟩) : (lift _ >>= f) s = _) ▸ hok a rfl
  | error e =>
      exact (bind_of_error (lift_eq_error.mpr ⟨rfl, rfl⟩) : (lift _ >>= f) s = _) ▸ herror e rfl

/-- A fetch raises, or the program goes on with what is there. -/
theorem fetch_bind_elim {C : EStateM.Result ε σ β → Prop} {g : σ → Option α} {e : ε}
    {f : α → Transaction ε σ β} {s : σ} (hnone : g s = none → C (.error e s))
    (hsome : ∀ a, g s = some a → C (f a s)) : C ((fetch g e >>= f) s) := by
  cases hg : g s with
  | none =>
      rw [bind_of_error (fetch_eq_error.mpr ⟨hg, rfl, rfl⟩)]
      exact hnone hg
  | some a =>
      rw [bind_of_ok (fetch_eq_ok.mpr ⟨hg, rfl⟩)]
      exact hsome a hg

/-- A guard raises, or the program goes on. -/
theorem require_bind_elim {C : EStateM.Result ε σ β → Prop} {p : Prop} [Decidable p] {e : ε}
    {f : Unit → Transaction ε σ β} {s : σ} (hnot : ¬ p → C (.error e s))
    (hp : p → C (f () s)) : C ((require p e >>= f) s) := by
  by_cases h : p
  · rw [require_bind h]
    exact hp h
  · rw [require_bind_not h]
    exact hnot h

/-- A write is made, and the program goes on. -/
theorem write_bind {put : σ → σ} {f : Unit → Transaction ε σ β} {s : σ} :
    (write put >>= f) s = f () (put s) :=
  bind_of_ok (write_eq_ok.mpr rfl)

/-- What is made of a result makes no difference to the store. -/
@[simp] theorem left_map {f : α → β} {x : Transaction ε σ α} {s : σ} :
    left ((f <$> x) s) = left (x s) := by
  change left (EStateM.map f x s) = _
  unfold EStateM.map
  cases x s <;> rfl

theorem map_eq_ok {f : α → β} {x : Transaction ε σ α} {s t : σ} {b : β} :
    (f <$> x) s = .ok b t ↔ ∃ a, x s = .ok a t ∧ b = f a := by
  change EStateM.map f x s = _ ↔ _
  unfold EStateM.map
  cases x s with
  | ok a s' =>
      constructor
      · rintro ⟨⟩
        exact ⟨a, rfl, rfl⟩
      · rintro ⟨_, ⟨⟩, rfl⟩
        rfl
  | error e s' => simp

/-! ## What a program may do to the store -/

/-- Whatever the program does, it leaves the store related to the one it found. -/
def Within (R : σ → σ → Prop) (x : Transaction ε σ α) : Prop := ∀ s, R s (left (x s))

namespace Within

variable {R S : σ → σ → Prop}

theorem mono {x : Transaction ε σ α} (h : Within R x) (hRS : ∀ s t, R s t → S s t) :
    Within S x := fun s => hRS _ _ (h s)

/-- A run that returned stayed within. -/
theorem of_ok {x : Transaction ε σ α} (h : Within R x) {s t : σ} {a : α}
    (hx : x s = .ok a t) : R s t := by
  have hs := h s
  rwa [hx] at hs

/-- Programs that leave the store alone are within every reflexive relation. -/
theorem of_frame {x : Transaction ε σ α} (hR : ∀ s, R s s) (h : ∀ s, left (x s) = s) :
    Within R x := fun s => (h s).symm ▸ hR s

theorem pure (hR : ∀ s, R s s) (a : α) : Within R (Pure.pure a : Transaction ε σ α) := hR

theorem require {p : Prop} [Decidable p] (hR : ∀ s, R s s) (e : ε) :
    Within R (Transaction.require p e : Transaction ε σ Unit) :=
  of_frame hR fun s => by rw [require_apply]; split <;> rfl

theorem lift (hR : ∀ s, R s s) (x : Except ε α) :
    Within R (Transaction.lift x : Transaction ε σ α) :=
  of_frame hR fun s => by cases x <;> rfl

theorem query (hR : ∀ s, R s s) (x : σ → Except ε α) : Within R (Transaction.query x) :=
  of_frame hR fun s => by unfold Transaction.query Transaction.lift; cases x s <;> rfl

theorem bind {x : Transaction ε σ α} {f : α → Transaction ε σ β}
    (hR : ∀ s t u, R s t → R t u → R s u) (hx : Within R x) (hf : ∀ a, Within R (f a)) :
    Within R (x >>= f) := by
  intro s
  have hs := hx s
  cases h : x s with
  | ok a s' =>
      rw [bind_of_ok h]
      rw [h] at hs
      exact hR _ _ _ hs (hf a s')
  | error e s' =>
      rw [bind_of_error h]
      rwa [h] at hs

theorem atomic {x : Transaction ε σ α} (hR : ∀ s, R s s) (hx : Within R x) :
    Within R (Transaction.atomic x) := by
  intro s
  have hs := hx s
  unfold Transaction.atomic
  cases h : x s with
  | ok a s' => rwa [h] at hs
  | error e s' => exact hR s

/-- An exception that is caught changes nothing about the store. -/
theorem attempt {caught : ε → Bool} {x : Transaction ε σ α} (hx : Within R x) :
    Within R (Transaction.attempt caught x) := by
  intro s
  have hs := hx s
  unfold Transaction.attempt
  cases h : x s with
  | ok a s' => rwa [h] at hs
  | error e s' =>
      rw [h] at hs
      dsimp only
      split <;> exact hs

end Within

/-! ## Programs that leave the store as they found it -/

/-- From this store, the program leaves the store as it found it. -/
def Keeps (x : Transaction ε σ α) (s : σ) : Prop := left (x s) = s

namespace Keeps

variable {s : σ}

theorem pure (a : α) : Keeps (Pure.pure a : Transaction ε σ α) s := rfl

theorem require (p : Prop) [Decidable p] (e : ε) :
    Keeps (Transaction.require p e : Transaction ε σ Unit) s :=
  Within.require (R := fun s t => t = s) (fun _ => rfl) e s

theorem lift (x : Except ε α) : Keeps (Transaction.lift x : Transaction ε σ α) s :=
  Within.lift (R := fun s t => t = s) (fun _ => rfl) x s

theorem query (x : σ → Except ε α) : Keeps (Transaction.query x) s :=
  Within.query (R := fun s t => t = s) (fun _ => rfl) x s

theorem read (f : σ → α) : Keeps (Transaction.read f : Transaction ε σ α) s := rfl

theorem fetch (read : σ → Option α) (e : ε) : Keeps (Transaction.fetch read e) s := by
  unfold Keeps Transaction.fetch
  cases read s <;> rfl

/-- A program goes on from the same store if its first part kept it. -/
theorem bind {x : Transaction ε σ α} {f : α → Transaction ε σ β} (hx : Keeps x s)
    (hf : ∀ a, x s = .ok a s → Keeps (f a) s) : Keeps (x >>= f) s := by
  unfold Keeps at hx ⊢
  cases h : x s with
  | ok a t =>
      rw [h] at hx
      cases hx
      rw [bind_of_ok h]
      exact hf a h
  | error e t =>
      rw [h] at hx
      cases hx
      rw [bind_of_error h]
      rfl

/-- A block that raises keeps the store, so only its normal end counts. -/
theorem atomic {x : Transaction ε σ α} (h : ∀ a t, x s = .ok a t → t = s) :
    Keeps (Transaction.atomic x) s := by
  unfold Keeps Transaction.atomic
  cases hx : x s with
  | ok a t => exact h a t hx
  | error e t => rfl

theorem translating {f : ε → ε} {x : Transaction ε σ α} (h : Keeps x s) :
    Keeps (Transaction.translating f x) s := left_translating.trans h

end Keeps

/-! ## Programs that raise before they write -/

/-- Where the program raises, it has not written. -/
def Clean (x : Transaction ε σ α) : Prop := ∀ s e t, x s = .error e t → t = s

namespace Clean

/-- What the program leaves is what it found, or what it returned with. -/
theorem left_cases {x : Transaction ε σ α} (h : Clean x) (s : σ) :
    left (x s) = s ∨ ∃ a, x s = .ok a (left (x s)) := by
  cases hx : x s with
  | ok a t => exact .inr ⟨a, rfl⟩
  | error e t => exact .inl (h s e t hx)

/-- A program that writes nothing. -/
theorem of_keeps {x : Transaction ε σ α} (h : ∀ s, Keeps x s) : Clean x := by
  intro s e t hx
  have hs := h s
  unfold Keeps at hs
  rwa [hx] at hs

/-- A program that does not raise. -/
theorem of_returns {x : Transaction ε σ α} (h : ∀ s e t, x s ≠ .error e t) : Clean x :=
  fun s e t hx => absurd hx (h s e t)

theorem atomic (x : Transaction ε σ α) : Clean (Transaction.atomic x) :=
  fun _ _ _ h => (atomic_eq_error.mp h).2

theorem translating {f : ε → ε} {x : Transaction ε σ α} (h : Clean x) :
    Clean (Transaction.translating f x) := by
  intro s e t hx
  have hs := h s
  unfold Transaction.translating at hx
  cases hrun : x s with
  | ok a s' => rw [hrun] at hx; cases hx
  | error e' s' =>
      rw [hrun] at hx
      cases hx
      exact hs e' t hrun

/-- Reading first changes nothing. -/
theorem bind_keeps {x : Transaction ε σ α} {f : α → Transaction ε σ β} (hx : ∀ s, Keeps x s)
    (hf : ∀ a, Clean (f a)) : Clean (x >>= f) := by
  intro s e t h
  rcases bind_eq_error.mp h with herror | ⟨a, s', hok, herror⟩
  · exact of_keeps hx s e t herror
  · have hsame : left (x s) = s := hx s
    rw [hok] at hsame
    exact (hf a s' e t herror).trans hsame

/-- What cannot raise may follow. -/
theorem bind_returns {x : Transaction ε σ α} {f : α → Transaction ε σ β} (hx : Clean x)
    (hf : ∀ a s e t, f a s ≠ .error e t) : Clean (x >>= f) := by
  intro s e t h
  rcases bind_eq_error.mp h with herror | ⟨a, s', _, herror⟩
  · exact hx s e t herror
  · exact absurd herror (hf a s' e t)

end Clean

end Transaction

end Base
