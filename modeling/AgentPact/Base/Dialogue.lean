/-!
# Dialogues with an environment

A dialogue is a program that asks its environment questions and goes on with
the answers.  The environment is arbitrary: any answer of the right type may
come back, at any time.  The *history* of a dialogue is the list of its
questions with their answers, oldest first.

`Dialogue.Holds G Q d h` is the weakest precondition of a dialogue.  After the
history `h`, every question the dialogue asks satisfies the guarantee `G`, and
whatever it returns satisfies `Q`.  `Holds.ret_of_walk` and `Holds.asked_of_walk`
say what that means for every walk, that is for every environment.

A session is a dialogue with a state of its own that may raise.  A raise keeps
the state.  The rules for `Session.Holds` follow the program text and are
equivalences, so that a proof computes a precondition by rewriting.
-/

namespace Base

variable {Call : Type} {Answer : Call → Type}

/-! ## Dialogues -/

/-- A program that asks questions. -/
inductive Dialogue (Answer : Call → Type) (α : Type) where
  /-- It is over, with a result. -/
  | ret (a : α)
  /-- It asks, and goes on with the answer. -/
  | ask (c : Call) (k : Answer c → Dialogue Answer α)

/-- Questions with their answers, oldest first. -/
abbrev History (Answer : Call → Type) := List (Sigma Answer)

namespace Dialogue

variable {α β : Type}

/-- One dialogue after the other. -/
def bind (f : α → Dialogue Answer β) : Dialogue Answer α → Dialogue Answer β
  | .ret a => f a
  | .ask c k => .ask c fun r => bind f (k r)

/-- The weakest precondition of a dialogue. -/
def Holds (G : History Answer → Call → Prop) (Q : α → History Answer → Prop) :
    Dialogue Answer α → History Answer → Prop
  | .ret a, h => Q a h
  | .ask c k, h => G h c ∧ ∀ r, Holds G Q (k r) (h ++ [⟨c, r⟩])

/-- What a dialogue has become after some questions and answers. -/
inductive Walk : Dialogue Answer α → History Answer → Dialogue Answer α → Prop
  | nil (d : Dialogue Answer α) : Walk d [] d
  | cons {c : Call} {k : Answer c → Dialogue Answer α} {r : Answer c} {h : History Answer}
      {d : Dialogue Answer α} : Walk (k r) h d → Walk (.ask c k) (⟨c, r⟩ :: h) d

/-- Let an environment answer every question, seeing the history. -/
def play (env : History Answer → (c : Call) → Answer c) :
    Dialogue Answer α → History Answer → History Answer × α
  | .ret a, _ => ([], a)
  | .ask c k, h =>
      let r := env h c
      let (rest, a) := play env (k r) (h ++ [⟨c, r⟩])
      (⟨c, r⟩ :: rest, a)

theorem walk_play (env : History Answer → (c : Call) → Answer c) (d : Dialogue Answer α)
    (h : History Answer) : Walk d (play env d h).1 (.ret (play env d h).2) := by
  induction d generalizing h with
  | ret a => exact .nil _
  | ask c k ih => exact .cons (ih _ _)

variable {G : History Answer → Call → Prop} {Q : α → History Answer → Prop}

theorem holds_bind {f : α → Dialogue Answer β} {Q : β → History Answer → Prop}
    {d : Dialogue Answer α} {h : History Answer} :
    (d.bind f).Holds G Q h ↔ d.Holds G (fun a h' => (f a).Holds G Q h') h := by
  induction d generalizing h with
  | ret a => exact Iff.rfl
  | ask c k ih =>
      simp only [bind, Holds]
      exact and_congr_right fun _ => forall_congr' fun r => ih r

theorem Holds.mono {Q' : α → History Answer → Prop} {d : Dialogue Answer α} {h : History Answer}
    (hd : d.Holds G Q h) (hQ : ∀ a h', Q a h' → Q' a h') : d.Holds G Q' h := by
  induction d generalizing h with
  | ret a => exact hQ a h hd
  | ask c k ih => exact ⟨hd.1, fun r => ih r (hd.2 r)⟩

/-- A walk leads to a dialogue that holds. -/
theorem Holds.of_walk {d e : Dialogue Answer α} {h h' : History Answer} (hd : d.Holds G Q h)
    (hw : Walk d h' e) : e.Holds G Q (h ++ h') := by
  induction hw generalizing h with
  | nil => simpa using hd
  | cons _ ih => simpa using ih (hd.2 _)

/-- Whatever the environment answers, the result is as promised. -/
theorem Holds.ret_of_walk {d : Dialogue Answer α} {h h' : History Answer} {a : α}
    (hd : d.Holds G Q h) (hw : Walk d h' (.ret a)) : Q a (h ++ h') := hd.of_walk hw

/-- Whatever the environment answered, every question so far was guaranteed when it was asked. -/
theorem Holds.asked_of_walk {d e : Dialogue Answer α} {h h' : History Answer}
    (hd : d.Holds G Q h) (hw : Walk d h' e) {pre post : History Answer} {c : Call} {r : Answer c}
    (hsplit : h' = pre ++ ⟨c, r⟩ :: post) : G (h ++ pre) c := by
  induction hw generalizing h pre with
  | nil => simp at hsplit
  | cons hw ih =>
      cases pre with
      | nil =>
          cases hsplit
          simpa using hd.1
      | cons x pre =>
          simp only [List.cons_append, List.cons.injEq] at hsplit
          obtain ⟨rfl, hsplit⟩ := hsplit
          simpa using ih (hd.2 _) hsplit

/-- What every walk shows is what holds. -/
theorem holds_of_walks {d : Dialogue Answer α} {h : History Answer}
    (hG : ∀ h' c k, Walk d h' (.ask c k) → G (h ++ h') c)
    (hQ : ∀ h' a, Walk d h' (.ret a) → Q a (h ++ h')) : d.Holds G Q h := by
  induction d generalizing h with
  | ret a =>
      have ha := hQ [] a (.nil _)
      rwa [List.append_nil] at ha
  | ask c k ih =>
      refine ⟨by simpa using hG [] c k (.nil _), fun r => ih r (fun h' c' k' hw => ?_)
        fun h' a hw => ?_⟩
      · simpa using hG _ c' k' (.cons hw)
      · simpa using hQ _ a (.cons hw)

/-! ## Layers

The environment of a dialogue may itself be a program, with a state of its own and with an
environment below it. -/

section Layers

variable {Call' : Type} {Answer' : Call' → Type} {τ : Type}
  {G' : History Answer' → Call' → Prop}

/-- Answer the questions of a dialogue by dialogues with the environment below. -/
def serve (f : (c : Call) → τ → Dialogue Answer' (Answer c × τ)) :
    Dialogue Answer α → τ → Dialogue Answer' (α × τ)
  | .ret a, t => .ret (a, t)
  | .ask c k, t => (f c t).bind fun r => serve f (k r.1) r.2

/-- What relates the two histories, and is kept by every answer, relates them at the end. -/
theorem Holds.serve {I : History Answer → τ → History Answer' → Prop}
    {f : (c : Call) → τ → Dialogue Answer' (Answer c × τ)}
    (hf : ∀ c h t h', G h c → I h t h' →
      (f c t).Holds G' (fun r h'' => I (h ++ [⟨c, r.1⟩]) r.2 h'') h')
    {d : Dialogue Answer α} {h : History Answer} {t : τ} {h' : History Answer'}
    (hd : d.Holds G Q h) (hI : I h t h') :
    (d.serve f t).Holds G' (fun r h'' => ∃ more, Q r.1 more ∧ I more r.2 h'') h' := by
  induction d generalizing h t h' with
  | ret a => exact ⟨h, hd, hI⟩
  | ask c k ih =>
      exact holds_bind.mpr ((hf c h t h' hd.1 hI).mono fun r h'' hr => ih r.1 (hd.2 r.1) hr)

/-- The answers of two environments. -/
abbrev Both (Answer : Call → Type) (Answer' : Call' → Type) : Call ⊕ Call' → Type :=
  Sum.elim Answer Answer'

/-- A history with the second of two environments. -/
def beneath (h : History Answer') : History (Both Answer Answer') :=
  h.map fun x => ⟨.inr x.1, x.2⟩

@[simp] theorem beneath_append (h h' : History Answer') :
    (beneath (h ++ h') : History (Both Answer Answer')) = beneath h ++ beneath h' := List.map_append

/-- A call of the second environment splits what was asked of it. -/
theorem beneath_eq_append_cons {h : History Answer'} {pre post : History (Both Answer Answer')}
    {c : Call'} {r : Answer' c} (hsplit : beneath h = pre ++ ⟨.inr c, r⟩ :: post) :
    ∃ before after, h = before ++ ⟨c, r⟩ :: after ∧ pre = beneath before ∧
      post = beneath after := by
  obtain ⟨before, rest, rfl, rfl, hrest⟩ := List.map_eq_append_iff.mp hsplit
  obtain ⟨x, after, rfl, hx, rfl⟩ := List.map_eq_cons_iff.mp hrest
  obtain ⟨c', r'⟩ := x
  cases hx
  exact ⟨before, after, rfl, rfl, rfl⟩

/-- A dialogue with the second of two environments. -/
def embed : Dialogue Answer' α → Dialogue (Both Answer Answer') α
  | .ret a => .ret a
  | .ask c k => .ask (.inr c) fun r => embed (k r)

/-- What holds of a dialogue holds of it among others. -/
theorem holds_embed {G : History (Both Answer Answer') → Call ⊕ Call' → Prop}
    {Q : α → History (Both Answer Answer') → Prop} {d : Dialogue Answer' α}
    {before : History (Both Answer Answer')} {h : History Answer'}
    (hd : d.Holds (fun h c => G (before ++ beneath h) (.inr c))
      (fun a h => Q a (before ++ beneath h)) h) : d.embed.Holds G Q (before ++ beneath h) := by
  induction d generalizing h with
  | ret a => exact hd
  | ask c k ih =>
      refine ⟨hd.1, fun r => ?_⟩
      have hr := ih r (hd.2 r)
      rw [beneath_append, ← List.append_assoc] at hr
      exact hr

end Layers

end Dialogue

/-! ## Sessions -/

/-- A dialogue with a state of its own that may raise. -/
def Session (Answer : Call → Type) (σ ε α : Type) := σ → Dialogue Answer (Except ε α × σ)

namespace Session

variable {σ ε α β : Type}

instance : Monad (Session Answer σ ε) where
  pure a := fun s => .ret (.ok a, s)
  bind x f := fun s => (x s).bind fun
    | (.ok a, s') => f a s'
    | (.error e, s') => .ret (.error e, s')

/-- Ask a question. -/
def ask (c : Call) : Session Answer σ ε (Answer c) := fun s => .ask c fun r => .ret (.ok r, s)

/-- The state. -/
def state : Session Answer σ ε σ := fun s => .ret (.ok s, s)

/-- Change the state. -/
def change (f : σ → σ) : Session Answer σ ε Unit := fun s => .ret (.ok (), f s)

/-- A computation that may raise. -/
def lift (x : Except ε α) : Session Answer σ ε α := fun s => .ret (x, s)

/-- Raise unless a condition holds. -/
def require (p : Prop) [Decidable p] (e : ε) : Session Answer σ ε Unit :=
  lift (if p then .ok () else .error e)

/-- Catch whatever is raised. -/
def attempt (x : Session Answer σ ε α) : Session Answer σ ε (Except ε α) := fun s =>
  (x s).bind fun r => .ret (.ok r.1, r.2)

variable {G : History Answer → Call → Prop} {s : σ} {h : History Answer}

/-- The weakest precondition of a session. -/
def Holds (G : History Answer → Call → Prop) (x : Session Answer σ ε α) (s : σ)
    (h : History Answer) (Q : Except ε α → σ → History Answer → Prop) : Prop :=
  (x s).Holds G (fun r h' => Q r.1 r.2 h') h

@[simp] theorem holds_pure {a : α} {Q : Except ε α → σ → History Answer → Prop} :
    Holds G (pure a : Session Answer σ ε α) s h Q ↔ Q (.ok a) s h := Iff.rfl

@[simp] theorem holds_ask {c : Call} {Q : Except ε (Answer c) → σ → History Answer → Prop} :
    Holds G (ask c) s h Q ↔ G h c ∧ ∀ r, Q (.ok r) s (h ++ [⟨c, r⟩]) := Iff.rfl

@[simp] theorem holds_state {Q : Except ε σ → σ → History Answer → Prop} :
    Holds G state s h Q ↔ Q (.ok s) s h := Iff.rfl

@[simp] theorem holds_change {f : σ → σ} {Q : Except ε Unit → σ → History Answer → Prop} :
    Holds G (change f) s h Q ↔ Q (.ok ()) (f s) h := Iff.rfl

@[simp] theorem holds_lift {x : Except ε α} {Q : Except ε α → σ → History Answer → Prop} :
    Holds G (lift x) s h Q ↔ Q x s h := Iff.rfl

/-- What is promised of the rest when the first part returns, and of the whole when it raises. -/
def After (G : History Answer → Call → Prop) (f : α → Session Answer σ ε β)
    (Q : Except ε β → σ → History Answer → Prop) :
    Except ε α → σ → History Answer → Prop
  | .ok a, s, h => Holds G (f a) s h Q
  | .error e, s, h => Q (.error e) s h

@[simp] theorem after_ok {f : α → Session Answer σ ε β}
    {Q : Except ε β → σ → History Answer → Prop} {a : α} :
    After G f Q (.ok a) s h ↔ Holds G (f a) s h Q := Iff.rfl

@[simp] theorem after_error {f : α → Session Answer σ ε β}
    {Q : Except ε β → σ → History Answer → Prop} {e : ε} :
    After G f Q (.error e) s h ↔ Q (.error e) s h := Iff.rfl

@[simp] theorem holds_bind {x : Session Answer σ ε α} {f : α → Session Answer σ ε β}
    {Q : Except ε β → σ → History Answer → Prop} :
    Holds G (x >>= f) s h Q ↔ Holds G x s h (After G f Q) := by
  unfold Holds
  refine Dialogue.holds_bind.trans ?_
  have hpost : (fun (r : Except ε α × σ) h' => Dialogue.Holds G
      (fun (r : Except ε β × σ) h' => Q r.1 r.2 h') (match r with
        | (.ok a, s') => f a s'
        | (.error e, s') => .ret (.error e, s')) h') =
      fun r h' => After G f Q r.1 r.2 h' := by
    funext r h'
    obtain ⟨r, s'⟩ := r
    cases r <;> rfl
  rw [← hpost]

@[simp] theorem holds_attempt {x : Session Answer σ ε α}
    {Q : Except ε (Except ε α) → σ → History Answer → Prop} :
    Holds G (attempt x) s h Q ↔ Holds G x s h (fun r s' h' => Q (.ok r) s' h') :=
  Dialogue.holds_bind

/-- What holds of the first part is enough for the rest. -/
theorem Holds.bind {x : Session Answer σ ε α} {f : α → Session Answer σ ε β}
    {R : Except ε α → σ → History Answer → Prop} {Q : Except ε β → σ → History Answer → Prop}
    (hx : Holds G x s h R) (hok : ∀ a s' h', R (.ok a) s' h' → Holds G (f a) s' h' Q)
    (herror : ∀ e s' h', R (.error e) s' h' → Q (.error e) s' h') : Holds G (x >>= f) s h Q := by
  rw [holds_bind]
  refine Dialogue.Holds.mono hx fun r h' hr => ?_
  obtain ⟨r, s'⟩ := r
  cases r with
  | ok a => exact hok a s' h' hr
  | error e => exact herror e s' h' hr

/-- Ask, and go on with the answer. -/
theorem Holds.ask_bind {c : Call} {f : Answer c → Session Answer σ ε β}
    {Q : Except ε β → σ → History Answer → Prop} (hc : G h c)
    (hf : ∀ r, Holds G (f r) s (h ++ [⟨c, r⟩]) Q) : Holds G (ask c >>= f) s h Q :=
  holds_bind.mpr (holds_ask.mpr ⟨hc, hf⟩)

/-- Read the state, and go on with it. -/
theorem Holds.state_bind {f : σ → Session Answer σ ε β}
    {Q : Except ε β → σ → History Answer → Prop} (hf : Holds G (f s) s h Q) :
    Holds G (state >>= f) s h Q := holds_bind.mpr hf

/-- A computation raises, or the session goes on with its result. -/
theorem Holds.lift_bind {x : Except ε α} {f : α → Session Answer σ ε β}
    {Q : Except ε β → σ → History Answer → Prop} (herror : ∀ e, x = .error e → Q (.error e) s h)
    (hok : ∀ a, x = .ok a → Holds G (f a) s h Q) : Holds G (lift x >>= f) s h Q := by
  rw [holds_bind, holds_lift]
  cases x with
  | ok a => exact hok a rfl
  | error e => exact herror e rfl

/-- A guard raises, or the session goes on. -/
theorem Holds.require_bind {p : Prop} [Decidable p] {e : ε} {f : Unit → Session Answer σ ε β}
    {Q : Except ε β → σ → History Answer → Prop} (hnot : ¬ p → Q (.error e) s h)
    (hp : p → Holds G (f ()) s h Q) : Holds G (require p e >>= f) s h Q := by
  refine .lift_bind (fun e' he => ?_) fun u hu => ?_
  · split at he
    case isTrue => cases he
    case isFalse h => cases he; exact hnot h
  · split at hu
    case isTrue h => exact hp h
    case isFalse => cases hu

theorem holds_require {p : Prop} [Decidable p] {e : ε} {Q : Except ε Unit → σ → History Answer → Prop}
    (hnot : ¬ p → Q (.error e) s h) (hp : p → Q (.ok ()) s h) :
    Holds G (require p e : Session Answer σ ε Unit) s h Q := by
  unfold require
  rw [holds_lift]
  split
  case isTrue h => exact hp h
  case isFalse h => exact hnot h

/-- A weaker promise. -/
theorem Holds.mono {x : Session Answer σ ε α} {Q Q' : Except ε α → σ → History Answer → Prop}
    (hx : Holds G x s h Q) (hQ : ∀ r s' h', Q r s' h' → Q' r s' h') : Holds G x s h Q' :=
  Dialogue.Holds.mono hx fun _ _ => hQ _ _ _

end Session

end Base
