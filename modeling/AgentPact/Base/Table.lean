import Mathlib.Data.List.Basic
import Mathlib.Data.List.Pairwise

/-!
# Tables with uniqueness constraints

A table is a list of rows that satisfies the uniqueness constraints of its row
type.  The constraints are one relation, `Schema.clash`: two rows that clash
may not stand in one table.  Rows with the same primary key always clash, and a
row type may add further pairs, so that composite, nullable and partial unique
indexes are all instances.

Inserting a row checks the constraints (`Table.insert?`).  Changing a row goes
through an `Edit`, a row function that adds no clash, so that every table there
is satisfies its constraints.
-/

namespace Base

/-- The primary key of a row type and its uniqueness constraints. -/
class Schema (ρ : Type) (κ : outParam Type) where
  /-- The primary key of a row. -/
  key : ρ → κ
  /-- Whether two rows may not stand in one table. -/
  clash : ρ → ρ → Bool
  /-- The primary key is unique. -/
  clash_of_key : ∀ {a b : ρ}, key a = key b → clash a b = true
  /-- Constraints do not look at the order of the rows. -/
  clash_symm : ∀ {a b : ρ}, clash a b = true → clash b a = true

/-- Rows that satisfy the constraints of their type, oldest first. -/
structure Table (ρ : Type) {κ : Type} [Schema ρ κ] where
  /-- The rows. -/
  rows : List ρ
  /-- No two of them clash. -/
  consistent : rows.Pairwise fun a b => ¬ Schema.clash a b = true

/-- A change of a row that keeps its primary key and adds no clash. -/
structure Edit (ρ : Type) {κ : Type} [Schema ρ κ] where
  /-- The changed row. -/
  apply : ρ → ρ
  /-- The primary key stays. -/
  key_apply : ∀ r, Schema.key (apply r) = Schema.key r
  /-- What clashes with the changed row clashed with the row. -/
  tame : ∀ {r x : ρ}, Schema.clash (apply r) x = true → Schema.clash r x = true

namespace Table

variable {ρ κ : Type} [Schema ρ κ]

theorem ext {t u : Table ρ} (h : t.rows = u.rows) : t = u := by
  cases t; cases u; cases h; rfl

instance [DecidableEq ρ] : DecidableEq (Table ρ) := fun t u =>
  decidable_of_iff (t.rows = u.rows) ⟨ext, fun h => h ▸ rfl⟩

/-- The table without rows. -/
def empty : Table ρ := ⟨[], .nil⟩

/-- The rows a condition selects, in order. -/
def select (t : Table ρ) (p : ρ → Bool) : List ρ := t.rows.filter p

@[simp] theorem mem_select {t : Table ρ} {p : ρ → Bool} {r : ρ} :
    r ∈ t.select p ↔ r ∈ t.rows ∧ p r = true := List.mem_filter

/-- Fewer rows are selected among more. -/
theorem select_eq_filter {t : Table ρ} {p q : ρ → Bool}
    (h : ∀ r ∈ t.rows, p r = true → q r = true) : t.select p = (t.select q).filter p := by
  unfold select
  rw [List.filter_filter]
  refine List.filter_congr fun r hr => ?_
  cases hp : p r with
  | true => rw [h r hr hp]; rfl
  | false => rfl

/-- Tables that agree on some rows agree on fewer. -/
theorem select_congr {t u : Table ρ} {p q q' : ρ → Bool} (h : t.select q = u.select q')
    (ht : ∀ r ∈ t.rows, p r = true → q r = true)
    (hu : ∀ r ∈ u.rows, p r = true → q' r = true) : t.select p = u.select p := by
  rw [select_eq_filter ht, select_eq_filter hu, h]

/-- Rows of a table that clash are one row. -/
theorem eq_of_clash {t : Table ρ} {a b : ρ} (ha : a ∈ t.rows) (hb : b ∈ t.rows)
    (h : Schema.clash a b = true) : a = b := by
  have : Std.Symm fun x y : ρ => ¬ Schema.clash x y = true :=
    ⟨fun _ _ hxy hyx => hxy (Schema.clash_symm hyx)⟩
  by_contra hne
  exact t.consistent.forall ha hb hne h

/-- A row that clashes with every row a condition selects is all that it selects. -/
theorem select_eq_singleton {t : Table ρ} {p : ρ → Bool} {r : ρ} (hr : r ∈ t.rows)
    (hp : p r = true) (h : ∀ x ∈ t.rows, p x = true → Schema.clash x r = true) :
    t.select p = [r] := by
  obtain ⟨before, after, hrows⟩ := List.append_of_mem hr
  have hconsistent := t.consistent
  rw [hrows, List.pairwise_append] at hconsistent
  obtain ⟨_, hafter, hbefore⟩ := hconsistent
  have hnone : ∀ x ∈ before ++ after, ¬ p x = true := by
    intro x hx hpx
    have hclash := h x (by rw [hrows]; simp at hx ⊢; tauto) hpx
    rcases List.mem_append.mp hx with hx | hx
    · exact hbefore x hx r (List.mem_cons_self ..) hclash
    · exact List.rel_of_pairwise_cons hafter hx (Schema.clash_symm hclash)
  unfold select
  rw [hrows, List.filter_append, List.filter_cons_of_pos hp,
    List.filter_eq_nil_iff.mpr fun x hx => hnone x (List.mem_append_left after hx),
    List.filter_eq_nil_iff.mpr fun x hx => hnone x (List.mem_append_right before hx)]
  rfl

/-- A table with one more row, if the row clashes with none. -/
def insert? (t : Table ρ) (r : ρ) : Option (Table ρ) :=
  if h : ∀ x ∈ t.rows, ¬ Schema.clash x r = true then
    some ⟨t.rows ++ [r], List.pairwise_append.mpr
      ⟨t.consistent, List.pairwise_singleton _ _, fun x hx y hy => by
        rw [List.mem_singleton.mp hy]; exact h x hx⟩⟩
  else none

theorem insert?_eq_some {t u : Table ρ} {r : ρ} :
    t.insert? r = some u ↔ (∀ x ∈ t.rows, ¬ Schema.clash x r = true) ∧ u.rows = t.rows ++ [r] := by
  unfold insert?
  split
  case isTrue h =>
    constructor
    · intro hu; cases hu; exact ⟨h, rfl⟩
    · rintro ⟨_, hu⟩; exact congrArg some (ext hu.symm)
  case isFalse h => exact ⟨(nomatch ·), fun hu => absurd hu.1 h⟩

/-- A row that clashes with none can be added. -/
theorem exists_insert? {t : Table ρ} {r : ρ} (h : ∀ x ∈ t.rows, ¬ Schema.clash x r = true) :
    ∃ u, t.insert? r = some u := by
  unfold insert?
  exact ⟨_, dif_pos h⟩

theorem mem_insert? {t u : Table ρ} {r x : ρ} (h : t.insert? r = some u) :
    x ∈ u.rows ↔ x ∈ t.rows ∨ x = r := by
  rw [(insert?_eq_some.mp h).2]
  simp

/-- A selection sees an inserted row last, if it wants it. -/
theorem select_insert? {t u : Table ρ} {r : ρ} {p : ρ → Bool} (h : t.insert? r = some u) :
    u.select p = t.select p ++ if p r then [r] else [] := by
  unfold select
  rw [(insert?_eq_some.mp h).2, List.filter_append, List.filter_singleton]
  cases p r <;> rfl

variable [DecidableEq κ]

/-- The row with a primary key. -/
def find? (t : Table ρ) (k : κ) : Option ρ :=
  t.rows.find? fun r => Schema.key r = k

/-- The row function that edits the row with primary key `k` only. -/
def editAt (k : κ) (e : Edit ρ) (r : ρ) : ρ :=
  if Schema.key r = k then e.apply r else r

theorem editAt_key (k : κ) (e : Edit ρ) (r : ρ) :
    Schema.key (editAt k e r) = Schema.key r := by
  unfold editAt
  split
  · exact e.key_apply r
  · rfl

theorem editAt_tame {k : κ} {e : Edit ρ} {r x : ρ}
    (h : Schema.clash (editAt k e r) x = true) : Schema.clash r x = true := by
  unfold editAt at h
  split at h
  · exact e.tame h
  · exact h

/-- The table with the row of one primary key edited. -/
def update (t : Table ρ) (k : κ) (e : Edit ρ) : Table ρ where
  rows := t.rows.map (editAt k e)
  consistent := by
    refine List.pairwise_map.mpr (t.consistent.imp fun hab h => hab ?_)
    exact Schema.clash_symm (editAt_tame (Schema.clash_symm (editAt_tame h)))

/-- The table with the row of one primary key changed, if that breaks no constraint. -/
def rewrite? (t : Table ρ) (k : κ) (f : ρ → ρ) : Option (Table ρ) :=
  let rows := t.rows.map fun r => if Schema.key r = k then f r else r
  if h : rows.Pairwise fun a b => ¬ Schema.clash a b = true then some ⟨rows, h⟩ else none

/-! ## Looking rows up -/

theorem find?_eq_some {t : Table ρ} {k : κ} {r : ρ} :
    t.find? k = some r ↔ r ∈ t.rows ∧ Schema.key r = k := by
  constructor
  · intro h
    exact ⟨List.mem_of_find?_eq_some h, by simpa using List.find?_some h⟩
  · rintro ⟨hr, rfl⟩
    cases hf : t.find? (Schema.key r) with
    | none =>
        have := List.find?_eq_none.mp hf r hr
        simp at this
    | some r' =>
        have hk : Schema.key r' = Schema.key r := by simpa using List.find?_some hf
        have hr' : r' ∈ t.rows := List.mem_of_find?_eq_some hf
        rw [eq_of_clash hr' hr (Schema.clash_of_key hk)]

theorem mem_of_find? {t : Table ρ} {k : κ} {r : ρ} (h : t.find? k = some r) :
    r ∈ t.rows := (find?_eq_some.mp h).1

theorem key_of_find? {t : Table ρ} {k : κ} {r : ρ} (h : t.find? k = some r) :
    Schema.key r = k := (find?_eq_some.mp h).2

theorem find?_key {t : Table ρ} {r : ρ} (h : r ∈ t.rows) : t.find? (Schema.key r) = some r :=
  find?_eq_some.mpr ⟨h, rfl⟩

/-- They agree on the row of a key, if it is one of them. -/
theorem find?_filter_congr {t u : Table ρ} {p : ρ → Bool} (h : t.select p = u.select p) (k : κ) :
    (t.find? k).filter p = (u.find? k).filter p := by
  have hmem : ∀ {v : Table ρ} {r : ρ}, (v.find? k).filter p = some r ↔
      r ∈ v.select p ∧ Schema.key r = k := by
    intro v r
    rw [Option.filter_eq_some_iff, find?_eq_some, mem_select, and_right_comm]
  exact Option.ext fun r => by rw [hmem, hmem, h]

theorem find?_eq_none {t : Table ρ} {k : κ} :
    t.find? k = none ↔ ∀ r ∈ t.rows, Schema.key r ≠ k := by
  simp [find?, List.find?_eq_none]

/-! ## Insertion -/

theorem find?_insert?_self {t u : Table ρ} {r : ρ} (h : t.insert? r = some u) :
    u.find? (Schema.key r) = some r :=
  find?_key ((mem_insert? h).mpr (.inr rfl))

/-- Insertion keeps every row that was found. -/
theorem find?_insert?_of_find? {t u : Table ρ} {r x : ρ} {k : κ}
    (h : t.insert? r = some u) (hx : t.find? k = some x) : u.find? k = some x :=
  find?_eq_some.mpr ⟨(mem_insert? h).mpr (.inl (mem_of_find? hx)), key_of_find? hx⟩

/-- The key of an inserted row was free. -/
theorem find?_none_of_insert? {t u : Table ρ} {r : ρ} (h : t.insert? r = some u) :
    t.find? (Schema.key r) = none :=
  find?_eq_none.mpr fun x hx hk => (insert?_eq_some.mp h).1 x hx (Schema.clash_of_key hk)

/-- A row found under a key that was free is the inserted one. -/
theorem find?_insert?_new {t u : Table ρ} {r x : ρ} {k : κ} (h : t.insert? r = some u)
    (hx : u.find? k = some x) (hnew : t.find? k = none) : x = r := by
  rcases (mem_insert? h).mp (mem_of_find? hx) with hold | rfl
  · exact absurd (key_of_find? hx) (find?_eq_none.mp hnew x hold)
  · rfl

/-! ## Rewriting -/

theorem rewrite?_eq_some {t u : Table ρ} {k : κ} {f : ρ → ρ} : t.rewrite? k f = some u ↔
    u.rows = t.rows.map fun r => if Schema.key r = k then f r else r := by
  unfold rewrite?
  dsimp only
  constructor
  · intro h
    split at h
    case isTrue => cases h; rfl
    case isFalse => cases h
  · intro h
    have hconsistent := u.consistent
    rw [h] at hconsistent
    rw [dif_pos hconsistent]
    exact congrArg some (ext h.symm)

/-- Rewriting the row that was inserted last leaves the others alone. -/
theorem rewrite?_insert? {t u v : Table ρ} {r : ρ} {f : ρ → ρ} (hinsert : t.insert? r = some u)
    (hrewrite : u.rewrite? (Schema.key r) f = some v) : v.rows = t.rows ++ [f r] := by
  have hfree := find?_eq_none.mp (find?_none_of_insert? hinsert)
  rw [rewrite?_eq_some.mp hrewrite, (insert?_eq_some.mp hinsert).2, List.map_append]
  have hold : t.rows.map (fun x => if Schema.key x = Schema.key r then f x else x) = t.rows := by
    have hid : ∀ x ∈ t.rows, (if Schema.key x = Schema.key r then f x else x) = id x :=
      fun x hx => if_neg (hfree x hx)
    rw [List.map_congr_left hid, List.map_id]
  rw [hold]
  simp

/-! ## Update -/

theorem mem_update {t : Table ρ} {k : κ} {e : Edit ρ} {x : ρ} :
    x ∈ (t.update k e).rows ↔ ∃ r ∈ t.rows, editAt k e r = x := List.mem_map

theorem find?_update_self {t : Table ρ} {k : κ} {e : Edit ρ} {r : ρ}
    (h : t.find? k = some r) : (t.update k e).find? k = some (e.apply r) := by
  have hk := key_of_find? h
  refine find?_eq_some.mpr ⟨mem_update.mpr ⟨r, mem_of_find? h, by simp [editAt, hk]⟩, ?_⟩
  rw [e.key_apply, hk]

/-- An update adds no key. -/
theorem find?_update_none {t : Table ρ} {k k' : κ} {e : Edit ρ} (h : t.find? k' = none) :
    (t.update k e).find? k' = none := by
  refine find?_eq_none.mpr fun x hx hk => ?_
  obtain ⟨r, hr, rfl⟩ := mem_update.mp hx
  exact find?_eq_none.mp h r hr (by rwa [editAt_key] at hk)

theorem find?_update_ne {t : Table ρ} {k k' : κ} {e : Edit ρ} (h : k' ≠ k) :
    (t.update k e).find? k' = t.find? k' := by
  cases hf : t.find? k' with
  | none => exact find?_update_none hf
  | some r =>
      have hk := key_of_find? hf
      refine find?_eq_some.mpr ⟨mem_update.mpr ⟨r, mem_of_find? hf, ?_⟩, hk⟩
      rw [editAt, if_neg (by rw [hk]; exact h)]

/-- A row of an updated table was there, and was edited or not. -/
theorem find?_update_some {t : Table ρ} {k k' : κ} {e : Edit ρ} {r : ρ}
    (h : (t.update k e).find? k' = some r) :
    ∃ r₀, t.find? k' = some r₀ ∧ (r = r₀ ∨ k' = k ∧ r = e.apply r₀) := by
  cases hfind : t.find? k' with
  | none => rw [find?_update_none hfind] at h; cases h
  | some r₀ =>
      by_cases hk : k' = k
      · subst hk
        rw [find?_update_self hfind] at h
        exact ⟨r₀, rfl, .inr ⟨rfl, (Option.some.inj h).symm⟩⟩
      · rw [find?_update_ne hk, hfind] at h
        exact ⟨r₀, rfl, .inl (Option.some.inj h).symm⟩

/-- A selection that wants the edited row neither before nor after does not see the update. -/
theorem select_update {t : Table ρ} {k : κ} {e : Edit ρ} {p : ρ → Bool}
    (h : ∀ r, t.find? k = some r → p r = false ∧ p (e.apply r) = false) :
    (t.update k e).select p = t.select p := by
  have hedit : ∀ r ∈ t.rows, editAt k e r = r ∨ p r = false ∧ p (editAt k e r) = false := by
    intro r hr
    unfold editAt
    split
    case isTrue hk => exact .inr (h r (find?_eq_some.mpr ⟨hr, hk⟩))
    case isFalse => exact .inl rfl
  show (t.rows.map (editAt k e)).filter p = t.rows.filter p
  generalize t.rows = rows at hedit
  induction rows with
  | nil => rfl
  | cons r rows ih =>
      have hrest := ih fun x hx => hedit x (List.mem_cons_of_mem r hx)
      rcases hedit r (List.mem_cons_self ..) with hsame | ⟨hbefore, hafter⟩
      · rw [List.map_cons, hsame, List.filter_cons, List.filter_cons, hrest]
      · rw [List.map_cons, List.filter_cons, List.filter_cons, hbefore, hafter]
        exact hrest

/-! ## Tables over time -/

/-- Every row of the first table is in the second, changed as `R` says. -/
def Evolves (R : ρ → ρ → Prop) (t u : Table ρ) : Prop :=
  ∀ k a, t.find? k = some a → ∃ b, u.find? k = some b ∧ R a b

namespace Evolves

variable {R : ρ → ρ → Prop} {t u v : Table ρ}

theorem refl (hR : ∀ a, R a a) (t : Table ρ) : Evolves R t t := fun _ a h => ⟨a, h, hR a⟩

theorem trans (hR : ∀ a b c, R a b → R b c → R a c) (h : Evolves R t u) (h' : Evolves R u v) :
    Evolves R t v := by
  intro k a ha
  obtain ⟨b, hb, hab⟩ := h k a ha
  obtain ⟨c, hc, hbc⟩ := h' k b hb
  exact ⟨c, hc, hR a b c hab hbc⟩

/-- Insertion changes no row. -/
theorem insert? (hR : ∀ a, R a a) {r : ρ} (h : t.insert? r = some u) : Evolves R t u :=
  fun _ a ha => ⟨a, find?_insert?_of_find? h ha, hR a⟩

/-- An update changes the row it edits. -/
theorem update (hR : ∀ a, R a a) {k : κ} {e : Edit ρ}
    (h : ∀ a, t.find? k = some a → R a (e.apply a)) : Evolves R t (t.update k e) := by
  intro k' a ha
  by_cases hk : k' = k
  · subst hk
    exact ⟨e.apply a, find?_update_self ha, h a ha⟩
  · exact ⟨a, (find?_update_ne hk).trans ha, hR a⟩

end Evolves

end Table

end Base
