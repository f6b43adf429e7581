import Mathlib.Algebra.Order.Ring.Rat
import Mathlib.Data.String.Basic
import AgentPact.Values

/-!
# Sorting documents

`sorted` of the values in a document, by Python's `<`: strings are compared by
their characters, numbers by what they are, and lists by the first of their
elements that differ.  Between other values `<` raises `TypeError`.

What is sorted stays as it is when it is sorted again.
-/

namespace AgentPact

namespace Json

/-! ## Comparing -/

/-- What a number is.  `True` is `1`. -/
def rational? : Json → Option Rat
  | .bool b => some (if b then 1 else 0)
  | .num n => some n
  | .real q => some q
  | _ => none

/-- The error of values that have no order. -/
def unordered : Raised := ⟨.typeError, "'<' not supported between instances"⟩

mutual

/-- `x < y`. -/
def lt : Json → Json → Except Raised Bool
  | .str a, .str b => .ok (a < b)
  | .arr xs, .arr ys => ltAll xs ys
  | x, y =>
      match x.rational?, y.rational? with
      | some p, some q => .ok (p < q)
      | _, _ => .error unordered

/-- `<` on lists. -/
def ltAll : List Json → List Json → Except Raised Bool
  | _, [] => .ok false
  | [], _ :: _ => .ok true
  | x :: xs, y :: ys => if x.value = y.value then ltAll xs ys else lt x y

end

mutual

/-- A value is not below one that is below it. -/
theorem lt_asymm : ∀ {x y : Json}, lt x y = .ok true → lt y x = .ok false
  | .null, y, h => by cases y <;> simp [lt, rational?] at h
  | .obj _, y, h => by cases y <;> simp [lt, rational?] at h
  | .bool a, y, h => by
      cases y <;> simp [lt, rational?] at h ⊢ <;> exact le_of_lt h
  | .num a, y, h => by
      cases y <;> simp [lt, rational?] at h ⊢ <;> exact le_of_lt h
  | .real a, y, h => by
      cases y <;> simp [lt, rational?] at h ⊢ <;> exact le_of_lt h
  | .str a, .str b, h => by
      rw [lt, Except.ok.injEq, decide_eq_true_iff] at h
      rw [lt, Except.ok.injEq, decide_eq_false_iff_not]
      exact not_lt_of_gt h
  | .arr xs, .arr ys, h => by
      rw [lt] at h ⊢
      exact ltAll_asymm h

theorem ltAll_asymm : ∀ {xs ys : List Json}, ltAll xs ys = .ok true → ltAll ys xs = .ok false
  | [], [], h => by cases h
  | [], _ :: _, _ => rfl
  | _ :: _, [], h => by cases h
  | x :: xs, y :: ys, h => by
      rw [ltAll] at h ⊢
      by_cases heq : x.value = y.value
      · rw [if_pos heq] at h
        rw [if_pos heq.symm]
        exact ltAll_asymm h
      · rw [if_neg heq] at h
        rw [if_neg (Ne.symm heq)]
        exact lt_asymm h

end

/-! ## Sorting -/

/-- Put a value among sorted ones, before those that are not below it. -/
def insertSorted (x : Json) : List Json → Except Raised (List Json)
  | [] => .ok [x]
  | y :: ys => do
      let below ← lt y x
      if below then
        let rest ← insertSorted x ys
        pure (y :: rest)
      else pure (x :: y :: ys)

/-- `sorted(values)`. -/
def sorted : List Json → Except Raised (List Json)
  | [] => .ok []
  | x :: xs => do
      let rest ← sorted xs
      insertSorted x rest

/-- No value is below the one before it. -/
def Ascends (xs : List Json) : Prop := xs.IsChain fun x y => lt y x = .ok false

/-- The first of some values after one is put among them. -/
theorem insertSorted_head {x : Json} {ys zs : List Json} (h : insertSorted x ys = .ok zs) :
    ∃ z rest, zs = z :: rest ∧ (z = x ∨ ys.head? = some z) := by
  cases ys with
  | nil =>
      cases h
      exact ⟨x, [], rfl, .inl rfl⟩
  | cons y ys =>
      obtain ⟨below, _, h⟩ := except_bind_eq_ok.mp h
      cases below with
      | false =>
          cases h
          exact ⟨x, y :: ys, rfl, .inl rfl⟩
      | true =>
          obtain ⟨rest, _, h⟩ := except_bind_eq_ok.mp h
          cases h
          exact ⟨y, rest, rfl, .inr rfl⟩

theorem insertSorted_ascends {x : Json} {ys zs : List Json} (hys : Ascends ys)
    (h : insertSorted x ys = .ok zs) : Ascends zs := by
  induction ys generalizing zs with
  | nil =>
      cases h
      exact .singleton x
  | cons y ys ih =>
      obtain ⟨below, hbelow, h⟩ := except_bind_eq_ok.mp h
      cases below with
      | false =>
          cases h
          exact .cons_cons hbelow hys
      | true =>
          obtain ⟨rest, hrest, h⟩ := except_bind_eq_ok.mp h
          cases h
          have hascends : Ascends rest := ih hys.of_cons hrest
          obtain ⟨z, rest, rfl, rfl | hz⟩ := insertSorted_head hrest
          · exact .cons_cons (lt_asymm hbelow) hascends
          · refine .cons_cons ?_ hascends
            cases ys with
            | nil => cases hz
            | cons y' ys =>
                cases hz
                exact (List.isChain_cons_cons.mp hys).1

/-- What is sorted ascends. -/
theorem sorted_ascends {xs ys : List Json} (h : sorted xs = .ok ys) : Ascends ys := by
  induction xs generalizing ys with
  | nil =>
      cases h
      exact .nil
  | cons x xs ih =>
      obtain ⟨rest, hrest, h⟩ := except_bind_eq_ok.mp h
      exact insertSorted_ascends (ih hrest) h

/-- What ascends is sorted already. -/
theorem Ascends.sorted_eq {xs : List Json} (h : Ascends xs) : sorted xs = .ok xs := by
  induction xs with
  | nil => rfl
  | cons x xs ih =>
      rw [sorted, ih h.of_cons, except_ok_bind]
      cases xs with
      | nil => rfl
      | cons y ys => rw [insertSorted, (List.isChain_cons_cons.mp h).1, except_ok_bind]; rfl

/-- Sorting again changes nothing. -/
theorem sorted_sorted {xs ys : List Json} (h : sorted xs = .ok ys) : sorted ys = .ok ys :=
  (sorted_ascends h).sorted_eq

/-! ## Strings -/

theorem insertSorted_str (a : String) (bs : List String) :
    insertSorted (.str a) (bs.map .str) = .ok ((bs.orderedInsert (· ≤ ·) a).map .str) := by
  induction bs with
  | nil => rfl
  | cons b bs ih =>
      rw [List.map_cons, insertSorted, lt, except_ok_bind, ih, except_ok_bind]
      by_cases hab : a ≤ b
      · rw [List.orderedInsert_cons, if_pos hab, decide_eq_false (not_lt_of_ge hab)]
        rfl
      · rw [List.orderedInsert_cons, if_neg hab, decide_eq_true (lt_of_not_ge hab)]
        rfl

/-- Strings are sorted by their characters. -/
theorem sorted_str (as : List String) :
    sorted (as.map .str) = .ok ((as.insertionSort (· ≤ ·)).map .str) := by
  induction as with
  | nil => rfl
  | cons a as ih =>
      rw [List.map_cons, sorted, ih, except_ok_bind]
      exact insertSorted_str a _

end Json

end AgentPact
