import Mathlib.Data.List.Induction
import Mathlib.Data.List.Pairwise
import Mathlib.Data.List.Sort

/-!
# Hash chains

A chain is a list of entries with consecutive numbers, in which every entry
names the digest of the one before it.  If the digests of two chains do not
collide, a chain is determined by the digest of its last entry
(`Linked.eq_of_digest`).  So nothing can be deleted from it, inserted,
reordered or edited without a change of that digest.

Since the numbers increase, a chain is also the only sorted list of its entries
(`Linked.insertionSort_eq`), in whatever order they come.
-/

namespace Base

variable {ε δ : Type} {number : ε → Nat} {previous digest : ε → δ}

/-- The entries follow one another, after an entry with this digest and number. -/
inductive Linked (number : ε → Nat) (previous digest : ε → δ) : δ → Nat → List ε → Prop
  | nil {d : δ} {n : Nat} : Linked number previous digest d n []
  | cons {d : δ} {n : Nat} {e : ε} {es : List ε} (hnumber : number e = n + 1)
      (hprevious : previous e = d) (htail : Linked number previous digest (digest e) (n + 1) es) :
      Linked number previous digest d n (e :: es)

/-- The digest a chain ends in. -/
def endDigest (digest : ε → δ) (d : δ) (es : List ε) : δ := (es.getLast?.map digest).getD d

namespace Linked

variable {d : δ} {n : Nat} {es es' : List ε} {e e' : ε}

/-- The last entry of a chain follows the rest. -/
theorem concat (h : Linked number previous digest d n (es ++ [e])) :
    Linked number previous digest d n es ∧ number e = n + es.length + 1 ∧
      previous e = endDigest digest d es := by
  induction es generalizing d n with
  | nil =>
      cases h with
      | cons hnumber hprevious _ => exact ⟨.nil, hnumber, hprevious⟩
  | cons first es ih =>
      cases h with
      | cons hnumber hprevious htail =>
          obtain ⟨hlinked, hlast, hend⟩ := ih htail
          refine ⟨.cons hnumber hprevious hlinked, ?_, ?_⟩
          · rw [hlast, List.length_cons]
            omega
          · rw [hend]
            cases es with
            | nil => rfl
            | cons second es =>
                unfold endDigest
                rw [List.getLast?_cons_cons]
                rfl

/-- Chains of one length from one start are one chain, if their digests do not collide. -/
theorem eq_of_length (h : Linked number previous digest d n es)
    (h' : Linked number previous digest d n es') (hlength : es.length = es'.length)
    (hfree : ∀ a ∈ es, ∀ b ∈ es', digest a = digest b → a = b)
    (hdigest : endDigest digest d es = endDigest digest d es') : es = es' := by
  induction es using List.reverseRecOn generalizing es' with
  | nil => exact (List.length_eq_zero_iff.mp hlength.symm).symm
  | append_singleton es e ih =>
      obtain rfl | ⟨es', e', rfl⟩ := es'.eq_nil_or_concat'
      · simp at hlength
      · -- the last entries have one digest, and the digests before them are what they name
        simp only [endDigest, List.getLast?_concat, Option.map_some, Option.getD_some] at hdigest
        have hsame : e = e' := hfree e (by simp) e' (by simp) hdigest
        subst hsame
        obtain ⟨hinit, _, hend⟩ := h.concat
        obtain ⟨hinit', _, hend'⟩ := h'.concat
        have hrest : es = es' := ih hinit hinit' (by simpa using hlength)
          (fun a ha b hb => hfree a (by simp [ha]) b (by simp [hb])) (hend.symm.trans hend')
        rw [hrest]

/-- Chains from one start that end in one digest are one chain, if their digests do not collide. -/
theorem eq_of_digest (h : Linked number previous digest d n (es ++ [e]))
    (h' : Linked number previous digest d n (es' ++ [e']))
    (hfree : ∀ a ∈ es ++ [e], ∀ b ∈ es' ++ [e'], digest a = digest b → a = b)
    (hdigest : digest e = digest e') : es ++ [e] = es' ++ [e'] := by
  have hsame : e = e' := hfree e (by simp) e' (by simp) hdigest
  -- the numbers of the last entries say how long the chains are
  have hnumber := h.concat.2.1
  have hnumber' := h'.concat.2.1
  rw [← hsame] at hnumber'
  refine h.eq_of_length h' ?_ hfree ?_
  · simp only [List.length_append, List.length_singleton]
    omega
  · simp only [endDigest, List.getLast?_concat, Option.map_some, hdigest]

/-- The numbers of a chain increase. -/
theorem pairwise (h : Linked number previous digest d n es) :
    (∀ e ∈ es, n < number e) ∧ es.Pairwise fun a b => number a < number b := by
  induction h with
  | nil => exact ⟨fun _ he => absurd he List.not_mem_nil, .nil⟩
  | @cons d n e es hnumber _ _ ih =>
      obtain ⟨hafter, hpairwise⟩ := ih
      refine ⟨fun a ha => ?_, .cons (fun a ha => ?_) hpairwise⟩
      · rcases List.mem_cons.mp ha with rfl | ha
        · omega
        · have := hafter a ha
          omega
      · have := hafter a ha
        omega

/-- Sorting the entries of a chain gives the chain back. -/
theorem insertionSort_eq (h : Linked number previous digest d n es) (hperm : es'.Perm es) :
    es'.insertionSort (fun a b => number a ≤ number b) = es := by
  have hsorted := h.pairwise.2
  have : Std.Total fun a b : ε => number a ≤ number b := ⟨fun _ _ => Nat.le_total _ _⟩
  have : IsTrans ε fun a b => number a ≤ number b := ⟨fun _ _ _ => Nat.le_trans⟩
  have : Std.Symm fun a b : ε => number a ≠ number b := ⟨fun _ _ => Ne.symm⟩
  have hall : (es'.insertionSort fun a b => number a ≤ number b).Perm es :=
    (List.perm_insertionSort _ _).trans hperm
  refine hall.eq_of_pairwise (fun a b ha hb hab hba => ?_) (List.pairwise_insertionSort _ _)
    (hsorted.imp Nat.le_of_lt)
  -- entries with one number are one entry
  by_contra hne
  exact (hsorted.imp Nat.ne_of_lt).forall (hall.subset ha) hb hne (Nat.le_antisymm hab hba)

end Linked

end Base
