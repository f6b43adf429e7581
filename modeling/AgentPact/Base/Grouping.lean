import Mathlib.Data.List.Dedup
import Mathlib.Data.List.Induction
import Mathlib.Data.List.Perm.Basic

/-!
# Grouping by a key

A dictionary from keys to lists, filled from a list of values: each value is
appended to the list under its key, and the keys stay in the order in which they
were first seen.  Under each key are the values with that key, in their order
(`snd_eq_filter`), and no key is there twice.
-/

namespace Base

variable {α κ : Type} [DecidableEq κ]

/-- Append a value to the group under a key. -/
def appendTo (k : κ) (x : α) : List (κ × List α) → List (κ × List α)
  | [] => [(k, [x])]
  | (k', xs) :: groups =>
      if k' = k then (k', xs ++ [x]) :: groups else (k', xs) :: appendTo k x groups

/-- The values of a list, grouped by a key. -/
def groupBy (key : α → κ) (l : List α) : List (κ × List α) :=
  l.foldl (fun groups x => appendTo (key x) x groups) []

theorem groupBy_concat (key : α → κ) (l : List α) (x : α) :
    groupBy key (l ++ [x]) = appendTo (key x) x (groupBy key l) := by
  rw [groupBy, List.foldl_append]
  rfl

/-! ## Appending -/

theorem keys_appendTo (k : κ) (x : α) (groups : List (κ × List α)) :
    (appendTo k x groups).map (·.1) =
      if k ∈ groups.map (·.1) then groups.map (·.1) else groups.map (·.1) ++ [k] := by
  induction groups with
  | nil => rfl
  | cons group groups ih =>
      obtain ⟨k', xs⟩ := group
      unfold appendTo
      by_cases hk : k' = k
      · subst hk
        simp
      · rw [if_neg hk, List.map_cons, List.map_cons, ih]
        by_cases hmem : k ∈ groups.map (·.1)
        · rw [if_pos hmem, if_pos (List.mem_cons_of_mem _ hmem)]
        · rw [if_neg hmem, if_neg (by simpa [Ne.symm hk] using hmem)]
          rfl

/-- What is under a key after a value was appended. -/
theorem mem_appendTo {k : κ} {x : α} {groups : List (κ × List α)} {group : κ × List α}
    (hkeys : (groups.map (·.1)).Nodup) (h : group ∈ appendTo k x groups) :
    (group ∈ groups ∧ group.1 ≠ k) ∨
      (group.1 = k ∧ ((∃ xs, (k, xs) ∈ groups ∧ group.2 = xs ++ [x]) ∨
        (k ∉ groups.map (·.1) ∧ group.2 = [x]))) := by
  induction groups with
  | nil =>
      obtain rfl := List.mem_singleton.mp h
      exact .inr ⟨rfl, .inr ⟨by simp, rfl⟩⟩
  | cons first groups ih =>
      obtain ⟨k', xs⟩ := first
      obtain ⟨hfirst, hrest⟩ := List.nodup_cons.mp hkeys
      unfold appendTo at h
      by_cases hk : k' = k
      · rw [if_pos hk] at h
        subst hk
        rcases List.mem_cons.mp h with rfl | hmem
        · exact .inr ⟨rfl, .inl ⟨xs, List.mem_cons_self .., rfl⟩⟩
        · refine .inl ⟨List.mem_cons_of_mem _ hmem, ?_⟩
          intro hsame
          exact hfirst (List.mem_map.mpr ⟨group, hmem, hsame⟩)
      · rw [if_neg hk] at h
        rcases List.mem_cons.mp h with rfl | hmem
        · exact .inl ⟨List.mem_cons_self .., hk⟩
        · rcases ih hrest hmem with ⟨hold, hne⟩ | ⟨hsame, ⟨ys, hys, heq⟩ | ⟨hnew, heq⟩⟩
          · exact .inl ⟨List.mem_cons_of_mem _ hold, hne⟩
          · exact .inr ⟨hsame, .inl ⟨ys, List.mem_cons_of_mem _ hys, heq⟩⟩
          · exact .inr ⟨hsame, .inr ⟨by simpa [Ne.symm hk] using hnew, heq⟩⟩

/-! ## Groups -/

theorem mem_keys_groupBy {key : α → κ} {l : List α} {k : κ} :
    k ∈ (groupBy key l).map (·.1) ↔ k ∈ l.map key := by
  induction l using List.reverseRecOn with
  | nil => exact Iff.rfl
  | append_singleton l x ih =>
      rw [groupBy_concat, keys_appendTo]
      by_cases hmem : key x ∈ (groupBy key l).map (·.1)
      · rw [if_pos hmem, ih, List.map_append, List.mem_append, List.map_singleton,
          List.mem_singleton]
        refine ⟨.inl, fun h => h.elim id ?_⟩
        rintro rfl
        exact ih.mp hmem
      · rw [if_neg hmem, List.mem_append, List.map_append, List.mem_append, ih]
        rfl

/-- No key has two groups. -/
theorem nodup_keys_groupBy (key : α → κ) (l : List α) : ((groupBy key l).map (·.1)).Nodup := by
  induction l using List.reverseRecOn with
  | nil => exact .nil
  | append_singleton l x ih =>
      rw [groupBy_concat, keys_appendTo]
      by_cases hmem : key x ∈ (groupBy key l).map (·.1)
      · rw [if_pos hmem]
        exact ih
      · rw [if_neg hmem, ← List.concat_eq_append]
        exact ih.concat hmem

/-- A group is what has its key, in the order of the list. -/
theorem snd_eq_filter {key : α → κ} {l : List α} {group : κ × List α} (h : group ∈ groupBy key l) :
    group.2 = l.filter fun x => key x = group.1 := by
  induction l using List.reverseRecOn generalizing group with
  | nil => cases h
  | append_singleton l x ih =>
      rw [groupBy_concat] at h
      rw [List.filter_append, List.filter_singleton]
      rcases mem_appendTo (nodup_keys_groupBy key l) h with ⟨hold, hne⟩ | ⟨hkey, hgroup⟩
      · rw [ih hold, decide_eq_false (Ne.symm hne), cond_false, List.append_nil]
      · rw [decide_eq_true hkey.symm, cond_true, hkey]
        rcases hgroup with ⟨xs, hxs, heq⟩ | ⟨hnew, heq⟩
        · have hold : xs = l.filter fun y => key y = key x := ih hxs
          rw [heq, hold]
        · have hnone : (l.filter fun y => key y = key x) = [] := by
            refine List.filter_eq_nil_iff.mpr fun y hy hsame => hnew ?_
            rw [mem_keys_groupBy, ← of_decide_eq_true hsame]
            exact List.mem_map_of_mem hy
          rw [heq, hnone]
          rfl

/-- Every value is in the group of its key. -/
theorem mem_groupBy {key : α → κ} {l : List α} {x : α} (h : x ∈ l) :
    (key x, l.filter fun y => key y = key x) ∈ groupBy key l := by
  have hkey := mem_keys_groupBy.mpr (List.mem_map_of_mem (f := key) h)
  obtain ⟨⟨k, xs⟩, hgroup, rfl⟩ := List.mem_map.mp hkey
  have hfilter := snd_eq_filter hgroup
  rw [← hfilter]
  exact hgroup

/-! ## What is in some of the groups -/

theorem flatMap_appendTo (p : κ → Bool) (k : κ) (x : α) (groups : List (κ × List α)) :
    (((appendTo k x groups).filter fun g => p g.1).flatMap (·.2)).Perm
      ((groups.filter fun g => p g.1).flatMap (·.2) ++ if p k then [x] else []) := by
  induction groups with
  | nil =>
      unfold appendTo
      cases hp : p k <;> simp [hp]
  | cons group groups ih =>
      obtain ⟨k', xs⟩ := group
      unfold appendTo
      by_cases hk : k' = k
      · rw [if_pos hk]
        subst hk
        cases hp : p k' with
        | false => simp [hp]
        | true =>
            simp only [List.filter_cons, hp, if_true, List.flatMap_cons, List.append_assoc]
            exact List.perm_append_comm.append_left xs
      · rw [if_neg hk]
        cases hp : p k' with
        | false => simpa [List.filter_cons, hp] using ih
        | true =>
            simp only [List.filter_cons, hp, if_true, List.flatMap_cons, List.append_assoc]
            exact ih.append_left xs

/-- What is in the groups whose keys have a property is what has such a key. -/
theorem flatMap_groupBy_perm (key : α → κ) (p : κ → Bool) (l : List α) :
    (((groupBy key l).filter fun g => p g.1).flatMap (·.2)).Perm (l.filter fun x => p (key x)) := by
  induction l using List.reverseRecOn with
  | nil => exact .nil
  | append_singleton l x ih =>
      rw [groupBy_concat, List.filter_append]
      refine (flatMap_appendTo p (key x) x _).trans (ih.append ?_)
      cases hp : p (key x) <;> simp [hp]

/-- The keys of the groups, in some order. -/
theorem keys_groupBy_perm (key : α → κ) (l : List α) :
    ((groupBy key l).map (·.1)).Perm (l.map key).dedup :=
  (List.perm_ext_iff_of_nodup (nodup_keys_groupBy key l) (List.nodup_dedup _)).mpr fun k => by
    rw [mem_keys_groupBy, List.mem_dedup]

end Base
