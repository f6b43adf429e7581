import Mathlib.Data.List.Forall2
import Mathlib.Data.String.Basic
import AgentPact.Values

/-!
# When documents have one text

Two dumps with the same keys have one text if and only if each of their fields
has.  So a dump tells its record apart as far as the dumps of its fields do.
-/

namespace AgentPact

namespace Json

/-! ## Values -/

theorem canonical_str_inj {a b : String} :
    (Json.str a).canonical = (Json.str b).canonical ↔ a = b :=
  ⟨fun h => Json.str.inj h, fun h => h ▸ rfl⟩

theorem canonical_num_inj {a b : Int} :
    (Json.num a).canonical = (Json.num b).canonical ↔ a = b :=
  ⟨fun h => Json.num.inj h, fun h => h ▸ rfl⟩

theorem canonical_real_inj {a b : Rat} :
    (Json.real a).canonical = (Json.real b).canonical ↔ a = b :=
  ⟨fun h => Json.real.inj h, fun h => h ▸ rfl⟩

/-- Values that may be `null` have one text if they are both `null`, or if their dumps have. -/
theorem canonical_ofOption_iff {α : Type} {f : α → Json} {R : α → α → Prop}
    (hnull : ∀ a, (f a).canonical ≠ .null)
    (hf : ∀ a b, (f a).canonical = (f b).canonical ↔ R a b) {o o' : Option α} :
    (Json.ofOption f o).canonical = (Json.ofOption f o').canonical ↔ Option.Rel R o o' := by
  cases o with
  | none =>
      cases o' with
      | none => exact ⟨fun _ => .none, fun _ => rfl⟩
      | some b => exact ⟨fun h => absurd h.symm (hnull b), nofun⟩
  | some a =>
      cases o' with
      | none => exact ⟨fun h => absurd h (hnull a), nofun⟩
      | some b => exact ⟨fun h => .some ((hf a b).mp h), fun | .some h => (hf a b).mpr h⟩

theorem canonical_ofOption_inj {α : Type} {f : α → Json} (hnull : ∀ a, (f a).canonical ≠ .null)
    (hf : ∀ a b, (f a).canonical = (f b).canonical ↔ a = b) {o o' : Option α} :
    (Json.ofOption f o).canonical = (Json.ofOption f o').canonical ↔ o = o' := by
  rw [canonical_ofOption_iff hnull hf]
  cases o with
  | none => cases o' with
    | none => exact ⟨fun _ => rfl, fun _ => .none⟩
    | some b => exact ⟨nofun, nofun⟩
  | some a => cases o' with
    | none => exact ⟨nofun, nofun⟩
    | some b => exact ⟨fun | .some h => congrArg some h, fun h => .some (Option.some.inj h)⟩

theorem canonical_ofOption_str_inj {o o' : Option String} :
    (Json.ofOption .str o).canonical = (Json.ofOption .str o').canonical ↔ o = o' :=
  canonical_ofOption_inj (fun _ h => by cases h) fun _ _ => canonical_str_inj

theorem canonical_ofOption_num_inj {o o' : Option Int} :
    (Json.ofOption .num o).canonical = (Json.ofOption .num o').canonical ↔ o = o' :=
  canonical_ofOption_inj (fun _ h => by cases h) fun _ _ => canonical_num_inj

theorem canonical_ofOption_nat_inj {o o' : Option Nat} :
    (Json.ofOption (fun n : Nat => .num n) o).canonical =
      (Json.ofOption (fun n : Nat => .num n) o').canonical ↔ o = o' :=
  canonical_ofOption_inj (fun _ h => by cases h) fun _ _ => canonical_num_inj.trans Int.natCast_inj

theorem canonical_ofOption_real_inj {o o' : Option Rat} :
    (Json.ofOption .real o).canonical = (Json.ofOption .real o').canonical ↔ o = o' :=
  canonical_ofOption_inj (fun _ h => by cases h) fun _ _ => canonical_real_inj

/-! ## Arrays -/

theorem canonical_arr_map_iff {α : Type} {f : α → Json} {R : α → α → Prop}
    (hf : ∀ a b, (f a).canonical = (f b).canonical ↔ R a b) {as bs : List α} :
    (Json.arr (as.map f)).canonical = (Json.arr (bs.map f)).canonical ↔ List.Forall₂ R as bs := by
  have harr : (Json.arr (as.map f)).canonical = (Json.arr (bs.map f)).canonical ↔
      normalAll id (as.map f) = normalAll id (bs.map f) :=
    ⟨fun h => Json.arr.inj h, fun h => congrArg Json.arr h⟩
  rw [harr]
  induction as generalizing bs with
  | nil =>
      cases bs with
      | nil => exact ⟨fun _ => .nil, fun _ => rfl⟩
      | cons b bs => exact ⟨nofun, nofun⟩
  | cons a as ih =>
      cases bs with
      | nil => exact ⟨nofun, nofun⟩
      | cons b bs =>
          rw [List.map_cons, List.map_cons, normalAll, normalAll, List.cons.injEq,
            List.forall₂_cons]
          exact and_congr (hf a b) (ih ⟨fun h => Json.arr.inj h, fun h => congrArg Json.arr h⟩)

theorem canonical_strs_inj {as bs : List String} :
    (Json.arr (as.map .str)).canonical = (Json.arr (bs.map .str)).canonical ↔ as = bs := by
  rw [canonical_arr_map_iff fun _ _ => canonical_str_inj, List.forall₂_eq_eq_eq]

/-! ## Fields -/

/-- Fields with distinct keys, and the same keys, are the same in any order if they are in order. -/
theorem eq_of_perm_of_keys {fs gs : List (String × Json)} (hkeys : fs.map (·.1) = gs.map (·.1))
    (hnodup : (fs.map (·.1)).Nodup) (h : fs.Perm gs) : fs = gs := by
  induction fs generalizing gs with
  | nil => exact (List.nil_perm.mp h).symm
  | cons f fs ih =>
      cases gs with
      | nil => cases hkeys
      | cons g gs =>
          obtain ⟨hkey, hrest⟩ := List.cons.inj hkeys
          rw [List.map_cons, List.nodup_cons] at hnodup
          have hfg : f = g := by
            rcases List.mem_cons.mp (h.mem_iff.mp (List.mem_cons_self ..)) with hfg | hmem
            · exact hfg
            · exact absurd (hrest ▸ List.mem_map_of_mem hmem) hnodup.1
          subst hfg
          rw [ih hrest hnodup.2 h.cons_inv]

/-- Objects with the same keys have one text if and only if their fields have. -/
theorem canonical_obj_iff {fs gs : List (String × Json)} (hkeys : fs.map (·.1) = gs.map (·.1))
    (hnodup : (fs.map (·.1)).Nodup) :
    (Json.obj fs).canonical = (Json.obj gs).canonical ↔
      fs.map (fun f => f.2.canonical) = gs.map fun f => f.2.canonical := by
  have hzip : ∀ fields : List (String × Json), (fields.map fun f => (f.1, f.2.normal id)) =
      (fields.map (·.1)).zip (fields.map fun f => f.2.canonical) :=
    fun fields => List.zip_map'.symm
  constructor
  · intro h
    have hperm := normal_obj_perm h
    have hfields : (fs.map fun f => (f.1, f.2.normal id)) = gs.map fun f => (f.1, f.2.normal id) := by
      refine eq_of_perm_of_keys ?_ ?_ hperm
      · rw [List.map_map, List.map_map]
        exact hkeys
      · rw [List.map_map]
        exact hnodup
    have hvalues := congrArg (List.map Prod.snd) hfields
    rw [List.map_map, List.map_map] at hvalues
    exact hvalues
  · intro h
    have hfields : (fs.map fun f => (f.1, f.2.normal id)) = gs.map fun f => (f.1, f.2.normal id) := by
      rw [hzip, hzip, hkeys, h]
    rw [canonical, canonical, normal, normal, normalFields_eq_map, normalFields_eq_map, hfields]

/-- Dictionaries of strings have one text only if they are one. -/
theorem canonical_dict_inj {d d' : Dict} : d.toJson.canonical = d'.toJson.canonical ↔ d = d' := by
  refine ⟨fun h => ?_, fun h => h ▸ rfl⟩
  have hinj : Function.Injective fun e : String × String => (e.1, Json.str e.2) := by
    intro a b hab
    obtain ⟨hkey, hvalue⟩ := Prod.ext_iff.mp hab
    exact Prod.ext hkey (Json.str.inj hvalue)
  have hfields := normal_obj_perm h
  rw [List.map_map, List.map_map] at hfields
  have hperm : d.entries.Perm d'.entries := (List.map_perm_map_iff hinj).mp hfields
  have hanti : ∀ a b, a ∈ d.entries → b ∈ d'.entries → a.1 < b.1 → b.1 < a.1 → a = b :=
    fun a b _ _ hab hba => absurd hba (not_lt_of_gt hab)
  have hentries : d.entries = d'.entries := hperm.eq_of_pairwise hanti d.sorted d'.sorted
  cases d
  cases d'
  cases hentries
  rfl

end Json

end AgentPact
