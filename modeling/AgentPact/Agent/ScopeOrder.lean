import Mathlib.Logic.Relation
import AgentPact.Agent.Interactions

/-!
# Narrowing a scope

The two comparisons called `_scope_expands`, of plans (`agent/work_orders.py`)
and of requests (`agent/interactions.py`), as one relation.

They differ in the sets of resources that restrict nothing: for plans there is
none, for requests it is the empty one.  `Contains` takes these sets as an
argument.  It is reflexive.  It is not transitive, since a scope between two
others can lose a restriction that the third is not held to: an attribute it
does not list and the third lists as `null`, or a set of resources it leaves
open.  `Contains.trans_iff` says that nothing else goes wrong.
-/

namespace AgentPact

theorem Json.value_eq_null {x : Json} : x.value = .null ↔ x = .null := by
  cases x with
  | null => simp [Json.value, Json.normal, Json.number]
  | bool b => simp [Json.value, Json.normal, Json.number]
  | num n => simp [Json.value, Json.normal, Json.number]
  | real q =>
      simp only [Json.value, Json.normal, Json.number, reduceCtorEq, iff_false]
      split <;> simp
  | str s => simp [Json.value, Json.normal, Json.number]
  | arr xs => simp [Json.value, Json.normal]
  | obj fields => simp [Json.value, Json.normal]

namespace CapabilityDataScope

variable {unrestricted : Finset String → Prop} {a b c : CapabilityDataScope}

/-! ## Containment -/

/-- A scope contains another, where some sets of resources restrict nothing. -/
structure Contains (unrestricted : Finset String → Prop) (allowed requested : CapabilityDataScope) :
    Prop where
  department : allowed.departmentId = requested.departmentId
  businessLine : allowed.businessLineId = requested.businessLineId
  resources : ¬ unrestricted allowed.resourceIds → requested.resourceIds ⊆ allowed.resourceIds
  attributes : ∀ f ∈ requested.attributes.fields,
    (allowed.attributes.get f.1).value = f.2.value

/-- The sets of resources that restrict nothing in a plan. -/
abbrev NoSet : Finset String → Prop := fun _ => False

/-- The sets of resources that restrict nothing in a grant or a request. -/
abbrev EmptySet : Finset String → Prop := fun resources => resources = ∅

theorem expandsFrom_eq_false_iff : a.expandsFrom b = false ↔ Contains NoSet a b := by
  simp only [expandsFrom, Bool.or_eq_false_iff, decide_eq_false_iff_not, not_not,
    Bool.not_eq_false', decide_eq_true_eq, List.any_eq_false]
  constructor
  · rintro ⟨⟨⟨hdepartment, hline⟩, hresources⟩, hattributes⟩
    exact ⟨hdepartment, hline, fun _ => hresources, hattributes⟩
  · rintro ⟨hdepartment, hline, hresources, hattributes⟩
    exact ⟨⟨⟨hdepartment, hline⟩, hresources not_false⟩, hattributes⟩

theorem exceeds_eq_false_iff : b.exceeds a = false ↔ Contains EmptySet a b := by
  simp only [exceeds, Bool.or_eq_false_iff, decide_eq_false_iff_not, not_not,
    Bool.and_eq_false_iff, Bool.not_eq_false', decide_eq_true_eq, List.any_eq_false]
  constructor
  · rintro ⟨⟨⟨hdepartment, hline⟩, hresources⟩, hattributes⟩
    exact ⟨hdepartment, hline, fun hne => hresources.resolve_left hne, hattributes⟩
  · rintro ⟨hdepartment, hline, hresources, hattributes⟩
    exact ⟨⟨⟨hdepartment, hline⟩, or_iff_not_imp_left.mpr hresources⟩, hattributes⟩

theorem Contains.refl (a : CapabilityDataScope) : Contains unrestricted a a :=
  ⟨rfl, rfl, fun _ => Finset.Subset.refl _, fun _ hf => by rw [JsonDict.get_of_mem hf]⟩

/-! ## Restrictions that are lost between -/

/-- The last scope lists an attribute as `null` that the first gives a value and the one between
does not list. -/
def NullLapse (a b c : CapabilityDataScope) : Prop :=
  ∃ key, (key, Json.null) ∈ c.attributes.fields ∧ (∀ x, (key, x) ∉ b.attributes.fields) ∧
    a.attributes.get key ≠ .null

/-- The first scope restricts the resources, the one between does not, and the last has others. -/
def ResourceLapse (unrestricted : Finset String → Prop) (a b c : CapabilityDataScope) : Prop :=
  ¬ unrestricted a.resourceIds ∧ unrestricted b.resourceIds ∧ ¬ c.resourceIds ⊆ a.resourceIds

theorem Contains.attributes_trans_iff (hab : Contains unrestricted a b)
    (hbc : Contains unrestricted b c) :
    (∀ f ∈ c.attributes.fields, (a.attributes.get f.1).value = f.2.value) ↔
      ¬ NullLapse a b c := by
  constructor
  · rintro hall ⟨key, hkey, _, hvalue⟩
    exact hvalue (Json.value_eq_null.mp ((hall _ hkey).trans (Json.value_eq_null.mpr rfl)))
  · intro hlapse f hf
    by_cases hlisted : ∃ x, (f.1, x) ∈ b.attributes.fields
    · obtain ⟨x, hx⟩ := hlisted
      have hfirst := hab.attributes _ hx
      have hsecond := hbc.attributes f hf
      rw [JsonDict.get_of_mem hx] at hsecond
      exact hfirst.trans hsecond
    · have hunlisted : ∀ x, (f.1, x) ∉ b.attributes.fields := not_exists.mp hlisted
      -- then the scope between reads it as `null`
      have hsecond := hbc.attributes f hf
      rw [JsonDict.get_of_notMem hunlisted] at hsecond
      have hnull : f.2 = .null := Json.value_eq_null.mp hsecond.symm
      have hmem : (f.1, Json.null) ∈ c.attributes.fields := by
        rw [← hnull]
        exact hf
      have hfirst : a.attributes.get f.1 = .null := by
        by_contra hvalue
        exact hlapse ⟨f.1, hmem, hunlisted, hvalue⟩
      rw [hfirst, hnull]

theorem Contains.resources_trans_iff (hab : Contains unrestricted a b)
    (hbc : Contains unrestricted b c) :
    (¬ unrestricted a.resourceIds → c.resourceIds ⊆ a.resourceIds) ↔
      ¬ ResourceLapse unrestricted a b c := by
  constructor
  · rintro hall ⟨ha, _, hc⟩
    exact hc (hall ha)
  · intro hlapse ha
    by_contra hc
    have hb : ¬ unrestricted b.resourceIds := fun hb => hlapse ⟨ha, hb, hc⟩
    exact hc ((hbc.resources hb).trans (hab.resources ha))

/-- Two containments compose exactly when no restriction is lost between. -/
theorem Contains.trans_iff (hab : Contains unrestricted a b) (hbc : Contains unrestricted b c) :
    Contains unrestricted a c ↔ ¬ NullLapse a b c ∧ ¬ ResourceLapse unrestricted a b c := by
  rw [← hab.attributes_trans_iff hbc, ← hab.resources_trans_iff hbc]
  constructor
  · exact fun hac => ⟨hac.attributes, hac.resources⟩
  · rintro ⟨hattributes, hresources⟩
    exact ⟨hab.department.trans hbc.department, hab.businessLine.trans hbc.businessLine,
      hresources, hattributes⟩

/-! ## Chains of narrowings -/

/-- A scope restricts what another restricts: it lists its attributes, and restricts the
resources. -/
structure Keeps (unrestricted : Finset String → Prop) (a b : CapabilityDataScope) : Prop where
  attributes : ∀ key, a.attributes.get key ≠ .null → ∃ x, (key, x) ∈ b.attributes.fields
  resources : ¬ unrestricted a.resourceIds → ¬ unrestricted b.resourceIds

/-- A narrower scope that restricts what the wider one restricts. -/
structure Narrows (unrestricted : Finset String → Prop) (a b : CapabilityDataScope) : Prop where
  contains : Contains unrestricted a b
  keeps : Keeps unrestricted a b

theorem Narrows.refl (a : CapabilityDataScope) : Narrows unrestricted a a := by
  refine ⟨.refl a, fun key hkey => ?_, id⟩
  by_contra hunlisted
  exact hkey (JsonDict.get_of_notMem (not_exists.mp hunlisted))

theorem Narrows.trans (hab : Narrows unrestricted a b) (hbc : Narrows unrestricted b c) :
    Narrows unrestricted a c := by
  refine ⟨(hab.contains.trans_iff hbc.contains).mpr ⟨?_, ?_⟩, fun key hkey => ?_, fun ha => ?_⟩
  · rintro ⟨key, _, hunlisted, hvalue⟩
    obtain ⟨x, hx⟩ := hab.keeps.attributes key hvalue
    exact hunlisted x hx
  · rintro ⟨ha, hb, _⟩
    exact hab.keeps.resources ha hb
  · obtain ⟨x, hx⟩ := hab.keeps.attributes key hkey
    -- it has the value the first scope gives it, which is not `null`
    have hsame := hab.contains.attributes _ hx
    have hvalue : b.attributes.get key ≠ .null := by
      rw [JsonDict.get_of_mem hx]
      rintro rfl
      exact hkey (Json.value_eq_null.mp (hsame.trans (Json.value_eq_null.mpr rfl)))
    exact hbc.keeps.attributes key hvalue
  · exact hbc.keeps.resources (hab.keeps.resources ha)

/-- The end of a chain of narrowings is within its start, if every link restricts what the link
before it restricts. -/
theorem contains_of_chain {z : CapabilityDataScope}
    (h : Relation.ReflTransGen (fun a b => Contains unrestricted a b ∧ Keeps unrestricted a b) a z) :
    Contains unrestricted a z := by
  have hnarrows : Narrows unrestricted a z := by
    induction h with
    | refl => exact .refl a
    | tail _ hstep ih => exact ih.trans ⟨hstep.1, hstep.2⟩
  exact hnarrows.contains

/-- A scope lists an attribute after its own. -/
def listing (b : CapabilityDataScope) (key : String) (x : Json)
    (h : ∀ y, (key, y) ∉ b.attributes.fields) : CapabilityDataScope :=
  { b with attributes := {
      fields := b.attributes.fields ++ [(key, x)]
      distinct := by
        rw [List.map_append, List.nodup_append]
        refine ⟨b.attributes.distinct, by simp, ?_⟩
        rintro _ hkey _ hlast rfl
        obtain ⟨f, hf, hsame⟩ := List.mem_map.mp hkey
        rw [List.map_cons, List.map_nil, List.mem_singleton] at hlast
        have hkey : f.1 = key := hsame.trans hlast
        exact h f.2 (by rw [← hkey]; exact hf) } }

/-- A scope within another restricts what the other does, exactly when all that is within it is
within the other. -/
theorem Contains.keeps_iff (hab : Contains unrestricted a b) :
    Keeps unrestricted a b ↔ ∀ c, Contains unrestricted b c → Contains unrestricted a c := by
  constructor
  · intro hkeeps c hbc
    refine (hab.trans_iff hbc).mpr ⟨?_, ?_⟩
    · rintro ⟨key, _, hunlisted, hvalue⟩
      obtain ⟨x, hx⟩ := hkeeps.attributes key hvalue
      exact hunlisted x hx
    · rintro ⟨ha, hb, _⟩
      exact hkeeps.resources ha hb
  · intro hall
    constructor
    · intro key hkey
      by_contra hnone
      have hunlisted : ∀ y, (key, y) ∉ b.attributes.fields := not_exists.mp hnone
      have hwider : Contains unrestricted b (b.listing key .null hunlisted) := by
        refine ⟨rfl, rfl, fun _ => Finset.Subset.refl _, fun f hf => ?_⟩
        rcases List.mem_append.mp hf with hf | hf
        · rw [JsonDict.get_of_mem hf]
        · rw [List.mem_singleton.mp hf, JsonDict.get_of_notMem hunlisted]
      have hlast : (key, Json.null) ∈ (b.listing key .null hunlisted).attributes.fields :=
        List.mem_append_right _ (List.mem_singleton_self _)
      exact ((hab.trans_iff hwider).mp (hall _ hwider)).1 ⟨key, hlast, hunlisted, hkey⟩
    · intro ha hb
      -- an open scope contains one with a resource that the first does not have
      obtain ⟨resource, hfresh⟩ := Infinite.exists_notMem_finset a.resourceIds
      have hwider : Contains unrestricted b { b with resourceIds := {resource} } :=
        ⟨rfl, rfl, fun hne => absurd hb hne, fun f hf => by rw [JsonDict.get_of_mem hf]⟩
      exact hfresh ((hall _ hwider).resources ha (Finset.mem_singleton_self resource))

/-! ## The result -/

/-- Both comparisons are reflexive.  They are transitive at three scopes exactly when no
restriction is lost between them, and along a chain of narrowings whose links each restrict what
the link before restricts. -/
theorem scope_containment_iff (a b c : CapabilityDataScope) :
    (a.expandsFrom a = false ∧ a.exceeds a = false) ∧
    ((a.expandsFrom b = false → b.expandsFrom c = false → a.expandsFrom c = false) ↔
      (a.expandsFrom b = false → b.expandsFrom c = false → ¬ NullLapse a b c)) ∧
    ((b.exceeds a = false → c.exceeds b = false → c.exceeds a = false) ↔
      (b.exceeds a = false → c.exceeds b = false →
        ¬ NullLapse a b c ∧ ¬ ResourceLapse EmptySet a b c)) ∧
    (∀ z : CapabilityDataScope, Relation.ReflTransGen
      (fun a b => a.expandsFrom b = false ∧ Keeps NoSet a b) a z → a.expandsFrom z = false) ∧
    (∀ z : CapabilityDataScope, Relation.ReflTransGen
      (fun a b => b.exceeds a = false ∧ Keeps EmptySet a b) a z → z.exceeds a = false) := by
  simp only [expandsFrom_eq_false_iff, exceeds_eq_false_iff]
  refine ⟨⟨.refl a, .refl a⟩, ?_, ?_, fun z h => ?_, fun z h => ?_⟩
  · refine forall₂_congr fun hab hbc => (hab.trans_iff hbc).trans ?_
    exact and_iff_left fun hlapse => hlapse.2.1
  · exact forall₂_congr fun hab hbc => hab.trans_iff hbc
  · exact contains_of_chain h
  · exact contains_of_chain h

/-- A scope of some resources and attributes. -/
def scopeOf (resources : Finset String) (attributes : JsonDict) : CapabilityDataScope :=
  ⟨none, none, resources, attributes⟩

/-- An attribute that is left out and then listed as `null` is free again, and so are the resources
of a request that lists none. -/
theorem narrowing_widens :
    (¬ ∀ a b c : CapabilityDataScope, a.expandsFrom b = false → b.expandsFrom c = false →
      a.expandsFrom c = false) ∧
    ¬ ∀ a b c : CapabilityDataScope, b.exceeds a = false → c.exceeds b = false →
      c.exceeds a = false := by
  constructor
  · intro h
    have hnull := h (scopeOf ∅ ⟨[("region", .str "eu")], by decide⟩) (scopeOf ∅ .empty)
      (scopeOf ∅ ⟨[("region", .null)], by decide⟩) (by decide) (by decide)
    revert hnull
    decide
  · intro h
    have hopen := h (scopeOf {"a"} .empty) (scopeOf ∅ .empty) (scopeOf {"b"} .empty)
      (by decide) (by decide)
    revert hopen
    decide

end CapabilityDataScope

end AgentPact
