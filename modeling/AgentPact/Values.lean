import Mathlib.Data.Finset.Basic
import Mathlib.Data.List.Sort
import AgentPact.Documents

/-!
# Comparing values

When the modelled code takes two Python values for the same.

`json.dumps` with sorted keys writes the same text for two documents exactly
when they are the same up to the order of their keys, so a document with its
keys sorted stands for that text.  `==` also leaves the order of keys aside, and
takes `True` and `1.0` for `1`.  Both are equality of a normal form, and the two
normal forms differ only in what they do with an atom.

The documents of a dictionary are kept in the order they were inserted in, and
its keys are distinct.
-/

namespace AgentPact

namespace Json

/-! ## Normal forms -/

mutual

/-- A document with its keys sorted and its atoms rewritten. -/
def normal (atom : Json → Json) : Json → Json
  | .arr xs => .arr (normalAll atom xs)
  | .obj fields => .obj ((normalFields atom fields).insertionSort fun a b => a.1 ≤ b.1)
  | value => atom value

/-- The normal forms of a list of documents. -/
def normalAll (atom : Json → Json) : List Json → List Json
  | [] => []
  | x :: xs => normal atom x :: normalAll atom xs

/-- The normal forms of the values of fields. -/
def normalFields (atom : Json → Json) : List (String × Json) → List (String × Json)
  | [] => []
  | (key, x) :: fields => (key, normal atom x) :: normalFields atom fields

end

/-- What a number is: `True` is `1`, and `1.0` is `1`. -/
def number : Json → Json
  | .bool b => .num (if b then 1 else 0)
  | .real q => if q.den = 1 then .num q.num else .real q
  | value => value

/-- `json.dumps` with sorted keys: the document that stands for the text. -/
def canonical (value : Json) : Json := value.normal id

/-- The normal form of `==`. -/
def value (doc : Json) : Json := doc.normal number

theorem normalFields_eq_map (atom : Json → Json) (fields : List (String × Json)) :
    normalFields atom fields = fields.map fun f => (f.1, f.2.normal atom) := by
  induction fields with
  | nil => rfl
  | cons f fields ih => simp [normalFields, ih]

/-- Objects with one normal form have the same fields, in normal form. -/
theorem normal_obj_perm {atom : Json → Json} {as bs : List (String × Json)}
    (h : (obj as).normal atom = (obj bs).normal atom) :
    (as.map fun f => (f.1, f.2.normal atom)).Perm (bs.map fun f => (f.1, f.2.normal atom)) := by
  rw [normal, normal, obj.injEq, normalFields_eq_map, normalFields_eq_map] at h
  have has := List.perm_insertionSort (fun a b : String × Json => a.1 ≤ b.1)
    (as.map fun f => (f.1, f.2.normal atom))
  have hbs := List.perm_insertionSort (fun a b : String × Json => a.1 ≤ b.1)
    (bs.map fun f => (f.1, f.2.normal atom))
  rw [h] at has
  exact has.symm.trans hbs

/-- `fields[key] = value`. -/
def setField (key : String) (value : Json) : List (String × Json) → List (String × Json)
  | [] => [(key, value)]
  | f :: fs => if f.1 = key then (key, value) :: fs else f :: setField key value fs

theorem mem_setField {fields : List (String × Json)} {key : String} {value : Json}
    {f : String × Json} (h : f ∈ setField key value fields) :
    f = (key, value) ∨ f ∈ fields := by
  induction fields with
  | nil => exact .inl (List.mem_singleton.mp h)
  | cons g fields ih =>
      unfold setField at h
      split at h
      · exact (List.mem_cons.mp h).imp_right (List.mem_cons_of_mem g)
      · rcases List.mem_cons.mp h with rfl | h
        · exact .inr (List.mem_cons_self ..)
        · exact (ih h).imp_right (List.mem_cons_of_mem g)

theorem keys_setField {fields : List (String × Json)} {key name : String} {value : Json} :
    name ∈ (setField key value fields).map (·.1) ↔
      name = key ∨ name ∈ fields.map (·.1) := by
  induction fields with
  | nil => simp [setField]
  | cons g fields ih =>
      unfold setField
      split
      case isTrue hkey =>
        rw [List.map_cons, List.map_cons, List.mem_cons, List.mem_cons, hkey]
        tauto
      case isFalse =>
        rw [List.map_cons, List.map_cons, List.mem_cons, List.mem_cons, ih]
        tauto

/-- A key that is not there comes last. -/
theorem setField_of_notMem {fields : List (String × Json)} {key : String} {value : Json}
    (h : key ∉ fields.map (·.1)) : setField key value fields = fields ++ [(key, value)] := by
  induction fields with
  | nil => rfl
  | cons g fields ih =>
      rw [List.map_cons, List.mem_cons, not_or] at h
      rw [setField, if_neg (Ne.symm h.1), ih h.2, List.cons_append]

theorem find?_setField {fields : List (String × Json)} {key : String} {value : Json} :
    ((setField key value fields).find? fun f => f.1 = key).map (·.2) = some value := by
  induction fields with
  | nil => simp [setField]
  | cons f fields ih =>
      unfold setField
      split
      case isTrue => simp
      case isFalse hkey => rw [List.find?_cons_of_neg (by simpa using hkey), ih]

theorem setField_setField {fields : List (String × Json)} {key : String} {value value' : Json} :
    setField key value' (setField key value fields) = setField key value' fields := by
  induction fields with
  | nil => simp [setField]
  | cons f fields ih =>
      by_cases hkey : f.1 = key
      · simp [setField, hkey]
      · simp [setField, hkey, ih]

end Json

/-! ## Dictionaries -/

/-- A dictionary from strings to documents. -/
structure JsonDict where
  /-- The fields, in the order they were inserted in. -/
  fields : List (String × Json)
  /-- The keys are distinct. -/
  distinct : (fields.map (·.1)).Nodup

namespace JsonDict

instance : DecidableEq JsonDict := fun a b =>
  decidable_of_iff (a.fields = b.fields)
    ⟨fun h => by cases a; cases b; cases h; rfl, fun h => h ▸ rfl⟩

/-- The empty dictionary. -/
def empty : JsonDict := ⟨[], .nil⟩

/-- The document of a dictionary. -/
def toJson (d : JsonDict) : Json := .obj d.fields

/-- `get`, which is `None` for a key that is not there. -/
def get (d : JsonDict) (key : String) : Json :=
  ((d.fields.find? fun f => f.1 = key).map (·.2)).getD .null

/-- `==`. -/
def same (a b : JsonDict) : Prop := a.toJson.value = b.toJson.value

instance (a b : JsonDict) : Decidable (a.same b) := decEq a.toJson.value b.toJson.value

/-- A dictionary has the value of a field that is there. -/
theorem get_of_mem {d : JsonDict} {key : String} {x : Json} (h : (key, x) ∈ d.fields) :
    d.get key = x := by
  have hfind : d.fields.find? (fun f => f.1 = key) = some (key, x) := by
    have hnodup := d.distinct
    revert hnodup h
    generalize d.fields = fields
    intro h hnodup
    induction fields with
    | nil => cases h
    | cons f fields ih =>
        rw [List.map_cons, List.nodup_cons] at hnodup
        rcases List.mem_cons.mp h with rfl | hmem
        · exact List.find?_cons_of_pos (by simp)
        · have hne : f.1 ≠ key := by
            intro heq
            exact hnodup.1 (List.mem_map.mpr ⟨(key, x), hmem, heq.symm⟩)
          rw [List.find?_cons_of_neg (by simpa using hne)]
          exact ih hmem hnodup.2
  simp [get, hfind]

/-- A dictionary has no value of a key that is not there. -/
theorem get_of_notMem {d : JsonDict} {key : String} (h : ∀ x, (key, x) ∉ d.fields) :
    d.get key = .null := by
  have hfind : d.fields.find? (fun f => f.1 = key) = none := by
    refine List.find?_eq_none.mpr fun f hf hkey => ?_
    have hkey' : f.1 = key := by simpa using hkey
    exact h f.2 (hkey' ▸ hf)
  simp [get, hfind]

/-- Dictionaries with one normal form have the same values, in normal form. -/
theorem normal_get {atom : Json → Json} {a b : JsonDict}
    (h : a.toJson.normal atom = b.toJson.normal atom) (key : String) :
    (a.get key).normal atom = (b.get key).normal atom := by
  have hperm := Json.normal_obj_perm h
  by_cases ha : ∃ x, (key, x) ∈ a.fields
  · obtain ⟨x, hx⟩ := ha
    have hx' := hperm.mem_iff.mp (List.mem_map_of_mem hx)
    obtain ⟨f, hf, heq⟩ := List.mem_map.mp hx'
    have hkey : f.1 = key := congrArg Prod.fst heq
    have hvalue : f.2.normal atom = x.normal atom := congrArg Prod.snd heq
    have hfield : (key, f.2) ∈ b.fields := hkey ▸ hf
    rw [get_of_mem hx, get_of_mem hfield]
    exact hvalue.symm
  · have hb : ∀ x, (key, x) ∉ b.fields := by
      intro x hx
      have hx' := hperm.mem_iff.mpr (List.mem_map_of_mem hx)
      obtain ⟨f, hf, heq⟩ := List.mem_map.mp hx'
      have hkey : f.1 = key := congrArg Prod.fst heq
      exact ha ⟨f.2, hkey ▸ hf⟩
    rw [get_of_notMem fun x hx => ha ⟨x, hx⟩, get_of_notMem hb]

/-- Equal dictionaries have equal values. -/
theorem same.get {a b : JsonDict} (h : a.same b) (key : String) :
    (a.get key).value = (b.get key).value := normal_get h key

end JsonDict

end AgentPact
