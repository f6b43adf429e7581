import AgentPact.Governance.AdmissionDocument

/-!
# The sources of the facts of a binding

`_verify_fact_sources` of `governance/dry_run.py` compares each fact of a
business binding with what the page shows.  The facts are nested dictionaries.
They are flattened to one dictionary from dotted names to values, each name has
a source, and a source is a dotted path into the facts of the action's target.

Two facts may have one dotted name, as `{"a": {"b": 1}, "a.b": 2}` shows.  The
flat dictionary keeps the later one, and the other is compared with nothing.
So every fact of a binding that passes was shown exactly if facts with one name
have one value (`verifyFactSources_iff`).
-/

namespace AgentPact

/-! ## The code -/

/-- The facts of a binding, and their sources. -/
structure CandidateBusinessBinding where
  observedInputs : JsonDict
  proposedTransition : JsonDict
  factSources : Dict

namespace CandidateBusinessBinding

variable (b : CandidateBusinessBinding)

/-- The facts, as `_verify_fact_sources` puts them together. -/
def canonicalFacts : Json :=
  .obj [("inputs", b.observedInputs.toJson), ("transition", b.proposedTransition.toJson)]

/-- `fact_sources.get`. -/
def source? (name : String) : Option String :=
  (b.factSources.entries.find? fun e => e.1 = name).map (·.2)

end CandidateBusinessBinding

/-- The name of a key below a path. -/
def dotted (path key : String) : String := if path = "" then key else path ++ "." ++ key

/-- `leaves.update(more)`. -/
def updateFields (leaves more : List (String × Json)) : List (String × Json) :=
  more.foldl (fun fields f => Json.setField f.1 f.2 fields) leaves

mutual

/-- `_flatten_fact_leaves`. -/
def flattenFactLeaves (path : String) : Json → Except Raised (List (String × Json))
  | .obj fields => flattenFields path fields []
  | value =>
      if path = "" then .error ⟨.valueError, "Canonical fact path cannot be empty"⟩
      else .ok [(path, value)]

/-- Its loop over the items of a dictionary. -/
def flattenFields (path : String) :
    List (String × Json) → List (String × Json) → Except Raised (List (String × Json))
  | [], leaves => .ok leaves
  | (key, item) :: fields, leaves => do
      let more ← flattenFactLeaves (dotted path key) item
      flattenFields path fields (updateFields leaves more)

end

/-- The segments of a dotted path, `path.split(".")`. -/
def segments (path : String) : List String := (path.toList.splitOn '.').map String.ofList

/-- The loop of `_resolve_fact_path`. -/
def resolveSegments : Json → List String → Except Raised Json
  | current, [] => .ok current
  | .obj fields, segment :: rest => do
      ensure (segment ≠ "")
        ⟨.typeError, "Fact source path does not resolve through mappings"⟩
      let item ← orRaise ((fields.find? fun f => f.1 = segment).map (·.2)) ⟨.keyError, segment⟩
      resolveSegments item rest
  | _, _ :: _ => .error ⟨.typeError, "Fact source path does not resolve through mappings"⟩

/-- `_resolve_fact_path`. -/
def resolveFactPath (facts : JsonDict) (path : String) : Except Raised Json := do
  ensure (path ≠ "" ∧ path.toList.head? ≠ some '.' ∧ path.toList.getLast? ≠ some '.')
    ⟨.valueError, "Fact source path must be a non-empty dotted path"⟩
  resolveSegments facts.toJson (segments path)

/-- The comparison of one leaf. -/
def verifyLeaf (b : CandidateBusinessBinding) (actualTargetFacts : JsonDict)
    (leaf : String × Json) : Except Raised Unit := do
  let source ← orRaise (b.source? leaf.1) ⟨.keyError, leaf.1⟩
  let observed ← (resolveFactPath actualTargetFacts source).mapError fun _ =>
    ⟨.governedDryRunError, "Business binding fact source is absent from the current Action target"⟩
  ensure (observed.value = leaf.2.value)
    ⟨.governedDryRunError, "Business binding fact does not match the current Action target"⟩

/-- The comparison of every leaf, in order. -/
def verifyLeaves (b : CandidateBusinessBinding) (actualTargetFacts : JsonDict) :
    List (String × Json) → Except Raised Unit
  | [] => .ok ()
  | leaf :: leaves => do
      verifyLeaf b actualTargetFacts leaf
      verifyLeaves b actualTargetFacts leaves

/-- `_verify_fact_sources`. -/
def verifyFactSources (b : CandidateBusinessBinding) (actualTargetFacts : JsonDict) :
    Except Raised Unit := do
  let leaves ← flattenFactLeaves "" b.canonicalFacts
  ensure ((∀ e ∈ b.factSources.entries, e.1 ∈ leaves.map (·.1)) ∧
      ∀ leaf ∈ leaves, leaf.1 ∈ b.factSources.entries.map (·.1))
    ⟨.governedDryRunError, "Business binding fact sources must cover every canonical fact exactly"⟩
  verifyLeaves b actualTargetFacts leaves

/-! ## Leaves -/

namespace Json

mutual

/-- What a document holds that is not a dictionary, with the keys that lead to it. -/
def leaves : Json → List (List String × Json)
  | .obj fields => fieldLeaves fields
  | value => [([], value)]

/-- The leaves of fields. -/
def fieldLeaves : List (String × Json) → List (List String × Json)
  | [] => []
  | (key, item) :: fields =>
      (leaves item).map (fun leaf => (key :: leaf.1, leaf.2)) ++ fieldLeaves fields

end

end Json

/-- The dotted name of keys below a path. -/
def leafName (path : String) (keys : List String) : String := keys.foldl dotted path

theorem mem_updateFields {leaves more : List (String × Json)} {f : String × Json}
    (h : f ∈ updateFields leaves more) : f ∈ leaves ∨ f ∈ more := by
  induction more generalizing leaves with
  | nil => exact .inl h
  | cons g more ih =>
      rcases ih h with hset | hmore
      · rcases Json.mem_setField hset with rfl | hleaves
        · exact .inr (List.mem_cons_self ..)
        · exact .inl hleaves
      · exact .inr (List.mem_cons_of_mem g hmore)

theorem keys_updateFields {leaves more : List (String × Json)} {name : String} :
    name ∈ (updateFields leaves more).map (·.1) ↔
      name ∈ leaves.map (·.1) ∨ name ∈ more.map (·.1) := by
  induction more generalizing leaves with
  | nil => simp [updateFields]
  | cons g more ih =>
      show name ∈ (updateFields (Json.setField g.1 g.2 leaves) more).map (·.1) ↔ _
      rw [ih, Json.keys_setField, List.map_cons, List.mem_cons]
      tauto

/-- The flat dictionary of leaves: its names are theirs, and each value is one of theirs. -/
structure Flattens (path : String) (leaves : List (List String × Json))
    (flat : List (String × Json)) : Prop where
  names : ∀ leaf ∈ leaves, leafName path leaf.1 ∈ flat.map (·.1)
  values : ∀ f ∈ flat, ∃ leaf ∈ leaves, leafName path leaf.1 = f.1 ∧ leaf.2 = f.2

theorem Flattens.append {path : String} {leaves more : List (List String × Json)}
    {flat flatMore : List (String × Json)} (h : Flattens path leaves flat)
    (hmore : Flattens path more flatMore) :
    Flattens path (leaves ++ more) (updateFields flat flatMore) where
  names leaf hleaf := keys_updateFields.mpr
    ((List.mem_append.mp hleaf).imp (h.names leaf) (hmore.names leaf))
  values f hf := by
    rcases mem_updateFields hf with hf | hf
    · obtain ⟨leaf, hleaf, heq⟩ := h.values f hf
      exact ⟨leaf, List.mem_append_left _ hleaf, heq⟩
    · obtain ⟨leaf, hleaf, heq⟩ := hmore.values f hf
      exact ⟨leaf, List.mem_append_right _ hleaf, heq⟩

theorem Flattens.below {path key : String} {leaves : List (List String × Json)}
    {flat : List (String × Json)} (h : Flattens (dotted path key) leaves flat) :
    Flattens path (leaves.map fun leaf => (key :: leaf.1, leaf.2)) flat where
  names leaf hleaf := by
    obtain ⟨below, hbelow, rfl⟩ := List.mem_map.mp hleaf
    exact h.names below hbelow
  values f hf := by
    obtain ⟨below, hbelow, hname, hvalue⟩ := h.values f hf
    exact ⟨_, List.mem_map_of_mem hbelow, hname, hvalue⟩

/-- What is not a dictionary is one leaf. -/
theorem flattens_leaf {path : String} {value : Json} {flat : List (String × Json)}
    (h : (if path = "" then .error ⟨.valueError, "Canonical fact path cannot be empty"⟩
      else .ok [(path, value)] : Except Raised (List (String × Json))) = .ok flat) :
    Flattens path [([], value)] flat := by
  split at h
  · cases h
  · cases h
    refine ⟨?_, ?_⟩
    · intro leaf hleaf
      rw [List.mem_singleton.mp hleaf]
      exact List.mem_singleton.mpr rfl
    · intro f hf
      rw [List.mem_singleton.mp hf]
      exact ⟨([], value), List.mem_singleton.mpr rfl, rfl, rfl⟩

mutual

/-- Flattening keeps every name and makes up no value. -/
theorem flattens_of_ok {path : String} : ∀ {value : Json} {flat : List (String × Json)},
    flattenFactLeaves path value = .ok flat → Flattens path value.leaves flat
  | .obj fields, flat, h => by
      have hnone : Flattens path [] [] := ⟨nofun, nofun⟩
      have hall := flattenFields_of_ok hnone h
      rwa [List.nil_append] at hall
  | .null, flat, h => flattens_leaf h
  | .bool _, flat, h => flattens_leaf h
  | .num _, flat, h => flattens_leaf h
  | .real _, flat, h => flattens_leaf h
  | .str _, flat, h => flattens_leaf h
  | .arr _, flat, h => flattens_leaf h

theorem flattenFields_of_ok {path : String} : ∀ {fields flat result : List (String × Json)}
    {before : List (List String × Json)}, Flattens path before flat →
    flattenFields path fields flat = .ok result →
    Flattens path (before ++ Json.fieldLeaves fields) result
  | [], flat, result, before, hbefore, h => by
      cases h
      rw [Json.fieldLeaves, List.append_nil]
      exact hbefore
  | (key, item) :: fields, flat, result, before, hbefore, h => by
      obtain ⟨more, hmore, h⟩ := except_bind_eq_ok.mp h
      have hitem := (flattens_of_ok hmore).below
      have hrest := flattenFields_of_ok (hbefore.append hitem) h
      rw [List.append_assoc] at hrest
      exact hrest

end

/-! ## What a binding that passes has shown -/

/-- A leaf that its source shows. -/
def Shown (b : CandidateBusinessBinding) (actualTargetFacts : JsonDict)
    (leaf : List String × Json) : Prop :=
  ∃ source, b.source? (leafName "" leaf.1) = some source ∧
    ∃ observed, resolveFactPath actualTargetFacts source = .ok observed ∧
      observed.value = leaf.2.value

/-- Leaves with one name have one value. -/
def CandidateBusinessBinding.Unambiguous (b : CandidateBusinessBinding) : Prop :=
  ∀ leaf ∈ b.canonicalFacts.leaves, ∀ other ∈ b.canonicalFacts.leaves,
    leafName "" leaf.1 = leafName "" other.1 → leaf.2.value = other.2.value

section

variable {b : CandidateBusinessBinding} {actualTargetFacts : JsonDict}

theorem verifyLeaf_eq_ok {leaf : String × Json} {u : Unit}
    (h : verifyLeaf b actualTargetFacts leaf = .ok u) :
    ∃ source, b.source? leaf.1 = some source ∧
      ∃ observed, resolveFactPath actualTargetFacts source = .ok observed ∧
        observed.value = leaf.2.value := by
  obtain ⟨source, hsource, h⟩ := except_bind_eq_ok.mp h
  obtain ⟨observed, hobserved, h⟩ := except_bind_eq_ok.mp h
  refine ⟨source, orRaise_eq_ok.mp hsource, observed, ?_, (ensure_eq_ok.mp h)⟩
  cases hresolve : resolveFactPath actualTargetFacts source with
  | ok value =>
      rw [hresolve] at hobserved
      exact hobserved
  | error e =>
      rw [hresolve] at hobserved
      cases hobserved

theorem verifyLeaves_eq_ok {leaves : List (String × Json)} {u : Unit}
    (h : verifyLeaves b actualTargetFacts leaves = .ok u) :
    ∀ leaf ∈ leaves, verifyLeaf b actualTargetFacts leaf = .ok () := by
  induction leaves with
  | nil => exact nofun
  | cons leaf leaves ih =>
      obtain ⟨_, hleaf, h⟩ := except_bind_eq_ok.mp h
      intro other hother
      rcases List.mem_cons.mp hother with rfl | hother
      · exact hleaf
      · exact ih h other hother

/-- Where a binding passes, every one of its leaves was shown, at any depth and under any keys,
exactly if leaves with one name have one value. -/
theorem verifyFactSources_iff (h : verifyFactSources b actualTargetFacts = .ok ()) :
    (∀ leaf ∈ b.canonicalFacts.leaves, Shown b actualTargetFacts leaf) ↔ b.Unambiguous := by
  obtain ⟨flat, hflat, h⟩ := except_bind_eq_ok.mp h
  obtain ⟨_, _, h⟩ := except_bind_eq_ok.mp h
  have hflattens := flattens_of_ok hflat
  constructor
  · intro hshown leaf hleaf other hother hname
    obtain ⟨source, hsource, observed, hobserved, hvalue⟩ := hshown leaf hleaf
    obtain ⟨source', hsource', observed', hobserved', hvalue'⟩ := hshown other hother
    rw [hname, hsource'] at hsource
    cases hsource
    rw [hobserved'] at hobserved
    cases hobserved
    exact hvalue.symm.trans hvalue'
  · intro hone leaf hleaf
    -- The flat dictionary has a value under the name, and it is that of a leaf of this name.
    obtain ⟨f, hf, hname⟩ := List.mem_map.mp (hflattens.names leaf hleaf)
    obtain ⟨other, hother, hname', hvalue⟩ := hflattens.values f hf
    obtain ⟨source, hsource, observed, hobserved, hsame⟩ :=
      verifyLeaf_eq_ok (verifyLeaves_eq_ok h f hf)
    rw [hname] at hsource
    rw [← hvalue, hone other hother leaf hleaf (hname'.trans hname)] at hsame
    exact ⟨source, hsource, observed, hobserved, hsame⟩

end

/-- Facts with one name and two values.  The page shows the later one. -/
def ambiguousBinding : CandidateBusinessBinding where
  observedInputs := ⟨[("a.b", .num 1), ("a", .obj [("b", .num 2)])], by decide⟩
  proposedTransition := .empty
  factSources := ⟨[("inputs.a.b", "shown")], List.pairwise_singleton ..⟩

def shownFacts : JsonDict := ⟨[("shown", .num 2)], by decide⟩

/-- The binding passes, and the page does not show its other fact. -/
theorem ambiguous_fact_not_shown :
    verifyFactSources ambiguousBinding shownFacts = .ok () ∧
      (["inputs", "a.b"], Json.num 1) ∈ ambiguousBinding.canonicalFacts.leaves ∧
      ¬ Shown ambiguousBinding shownFacts (["inputs", "a.b"], .num 1) := by
  refine ⟨by rfl, by decide, ?_⟩
  rintro ⟨source, hsource, observed, hobserved, hvalue⟩
  cases hsource
  cases hobserved
  exact absurd hvalue (by decide)

/-- A nested fact that the page shows. -/
def nestedBinding : CandidateBusinessBinding where
  observedInputs := ⟨[("record", .obj [("id", .str "r")])], by decide⟩
  proposedTransition := .empty
  factSources := ⟨[("inputs.record.id", "row.id")], List.pairwise_singleton ..⟩

def rowFacts : JsonDict := ⟨[("row", .obj [("id", .str "r")])], by decide⟩

theorem nestedBinding_shown :
    (∀ leaf ∈ nestedBinding.canonicalFacts.leaves, Shown nestedBinding rowFacts leaf) ↔
      nestedBinding.Unambiguous :=
  verifyFactSources_iff (by rfl)

end AgentPact
