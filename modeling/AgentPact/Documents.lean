import Mathlib.Data.List.Forall2
import Mathlib.Data.List.Sort
import AgentPact.Platform

/-!
# Reading documents

What `model_validate` does with the fields of a document.  A reader returns the
value it reads, or raises a `ValidationError`.

For each reader there is a lemma that it gets back what was written.  The
readers are strict: they take a value in the form it is written in, and none of
the other forms that could be coerced to it.
-/

namespace AgentPact

/-- What reads a value from a document. -/
abbrev Reader (α : Type) := Json → Except Raised α

/-- `ValidationError`. -/
def invalidDocument : Raised := ⟨.validationError, "model_validate"⟩

/-- Raise a `ValidationError` unless a condition holds. -/
def valid (p : Prop) [Decidable p] : Except Raised Unit :=
  if p then .ok () else .error invalidDocument

/-! ## Values -/

/-- Read a string. -/
def readString : Reader String
  | .str s => .ok s
  | _ => .error invalidDocument

/-- Read an integer that is not below a bound. -/
def readNat (least : Nat) : Reader Nat
  | .num n => if (least : Int) ≤ n then .ok n.toNat else .error invalidDocument
  | _ => .error invalidDocument

/-- Read a digest. -/
def readDigest : Reader Digest
  | .str s =>
      if h : s.toList.length = 64 ∧ s.toList.all isHexDigit = true then .ok ⟨s, h⟩
      else .error invalidDocument
  | _ => .error invalidDocument

/-- Read a member of an enumeration. -/
def readMember {α : Type} (members : List α) (value : α → String) : Reader α
  | .str s =>
      match members.find? fun m => value m = s with
      | some m => .ok m
      | none => .error invalidDocument
  | _ => .error invalidDocument

/-- Read a datetime, by a function that parses it. -/
def readDateTime (fromisoformat : String → Option DateTime) : Reader DateTime
  | .str s =>
      match fromisoformat s with
      | some t => .ok t
      | none => .error invalidDocument
  | _ => .error invalidDocument

/-- Read a value that may be `null`. -/
def readOption {α : Type} (read : Reader α) : Reader (Option α)
  | .null => .ok none
  | doc => (read doc).map some

/-- Read a list. -/
def readList {α : Type} (read : Reader α) : Reader (List α)
  | .arr docs => docs.mapM read
  | _ => .error invalidDocument

/-- Read an entry of a dictionary. -/
def readEntry (field : String × Json) : Except Raised (String × String) :=
  (readString field.2).map fun s => (field.1, s)

/-- Read a dictionary, whose keys may come in any order. -/
def readDict : Reader Dict
  | .obj fields => do
      let entries ← fields.mapM readEntry
      let sorted := entries.insertionSort fun a b => a.1 < b.1
      if h : sorted.Pairwise fun a b => a.1 < b.1 then pure ⟨sorted, h⟩
      else throw invalidDocument
  | _ => .error invalidDocument

/-! ## Fields -/

namespace Json

/-- The value of a key. -/
def field? : Json → String → Option Json
  | .obj fields, key => (fields.find? fun f => f.1 = key).map (·.2)
  | _, _ => none

/-- Read a field. -/
def get {α : Type} (doc : Json) (key : String) (read : Reader α) : Except Raised α :=
  match doc.field? key with
  | some value => read value
  | none => .error invalidDocument

/-- Read a field that has a default. -/
def getD {α : Type} (doc : Json) (key : String) (read : Reader α) (default : α) :
    Except Raised α :=
  match doc.field? key with
  | some value => read value
  | none => .ok default

/-- Whether a document is an object with these keys only, for `extra="forbid"`. -/
def hasOnly (keys : List String) : Json → Bool
  | .obj fields => fields.all fun f => f.1 ∈ keys
  | _ => false

end Json

/-! ## Reading what was written -/

theorem except_ok_bind {ε α β : Type} {a : α} {f : α → Except ε β} :
    (Except.ok a >>= f) = f a := rfl

@[simp] theorem valid_eq_ok {p : Prop} [Decidable p] {u : Unit} : valid p = .ok u ↔ p := by
  unfold valid
  split
  case isTrue h => simp [h]
  case isFalse h => simp [h]

@[simp] theorem readString_str (s : String) : readString (.str s) = .ok s := rfl

@[simp] theorem readNat_num {least n : Nat} (h : least ≤ n) : readNat least (.num n) = .ok n := by
  have hle : (least : Int) ≤ n := by omega
  simp [readNat, hle]

@[simp] theorem readDigest_hex (d : Digest) : readDigest (.str d.hex) = .ok d := by
  unfold readDigest
  exact dif_pos d.wellFormed

/-- A member is read back if its text is that of no member before it. -/
theorem readMember_value {α : Type} {members : List α} {value : α → String} {m : α}
    (hmem : m ∈ members) (hinjective : ∀ a ∈ members, value a = value m → a = m) :
    readMember members value (.str (value m)) = .ok m := by
  cases hfind : members.find? fun a => value a = value m with
  | none =>
      have := List.find?_eq_none.mp hfind m hmem
      simp at this
  | some a =>
      have hvalue := List.find?_some hfind
      have hsame : a = m := hinjective a (List.mem_of_find?_eq_some hfind) (by simpa using hvalue)
      simp only [readMember, hfind, hsame]

theorem readOption_ofOption {α : Type} {read : Reader α} {write : α → Json} {x : Option α}
    (hread : ∀ a ∈ x, read (write a) = .ok a) (hnull : ∀ a, write a ≠ .null) :
    readOption read (.ofOption write x) = .ok x := by
  cases x with
  | none => rfl
  | some a =>
      have ha := hread a rfl
      show readOption read (write a) = _
      unfold readOption
      split
      case h_1 heq => exact absurd heq (hnull a)
      case h_2 => rw [ha]; rfl

/-- Reading alike what is in a list. -/
theorem mapM_congr {α β ε : Type} {f g : α → Except ε β} {l : List α} (h : ∀ a ∈ l, f a = g a) :
    l.mapM f = l.mapM g := by
  induction l with
  | nil => rfl
  | cons a l ih =>
      obtain ⟨ha, hl⟩ := List.forall_mem_cons.mp h
      rw [List.mapM_cons, List.mapM_cons, ha, ih hl]

theorem mapM_cons_eq_ok {α β ε : Type} {read : α → Except ε β} {a : α} {as : List α}
    {bs : List β} : (a :: as).mapM read = .ok bs ↔
      ∃ b bs', read a = .ok b ∧ as.mapM read = .ok bs' ∧ bs = b :: bs' := by
  simp only [List.mapM_cons, except_bind_eq_ok]
  constructor
  · rintro ⟨b, hb, bs', hbs', hpure⟩
    cases hpure
    exact ⟨b, bs', hb, hbs', rfl⟩
  · rintro ⟨b, bs', hb, hbs', rfl⟩
    exact ⟨b, hb, bs', hbs', rfl⟩

theorem mapM_eq_ok_iff {α β ε : Type} {read : α → Except ε β} {as : List α} {bs : List β} :
    as.mapM read = .ok bs ↔ List.Forall₂ (fun a b => read a = .ok b) as bs := by
  induction as generalizing bs with
  | nil =>
      rw [List.mapM_nil, List.forall₂_nil_left_iff]
      exact ⟨fun h => by cases h; rfl, fun h => by rw [h]; rfl⟩
  | cons a as ih =>
      rw [mapM_cons_eq_ok, List.forall₂_cons_left_iff]
      constructor
      · rintro ⟨b, bs', hb, hbs', rfl⟩
        exact ⟨b, bs', hb, ih.mp hbs', rfl⟩
      · rintro ⟨b, bs', hb, hbs', rfl⟩
        exact ⟨b, bs', hb, ih.mpr hbs', rfl⟩

theorem exists_of_forall₂_right {α β : Type} {R : α → β → Prop} {as : List α} {bs : List β}
    (h : List.Forall₂ R as bs) {b : β} (hb : b ∈ bs) : ∃ a ∈ as, R a b := by
  induction h with
  | nil => cases hb
  | @cons a b' as bs hab _ ih =>
      cases hb with
      | head => exact ⟨a, List.mem_cons_self .., hab⟩
      | tail _ hmem =>
          obtain ⟨a', ha', hR⟩ := ih hmem
          exact ⟨a', List.mem_cons_of_mem a ha', hR⟩

theorem mapM_map {α β γ : Type} {read : β → Except Raised γ} {write : α → β} {f : α → γ}
    {as : List α} (h : ∀ a ∈ as, read (write a) = .ok (f a)) :
    (as.map write).mapM read = .ok (as.map f) := by
  induction as with
  | nil => rfl
  | cons a as ih =>
      rw [List.map_cons, List.mapM_cons, h a (List.mem_cons_self ..), except_ok_bind,
        ih fun b hb => h b (List.mem_cons_of_mem a hb)]
      rfl

theorem readList_arr {α : Type} {read : Reader α} {write : α → Json} {as : List α}
    (h : ∀ a ∈ as, read (write a) = .ok a) : readList read (.arr (as.map write)) = .ok as := by
  have hmap := mapM_map (f := id) h
  rwa [List.map_id] at hmap

@[simp] theorem readDict_toJson (d : Dict) : readDict d.toJson = .ok d := by
  have hentries : (d.entries.map fun e => (e.1, Json.str e.2)).mapM readEntry = .ok d.entries := by
    have hread : ∀ e ∈ d.entries, readEntry (e.1, Json.str e.2) = .ok (id e) := fun _ _ => rfl
    have hmap := mapM_map hread
    rwa [List.map_id] at hmap
  have hsorted : d.entries.insertionSort (fun a b => a.1 < b.1) = d.entries :=
    d.sorted.insertionSort_eq
  simp only [readDict, Dict.toJson, hentries, except_ok_bind, hsorted]
  exact dif_pos d.sorted

end AgentPact
