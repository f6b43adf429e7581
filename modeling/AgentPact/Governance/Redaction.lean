import AgentPact.Base.LowerCase
import AgentPact.Platform

/-!
# Redaction

What is kept of an action payload (`redacted_action_payload` of
`governance/audit.py`, with the classes of `governance/classification.py`).

A string is hidden if the name it is stored under is sensitive, or if its own text
is.  The name is that of the nearest key, and only strings are looked at.  So
`redaction_hides_iff` says which payloads that differ below sensitive names are
told apart: those that differ in a value that is no string, or in a string with
another key between it and the sensitive name.
-/

namespace AgentPact

open Base

namespace Redaction

/-! ## Classes -/

/-- `DataClassification`. -/
inductive DataClassification where
  | publicData | internal | pii | financial | credential | otp | restricted
deriving DecidableEq, Repr

/-- Whether values of a class are hidden. -/
def DataClassification.isSensitive (c : DataClassification) : Bool := c ≠ .publicData && c ≠ .internal

/-- The tables of the characters. -/
structure TextTables where
  /-- The tables of `str.lower`. -/
  cases : CaseTable
  /-- `\w`. -/
  isWord : Char → Bool
  /-- `\d`. -/
  isDigit : Char → Bool
  /-- A digit is part of a word. -/
  isWord_of_isDigit : ∀ c, isDigit c = true → isWord c = true

variable (T : TextTables)

/-- Whether a letter of a pattern matches a character, with `re.IGNORECASE`. -/
def letterMatches (letter c : Char) : Bool :=
  c.toLower = letter || (letter = 's' && c = Char.ofNat 0x17F) ||
    (letter = 'k' && c = Char.ofNat 0x212A)

/-- Whether a text begins with a word. -/
def beginsWith : List Char → List Char → Bool
  | [], _ => true
  | _ :: _, [] => false
  | letter :: word, c :: text => letterMatches letter c && beginsWith word text

/-- `_CREDENTIAL_RE.search`. -/
def searchCredential (text : List Char) : Bool :=
  ["password", "passwd", "pwd", "secret", "token"].any fun word =>
    text.tails.any fun rest => beginsWith word.toList rest

/-- A number of digits. -/
def takeDigits (n : Nat) (text : List Char) : Option (List Char) :=
  if (text.take n).length = n ∧ (text.take n).all T.isDigit = true then some (text.drop n) else none

/-- `\b` beside a digit. -/
def atEdge (neighbour : Option Char) : Bool := !neighbour.any T.isWord

/-- Search for a pattern between two edges of words, after a character. -/
def searchFrom (pattern : List Char → Option (List Char)) (before : Option Char) : List Char → Bool
  | [] => false
  | c :: text =>
      (atEdge T before && (pattern (c :: text)).any fun rest => atEdge T rest.head?) ||
        searchFrom pattern (some c) text

/-- `1[3-9]\d{9}`. -/
def matchPhone : List Char → Option (List Char)
  | a :: b :: text =>
      if a = '1' ∧ '3' ≤ b ∧ b ≤ '9' then takeDigits T 9 text else none
  | _ => none

/-- `[ -]?\d{4}`. -/
def matchGroup (text : List Char) : Option (List Char) :=
  match text with
  | c :: rest => if c = ' ' ∨ c = '-' then takeDigits T 4 rest else takeDigits T 4 text
  | [] => none

/-- `[3-6]\d{3}(?:[ -]?\d{4}){3}`. -/
def matchCard : List Char → Option (List Char)
  | c :: text =>
      if '3' ≤ c ∧ c ≤ '6' then do
        let first ← takeDigits T 3 text
        let second ← matchGroup T first
        let third ← matchGroup T second
        matchGroup T third
      else none
  | [] => none

/-- `_OTP_RE.fullmatch`. -/
def isOtp (text : List Char) : Bool := text.length = 6 && text.all T.isDigit

/-- The parts of financial names. -/
def financialTokens : List String :=
  ["account", "amount", "beneficiary", "card", "金额", "币种", "收款", "收款方", "账户", "账号",
    "银行卡", "受益人", "对象版本"]

/-- `classify_value`. -/
def classifyValue (fieldName : String) (value : Option String) : DataClassification :=
  let name := (T.cases.lower fieldName).toList
  let text := (value.getD "").toList
  if searchCredential name then .credential
  else if isOtp T text then .otp
  else if searchFrom T (matchPhone T) none text then .pii
  else if searchFrom T (matchCard T) none text then .financial
  else if financialTokens.any fun token => decide (token.toList <:+: name) then .financial
  else .internal

/-- `redact_for_egress`. -/
def redactForEgress (value : String) : DataClassification → String
  | .credential | .otp => "[REDACTED_SECRET]"
  | .pii => "[REDACTED_PII]"
  | .financial | .restricted => "[REDACTED_FINANCIAL]"
  | .publicData | .internal => value

/-! ## Payloads -/

mutual

/-- `_redact_mapping`. -/
def redactMapping (fieldName : String) : Json → Json
  | .obj fields => .obj (redactFields fields)
  | .arr items => .arr (redactItems fieldName items)
  | .str s =>
      let classification := classifyValue T fieldName (some s)
      if classification.isSensitive then .str (redactForEgress s classification) else .str s
  | value => value

/-- The items of a list, under the name of the list. -/
def redactItems (fieldName : String) : List Json → List Json
  | [] => []
  | item :: items => redactMapping fieldName item :: redactItems fieldName items

/-- The values of a mapping, each under its own key. -/
def redactFields : List (String × Json) → List (String × Json)
  | [] => []
  | (key, item) :: fields => (key, redactMapping key item) :: redactFields fields

end

/-- `redacted_action_payload`, of the dump of an action. -/
def redactedActionPayload (raw : List (String × Json)) : Json := redactMapping T "" (.obj raw)

/-! ## What is compared -/

/-- The placeholders. -/
def placeholders : List String := ["[REDACTED_SECRET]", "[REDACTED_PII]", "[REDACTED_FINANCIAL]"]

mutual

/-- A document with one placeholder for all. -/
def unify : Json → Json
  | .str s => if s ∈ placeholders then .str "[REDACTED_SECRET]" else .str s
  | .arr items => .arr (unifyItems items)
  | .obj fields => .obj (unifyFields fields)
  | value => value

/-- The items of a list, with one placeholder. -/
def unifyItems : List Json → List Json
  | [] => []
  | item :: items => unify item :: unifyItems items

/-- The values of a mapping, with one placeholder. -/
def unifyFields : List (String × Json) → List (String × Json)
  | [] => []
  | (key, item) :: fields => (key, unify item) :: unifyFields fields

end

/-- A value that is neither a list nor a mapping. -/
def IsLeaf : Json → Prop
  | .arr _ | .obj _ => False
  | _ => True

/-- Whether a name alone makes what is stored under it sensitive. -/
def isSensitiveName (name : String) : Bool := (classifyValue T name none).isSensitive

mutual

/-- Two documents of one shape, whose leaves are related.  A relation of leaves is told the nearest
key, and whether that key or one above it is sensitive. -/
def Aligned (leaf : Bool → String → Json → Json → Prop) (below : Bool) (key : String) :
    Json → Json → Prop
  | .obj fields, .obj fields' => AlignedFields leaf below fields fields'
  | .arr items, .arr items' => AlignedItems leaf below key items items'
  | x, y => IsLeaf x ∧ IsLeaf y ∧ leaf below key x y

/-- The items of two lists. -/
def AlignedItems (leaf : Bool → String → Json → Json → Prop) (below : Bool) (key : String) :
    List Json → List Json → Prop
  | [], [] => True
  | x :: xs, y :: ys => Aligned leaf below key x y ∧ AlignedItems leaf below key xs ys
  | _, _ => False

/-- The values of two mappings with the same keys. -/
def AlignedFields (leaf : Bool → String → Json → Json → Prop) (below : Bool) :
    List (String × Json) → List (String × Json) → Prop
  | [], [] => True
  | (key, x) :: xs, (key', y) :: ys =>
      key = key' ∧ Aligned leaf (below || isSensitiveName T key) key x y ∧
        AlignedFields leaf below xs ys
  | _, _ => False

end

/-- The payloads differ at most in leaves at or below sensitive names. -/
def DifferBelowSensitiveNames (x y : Json) : Prop :=
  Aligned T (fun below _ a b => below = true ∨ a = b) false "" x y

/-- A leaf is hidden: it is a string, and its key is sensitive, or its own text is, or it is a
placeholder already. -/
def Hidden (key : String) : Json → Prop
  | .str s => isSensitiveName T key = true ∨ (classifyValue T "" (some s)).isSensitive = true ∨
      s ∈ placeholders
  | _ => False

/-- Wherever the payloads differ, both leaves are hidden. -/
def HiddenWhereDifferent (x y : Json) : Prop :=
  Aligned T (fun _ key a b => a = b ∨ Hidden T key a ∧ Hidden T key b) false "" x y

/-! ## Names and texts -/

/-- A name is sensitive by the words that are found in it. -/
theorem isSensitiveName_eq (key : String) :
    isSensitiveName T key = (searchCredential (T.cases.lower key).toList ||
      financialTokens.any fun token =>
        decide (token.toList <:+: (T.cases.lower key).toList)) := by
  unfold isSensitiveName classifyValue
  have hotp : isOtp T [] = false := rfl
  have hphone : searchFrom T (matchPhone T) none [] = false := rfl
  have hcard : searchFrom T (matchCard T) none [] = false := rfl
  dsimp only [Option.getD_none]
  rw [show "".toList = [] from rfl, hotp, hphone, hcard]
  cases searchCredential (T.cases.lower key).toList with
  | true => rfl
  | false =>
      simp only [Bool.false_eq_true, if_false, Bool.false_or]
      split
      case isTrue h => rw [h]; rfl
      case isFalse h => rw [Bool.not_eq_true _ |>.mp h]; rfl

/-- A text is sensitive by the pattern it has. -/
theorem isSensitive_text_eq (s : String) :
    (classifyValue T "" (some s)).isSensitive = (isOtp T s.toList ||
      (searchFrom T (matchPhone T) none s.toList || searchFrom T (matchCard T) none s.toList)) := by
  have hname : (T.cases.lower "").toList = [] := by
    rw [CaseTable.lower, String.toList_ofList]
    rfl
  have hcredential : searchCredential [] = false := by decide
  have htokens : (financialTokens.any fun token => decide (token.toList <:+: [])) = false := by
    decide
  unfold classifyValue
  dsimp only [Option.getD_some]
  rw [hname, hcredential, htokens]
  cases isOtp T s.toList with
  | true => rfl
  | false =>
      cases searchFrom T (matchPhone T) none s.toList with
      | true => rfl
      | false => cases searchFrom T (matchCard T) none s.toList <;> rfl

/-- A string is redacted if its name is sensitive or its text is. -/
theorem isSensitive_iff (key s : String) :
    (classifyValue T key (some s)).isSensitive = true ↔
      isSensitiveName T key = true ∨ (classifyValue T "" (some s)).isSensitive = true := by
  rw [isSensitiveName_eq, isSensitive_text_eq]
  unfold classifyValue
  dsimp only [Option.getD_some]
  split_ifs with hcredential hotp hphone hcard htokens
  · simp [hcredential, DataClassification.isSensitive]
  · simp [hotp, DataClassification.isSensitive]
  · simp [hphone, DataClassification.isSensitive]
  · simp [hcard, DataClassification.isSensitive]
  · simp [htokens, DataClassification.isSensitive]
  · simp [hcredential, hotp, hphone, hcard, htokens, DataClassification.isSensitive]

/-! ## Leaves -/

/-- The placeholder that stands for all. -/
def mark : Json := .str "[REDACTED_SECRET]"

theorem redactForEgress_mem {c : DataClassification} (h : c.isSensitive = true) (s : String) :
    redactForEgress s c ∈ placeholders := by
  have hmem : "[REDACTED_SECRET]" ∈ placeholders ∧ "[REDACTED_PII]" ∈ placeholders ∧
      "[REDACTED_FINANCIAL]" ∈ placeholders := by decide
  cases c with
  | publicData => cases h
  | internal => cases h
  | pii => exact hmem.2.1
  | financial => exact hmem.2.2
  | credential => exact hmem.1
  | otp => exact hmem.1
  | restricted => exact hmem.2.2

variable {T}

theorem unify_of_hidden {key : String} {x : Json} (h : Hidden T key x) :
    unify (redactMapping T key x) = mark := by
  cases x with
  | str s =>
      rw [redactMapping]
      split
      case isTrue hsensitive => rw [unify, if_pos (redactForEgress_mem hsensitive s), mark]
      case isFalse hsensitive =>
        rw [isSensitive_iff, not_or] at hsensitive
        rcases h with hname | htext | hplaceholder
        · exact absurd hname hsensitive.1
        · exact absurd htext hsensitive.2
        · rw [unify, if_pos hplaceholder, mark]
  | _ => exact h.elim

theorem unify_of_not_hidden {key : String} {x : Json} (hleaf : IsLeaf x) (h : ¬ Hidden T key x) :
    unify (redactMapping T key x) = x ∧ x ≠ mark := by
  cases x with
  | str s =>
      obtain ⟨hname, hrest⟩ := not_or.mp h
      obtain ⟨htext, hplaceholder⟩ := not_or.mp hrest
      have hsensitive : ¬ (classifyValue T key (some s)).isSensitive = true := by
        rw [isSensitive_iff]
        exact not_or.mpr ⟨hname, htext⟩
      constructor
      · rw [redactMapping, if_neg hsensitive, unify, if_neg hplaceholder]
      · intro hmark
        rw [Json.str.inj hmark] at hplaceholder
        exact hplaceholder (by decide)
  | arr items => exact hleaf.elim
  | obj fields => exact hleaf.elim
  | null => exact ⟨rfl, nofun⟩
  | bool b => exact ⟨rfl, nofun⟩
  | num n => exact ⟨rfl, nofun⟩
  | real q => exact ⟨rfl, nofun⟩

/-- Leaves are told apart unless they are one, or both are hidden. -/
theorem unify_leaf_iff {key : String} {x y : Json} (hx : IsLeaf x) (hy : IsLeaf y) :
    unify (redactMapping T key x) = unify (redactMapping T key y) ↔
      x = y ∨ Hidden T key x ∧ Hidden T key y := by
  by_cases hhx : Hidden T key x
  · by_cases hhy : Hidden T key y
    · rw [unify_of_hidden hhx, unify_of_hidden hhy]
      exact ⟨fun _ => .inr ⟨hhx, hhy⟩, fun _ => rfl⟩
    · obtain ⟨hsame, hmark⟩ := unify_of_not_hidden hy hhy
      rw [unify_of_hidden hhx, hsame]
      constructor
      · exact fun h => absurd h.symm hmark
      · rintro (rfl | ⟨-, hhy'⟩)
        · exact absurd hhx hhy
        · exact absurd hhy' hhy
  · obtain ⟨hsame, hmark⟩ := unify_of_not_hidden hx hhx
    rw [hsame]
    by_cases hhy : Hidden T key y
    · rw [unify_of_hidden hhy]
      constructor
      · exact fun h => absurd h hmark
      · rintro (rfl | ⟨hhx', -⟩)
        · exact absurd hhy hhx
        · exact absurd hhx' hhx
    · rw [(unify_of_not_hidden hy hhy).1]
      constructor
      · exact .inl
      · rintro (h | ⟨hhx', -⟩)
        · exact h
        · exact absurd hhx' hhx

/-! ## Documents -/

variable {leaf : Bool → String → Json → Json → Prop} {below : Bool} {key : String}

/-- What is aligned with a leaf is a leaf. -/
theorem aligned_leaf_iff {x y : Json} (hx : IsLeaf x) :
    Aligned T leaf below key x y ↔ IsLeaf y ∧ leaf below key x y := by
  cases x with
  | arr items => exact hx.elim
  | obj fields => exact hx.elim
  | _ => cases y <;> simp [Aligned, IsLeaf]

/-- The leaf relation of the result. -/
def SameOrHidden (T : TextTables) (_ : Bool) (key : String) (x y : Json) : Prop :=
  x = y ∨ Hidden T key x ∧ Hidden T key y

theorem unify_aligned_leaf {x y : Json} (hx : IsLeaf x) (h : Aligned T leaf below key x y) :
    unify (redactMapping T key x) = unify (redactMapping T key y) ↔
      Aligned T (SameOrHidden T) below key x y := by
  obtain ⟨hy, -⟩ := (aligned_leaf_iff hx).mp h
  rw [unify_leaf_iff hx hy, aligned_leaf_iff hx]
  exact ⟨fun hsame => ⟨hy, hsame⟩, And.right⟩

mutual

/-- Documents of one shape are told apart by a leaf that differs and is not hidden. -/
theorem unify_iff : ∀ {below : Bool} {key : String} {x y : Json}, Aligned T leaf below key x y →
    (unify (redactMapping T key x) = unify (redactMapping T key y) ↔
      Aligned T (SameOrHidden T) below key x y)
  | below, key, .obj fields, y, h => by
      cases y with
      | obj fields' =>
          rw [redactMapping, redactMapping, unify, unify, Json.obj.injEq]
          exact unifyFields_iff h
      | _ => exact h.1.elim
  | below, key, .arr items, y, h => by
      cases y with
      | arr items' =>
          rw [redactMapping, redactMapping, unify, unify, Json.arr.injEq]
          exact unifyItems_iff h
      | _ => exact h.1.elim
  | _, _, .null, _, h => unify_aligned_leaf trivial h
  | _, _, .bool _, _, h => unify_aligned_leaf trivial h
  | _, _, .num _, _, h => unify_aligned_leaf trivial h
  | _, _, .real _, _, h => unify_aligned_leaf trivial h
  | _, _, .str _, _, h => unify_aligned_leaf trivial h

theorem unifyItems_iff : ∀ {below : Bool} {key : String} {xs ys : List Json},
    AlignedItems T leaf below key xs ys →
    (unifyItems (redactItems T key xs) = unifyItems (redactItems T key ys) ↔
      AlignedItems T (SameOrHidden T) below key xs ys)
  | _, _, [], [], _ => ⟨fun _ => trivial, fun _ => rfl⟩
  | below, key, x :: xs, y :: ys, h => by
      rw [redactItems, redactItems, unifyItems, unifyItems, List.cons.injEq]
      exact and_congr (unify_iff h.1) (unifyItems_iff h.2)

theorem unifyFields_iff : ∀ {below : Bool} {xs ys : List (String × Json)},
    AlignedFields T leaf below xs ys →
    (unifyFields (redactFields T xs) = unifyFields (redactFields T ys) ↔
      AlignedFields T (SameOrHidden T) below xs ys)
  | _, [], [], _ => ⟨fun _ => trivial, fun _ => rfl⟩
  | below, (key, x) :: xs, (key', y) :: ys, h => by
      obtain ⟨rfl, hx, hxs⟩ := h
      rw [redactFields, redactFields, unifyFields, unifyFields, List.cons.injEq, Prod.mk.injEq,
        AlignedFields, unify_iff hx, unifyFields_iff hxs]
      tauto

end

/-- Payloads that differ below sensitive names have one redaction, up to the placeholders, if and only
if both leaves are hidden wherever they differ. -/
theorem redaction_hides_iff (T : TextTables) (x y : List (String × Json))
    (h : DifferBelowSensitiveNames T (.obj x) (.obj y)) :
    unify (redactedActionPayload T x) = unify (redactedActionPayload T y) ↔
      HiddenWhereDifferent T (.obj x) (.obj y) :=
  unify_iff h

/-! ## Examples -/

/-- The tables of ASCII. -/
def asciiTables : TextTables where
  cases := asciiCases
  isWord c := c.isAlphanum || c = '_'
  isDigit c := c.isDigit
  isWord_of_isDigit c h := by simp [Char.isAlphanum, h]

theorem redaction_hides_iff_sample :
    let x := [("card_holder", .str "Alice"), ("text", .str "ok")]
    let y := [("card_holder", .str "Bob"), ("text", .str "ok")]
    unify (redactedActionPayload asciiTables x) = unify (redactedActionPayload asciiTables y) ↔
      HiddenWhereDifferent asciiTables (.obj x) (.obj y) := by
  intro x y
  have hname : (false || isSensitiveName asciiTables "card_holder") = true := by decide +kernel
  exact redaction_hides_iff asciiTables x y
    ⟨rfl, ⟨trivial, trivial, .inl hname⟩, rfl, ⟨trivial, trivial, .inr rfl⟩, trivial⟩

/-- A number below a sensitive name is kept, and so is a string with a key of its own. -/
theorem number_and_nested_text_kept :
    let paid (amount : Int) : List (String × Json) := [("amount", .num amount)]
    let held (holder : String) : List (String × Json) :=
      [("account", .obj [("holder", .str holder)])]
    (DifferBelowSensitiveNames asciiTables (.obj (paid 100)) (.obj (paid 200)) ∧
        unify (redactedActionPayload asciiTables (paid 100)) ≠
          unify (redactedActionPayload asciiTables (paid 200))) ∧
      DifferBelowSensitiveNames asciiTables (.obj (held "Alice")) (.obj (held "Bob")) ∧
        unify (redactedActionPayload asciiTables (held "Alice")) ≠
          unify (redactedActionPayload asciiTables (held "Bob")) := by
  intro paid held
  have hamount : (false || isSensitiveName asciiTables "amount") = true := by decide +kernel
  have haccount : (false || isSensitiveName asciiTables "account" ||
      isSensitiveName asciiTables "holder") = true := by decide +kernel
  exact ⟨⟨⟨rfl, ⟨trivial, trivial, .inl hamount⟩, trivial⟩, by decide +kernel⟩,
    ⟨rfl, ⟨rfl, ⟨trivial, trivial, .inl haccount⟩, trivial⟩, trivial⟩, by decide +kernel⟩

end Redaction

end AgentPact
