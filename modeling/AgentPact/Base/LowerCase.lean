import Mathlib.Data.List.Infix

/-!
# Lower case

`str.lower` over texts of Unicode characters, and which words a text in lower case
contains.

A character has its lower case wherever it stands, but for the capital sigma,
which has another at the end of a word.  `infix_lower_iff` says that this does not
matter for words without a sigma: they are found in a text in lower case if and
only if they are found in what the characters are one by one.  So they are found
again when the text goes on.
-/

namespace Base

/-! ## Characters -/

/-- `Σ`. -/
def capitalSigma : Char := Char.ofNat 0x3A3

/-- `σ`. -/
def smallSigma : Char := Char.ofNat 0x3C3

/-- `ς`. -/
def finalSigma : Char := Char.ofNat 0x3C2

/-- The tables of the characters. -/
structure CaseTable where
  /-- The lower case of a character. -/
  lowerChar : Char → List Char
  /-- Whether a character has a case. -/
  isCased : Char → Bool
  /-- Whether a character is passed over when the end of a word is looked for. -/
  isCaseIgnorable : Char → Bool
  /-- What is in lower case stays. -/
  lower_blank : lowerChar ' ' = [' ']
  lower_small : lowerChar smallSigma = [smallSigma]
  lower_final : lowerChar finalSigma = [finalSigma]

namespace CaseTable

variable (T : CaseTable)

/-- Whether the first character that is not passed over has a case. -/
def meetsCased (text : List Char) : Bool :=
  match text.dropWhile T.isCaseIgnorable with
  | c :: _ => T.isCased c
  | [] => false

/-- `handle_capital_sigma`, with the text before the sigma from right to left. -/
def lowerSigma (before after : List Char) : Char :=
  if T.meetsCased before && !T.meetsCased after then finalSigma else smallSigma

/-- The lower case of what follows a text. -/
def lowerFrom (before : List Char) : List Char → List Char
  | [] => []
  | c :: after =>
      (if c = capitalSigma then [T.lowerSigma before after] else T.lowerChar c) ++
        lowerFrom (c :: before) after

/-- `str.lower`. -/
def lower (text : String) : String := String.ofList (T.lowerFrom [] text.toList)

/-! ## Without the end of words -/

/-- A sigma at the end of a word as any other. -/
def plain (text : List Char) : List Char :=
  text.map fun c => if c = finalSigma then smallSigma else c

/-- The lower case of a character wherever it stands. -/
def plainLower (c : Char) : List Char :=
  if c = capitalSigma then [smallSigma] else plain (T.lowerChar c)

@[simp] theorem plain_append (s t : List Char) : plain (s ++ t) = plain s ++ plain t :=
  List.map_append

theorem plain_lowerSigma (before after : List Char) :
    plain [T.lowerSigma before after] = [smallSigma] := by
  unfold lowerSigma
  split <;> decide

theorem plain_lowerFrom (before text : List Char) :
    plain (T.lowerFrom before text) = text.flatMap T.plainLower := by
  induction text generalizing before with
  | nil => rfl
  | cons c after ih =>
      rw [lowerFrom, plain_append, ih, List.flatMap_cons]
      congr 1
      unfold plainLower
      split
      · exact T.plain_lowerSigma before after
      · rfl

theorem plainLower_blank : T.plainLower ' ' = [' '] := by
  rw [plainLower, if_neg (by decide), T.lower_blank]
  decide

/-- The lower case of a text does not depend on which sigmas it has. -/
theorem flatMap_plainLower_plain (text : List Char) :
    (plain text).flatMap T.plainLower = text.flatMap T.plainLower := by
  induction text with
  | nil => rfl
  | cons c text ih =>
      rw [plain, List.map_cons, List.flatMap_cons, List.flatMap_cons]
      refine congrArg₂ _ ?_ ih
      split
      case isTrue h =>
        subst h
        rw [plainLower, plainLower, if_neg (by decide), if_neg (by decide), T.lower_small,
          T.lower_final]
        decide
      case isFalse => rfl

/-! ## Words -/

/-- A word that is not empty and has neither a blank nor a sigma. -/
def IsWord (word : List Char) : Prop :=
  word ≠ [] ∧ ∀ c ∈ word, c ≠ ' ' ∧ c ≠ smallSigma ∧ c ≠ finalSigma

instance (word : List Char) : Decidable (IsWord word) :=
  decidable_of_iff ((word ≠ [] && word.all fun c => c ≠ ' ' && (c ≠ smallSigma && c ≠ finalSigma)) =
    true) (by simp [IsWord])

theorem plain_eq_self {word : List Char} (h : ∀ c ∈ word, c ≠ smallSigma ∧ c ≠ finalSigma) :
    plain word = word := by
  have hmap : plain word = word.map id := List.map_congr_left fun c hc => if_neg (h c hc).2
  rw [hmap, List.map_id]

theorem eq_of_plain_eq {text word : List Char}
    (hword : ∀ c ∈ word, c ≠ smallSigma ∧ c ≠ finalSigma) (h : plain text = word) :
    text = word := by
  subst h
  refine (plain_eq_self fun c hc => ?_).symm
  have hc' : (if c = finalSigma then smallSigma else c) ∈ plain text := List.mem_map_of_mem hc
  split at hc'
  case isTrue => exact absurd rfl (hword _ hc').1
  case isFalse => exact hword _ hc'

/-- A word without a sigma is in a text if and only if it is in the plain text. -/
theorem infix_plain_iff {word text : List Char} (h : IsWord word) :
    word <:+: plain text ↔ word <:+: text := by
  have hsigma : ∀ c ∈ word, c ≠ smallSigma ∧ c ≠ finalSigma := fun c hc => (h.2 c hc).2
  constructor
  · intro hinfix
    obtain ⟨part, hpart, hplain⟩ := List.infix_map_iff.mp hinfix
    rw [eq_of_plain_eq hsigma hplain.symm] at hpart
    exact hpart
  · rintro ⟨s, t, rfl⟩
    exact ⟨plain s, plain t, by rw [plain_append, plain_append, plain_eq_self hsigma]⟩

theorem infix_lowerFrom_iff {word : List Char} (h : IsWord word) (before text : List Char) :
    word <:+: T.lowerFrom before text ↔ word <:+: text.flatMap T.plainLower := by
  rw [← infix_plain_iff h, plain_lowerFrom]

/-- A word is in a text in lower case if and only if it is in the lower cases of the characters. -/
theorem infix_lower_iff {word : List Char} (h : IsWord word) (text : String) :
    word <:+: (T.lower text).toList ↔ word <:+: text.toList.flatMap T.plainLower := by
  rw [lower, String.toList_ofList, T.infix_lowerFrom_iff h]

/-- What is in lower case is put in lower case again. -/
theorem infix_lower_lower_iff {word : List Char} (h : IsWord word) (text : String) :
    word <:+: (T.lower (T.lower text)).toList ↔
      word <:+: (text.toList.flatMap T.plainLower).flatMap T.plainLower := by
  rw [T.infix_lower_iff h, lower, String.toList_ofList, ← T.flatMap_plainLower_plain,
    plain_lowerFrom]

end CaseTable

/-! ## Texts with blanks between them -/

theorem blank_mem_of_isPrefix {word t : List Char} (hne : word ≠ []) (h : word <+: ' ' :: t) :
    ' ' ∈ word := by
  cases word with
  | nil => exact absurd rfl hne
  | cons c word =>
      obtain ⟨rest, hrest⟩ := h
      rw [(List.cons.inj hrest).1]
      exact List.mem_cons_self ..

/-- A word is in one of two texts with a blank between them. -/
theorem infix_blank_iff {word s t : List Char} (hne : word ≠ []) (h : ' ' ∉ word) :
    word <:+: s ++ ' ' :: t ↔ word <:+: s ∨ word <:+: t := by
  rw [List.infix_append_iff_ne_nil]
  constructor
  · rintro (hs | ht | ⟨l₁, l₂, -, hne₂, rfl, -, hl₂⟩)
    · exact .inl hs
    · rcases List.infix_cons_iff.mp ht with hstart | ht
      · exact absurd (blank_mem_of_isPrefix hne hstart) h
      · exact .inr ht
    · exact absurd (List.mem_append_right l₁ (blank_mem_of_isPrefix hne₂ hl₂)) h
  · rintro (hs | ht)
    · exact .inl hs
    · exact .inr (.inl (List.infix_cons ht))

/-- A word is in a text with blanks between its parts if and only if it is in one of the parts. -/
theorem infix_intercalate_iff {word : List Char} (hne : word ≠ []) (h : ' ' ∉ word)
    (parts : List (List Char)) :
    word <:+: [' '].intercalate parts ↔ ∃ part ∈ parts, word <:+: part := by
  induction parts with
  | nil =>
      constructor
      · intro hinfix
        exact absurd (List.infix_nil.mp hinfix) hne
      · rintro ⟨part, hpart, -⟩
        cases hpart
  | cons part parts ih =>
      cases parts with
      | nil => simp [List.intercalate]
      | cons next parts =>
          rw [List.exists_mem_cons_iff, ← ih, ← infix_blank_iff hne h]
          rfl

/-- The table of the ASCII letters. -/
def asciiCases : CaseTable where
  lowerChar c := [c.toLower]
  isCased c := c.isAlpha
  isCaseIgnorable _ := false
  lower_blank := by decide
  lower_small := by decide
  lower_final := by decide

end Base
