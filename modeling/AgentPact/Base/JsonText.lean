import Mathlib.Data.List.Chain
import Mathlib.Data.List.TakeWhile

/-!
# JSON as text

The reader and the writer of the `json` module, over texts of Unicode characters.

Strings are sequences of code points that may contain surrogates, as a `\u` escape
can stand for one.  The reader joins a high surrogate with a low one that follows
it, so a `Text` has no such pair, and the writer splits what lies above the basic
plane.  `scanString_writeString` is the round trip.

The reader enters a container only as deep as `Limits` allow, and takes integers of
a limited number of digits.  It recurses with a fuel.  `scan_finishes` says that a
fuel above the length of the text is enough, and `loads_writeObject` that an object
of strings is read back.
-/

namespace Base

namespace JsonText

/-! ## Bytes -/

/-- The bytes of a text in UTF-8. -/
def utf8Encode (text : List Char) : List Nat :=
  (text.flatMap String.utf8EncodeChar).map UInt8.toNat

/-- The text of some bytes in UTF-8. -/
def utf8Decode (bytes : List Nat) : Option (List Char) :=
  (bytes.map UInt8.ofNat).toByteArray.utf8Decode?.map Array.toList

theorem utf8Encode_lt (text : List Char) : ∀ b ∈ utf8Encode text, b < 256 := by
  intro b hb
  obtain ⟨u, -, rfl⟩ := List.mem_map.mp hb
  exact u.toNat_lt

/-- A text that is encoded is decoded. -/
theorem utf8Decode_utf8Encode (text : List Char) : utf8Decode (utf8Encode text) = some text := by
  have hbytes : (utf8Encode text).map UInt8.ofNat = text.flatMap String.utf8EncodeChar := by
    unfold utf8Encode
    rw [List.map_map]
    refine List.map_id'' (fun u => ?_) _
    exact UInt8.ofNat_toNat
  unfold utf8Decode
  rw [hbytes]
  show text.utf8Encode.utf8Decode?.map Array.toList = _
  rw [List.utf8Decode?_utf8Encode]
  rfl

/-! ## Surrogates -/

/-- A high surrogate. -/
def IsHigh (u : Nat) : Prop := 0xD800 ≤ u ∧ u ≤ 0xDBFF

/-- A low surrogate. -/
def IsLow (u : Nat) : Prop := 0xDC00 ≤ u ∧ u ≤ 0xDFFF

instance (u : Nat) : Decidable (IsHigh u) := inferInstanceAs (Decidable (_ ∧ _))

instance (u : Nat) : Decidable (IsLow u) := inferInstanceAs (Decidable (_ ∧ _))

/-- Join the surrogates that follow each other. -/
def join : List Nat → List Nat
  | [] => []
  | [a] => [a]
  | a :: b :: units =>
      if IsHigh a ∧ IsLow b then
        (0x10000 + (a - 0xD800) * 1024 + (b - 0xDC00)) :: join units
      else a :: join (b :: units)

/-- The units of a code point. -/
def unitsOf (u : Nat) : List Nat :=
  if u < 0x10000 then [u]
  else [0xD800 + (u - 0x10000) / 1024, 0xDC00 + (u - 0x10000) % 1024]

/-- Split the code points above the basic plane. -/
def split (s : List Nat) : List Nat := s.flatMap unitsOf

/-- Code points, none of them a low surrogate after a high one. -/
structure Joined (s : List Nat) : Prop where
  chain : s.IsChain fun a b => ¬ (IsHigh a ∧ IsLow b)
  lt : ∀ u ∈ s, u < 0x110000

/-- The strings a reader returns. -/
abbrev Text : Type := { s : List Nat // Joined s }

theorem toNat_lt (c : Char) : c.toNat < 0x110000 := by
  have h := c.valid
  rcases h with h | h
  · exact Nat.lt_trans h (by decide)
  · exact h.2

/-- Characters are no surrogates. -/
theorem joined_toNat (text : List Char) : Joined (text.map Char.toNat) := by
  have hnot : ∀ c : Char, ¬ IsHigh c.toNat := by
    intro c hhigh
    have hvalid := c.valid
    unfold IsHigh at hhigh
    simp only [UInt32.isValidChar, Nat.isValidChar] at hvalid
    change c.val.toNat < _ ∨ _ at hvalid
    change _ ≤ c.val.toNat ∧ c.val.toNat ≤ _ at hhigh
    omega
  constructor
  · rw [List.isChain_map]
    refine List.Pairwise.isChain (List.pairwise_of_forall ?_)
    intro a b hbad
    exact hnot a hbad.1
  · intro u hu
    obtain ⟨c, -, rfl⟩ := List.mem_map.mp hu
    exact toNat_lt c

/-- Code points below the surrogates. -/
theorem joined_of_lt {s : List Nat} (h : ∀ u ∈ s, u < 0xD800) : Joined s := by
  constructor
  · refine List.Pairwise.isChain (List.pairwise_iff_forall_sublist.mpr ?_)
    intro a b hsub hbad
    exact Nat.not_le_of_lt (h a (hsub.mem (List.mem_cons_self ..))) hbad.1.1
  · intro u hu
    exact Nat.lt_trans (h u hu) (by decide)

theorem head_join {b : Nat} {units : List Nat} {u : Nat}
    (h : u ∈ (join (b :: units)).head?) : u = b ∨ 0x10000 ≤ u := by
  cases units with
  | nil =>
      simp only [join, List.head?_cons, Option.mem_def, Option.some.injEq] at h
      exact Or.inl h.symm
  | cons c units =>
      unfold join at h
      split at h
      · simp only [List.head?_cons, Option.mem_def, Option.some.injEq] at h
        right
        omega
      · simp only [List.head?_cons, Option.mem_def, Option.some.injEq] at h
        exact Or.inl h.symm

theorem joined_join {units : List Nat} (h : ∀ u ∈ units, u < 0x110000) : Joined (join units) := by
  fun_induction join units with
  | case1 => exact ⟨.nil, by simp⟩
  | case2 a => exact ⟨.singleton a, h⟩
  | case3 a b units hpair ih =>
      have hrest := ih fun u hu => h u (List.mem_cons_of_mem _ (List.mem_cons_of_mem _ hu))
      unfold IsHigh IsLow at hpair
      constructor
      · refine hrest.chain.cons fun u _ hbad => ?_
        have := hbad.1.2
        omega
      · intro u hu
        rcases List.mem_cons.mp hu with heq | hu
        · omega
        · exact hrest.lt u hu
  | case4 a b units hpair ih =>
      have hrest := ih fun u hu => h u (List.mem_cons_of_mem _ hu)
      constructor
      · refine hrest.chain.cons fun u hu hbad => ?_
        rcases head_join hu with rfl | hbig
        · exact hpair hbad
        · have := hbad.2.2
          omega
      · intro u hu
        rcases List.mem_cons.mp hu with rfl | hu
        · exact h u (List.mem_cons_self ..)
        · exact hrest.lt u hu

/-- What is split is joined again. -/
theorem join_split {s : List Nat} (h : Joined s) : join (split s) = s := by
  obtain ⟨hchain, hlt⟩ := h
  induction s with
  | nil => rfl
  | cons u s ih =>
      have hrest := ih hchain.tail fun v hv => hlt v (List.mem_cons_of_mem _ hv)
      have hu := hlt u (List.mem_cons_self ..)
      show join (unitsOf u ++ split s) = u :: s
      unfold unitsOf
      split
      case isTrue hsmall =>
        cases s with
        | nil => rfl
        | cons v s =>
            have hnot : ¬ (IsHigh u ∧ IsLow v) := by
              rw [List.isChain_cons_cons] at hchain
              exact hchain.1
            have hsplit : ∃ w units, split (v :: s) = w :: units ∧ ¬ (IsHigh u ∧ IsLow w) := by
              show ∃ w units, unitsOf v ++ split s = w :: units ∧ ¬ (IsHigh u ∧ IsLow w)
              unfold unitsOf
              split
              · exact ⟨v, split s, rfl, hnot⟩
              · refine ⟨_, _, rfl, fun hbad => ?_⟩
                have := hlt v (by simp)
                have := hbad.2.1
                omega
            obtain ⟨w, units, hsplit, hnot⟩ := hsplit
            rw [hsplit] at hrest ⊢
            rw [List.singleton_append, join, if_neg hnot, hrest]
      case isFalse hbig =>
        have hpair : IsHigh (0xD800 + (u - 0x10000) / 1024) ∧
            IsLow (0xDC00 + (u - 0x10000) % 1024) := by
          unfold IsHigh IsLow
          omega
        rw [List.cons_append, List.singleton_append, join, if_pos hpair, hrest]
        refine congrArg (· :: s) ?_
        omega

theorem split_lt {s : List Nat} (h : Joined s) : ∀ u ∈ split s, u < 0x10000 := by
  intro u hu
  obtain ⟨v, hv, hu⟩ := List.mem_flatMap.mp hu
  have := h.lt v hv
  unfold unitsOf at hu
  split at hu
  · rw [List.mem_singleton] at hu
    omega
  · simp only [List.mem_cons, List.not_mem_nil, or_false] at hu
    omega

/-! ## Strings -/

/-- The quotation mark. -/
def quote : Char := Char.ofNat 34

/-- The backslash. -/
def backslash : Char := Char.ofNat 92

/-- A hexadecimal digit. -/
def hexDigit (n : Nat) : Char := Char.ofNat (if n < 10 then 48 + n else 87 + n)

/-- The value of a hexadecimal digit. -/
def hexValue (c : Char) : Option Nat :=
  if 48 ≤ c.toNat ∧ c.toNat ≤ 57 then some (c.toNat - 48)
  else if 97 ≤ c.toNat ∧ c.toNat ≤ 102 then some (c.toNat - 87)
  else if 65 ≤ c.toNat ∧ c.toNat ≤ 70 then some (c.toNat - 55)
  else none

/-- The unit of four digits. -/
def hex4 (a b c d : Char) : Option Nat := do
  return (((← hexValue a) * 16 + (← hexValue b)) * 16 + (← hexValue c)) * 16 + (← hexValue d)

/-- The escapes of one character. -/
def escapes : List (Nat × Char) :=
  [(34, quote), (92, backslash), (47, '/'), (8, 'b'), (12, 'f'), (10, 'n'), (13, 'r'), (9, 't')]

/-- The units of a string up to its quotation mark. -/
def scanUnits : List Char → Option (List Nat × List Char)
  | [] => none
  | c :: text =>
      if c = quote then some ([], text)
      else if c = backslash then
        match text with
        | [] => none
        | e :: text =>
            if e = 'u' then
              match text with
              | a :: b :: c :: d :: text => do
                  let unit ← hex4 a b c d
                  (scanUnits text).map fun r => (unit :: r.1, r.2)
              | _ => none
            else do
              let escape ← escapes.find? (·.2 = e)
              (scanUnits text).map fun r => (escape.1 :: r.1, r.2)
      else if c.toNat < 32 then none
      else (scanUnits text).map fun r => (c.toNat :: r.1, r.2)

theorem hexValue_lt {c : Char} {n : Nat} (h : hexValue c = some n) : n < 16 := by
  unfold hexValue at h
  split_ifs at h <;> simp only [Option.some.injEq] at h <;> omega

theorem hex4_lt {a b c d : Char} {n : Nat} (h : hex4 a b c d = some n) : n < 0x10000 := by
  unfold hex4 at h
  obtain ⟨v₁, h₁, h⟩ := Option.bind_eq_some_iff.mp h
  obtain ⟨v₂, h₂, h⟩ := Option.bind_eq_some_iff.mp h
  obtain ⟨v₃, h₃, h⟩ := Option.bind_eq_some_iff.mp h
  obtain ⟨v₄, h₄, h⟩ := Option.bind_eq_some_iff.mp h
  have := hexValue_lt h₁
  have := hexValue_lt h₂
  have := hexValue_lt h₃
  have := hexValue_lt h₄
  cases h
  omega

/-- The units are code points, and what is left is shorter. -/
theorem scanUnits_spec {text : List Char} {r : List Nat × List Char} (h : scanUnits text = some r) :
    (∀ u ∈ r.1, u < 0x110000) ∧ r.2.length < text.length := by
  fun_induction scanUnits text generalizing r with
  | case1 => cases h
  | case2 text =>
      cases h
      exact ⟨by simp, Nat.lt_succ_self _⟩
  | case3 => cases h
  | case4 a b c d text _ ih =>
      obtain ⟨unit, hunit, h⟩ := Option.bind_eq_some_iff.mp h
      obtain ⟨r, hr, rfl⟩ := Option.map_eq_some_iff.mp h
      obtain ⟨hall, hlength⟩ := ih hr
      refine ⟨List.forall_mem_cons.mpr ⟨?_, hall⟩, ?_⟩
      · have := hex4_lt hunit
        omega
      · simp only [List.length_cons]
        omega
  | case5 => cases h
  | case6 e text _ _ ih =>
      obtain ⟨escape, hescape, h⟩ := Option.bind_eq_some_iff.mp h
      obtain ⟨r, hr, rfl⟩ := Option.map_eq_some_iff.mp h
      obtain ⟨hall, hlength⟩ := ih hr
      have hescapes : ∀ p ∈ escapes, p.1 < 0x110000 := by decide
      refine ⟨List.forall_mem_cons.mpr ⟨hescapes escape (List.mem_of_find?_eq_some hescape), hall⟩, ?_⟩
      simp only [List.length_cons]
      omega
  | case7 => cases h
  | case8 c text _ _ _ ih =>
      obtain ⟨r, hr, rfl⟩ := Option.map_eq_some_iff.mp h
      obtain ⟨hall, hlength⟩ := ih hr
      exact ⟨List.forall_mem_cons.mpr ⟨toNat_lt c, hall⟩, Nat.lt_succ_of_lt hlength⟩

/-- `scanstring`, after the quotation mark. -/
def scanString (text : List Char) : Option (Text × List Char) :=
  match h : scanUnits text with
  | none => none
  | some (units, rest) => some (⟨join units, joined_join (scanUnits_spec h).1⟩, rest)

theorem scanString_eq {text : List Char} {s : Text} {rest : List Char} {units : List Nat}
    (h : scanUnits text = some (units, rest)) (hs : join units = s.1) :
    scanString text = some (s, rest) := by
  unfold scanString
  split
  case h_1 hnone => rw [h] at hnone; cases hnone
  case h_2 units' rest' hsome =>
    rw [h] at hsome
    cases hsome
    exact congrArg some (congrArg (·, rest) (Subtype.ext hs))

theorem scanString_length {text : List Char} {r : Text × List Char} (h : scanString text = some r) :
    r.2.length < text.length := by
  unfold scanString at h
  split at h
  case h_1 => cases h
  case h_2 units rest hsome =>
    cases h
    exact (scanUnits_spec hsome).2

/-- A unit as `ensure_ascii` writes it. -/
def escapeUnit (u : Nat) : List Char :=
  if u = 34 then [backslash, quote]
  else if u = 92 then [backslash, backslash]
  else if 32 ≤ u ∧ u ≤ 126 then [Char.ofNat u]
  else if u = 8 then [backslash, 'b']
  else if u = 12 then [backslash, 'f']
  else if u = 10 then [backslash, 'n']
  else if u = 13 then [backslash, 'r']
  else if u = 9 then [backslash, 't']
  else [backslash, 'u', hexDigit (u / 4096), hexDigit (u / 256 % 16), hexDigit (u / 16 % 16),
    hexDigit (u % 16)]

/-- `py_encode_basestring_ascii`. -/
def writeString (s : List Nat) : List Char :=
  quote :: ((split s).flatMap escapeUnit ++ [quote])

theorem hexValue_hexDigit {n : Nat} (h : n < 16) : hexValue (hexDigit n) = some n := by
  have hall : ∀ n : Fin 16, hexValue (hexDigit n) = some n.val := by decide
  exact hall ⟨n, h⟩

theorem hex4_hexDigit {u : Nat} (h : u < 0x10000) :
    hex4 (hexDigit (u / 4096)) (hexDigit (u / 256 % 16)) (hexDigit (u / 16 % 16))
      (hexDigit (u % 16)) = some u := by
  unfold hex4
  rw [hexValue_hexDigit (by omega), hexValue_hexDigit (by omega), hexValue_hexDigit (by omega),
    hexValue_hexDigit (by omega)]
  refine congrArg some ?_
  show ((u / 4096 * 16 + u / 256 % 16) * 16 + u / 16 % 16) * 16 + u % 16 = u
  omega

/-- The characters that stand for themselves. -/
theorem ofNat_printable {u : Nat} (hlow : 32 ≤ u) (hhigh : u ≤ 126) (hquote : u ≠ 34)
    (hbackslash : u ≠ 92) :
    (Char.ofNat u).toNat = u ∧ Char.ofNat u ≠ quote ∧ Char.ofNat u ≠ backslash := by
  have hall : ∀ u : Fin 127, 32 ≤ u.val → u.val ≠ 34 → u.val ≠ 92 →
      (Char.ofNat u).toNat = u ∧ Char.ofNat u ≠ quote ∧ Char.ofNat u ≠ backslash := by
    decide
  exact hall ⟨u, Nat.lt_succ_of_le hhigh⟩ hlow hquote hbackslash

/-- A unit that is written is read back. -/
theorem scanUnits_escapeUnit {u : Nat} (h : u < 0x10000) (text : List Char) :
    scanUnits (escapeUnit u ++ text) = (scanUnits text).map fun r => (u :: r.1, r.2) := by
  have hnot : ¬ backslash = quote := by decide
  have hnotU : ∀ p ∈ escapes, p.2 ≠ 'u' := by decide
  have hshort : ∀ p ∈ escapes, escapes.find? (·.2 = p.2) = some p → p.1 = u →
      scanUnits ([backslash, p.2] ++ text) = (scanUnits text).map fun r => (u :: r.1, r.2) := by
    intro p hp hfind hu
    simp only [List.cons_append, List.nil_append]
    rw [scanUnits.eq_def]
    simp only [if_neg hnot, if_true, if_neg (hnotU p hp), hfind, Option.bind_eq_bind,
      Option.bind_some, hu]
  unfold escapeUnit
  split_ifs with h₁ h₂ h₃ h₄ h₅ h₆ h₇ h₈
  · exact hshort (34, quote) (by decide) (by decide) h₁.symm
  · exact hshort (92, backslash) (by decide) (by decide) h₂.symm
  · obtain ⟨hvalue, hquote, hbackslash⟩ := ofNat_printable h₃.1 h₃.2 h₁ h₂
    rw [List.singleton_append, scanUnits.eq_def]
    simp only [if_neg hquote, if_neg hbackslash, hvalue]
    rw [if_neg (by omega)]
  · exact hshort (8, 'b') (by decide) (by decide) h₄.symm
  · exact hshort (12, 'f') (by decide) (by decide) h₅.symm
  · exact hshort (10, 'n') (by decide) (by decide) h₆.symm
  · exact hshort (13, 'r') (by decide) (by decide) h₇.symm
  · exact hshort (9, 't') (by decide) (by decide) h₈.symm
  · simp only [List.cons_append, List.nil_append]
    rw [scanUnits.eq_def]
    simp only [if_neg hnot, if_true, hex4_hexDigit h, Option.bind_eq_bind, Option.bind_some]

/-- A string that is written is read back. -/
theorem scanString_writeString (s : Text) (text : List Char) :
    scanString ((split s.1).flatMap escapeUnit ++ (quote :: text)) = some (s, text) := by
  have hunits : ∀ units : List Nat, (∀ u ∈ units, u < 0x10000) →
      scanUnits (units.flatMap escapeUnit ++ (quote :: text)) = some (units, text) := by
    intro units hlt
    induction units with
    | nil =>
        rw [List.flatMap_nil, List.nil_append, scanUnits.eq_def]
        rfl
    | cons u units ih =>
        rw [List.forall_mem_cons] at hlt
        rw [List.flatMap_cons, List.append_assoc, scanUnits_escapeUnit hlt.1, ih hlt.2]
        rfl
  exact scanString_eq (hunits _ (split_lt s.2)) (join_split s.2)

/-! ## Values -/

/-- A value of a document.  Of a number that is no integer there is the literal. -/
inductive Json where
  | null
  | bool (value : Bool)
  | int (value : Int)
  | float (literal : List Char)
  | str (value : Text)
  | array (elements : List Json)
  | object (members : List (Text × Json))

/-- White space. -/
def isSpace (c : Char) : Bool := c.toNat ∈ [32, 9, 10, 13]

/-- Skip the white space. -/
def skipSpace (text : List Char) : List Char := text.dropWhile isSpace

theorem skipSpace_length (text : List Char) : (skipSpace text).length ≤ text.length :=
  (List.dropWhile_suffix isSpace).length_le

theorem skipSpace_cons {c : Char} (h : isSpace c = false) (text : List Char) :
    skipSpace (c :: text) = c :: text :=
  List.dropWhile_cons_of_neg (by rw [h]; exact Bool.false_ne_true)

/-- The words. -/
def literals : List (List Char × Json) :=
  [(['n', 'u', 'l', 'l'], .null),
    (['t', 'r', 'u', 'e'], .bool true),
    (['f', 'a', 'l', 's', 'e'], .bool false),
    (['N', 'a', 'N'], .float ['N', 'a', 'N']),
    (['I', 'n', 'f', 'i', 'n', 'i', 't', 'y'], .float ['I', 'n', 'f', 'i', 'n', 'i', 't', 'y']),
    (['-', 'I', 'n', 'f', 'i', 'n', 'i', 't', 'y'],
      .float ['-', 'I', 'n', 'f', 'i', 'n', 'i', 't', 'y'])]

/-- The digits at the beginning. -/
def digitsAt (text : List Char) : List Char := text.takeWhile Char.isDigit

/-- The digits of an integer at the beginning: no zero before another digit. -/
def wholeAt : List Char → List Char
  | [] => []
  | c :: text => if c = '0' then ['0'] else digitsAt (c :: text)

/-- The fraction at the beginning. -/
def fractionAt : List Char → List Char
  | [] => []
  | c :: text => if c = '.' ∧ digitsAt text ≠ [] then '.' :: digitsAt text else []

/-- The exponent at the beginning. -/
def exponentAt : List Char → List Char
  | [] => []
  | c :: text =>
      let sign := (text.take 1).filter fun c => c = '+' || c = '-'
      let digits := digitsAt (text.drop sign.length)
      if (c = 'e' ∨ c = 'E') ∧ digits ≠ [] then c :: (sign ++ digits) else []

/-- `_match_number_unicode`. -/
def scanNumber (intDigits : Nat) (text : List Char) : Option (Json × List Char) :=
  let sign := (text.take 1).filter (· = '-')
  let whole := wholeAt (text.drop sign.length)
  let rest := text.drop (sign.length + whole.length)
  let fraction := fractionAt rest
  let exponent := exponentAt (rest.drop fraction.length)
  if whole = [] then none
  else if fraction = [] ∧ exponent = [] then
    if intDigits ≠ 0 ∧ intDigits < whole.length then none
    else
      let value : Nat := whole.foldl (fun n c => n * 10 + (c.toNat - 48)) 0
      some (.int (if sign = [] then (value : Int) else -(value : Int)), rest)
  else
    some (.float (sign ++ whole ++ fraction ++ exponent),
      rest.drop (fraction.length + exponent.length))

/-- A word or a number. -/
def scanAtom (intDigits : Nat) (text : List Char) : Option (Json × List Char) :=
  match literals.find? fun word => word.1.isPrefixOf text with
  | some (word, value) => some (value, text.drop word.length)
  | none => scanNumber intDigits text

/-! ## Documents -/

/-- A container that is open: what it has so far, and the key of the next member. -/
inductive Frame where
  | array (elements : List Json)
  | object (members : List (Text × Json)) (key : Text)

/-- After a value: the document ends, or another value is expected. -/
inductive Outcome where
  | done (value : Json) (rest : List Char)
  | more (stack : List Frame) (text : List Char)

/-- A key and the colon after it. -/
def readKey : List Char → Option (Text × List Char)
  | [] => none
  | c :: text =>
      if c = quote then
        (scanString text).bind fun r =>
          match skipSpace r.2 with
          | [] => none
          | c :: text => if c = ':' then some (r.1, skipSpace text) else none
      else none

/-- A value is complete. -/
def complete : List Frame → Json → List Char → Option Outcome
  | [], value, text => some (.done value text)
  | .array elements :: stack, value, text =>
      match skipSpace text with
      | [] => none
      | c :: text =>
          if c = ']' then complete stack (.array (elements ++ [value])) text
          else if c = ',' then some (.more (.array (elements ++ [value]) :: stack) (skipSpace text))
          else none
  | .object members key :: stack, value, text =>
      match skipSpace text with
      | [] => none
      | c :: text =>
          if c = '}' then complete stack (.object (members ++ [(key, value)])) text
          else if c = ',' then
            (readKey (skipSpace text)).map fun r =>
              .more (.object (members ++ [(key, value)]) r.1 :: stack) r.2
          else none

/-- Whether a container begins. -/
def opens : List Char → Bool
  | [] => false
  | c :: _ => c = '[' || c = '{'

/-- `scan_once`, as far as the next value. -/
def next (intDigits : Nat) (stack : List Frame) : List Char → Option Outcome
  | [] => none
  | c :: text =>
      if c = quote then (scanString text).bind fun r => complete stack (.str r.1) r.2
      else if c = '[' then
        if (skipSpace text).head? = some ']' then
          complete stack (.array []) (skipSpace text).tail
        else some (.more (.array [] :: stack) (skipSpace text))
      else if c = '{' then
        if (skipSpace text).head? = some '}' then
          complete stack (.object []) (skipSpace text).tail
        else (readKey (skipSpace text)).map fun r => .more (.object [] r.1 :: stack) r.2
      else (scanAtom intDigits (c :: text)).bind fun r => complete stack r.1 r.2

/-- What the interpreter allows: containers that are open at once, and digits of an integer, where
0 is no limit. -/
structure Limits where
  nesting : Nat
  intDigits : Nat

/-- Why a text is not read. -/
inductive Fault where
  | invalid
  | tooDeep
  | unfinished
deriving DecidableEq

/-- `scan_once`. -/
def scan (l : Limits) : Nat → List Frame → List Char → Except Fault (Json × List Char)
  | 0, _, _ => .error .unfinished
  | fuel + 1, stack, text =>
      if opens text = true ∧ l.nesting ≤ stack.length then .error .tooDeep
      else
        match next l.intDigits stack text with
        | none => .error .invalid
        | some (.done value rest) => .ok (value, rest)
        | some (.more stack text) => scan l fuel stack text

/-- The byte order mark. -/
def byteOrderMark : Char := Char.ofNat 0xFEFF

/-- `json.loads`. -/
def loads (l : Limits) (text : List Char) : Except Fault Json :=
  if text.head? = some byteOrderMark then .error .invalid
  else
    match scan l (text.length + 1) [] (skipSpace text) with
    | .error fault => .error fault
    | .ok (value, rest) => if skipSpace rest = [] then .ok value else .error .invalid

/-! ## Reading comes to an end -/

theorem readKey_length {text : List Char} {r : Text × List Char} (h : readKey text = some r) :
    r.2.length < text.length := by
  unfold readKey at h
  split at h
  · cases h
  · split at h
    · obtain ⟨s, hs, h⟩ := Option.bind_eq_some_iff.mp h
      have hstring := scanString_length hs
      have hskip := skipSpace_length s.2
      split at h
      · cases h
      · rename_i c text' heq
        split at h
        · cases h
          have := skipSpace_length text'
          rw [heq, List.length_cons] at hskip
          simp only [List.length_cons]
          omega
        · cases h
    · cases h

/-- What is left after a value. -/
def Outcome.rest : Outcome → List Char
  | .done _ rest => rest
  | .more _ text => text

theorem complete_length {stack : List Frame} {value : Json} {text : List Char} {o : Outcome}
    (h : complete stack value text = some o) : o.rest.length ≤ text.length := by
  induction stack generalizing value text with
  | nil =>
      cases h
      exact Nat.le_refl _
  | cons frame stack ih =>
      have hskip := skipSpace_length text
      cases frame with
      | array elements =>
          unfold complete at h
          split at h
          · cases h
          · rename_i c text' heq
            rw [heq, List.length_cons] at hskip
            split at h
            · have := ih h
              omega
            · split at h
              · cases h
                have := skipSpace_length text'
                show (skipSpace text').length ≤ _
                omega
              · cases h
      | object members key =>
          unfold complete at h
          split at h
          · cases h
          · rename_i c text' heq
            rw [heq, List.length_cons] at hskip
            split at h
            · have := ih h
              omega
            · split at h
              · obtain ⟨r, hr, rfl⟩ := Option.map_eq_some_iff.mp h
                have := readKey_length hr
                have := skipSpace_length text'
                show r.2.length ≤ _
                omega
              · cases h

theorem scanNumber_length {intDigits : Nat} {text : List Char} {r : Json × List Char}
    (h : scanNumber intDigits text = some r) : r.2.length < text.length := by
  have hwhole : ∀ text : List Char, (wholeAt text).length ≤ text.length := by
    intro text
    cases text with
    | nil => exact Nat.le_refl _
    | cons c text =>
        rw [wholeAt]
        split
        · simp
        · exact (List.takeWhile_prefix Char.isDigit).length_le
  unfold scanNumber at h
  dsimp only at h
  have hlength := hwhole (text.drop ((text.take 1).filter (· = '-')).length)
  rw [List.length_drop] at hlength
  split at h
  case isTrue => cases h
  case isFalse hne =>
    have hpos := List.length_pos_iff.mpr hne
    split at h
    · split at h
      · cases h
      · cases h
        rw [List.length_drop]
        omega
    · cases h
      rw [List.length_drop, List.length_drop]
      omega

theorem scanAtom_length {intDigits : Nat} {text : List Char} {r : Json × List Char}
    (h : scanAtom intDigits text = some r) : r.2.length < text.length := by
  unfold scanAtom at h
  split at h
  case h_1 word value hfind =>
    cases h
    have hword := List.mem_of_find?_eq_some hfind
    have hpos : ∀ word ∈ literals, 0 < word.1.length := by
      simp [literals]
    have hfound : word.isPrefixOf text = true := by
      have := List.find?_some hfind
      exact this
    have hprefix := (List.isPrefixOf_iff_prefix.mp hfound).length_le
    have := hpos _ hword
    dsimp only at this ⊢
    rw [List.length_drop]
    omega
  case h_2 => exact scanNumber_length h

/-- A value takes a character at least. -/
theorem next_length {intDigits : Nat} {stack : List Frame} {text : List Char} {o : Outcome}
    (h : next intDigits stack text = some o) : o.rest.length < text.length := by
  cases text with
  | nil => cases h
  | cons c text =>
      have hskip := skipSpace_length text
      have htail : (skipSpace text).tail.length ≤ text.length :=
        Nat.le_trans (by simp) hskip
      rw [List.length_cons]
      rw [next] at h
      split_ifs at h
      · obtain ⟨r, hr, h⟩ := Option.bind_eq_some_iff.mp h
        have := scanString_length hr
        have := complete_length h
        omega
      · have := complete_length h
        omega
      · cases h
        show (skipSpace text).length < _
        omega
      · have := complete_length h
        omega
      · obtain ⟨r, hr, rfl⟩ := Option.map_eq_some_iff.mp h
        have := readKey_length hr
        show r.2.length < _
        omega
      · obtain ⟨r, hr, h⟩ := Option.bind_eq_some_iff.mp h
        have := scanAtom_length hr
        have := complete_length h
        rw [List.length_cons] at *
        omega

/-- A fuel above the length of the text is enough. -/
theorem scan_finishes (l : Limits) {fuel : Nat} {stack : List Frame} {text : List Char}
    (h : text.length < fuel) : scan l fuel stack text ≠ .error .unfinished := by
  induction fuel generalizing stack text with
  | zero => exact absurd h (Nat.not_lt_zero _)
  | succ fuel ih =>
      unfold scan
      split
      · intro hbad
        cases hbad
      · split
        · intro hbad
          cases hbad
        · intro hbad
          cases hbad
        · rename_i stack' text' hnext
          have hshorter : text'.length < text.length := next_length hnext
          exact ih (by omega)

theorem loads_finishes (l : Limits) (text : List Char) : loads l text ≠ .error .unfinished := by
  have hscan : scan l (text.length + 1) [] (skipSpace text) ≠ .error .unfinished :=
    scan_finishes l (Nat.lt_succ_of_le (skipSpace_length text))
  unfold loads
  split
  · intro hbad
    cases hbad
  · split
    · rename_i fault heq
      rintro ⟨⟩
      exact hscan heq
    · split
      · intro hbad
        cases hbad
      · intro hbad
        cases hbad

/-! ## How deep a text is -/

/-- The greatest number of containers that are open at once. -/
def depthFrom (intDigits : Nat) : Nat → List Frame → List Char → Nat
  | 0, _, _ => 0
  | fuel + 1, stack, text =>
      max (if opens text = true then stack.length + 1 else 0)
        (match next intDigits stack text with
          | some (.more stack text) => depthFrom intDigits fuel stack text
          | _ => 0)

/-- The greatest number of containers that are open at once while a text is read. -/
def depth (intDigits : Nat) (text : List Char) : Nat :=
  if text.head? = some byteOrderMark then 0
  else depthFrom intDigits (text.length + 1) [] (skipSpace text)

theorem scan_tooDeep_iff (l : Limits) (fuel : Nat) (stack : List Frame) (text : List Char) :
    scan l fuel stack text = .error .tooDeep ↔
      l.nesting < depthFrom l.intDigits fuel stack text := by
  induction fuel generalizing stack text with
  | zero => simp [scan, depthFrom]
  | succ fuel ih =>
      have hmax : ∀ a b : Nat, l.nesting < max a b ↔ l.nesting < a ∨ l.nesting < b := by omega
      unfold scan depthFrom
      rw [hmax]
      by_cases hopens : opens text = true
      · rw [if_pos hopens]
        by_cases hdeep : l.nesting ≤ stack.length
        · rw [if_pos ⟨hopens, hdeep⟩]
          exact iff_of_true rfl (Or.inl (Nat.lt_succ_of_le hdeep))
        · rw [if_neg fun h => hdeep h.2]
          have hnot : ¬ l.nesting < stack.length + 1 := by omega
          rw [or_iff_right hnot]
          cases next l.intDigits stack text with
          | none => simp
          | some o =>
              cases o with
              | done value rest => simp
              | more stack text => exact ih stack text
      · rw [if_neg hopens, if_neg fun h => hopens h.1, or_iff_right (Nat.not_lt_zero _)]
        cases next l.intDigits stack text with
        | none => simp
        | some o =>
            cases o with
            | done value rest => simp
            | more stack text => exact ih stack text

/-- A text is too deep where it opens more containers at once than are allowed. -/
theorem loads_tooDeep_iff (l : Limits) (text : List Char) :
    loads l text = .error .tooDeep ↔ l.nesting < depth l.intDigits text := by
  unfold loads depth
  split
  · simp
  · rw [← scan_tooDeep_iff]
    split
    · rename_i fault heq
      rw [heq]
      simp
    · rename_i value rest heq
      rw [heq]
      split <;> simp

/-- Brackets that open are as deep as they are many. -/
theorem depthFrom_brackets (intDigits fuel : Nat) (stack : List Frame) {n : Nat} (h : n < fuel) :
    stack.length + n + 1 ≤ depthFrom intDigits fuel stack (List.replicate (n + 1) '[') := by
  have hbracket : isSpace '[' = false := by decide
  induction n generalizing fuel stack with
  | zero =>
      obtain ⟨fuel, rfl⟩ : ∃ m, fuel = m + 1 := ⟨fuel - 1, by omega⟩
      show stack.length + 0 + 1 ≤ max (stack.length + 1) _
      omega
  | succ n ih =>
      obtain ⟨fuel, rfl⟩ : ∃ m, fuel = m + 1 := ⟨fuel - 1, by omega⟩
      have hskip : skipSpace (List.replicate (n + 1) '[') = List.replicate (n + 1) '[' := by
        rw [List.replicate_succ, skipSpace_cons hbracket]
      have hnext : next intDigits stack (List.replicate (n + 1 + 1) '[') =
          some (.more (.array [] :: stack) (List.replicate (n + 1) '[')) := by
        rw [List.replicate_succ, next, if_neg (by decide), if_pos rfl, hskip, if_neg]
        rw [List.replicate_succ, List.head?_cons]
        decide
      have hrest := ih fuel (.array [] :: stack) (by omega)
      rw [List.length_cons] at hrest
      rw [depthFrom, hnext]
      dsimp only
      omega

theorem depth_brackets (intDigits n : Nat) :
    n + 1 ≤ depth intDigits (List.replicate (n + 1) '[') := by
  have hbracket : isSpace '[' = false := by decide
  have hmark : ¬ some '[' = some byteOrderMark := by decide
  have hdepth := depthFrom_brackets intDigits (n + 1 + 1) [] (n := n) (by omega)
  rw [List.length_nil, Nat.zero_add] at hdepth
  unfold depth
  rw [List.length_replicate, List.replicate_succ, List.head?_cons, if_neg hmark,
    skipSpace_cons hbracket, ← List.replicate_succ]
  exact hdepth

theorem scanAtom_ne_object {intDigits : Nat} {text rest : List Char}
    {members : List (Text × Json)} : scanAtom intDigits text ≠ some (.object members, rest) := by
  intro h
  unfold scanAtom at h
  split at h
  case h_1 word value hfind =>
    have hall : ∀ word ∈ literals, word.2 ≠ .object members := by simp [literals]
    cases h
    exact hall _ (List.mem_of_find?_eq_some hfind) rfl
  case h_2 =>
    unfold scanNumber at h
    dsimp only at h
    split at h
    · cases h
    · split at h
      · split at h <;> cases h
      · cases h

/-- A reader that may enter no container reads no object. -/
theorem nesting_pos_of_loads {l : Limits} {text : List Char} {members : List (Text × Json)}
    (h : loads l text = .ok (.object members)) : 0 < l.nesting := by
  by_contra hzero
  have hnone : l.nesting ≤ ([] : List Frame).length := Nat.le_of_not_lt hzero
  have hscan : ∀ fuel text rest, scan l fuel [] text ≠ .ok (.object members, rest) := by
    intro fuel text rest h
    cases fuel with
    | zero => cases h
    | succ fuel =>
        rw [scan] at h
        by_cases hopens : opens text = true
        · rw [if_pos ⟨hopens, hnone⟩] at h
          cases h
        · rw [if_neg fun hbad => hopens hbad.1] at h
          cases text with
          | nil => cases h
          | cons c text =>
              simp only [opens, Bool.or_eq_true, decide_eq_true_eq, not_or] at hopens
              rw [next, if_neg hopens.1, if_neg hopens.2] at h
              by_cases hquote : c = quote
              · rw [if_pos hquote] at h
                cases hstring : scanString text with
                | none => rw [hstring] at h; cases h
                | some r => rw [hstring] at h; cases h
              · rw [if_neg hquote] at h
                cases hatom : scanAtom l.intDigits (c :: text) with
                | none => rw [hatom] at h; cases h
                | some r =>
                    obtain ⟨value, rest⟩ := r
                    rw [hatom] at h
                    cases h
                    exact scanAtom_ne_object hatom
  unfold loads at h
  split at h
  · cases h
  · split at h
    · cases h
    · rename_i value rest heq
      split at h
      · cases h
        exact hscan _ _ _ heq
      · cases h

/-! ## An object of strings -/

/-- The value of a member, and the members after it. -/
def writeRest (value : List Nat) : List (List Nat × List Nat) → List Char
  | [] => writeString value ++ ['}']
  | member :: members =>
      writeString value ++ (',' :: (writeString member.1 ++ (':' :: writeRest member.2 members)))

/-- `json.dumps` of a dictionary of strings, with `,` and `:` as separators. -/
def writeObject : List (List Nat × List Nat) → List Char
  | [] => ['{', '}']
  | member :: members => '{' :: (writeString member.1 ++ (':' :: writeRest member.2 members))

/-- The strings of a member. -/
def plain (member : Text × Text) : List Nat × List Nat := (member.1.1, member.2.1)

/-- A member as it is read. -/
def asRead (member : Text × Text) : Text × Json := (member.1, .str member.2)

theorem writeString_append (s : List Nat) (text : List Char) :
    writeString s ++ text = quote :: ((split s).flatMap escapeUnit ++ (quote :: text)) := by
  rw [writeString, List.cons_append, List.append_assoc, List.singleton_append]

theorem readKey_writeString (key : Text) (c : Char) (h : isSpace c = false) (text : List Char) :
    readKey (writeString key.1 ++ (':' :: c :: text)) = some (key, c :: text) := by
  have hcolon : isSpace ':' = false := by decide
  rw [writeString_append, readKey, if_pos rfl, scanString_writeString, Option.bind_some,
    skipSpace_cons hcolon]
  dsimp only
  rw [if_pos rfl, skipSpace_cons h]

theorem next_writeString (intDigits : Nat) (stack : List Frame) (s : Text) (text : List Char) :
    next intDigits stack (writeString s.1 ++ text) = complete stack (.str s) text := by
  rw [writeString_append, next, if_pos rfl, scanString_writeString, Option.bind_some]

theorem writeRest_cons (value : List Nat) (members : List (List Nat × List Nat)) :
    ∃ text, writeRest value members = quote :: text := by
  cases members with
  | nil => exact ⟨_, writeString_append value _⟩
  | cons member members => exact ⟨_, writeString_append value _⟩

/-- The key of a member is read, up to its value. -/
theorem readKey_member (member : Text × Text) (members : List (Text × Text)) :
    readKey (skipSpace (writeString member.1.1 ++
      (':' :: writeRest member.2.1 (members.map plain)))) =
        some (member.1, writeRest member.2.1 (members.map plain)) := by
  have hquote : isSpace quote = false := by decide
  obtain ⟨rest, hrest⟩ := writeRest_cons member.2.1 (members.map plain)
  rw [writeString_append, skipSpace_cons hquote, ← writeString_append, hrest,
    readKey_writeString member.1 quote hquote]

/-- After a string that is the value of a member. -/
theorem scan_writeString (l : Limits) (fuel : Nat) (stack : List Frame) (s : Text)
    (text : List Char) :
    scan l (fuel + 1) stack (writeString s.1 ++ text) =
      match complete stack (.str s) text with
      | none => .error .invalid
      | some (.done value rest) => .ok (value, rest)
      | some (.more stack text) => scan l fuel stack text := by
  have hopens : opens (writeString s.1 ++ text) = false := by
    rw [writeString_append]
    rfl
  rw [scan, hopens, if_neg fun h => Bool.false_ne_true h.1, next_writeString]

theorem scan_writeRest (l : Limits) {fuel : Nat} (done : List (Text × Json)) (key value : Text)
    (members : List (Text × Text)) (h : members.length < fuel) :
    scan l fuel [.object done key] (writeRest value.1 (members.map plain)) =
      .ok (.object (done ++ (key, .str value) :: members.map asRead), []) := by
  have hcomma : isSpace ',' = false := by decide
  have hbrace : isSpace '}' = false := by decide
  obtain ⟨fuel, rfl⟩ : ∃ n, fuel = n + 1 := ⟨fuel - 1, by omega⟩
  induction members generalizing fuel done key value with
  | nil =>
      rw [List.map_nil, writeRest, scan_writeString, complete, skipSpace_cons hbrace]
      rfl
  | cons member members ih =>
      rw [List.length_cons] at h
      obtain ⟨fuel, rfl⟩ : ∃ n, fuel = n + 1 := ⟨fuel - 1, by omega⟩
      have hnext : complete [.object done key] (.str value) (',' :: (writeString member.1.1 ++
          (':' :: writeRest member.2.1 (members.map plain)))) =
            some (.more [.object (done ++ [(key, .str value)]) member.1]
              (writeRest member.2.1 (members.map plain))) := by
        rw [complete, skipSpace_cons hcomma]
        dsimp only
        rw [if_neg (by decide), if_pos rfl, readKey_member]
        rfl
      show scan l (fuel + 1 + 1) [.object done key] (writeString value.1 ++
        (',' :: (writeString member.1.1 ++ (':' :: writeRest member.2.1 (members.map plain))))) = _
      rw [scan_writeString, hnext]
      dsimp only
      rw [ih _ _ _ fuel (by omega), List.append_assoc]
      rfl

theorem length_writeRest (value : List Nat) (members : List (List Nat × List Nat)) :
    members.length < (writeRest value members).length := by
  induction members generalizing value with
  | nil => simp [writeRest]
  | cons member members ih =>
      have := ih member.2
      simp only [writeRest, List.length_append, List.length_cons]
      omega

theorem scan_writeObject (l : Limits) (h : 0 < l.nesting) {fuel : Nat}
    (members : List (Text × Text)) (hfuel : members.length ≤ fuel) :
    scan l (fuel + 1) [] (writeObject (members.map plain)) =
      .ok (.object (members.map asRead), []) := by
  have hquote : isSpace quote = false := by decide
  have hshallow : ∀ text, ¬ (opens text = true ∧ l.nesting ≤ ([] : List Frame).length) := by
    rintro text ⟨-, hle⟩
    exact absurd hle (Nat.not_le_of_lt h)
  rw [scan, if_neg (hshallow _)]
  cases members with
  | nil => rfl
  | cons member members =>
      rw [List.length_cons] at hfuel
      have hhead : ¬ (skipSpace (writeString member.1.1 ++
          (':' :: writeRest member.2.1 (members.map plain)))).head? = some '}' := by
        rw [writeString_append, skipSpace_cons hquote, List.head?_cons]
        decide
      have hnext : next l.intDigits [] (writeObject ((member :: members).map plain)) =
          some (.more [.object [] member.1] (writeRest member.2.1 (members.map plain))) := by
        show next l.intDigits [] ('{' :: (writeString member.1.1 ++
          (':' :: writeRest member.2.1 (members.map plain)))) = _
        rw [next, if_neg (by decide), if_neg (by decide), if_pos rfl, if_neg hhead,
          readKey_member]
        rfl
      rw [hnext]
      exact scan_writeRest l [] member.1 member.2 members (by omega)

/-- An object of strings that is written is read back. -/
theorem loads_writeObject (l : Limits) (h : 0 < l.nesting) (members : List (Text × Text)) :
    loads l (writeObject (members.map plain)) = .ok (.object (members.map asRead)) := by
  have hbrace : isSpace '{' = false := by decide
  have hmark : ¬ some '{' = some byteOrderMark := by decide
  have hcons : ∃ text, writeObject (members.map plain) = '{' :: text ∧
      members.length ≤ ('{' :: text).length := by
    cases members with
    | nil => exact ⟨_, rfl, Nat.zero_le _⟩
    | cons member members =>
        refine ⟨_, rfl, ?_⟩
        have := length_writeRest member.2.1 (members.map plain)
        rw [List.length_map] at this
        simp only [List.length_cons, List.length_append, plain]
        omega
  obtain ⟨text, htext, hlength⟩ := hcons
  have hscan := scan_writeObject l h members hlength
  rw [htext] at hscan
  unfold loads
  rw [htext, List.head?_cons, if_neg hmark, skipSpace_cons hbrace, hscan]
  rfl

end JsonText

end Base
