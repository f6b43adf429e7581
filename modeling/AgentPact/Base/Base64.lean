import Mathlib.Data.List.Basic

/-!
# Base 64 with the URL alphabet

Bytes and characters are numbers here: a byte is below 256, and a character is
its code point.

The encoder works on groups of three bytes and pads the last.  The decoder is a
lenient one that takes a character at a time.  It skips what is outside the
alphabet, takes the characters of both alphabets, and stops at a padding that
completes a group.

`decode_encode_unpadded` is the round trip for a text whose padding was stripped
and put back.
-/

namespace Base

namespace Base64

/-! ## The alphabet -/

/-- `=`. -/
def pad : Nat := 61

/-- The character of six bits. -/
def charOf (n : Nat) : Nat :=
  if n < 26 then n + 65 else if n < 52 then n + 71 else if n < 62 then n - 4
  else if n = 62 then 45 else 95

/-- The six bits of a character, in the URL alphabet or the standard one. -/
def sextet (c : Nat) : Option Nat :=
  if 65 ≤ c ∧ c ≤ 90 then some (c - 65)
  else if 97 ≤ c ∧ c ≤ 122 then some (c - 71)
  else if 48 ≤ c ∧ c ≤ 57 then some (c + 4)
  else if c = 45 ∨ c = 43 then some 62
  else if c = 95 ∨ c = 47 then some 63
  else none

theorem sextet_charOf {n : Nat} (h : n < 64) : sextet (charOf n) = some n := by
  unfold charOf sextet
  split_ifs <;> first | omega | exact congrArg some (by omega)

theorem charOf_ne_pad {n : Nat} (h : n < 64) : charOf n ≠ pad := by
  unfold charOf pad
  split_ifs <;> omega

/-! ## Encoding -/

/-- The characters of some bytes, without a padding. -/
def encodeUnpadded : List Nat → List Nat
  | a :: b :: c :: rest =>
      charOf (a / 4) :: charOf (a % 4 * 16 + b / 16) :: charOf (b % 16 * 4 + c / 64) ::
        charOf (c % 64) :: encodeUnpadded rest
  | [a, b] => [charOf (a / 4), charOf (a % 4 * 16 + b / 16), charOf (b % 16 * 4)]
  | [a] => [charOf (a / 4), charOf (a % 4 * 16)]
  | [] => []

/-- How many characters are missing in the last group. -/
def missing (text : List Nat) : Nat := (4 - text.length % 4) % 4

/-- The padding of a text. -/
def padding (text : List Nat) : List Nat := List.replicate (missing text) pad

/-- `urlsafe_b64encode`. -/
def encode (bytes : List Nat) : List Nat :=
  encodeUnpadded bytes ++ padding (encodeUnpadded bytes)

/-- `rstrip("=")`. -/
def stripPadding (text : List Nat) : List Nat := (text.reverse.dropWhile (· = pad)).reverse

/-- Bytes. -/
def IsBytes (bytes : List Nat) : Prop := ∀ b ∈ bytes, b < 256

theorem pad_notMem_encodeUnpadded {bytes : List Nat} (h : IsBytes bytes) :
    pad ∉ encodeUnpadded bytes := by
  fun_induction encodeUnpadded bytes with
  | case1 a b c rest ih =>
      simp only [IsBytes, List.mem_cons, forall_eq_or_imp] at h
      obtain ⟨ha, hb, hc, hrest⟩ := h
      simp only [List.mem_cons, not_or]
      exact ⟨(charOf_ne_pad (by omega)).symm, (charOf_ne_pad (by omega)).symm,
        (charOf_ne_pad (by omega)).symm, (charOf_ne_pad (by omega)).symm, ih hrest⟩
  | case2 a b =>
      simp only [IsBytes, List.mem_cons, forall_eq_or_imp] at h
      obtain ⟨ha, hb, _⟩ := h
      simp only [List.mem_cons, List.not_mem_nil, or_false, not_or]
      exact ⟨(charOf_ne_pad (by omega)).symm, (charOf_ne_pad (by omega)).symm,
        (charOf_ne_pad (by omega)).symm⟩
  | case3 a =>
      simp only [IsBytes, List.mem_cons, forall_eq_or_imp] at h
      simp only [List.mem_cons, List.not_mem_nil, or_false, not_or]
      exact ⟨(charOf_ne_pad (by omega)).symm, (charOf_ne_pad (by omega)).symm⟩
  | case4 => exact List.not_mem_nil

theorem charOf_lt {n : Nat} (h : n < 64) : charOf n < 128 := by
  unfold charOf
  split_ifs <;> omega

/-- The characters of an encoded text are ASCII. -/
theorem lt_of_mem_encodeUnpadded {bytes : List Nat} (h : IsBytes bytes) :
    ∀ c ∈ encodeUnpadded bytes, c < 128 := by
  fun_induction encodeUnpadded bytes with
  | case1 a b c rest ih =>
      simp only [IsBytes, List.mem_cons, forall_eq_or_imp] at h
      obtain ⟨ha, hb, hc, hrest⟩ := h
      simp only [List.mem_cons, forall_eq_or_imp]
      exact ⟨charOf_lt (by omega), charOf_lt (by omega), charOf_lt (by omega),
        charOf_lt (by omega), ih hrest⟩
  | case2 a b =>
      simp only [IsBytes, List.mem_cons, forall_eq_or_imp] at h
      obtain ⟨ha, hb, _⟩ := h
      simp only [List.mem_cons, forall_eq_or_imp]
      exact ⟨charOf_lt (by omega), charOf_lt (by omega), charOf_lt (by omega), by simp⟩
  | case3 a =>
      simp only [IsBytes, List.mem_cons, forall_eq_or_imp] at h
      simp only [List.mem_cons, forall_eq_or_imp]
      exact ⟨charOf_lt (by omega), charOf_lt (by omega), by simp⟩
  | case4 => simp

/-- What is stripped off an encoded text is its padding. -/
theorem stripPadding_encode {bytes : List Nat} (h : IsBytes bytes) :
    stripPadding (encode bytes) = encodeUnpadded bytes := by
  have hnone : ∀ c ∈ (encodeUnpadded bytes).reverse, ¬ c = pad := by
    rintro c hc rfl
    exact pad_notMem_encodeUnpadded h (List.mem_reverse.mp hc)
  have hpads : ∀ n, (List.replicate n pad).dropWhile (· = pad) = [] := by
    intro n
    simp
  unfold stripPadding encode padding
  rw [List.reverse_append, List.reverse_replicate, List.dropWhile_append, hpads]
  simp only [List.isEmpty_nil, if_true]
  rw [List.reverse_eq_iff]
  cases hrev : (encodeUnpadded bytes).reverse with
  | nil => rfl
  | cons c rest =>
      rw [List.dropWhile_cons_of_neg (by simpa using hnone c (by simp [hrev]))]

/-! ## Decoding -/

/-- What is left of the characters of the current group. -/
inductive Pending where
  | start
  | one (bits : Nat)
  | two (bits : Nat)
  | three (bits : Nat)

/-- How many characters it has. -/
def Pending.count : Pending → Nat
  | .start => 0
  | .one _ => 1
  | .two _ => 2
  | .three _ => 3

/-- `a2b_base64` that is not strict, in the middle of a group and after some paddings. -/
def decodeFrom (pending : Pending) (pads : Nat) : List Nat → Option (List Nat)
  | [] => if pending.count = 0 then some [] else none
  | c :: cs =>
      if c = pad then
        if pending.count < 2 then decodeFrom pending pads cs
        else if 4 ≤ pending.count + (pads + 1) then some []  -- the padding completes the group
        else decodeFrom pending (pads + 1) cs
      else
        match sextet c with
        | none => decodeFrom pending pads cs
        | some v =>
            match pending with
            | .start => decodeFrom (.one v) 0 cs
            | .one bits =>
                (decodeFrom (.two (v % 16)) 0 cs).map (fun rest => (bits * 4 + v / 16) :: rest)
            | .two bits =>
                (decodeFrom (.three (v % 4)) 0 cs).map (fun rest => (bits * 16 + v / 4) :: rest)
            | .three bits => (decodeFrom .start 0 cs).map (fun rest => (bits * 64 + v) :: rest)

/-- `a2b_base64`. -/
def decode (text : List Nat) : Option (List Nat) := decodeFrom .start 0 text

section

variable {pads bits n : Nat} {cs : List Nat}

theorem decodeFrom_start (h : n < 64) :
    decodeFrom .start pads (charOf n :: cs) = decodeFrom (.one n) 0 cs := by
  rw [decodeFrom, if_neg (charOf_ne_pad h), sextet_charOf h]

theorem decodeFrom_one (h : n < 64) : decodeFrom (.one bits) pads (charOf n :: cs) =
    (decodeFrom (.two (n % 16)) 0 cs).map fun rest => (bits * 4 + n / 16) :: rest := by
  rw [decodeFrom, if_neg (charOf_ne_pad h), sextet_charOf h]

theorem decodeFrom_two (h : n < 64) : decodeFrom (.two bits) pads (charOf n :: cs) =
    (decodeFrom (.three (n % 4)) 0 cs).map fun rest => (bits * 16 + n / 4) :: rest := by
  rw [decodeFrom, if_neg (charOf_ne_pad h), sextet_charOf h]

theorem decodeFrom_three (h : n < 64) : decodeFrom (.three bits) pads (charOf n :: cs) =
    (decodeFrom .start 0 cs).map fun rest => (bits * 64 + n) :: rest := by
  rw [decodeFrom, if_neg (charOf_ne_pad h), sextet_charOf h]

end

/-- Four characters of the alphabet are three bytes. -/
theorem decodeFrom_group {pads v₀ v₁ v₂ v₃ : Nat} {cs : List Nat} (h₀ : v₀ < 64) (h₁ : v₁ < 64)
    (h₂ : v₂ < 64) (h₃ : v₃ < 64) :
    decodeFrom .start pads (charOf v₀ :: charOf v₁ :: charOf v₂ :: charOf v₃ :: cs) =
      (decodeFrom .start 0 cs).map fun rest =>
        (v₀ * 4 + v₁ / 16) :: (v₁ % 16 * 16 + v₂ / 4) :: (v₂ % 4 * 64 + v₃) :: rest := by
  rw [decodeFrom_start h₀, decodeFrom_one h₁, decodeFrom_two h₂, decodeFrom_three h₃,
    Option.map_map, Option.map_map]
  rfl

theorem decodeFrom_encode {bytes : List Nat} (h : IsBytes bytes) (pads : Nat) :
    decodeFrom .start pads (encode bytes) = some bytes := by
  unfold encode padding missing
  fun_induction encodeUnpadded bytes generalizing pads with
  | case1 a b c rest ih =>
      simp only [IsBytes, List.mem_cons, forall_eq_or_imp] at h
      obtain ⟨ha, hb, hc, hrest⟩ := h
      have hlength : ∀ n : Nat, (n + 1 + 1 + 1 + 1) % 4 = n % 4 := by omega
      simp only [List.length_cons, List.cons_append, hlength]
      rw [decodeFrom_group (by omega) (by omega) (by omega) (by omega), ih hrest 0]
      refine congrArg some ?_
      rw [List.cons.injEq, List.cons.injEq, List.cons.injEq]
      exact ⟨by omega, by omega, by omega, rfl⟩
  | case2 a b =>
      simp only [IsBytes, List.mem_cons, forall_eq_or_imp] at h
      obtain ⟨ha, hb, _⟩ := h
      simp only [List.length_cons, List.length_nil, List.cons_append, List.nil_append]
      rw [decodeFrom_start (by omega), decodeFrom_one (by omega), decodeFrom_two (by omega)]
      have hfirst : a / 4 * 4 + (a % 4 * 16 + b / 16) / 16 = a := by omega
      have hsecond : (a % 4 * 16 + b / 16) % 16 * 16 + b % 16 * 4 / 4 = b := by omega
      rw [hfirst, hsecond]
      rfl
  | case3 a =>
      simp only [IsBytes, List.mem_cons, forall_eq_or_imp] at h
      simp only [List.length_cons, List.length_nil, List.cons_append, List.nil_append]
      rw [decodeFrom_start (by omega), decodeFrom_one (by omega)]
      have hfirst : a / 4 * 4 + a % 4 * 16 / 16 = a := by omega
      rw [hfirst]
      rfl
  | case4 => simp [decodeFrom, Pending.count]

/-- A text whose padding was stripped and put back decodes to what was encoded. -/
theorem decode_encode_unpadded {bytes : List Nat} (h : IsBytes bytes) :
    decode (stripPadding (encode bytes) ++ padding (stripPadding (encode bytes))) = some bytes := by
  rw [stripPadding_encode h]
  exact decodeFrom_encode h 0

end Base64

end Base
