import Mathlib.Init

/-!
# `OtelHive.Lib.Base64`: base64 with padding

`encode` writes groups of four characters of the standard alphabet. `decode` reads them back
and skips line breaks. `decode_encode`: decoding returns the bytes that were encoded.
-/

set_option autoImplicit false

namespace OtelHive.Lib.Base64

/-- The character of six bits. -/
def char (n : Nat) : UInt8 :=
  if n < 26 then UInt8.ofNat (65 + n)
  else if n < 52 then UInt8.ofNat (97 + (n - 26))
  else if n < 62 then UInt8.ofNat (48 + (n - 52))
  else if n = 62 then 43
  else 47

/-- The six bits of a character of the alphabet. -/
def value (c : UInt8) : Option Nat :=
  if 65 ≤ c ∧ c ≤ 90 then some (c.toNat - 65)
  else if 97 ≤ c ∧ c ≤ 122 then some (c.toNat - 97 + 26)
  else if 48 ≤ c ∧ c ≤ 57 then some (c.toNat - 48 + 52)
  else if c = 43 then some 62
  else if c = 47 then some 63
  else none

/-- The padding character. -/
def pad : UInt8 := 61

/-- The base64 text of the bytes, three at a time. -/
def encode : List UInt8 → List UInt8
  | [] => []
  | [a] => [char (a.toNat / 4), char (a.toNat % 4 * 16), pad, pad]
  | [a, b] =>
    [char (a.toNat / 4), char (a.toNat % 4 * 16 + b.toNat / 16), char (b.toNat % 16 * 4), pad]
  | a :: b :: c :: rest =>
    char (a.toNat / 4) :: char (a.toNat % 4 * 16 + b.toNat / 16)
      :: char (b.toNat % 16 * 4 + c.toNat / 64) :: char (c.toNat % 64) :: encode rest

/-- The byte with the high bits `x` and the low bits `y`, where `y` has `k` values. -/
def byte (x k y : Nat) : UInt8 := UInt8.ofNat (x * k + y)

/-- Read groups of four characters. Padding ends the text. -/
def decodeGroups : List UInt8 → Option (List UInt8)
  | [] => some []
  | w :: x :: y :: z :: rest =>
    match value w, value x with
    | some w, some x =>
      match value y, value z with
      | some y, some z =>
        (decodeGroups rest).map fun bytes =>
          byte w 4 (x / 16) :: byte (x % 16) 16 (y / 4) :: byte (y % 4) 64 z :: bytes
      | some y, none =>
        if z = pad ∧ rest = [] then some [byte w 4 (x / 16), byte (x % 16) 16 (y / 4)] else none
      | none, _ =>
        if y = pad ∧ z = pad ∧ rest = [] then some [byte w 4 (x / 16)] else none
    | _, _ => none
  | _ => none

/-- Decode a text. Line breaks are skipped. -/
def decode (text : List UInt8) : Option (List UInt8) :=
  decodeGroups (text.filter fun c => c != 10 && c != 13)

theorem value_char {n : Nat} (h : n < 64) : value (char n) = some n := by
  revert n
  decide

/-- The character is neither `\n` nor `\r`. -/
abbrev NoBreak (c : UInt8) : Prop := (c != 10 && c != 13) = true

theorem noBreak_char {n : Nat} (h : n < 64) : NoBreak (char n) := by
  revert n
  decide

theorem noBreak_pad : NoBreak pad := rfl

/-- A byte from its bits. -/
theorem byte_eq {x k y : Nat} (a : UInt8) (h : x * k + y = a.toNat) : byte x k y = a := by
  unfold byte
  rw [h]
  exact UInt8.ofNat_toNat

/-- Every group that `encode` writes reads back. -/
theorem decodeGroups_encode (bytes : List UInt8) : decodeGroups (encode bytes) = some bytes := by
  induction bytes using encode.induct with
  | case1 => rfl
  | case2 a =>
    have ha := a.toNat_lt
    simp only [encode, decodeGroups]
    rw [value_char (by omega), value_char (by omega), show value pad = none from rfl]
    dsimp only
    rw [if_pos ⟨trivial, trivial, trivial⟩, byte_eq a (by omega)]
  | case3 a b =>
    have ha := a.toNat_lt
    have hb := b.toNat_lt
    simp only [encode, decodeGroups]
    rw [value_char (by omega), value_char (by omega), value_char (by omega),
      show value pad = none from rfl]
    dsimp only
    rw [if_pos ⟨trivial, trivial⟩, byte_eq a (by omega), byte_eq b (by omega)]
  | case4 a b c rest ih =>
    have ha := a.toNat_lt
    have hb := b.toNat_lt
    have hc := c.toNat_lt
    simp only [encode, decodeGroups]
    rw [value_char (by omega), value_char (by omega), value_char (by omega),
      value_char (by omega), ih]
    dsimp only [Option.map_some]
    rw [byte_eq a (by omega), byte_eq b (by omega), byte_eq c (by omega)]

/-- `encode` writes no line breaks. -/
theorem noBreak_encode (bytes : List UInt8) : ∀ c ∈ encode bytes, NoBreak c := by
  induction bytes using encode.induct with
  | case1 =>
    intro c hc
    cases hc
  | case2 a =>
    have ha := a.toNat_lt
    simp only [encode, List.forall_mem_cons]
    exact ⟨noBreak_char (by omega), noBreak_char (by omega), noBreak_pad, noBreak_pad, nofun⟩
  | case3 a b =>
    have ha := a.toNat_lt
    have hb := b.toNat_lt
    simp only [encode, List.forall_mem_cons]
    exact ⟨noBreak_char (by omega), noBreak_char (by omega), noBreak_char (by omega), noBreak_pad,
      nofun⟩
  | case4 a b c rest ih =>
    have ha := a.toNat_lt
    have hb := b.toNat_lt
    have hc := c.toNat_lt
    simp only [encode, List.forall_mem_cons]
    exact ⟨noBreak_char (by omega), noBreak_char (by omega), noBreak_char (by omega),
      noBreak_char (by omega), ih⟩

/-- Decoding returns the bytes that were encoded. -/
theorem decode_encode (bytes : List UInt8) : decode (encode bytes) = some bytes := by
  unfold decode
  rw [List.filter_eq_self.mpr (noBreak_encode bytes), decodeGroups_encode]

end OtelHive.Lib.Base64
