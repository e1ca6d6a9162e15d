import OtelHive.Basic

/-!
# `OtelHive.Proofs.Hex`: hexadecimal text

`hexEncode` writes two digits for each byte. Two lists of bytes have the same digits only if they
are the same, and so have two ids with the same text (`UUID.toString_injective`).
-/

set_option autoImplicit false

namespace OtelHive

/-! ### The digits -/

theorem digitChar_injective :
    ∀ m < 16, ∀ n < 16, Nat.digitChar m = Nat.digitChar n → m = n := by decide

/-- The two digits of a byte. -/
def hexDigits (x : UInt8) : List Char :=
  [Nat.digitChar (x.toNat / 16), Nat.digitChar (x.toNat % 16)]

theorem toList_hexEncode (b : Bytes) : (hexEncode b).toList = b.flatMap hexDigits :=
  String.toList_ofList

theorem hexDigits_injective {x y : UInt8} (h : hexDigits x = hexDigits y) : x = y := by
  have hx := x.toNat_lt
  have hy := y.toNat_lt
  simp only [hexDigits, List.cons.injEq, and_true] at h
  have hhigh := digitChar_injective _ (by omega) _ (by omega) h.1
  have hlow := digitChar_injective _ (by omega) _ (by omega) h.2
  apply UInt8.toNat_inj.mp
  omega

/-- The digits of two lists of bytes are the same only if the lists are. -/
theorem flatMap_hexDigits_injective :
    ∀ {a b : Bytes}, a.flatMap hexDigits = b.flatMap hexDigits → a = b
  | [], [], _ => rfl
  | [], _ :: _, h => by simp [hexDigits] at h
  | _ :: _, [], h => by simp [hexDigits] at h
  | x :: a, y :: b, h => by
    rw [List.flatMap_cons, List.flatMap_cons] at h
    obtain ⟨hdigits, hrest⟩ := List.append_inj h rfl
    rw [hexDigits_injective hdigits, flatMap_hexDigits_injective hrest]

theorem hexEncode_injective {a b : Bytes} (h : hexEncode a = hexEncode b) : a = b := by
  apply flatMap_hexDigits_injective
  rw [← toList_hexEncode, ← toList_hexEncode, h]

/-- No digit is a dash or a colon. -/
theorem ne_of_mem_hexDigits {b : Bytes} {c : Char} (h : c ∈ b.flatMap hexDigits) :
    c ≠ '-' ∧ c ≠ ':' := by
  have hdigit : ∀ n < 16, Nat.digitChar n ≠ '-' ∧ Nat.digitChar n ≠ ':' := by decide
  obtain ⟨x, -, hc⟩ := List.mem_flatMap.mp h
  have hx := x.toNat_lt
  rcases List.mem_cons.mp hc with rfl | hc
  · exact hdigit _ (by omega)
  · rw [List.mem_singleton.mp hc]
    exact hdigit _ (by omega)

/-! ### The text of an id -/

theorem UUID.toList_toString (id : UUID) :
    id.toString.toList = (id.bytes.take 4).flatMap hexDigits ++
      '-' :: (((id.bytes.drop 4).take 2).flatMap hexDigits ++
        '-' :: (((id.bytes.drop 6).take 2).flatMap hexDigits ++
          '-' :: (((id.bytes.drop 8).take 2).flatMap hexDigits ++
            '-' :: (id.bytes.drop 10).flatMap hexDigits))) := by
  simp [UUID.toString, toList_hexEncode]

/-- The text of an id has no colon. -/
theorem UUID.colon_notMem_toString (id : UUID) : ':' ∉ id.toString.toList := by
  rw [toList_toString]
  simp only [List.mem_append, List.mem_cons, not_or]
  have hpart : ∀ b : Bytes, ':' ∉ b.flatMap hexDigits :=
    fun b h => (ne_of_mem_hexDigits h).2 rfl
  simp [hpart]

/-- Without the dashes, the text of an id is the digits of its bytes. -/
theorem UUID.filter_toString (id : UUID) :
    id.toString.toList.filter (· ≠ '-') = id.bytes.flatMap hexDigits := by
  have hpart : ∀ b : Bytes,
      (b.flatMap hexDigits).filter (· ≠ '-') = b.flatMap hexDigits := by
    intro b
    rw [List.filter_eq_self]
    intro c hc
    simpa using (ne_of_mem_hexDigits hc).1
  have hdash : ∀ l : List Char, ('-' :: l).filter (· ≠ '-') = l.filter (· ≠ '-') :=
    fun l => List.filter_cons_of_neg (by simp)
  rw [toList_toString]
  simp only [List.filter_append, hdash, hpart, ← List.flatMap_append]
  congr 1
  have hsplit : ∀ (l : Bytes) (n m : Nat), (l.drop n).take m ++ l.drop (n + m) = l.drop n := by
    intro l n m
    rw [← List.drop_drop, List.take_append_drop]
  rw [hsplit id.bytes 8 2, hsplit id.bytes 6 2, hsplit id.bytes 4 2, List.take_append_drop]

/-- Two ids have the same text only if they are the same. -/
theorem UUID.toString_injective {a b : UUID} (h : a.toString.toList = b.toString.toList) :
    a = b := by
  have hbytes : a.bytes = b.bytes := by
    apply flatMap_hexDigits_injective
    rw [← filter_toString, ← filter_toString, h]
  cases a
  cases b
  cases hbytes
  rfl

end OtelHive
