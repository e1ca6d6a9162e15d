import Mathlib.Data.List.Basic
import OtelHive.Ui.Validation

/-!
# `OtelHive.Proofs.Ui.Severity`: the verdict on any validators

`validateYamlConfig` takes the verdict from the entries that are left after the removal of
duplicates, and two entries are duplicates if they agree in message, line and column
(`key_eq_iff`). The severity is not compared, so a warning hides the errors after it at its place.
The verdict is negative exactly if an error is reported that no warning hides (`survives_iff`).
-/

set_option autoImplicit false

namespace OtelHive.Ui

open OtelHive.Lib
open JsString (unit ascii)

/-! ### The key of an entry -/

/-- The code unit of a digit gives the digit back, and is no bar. -/
theorem unit_of_mem_toDigits {n : Nat} {c : Char} (hc : c ∈ Nat.toDigits 10 n) :
    Char.ofNat (unit c).toNat = c ∧ unit c ≠ unit '|' := by
  have hdigit : c.isDigit = true := Nat.isDigit_of_mem_toDigits (by decide) (by decide) hc
  have hrange : 48 ≤ c.toNat ∧ c.toNat ≤ 57 := Char.isDigit_iff_toNat.mp hdigit
  have hcode : (unit c).toNat = c.toNat := by
    show c.toNat % 65536 = c.toNat
    omega
  refine ⟨by rw [hcode, Char.ofNat_toNat], ?_⟩
  intro hbar
  have hbar' : c.toNat = 124 := by
    rw [← hcode, hbar]
    rfl
  omega

/-- The digits of a number are those of no other number. -/
theorem JsString.ofNat_injective {m n : Nat} (h : JsString.ofNat m = .ofNat n) : m = n := by
  have hback : ∀ k, (JsString.ofNat k).map (fun u => Char.ofNat u.toNat) = Nat.toDigits 10 k := by
    intro k
    unfold JsString.ofNat
    rw [List.map_map]
    calc (Nat.toDigits 10 k).map ((fun u => Char.ofNat u.toNat) ∘ unit)
        = (Nat.toDigits 10 k).map id :=
          List.map_congr_left fun c hc => (unit_of_mem_toDigits hc).1
      _ = Nat.toDigits 10 k := List.map_id _
  have hdigits : Nat.toDigits 10 m = Nat.toDigits 10 n := by rw [← hback, ← hback, h]
  rw [← Nat.ofDigitChars_ten_toDigits (n := m), hdigits, Nat.ofDigitChars_ten_toDigits]

/-- The digits of a number hold no bar. -/
theorem bar_notMem_ofNat (n : Nat) : unit '|' ∉ JsString.ofNat n := by
  intro h
  obtain ⟨c, hc, hbar⟩ := List.mem_map.mp h
  exact (unit_of_mem_toDigits hc).2 hbar

/-- What stands before the last bar. -/
theorem append_bar_inj {a b x y : JsString} (hx : unit '|' ∉ x) (hy : unit '|' ∉ y) :
    a ++ unit '|' :: x = b ++ unit '|' :: y ↔ a = b ∧ x = y := by
  constructor
  · intro h
    -- A longer text before the bar would hold the bar of the other one.
    rcases List.append_eq_append_iff.mp h with ⟨c, rfl, hc⟩ | ⟨c, rfl, hc⟩
    · cases c with
      | nil =>
        cases hc
        exact ⟨(List.append_nil a).symm, rfl⟩
      | cons u c =>
        cases hc
        exact absurd (by simp) hx
    · cases c with
      | nil =>
        cases hc
        exact ⟨List.append_nil b, rfl⟩
      | cons u c =>
        cases hc
        exact absurd (by simp) hy
  · rintro ⟨rfl, rfl⟩
    rfl

/-- Two entries have the same key exactly if message, line and column agree. -/
theorem key_eq_iff {e w : ValidationError} :
    e.key = w.key ↔ e.message = w.message ∧ e.line = w.line ∧ e.column = w.column := by
  have hkey : ∀ e : ValidationError, e.key = (e.message ++ unit '|' :: JsString.ofNat e.line)
      ++ unit '|' :: JsString.ofNat e.column := by
    intro e
    simp [ValidationError.key, ascii]
  rw [hkey, hkey, append_bar_inj (bar_notMem_ofNat _) (bar_notMem_ofNat _),
    append_bar_inj (bar_notMem_ofNat _) (bar_notMem_ofNat _), and_assoc]
  constructor
  · rintro ⟨hmessage, hline, hcolumn⟩
    exact ⟨hmessage, JsString.ofNat_injective hline, JsString.ofNat_injective hcolumn⟩
  · rintro ⟨hmessage, hline, hcolumn⟩
    rw [hmessage, hline, hcolumn]
    exact ⟨rfl, rfl, rfl⟩

/-! ### The verdict -/

/-- The verdict is negative exactly if a validator that does not throw reports an error. -/
def SeveritySurvives (text : JsString) (parsedData : Option OTelConfig)
    (validators : List Validator) : Prop :=
  (validateYamlConfig text parsedData validators).valid = false ↔
    ∃ validate ∈ validators, ∃ errors, validate text parsedData = .ok errors ∧
      ∃ e ∈ errors, e.severity = .error

/-- A warning has the message and the place of the error. -/
def Hides (w e : ValidationError) : Prop :=
  w.severity = .warning ∧ w.message = e.message ∧ w.line = e.line ∧ w.column = e.column

/-- Some error is reported that no warning before it hides. -/
def ErrorInSight (reported : List ValidationError) : Prop :=
  ∃ before e after, reported = before ++ e :: after ∧ e.severity = .error ∧
    ∀ w ∈ before, ¬ Hides w e

theorem exists_error_iff {text : JsString} {parsedData : Option OTelConfig}
    {validators : List Validator} :
    (∃ validate ∈ validators, ∃ errors, validate text parsedData = .ok errors ∧
      ∃ e ∈ errors, e.severity = .error) ↔
      ∃ e ∈ allErrors text parsedData validators, e.severity = .error := by
  unfold allErrors
  constructor
  · rintro ⟨validate, hvalidate, errors, hok, e, he, hseverity⟩
    refine ⟨e, List.mem_flatMap.mpr ⟨validate, hvalidate, ?_⟩, hseverity⟩
    rw [hok]
    exact he
  · rintro ⟨e, he, hseverity⟩
    obtain ⟨validate, hvalidate, he⟩ := List.mem_flatMap.mp he
    split at he
    · rename_i errors hok
      exact ⟨validate, hvalidate, errors, hok, e, he, hseverity⟩
    · cases he

/-- The verdict is negative exactly if an error is in sight. -/
theorem valid_eq_false_iff_errorInSight {text : JsString} {parsedData : Option OTelConfig}
    {validators : List Validator} :
    (validateYamlConfig text parsedData validators).valid = false ↔
      ErrorInSight (allErrors text parsedData validators) := by
  have hkept : (validateYamlConfig text parsedData validators).valid = false ↔
      ∃ e ∈ firstOfEachKey ValidationError.key [] (allErrors text parsedData validators),
        e.severity = .error := by
    unfold validateYamlConfig
    dsimp only
    rw [decide_eq_false_iff_not, List.length_eq_zero_iff, List.filter_eq_nil_iff]
    simp only [decide_eq_true_eq, not_forall, not_not, exists_prop]
  have hwarning : ∀ s : Severity, ¬ s = .error ↔ s = .warning := by
    intro s
    cases s <;> decide
  rw [hkept, exists_firstOfEachKey_iff_split]
  refine exists_congr fun before => exists_congr fun e => exists_congr fun after => ?_
  simp only [Hides, hwarning, ne_eq, key_eq_iff, List.not_mem_nil, not_false_eq_true, true_and,
    not_and]

/-- The verdict is negative exactly if an error is reported, if and only if some error is in sight
when there is one. -/
theorem survives_iff (text : JsString) (parsedData : Option OTelConfig)
    (validators : List Validator) :
    SeveritySurvives text parsedData validators ↔
      ((∃ e ∈ allErrors text parsedData validators, e.severity = .error) →
        ErrorInSight (allErrors text parsedData validators)) := by
  unfold SeveritySurvives
  rw [valid_eq_false_iff_errorInSight, exists_error_iff]
  constructor
  · intro h
    exact h.mpr
  · intro h
    refine ⟨?_, h⟩
    rintro ⟨before, e, after, hreported, hseverity, -⟩
    rw [hreported]
    exact ⟨e, by simp, hseverity⟩

/-- An entry with a severity, at line 3 and column 5. -/
def entryWith (severity : Severity) : ValidationError where
  message := ascii "deprecated"
  severity
  line := 3
  column := 5
  path := []

/-- The warning of the first validator hides the error of the second one. In the other order the
error counts. -/
theorem error_hidden :
    (validateYamlConfig (ascii "receivers:") none
        [fun _ _ => .ok [entryWith .warning], fun _ _ => .ok [entryWith .error]]).valid = true ∧
      (validateYamlConfig (ascii "receivers:") none
        [fun _ _ => .ok [entryWith .error], fun _ _ => .ok [entryWith .warning]]).valid = false ∧
      ¬ ∀ text parsedData validators, SeveritySurvives text parsedData validators := by
  have hvalid : (validateYamlConfig (ascii "receivers:") none
      [fun _ _ => .ok [entryWith .warning], fun _ _ => .ok [entryWith .error]]).valid = true := by
    decide
  refine ⟨hvalid, by decide, ?_⟩
  intro hall
  have hsurvives := hall (ascii "receivers:") none
    [fun _ _ => .ok [entryWith .warning], fun _ _ => .ok [entryWith .error]]
  have hnegative := hsurvives.mpr ⟨fun _ _ => .ok [entryWith .error], by simp, _, rfl,
    entryWith .error, List.mem_singleton_self _, rfl⟩
  rw [hvalid] at hnegative
  cases hnegative

end OtelHive.Ui
