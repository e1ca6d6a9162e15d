import Mathlib.Init

/-!
# `OtelHive.Lib.Overwrite`: loops of writes where the last one wins

`write w b` is the value after the write `w` to `b`. The writes overwrite each other when the
value after two of them is the value after the second alone (`Overwrites`). A write may still
read `b`: a write to one field of a record overwrites, and so does a write that a guard in `b`
blocks, as long as the write keeps the guard.

Then a loop of writes leaves what its last write leaves (`foldl_overwrites`). In a loop that
skips some writes, the last one that it does not skip decides (`foldl_overwrites_filter`).

`foldl_of_mem` is for a fact that one round of a loop establishes and the later rounds keep.
-/

set_option autoImplicit false

namespace OtelHive.Lib

variable {ω β : Type}

/-- A write overwrites the one before it. -/
def Overwrites (write : ω → β → β) : Prop := ∀ w v b, write w (write v b) = write w b

/-- The value after an optional write. -/
def writeOption (write : ω → β → β) (w : Option ω) (b : β) : β :=
  match w with
  | some w => write w b
  | none => b

@[simp] theorem writeOption_some (write : ω → β → β) (w : ω) (b : β) :
    writeOption write (some w) b = write w b := rfl

@[simp] theorem writeOption_none (write : ω → β → β) (b : β) :
    writeOption write none b = b := rfl

/-- A loop of writes leaves what its last write leaves. -/
theorem foldl_overwrites {write : ω → β → β} (h : Overwrites write) (ws : List ω) (b : β) :
    ws.foldl (fun b w => write w b) b = writeOption write ws.getLast? b := by
  induction ws generalizing b with
  | nil => rfl
  | cons w ws ih =>
    rw [List.foldl_cons, ih]
    cases ws with
    | nil => rfl
    | cons w' ws =>
      rw [List.getLast?_cons_cons]
      cases hlast : (w' :: ws).getLast? with
      | none => simp at hlast
      | some last => exact h last w b

/-- In a loop that skips the writes without `p`, the last write with `p` decides. -/
theorem foldl_overwrites_filter {write : ω → β → β} (h : Overwrites write) (p : ω → Bool)
    (ws : List ω) (b : β) :
    ws.foldl (fun b w => if p w then write w b else b) b
      = writeOption write (ws.filter p).getLast? b := by
  rw [← foldl_overwrites h, List.foldl_filter]

/-- A loop that makes one write again and again leaves what the write leaves, if it makes it at
all. -/
theorem foldl_overwrites_same {α : Type} {write : ω → β → β} (h : Overwrites write) (w : ω)
    (p : α → Bool) (xs : List α) (b : β) :
    xs.foldl (fun b x => if p x then write w b else b) b
      = if xs.any p then write w b else b := by
  have hsame : Overwrites fun (_ : α) => write w := fun _ _ b => h w w b
  rw [foldl_overwrites_filter hsame]
  cases hlast : (xs.filter p).getLast? with
  | none =>
    have hnone : xs.any p = false := by
      rw [List.getLast?_eq_none_iff, List.filter_eq_nil_iff] at hlast
      simpa using hlast
    rw [hnone]
    rfl
  | some x =>
    have hx := List.mem_filter.mp (List.mem_of_getLast? hlast)
    have hsome : xs.any p = true := List.any_eq_true.mpr ⟨x, hx⟩
    rw [hsome]
    rfl

/-- Let every round keep `P`. If the round of one element of the list makes `Q` true, and the
rounds keep `Q`, then `Q` holds after the loop. -/
theorem foldl_of_mem {α σ : Type} {f : σ → α → σ} {P Q : σ → Prop} {xs : List α} {x : α}
    (hx : x ∈ xs) (hP : ∀ s y, P s → P (f s y)) (hQ : ∀ s y, P s → Q s → Q (f s y))
    (hround : ∀ s, P s → Q (f s x)) {s : σ} (h : P s) : Q (xs.foldl f s) := by
  obtain ⟨before, after, rfl⟩ := List.append_of_mem hx
  rw [List.foldl_append, List.foldl_cons]
  have hbefore : P (before.foldl f s) :=
    List.foldlRecOn (motive := P) before f h fun s hs y _ => hP s y hs
  have hafter : P (after.foldl f (f (before.foldl f s) x)) ∧
      Q (after.foldl f (f (before.foldl f s) x)) :=
    List.foldlRecOn (motive := fun s => P s ∧ Q s) after f
      ⟨hP _ x hbefore, hround _ hbefore⟩ fun s hs y _ => ⟨hP s y hs.1, hQ s y hs.1 hs.2⟩
  exact hafter.2

end OtelHive.Lib
