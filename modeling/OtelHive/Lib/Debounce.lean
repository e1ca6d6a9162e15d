import Mathlib.Init

/-!
# `OtelHive.Lib.Debounce`: work that waits until a value rests

A value changes at any time, and each change restarts a timer. When the timer fires, the work runs
on the value. `effect` is what happens after a change, and `fire` the end of the timer. The work
updates an output, and so does the start of the timer (`arm`).

`Debounced.Holds` has one predicate for each of the three phases: before the first effect, while
the timer runs, and after the work. `holds_effect` and `holds_fire` say when the predicates are
kept. In the last phase the output depends on the value that the last effect has seen, so nothing
of the values before it is left.
-/

set_option autoImplicit false

namespace OtelHive.Lib

/-- An output that is computed from a value once it rests. -/
structure Debounced (α β : Type) where
  /-- The value that the last effect has seen. -/
  seen : Option α
  /-- Whether the timer of the last effect is running. -/
  pending : Bool
  output : β
deriving DecidableEq

namespace Debounced

variable {α β : Type}

/-- Before the first effect. -/
def idle (output : β) : Debounced α β := { seen := none, pending := false, output }

/-- The effect after a change. It does nothing if the value is the one that it has seen. -/
def effect [DecidableEq α] (arm : β → β) (a : α) (d : Debounced α β) : Debounced α β :=
  if d.seen = some a then d else { seen := some a, pending := true, output := arm d.output }

/-- The timer fires, if it is running. -/
def fire (work : α → β → β) (d : Debounced α β) : Option (Debounced α β) :=
  match d.seen, d.pending with
  | some a, true => some { d with pending := false, output := work a d.output }
  | _, _ => none

/-- The work is done for the value. -/
structure Rests (d : Debounced α β) (a : α) : Prop where
  seen : d.seen = some a
  pending : d.pending = false

/-- A predicate for each phase. -/
def Holds (fresh : β → Prop) (waiting done : α → β → Prop) (d : Debounced α β) : Prop :=
  match d.seen, d.pending with
  | none, pending => pending = false ∧ fresh d.output
  | some a, true => waiting a d.output
  | some a, false => done a d.output

section Holds

variable {fresh : β → Prop} {waiting done : α → β → Prop} {d d' : Debounced α β}

theorem holds_idle {output : β} (h : fresh output) :
    (idle output : Debounced α β).Holds fresh waiting done :=
  ⟨rfl, h⟩

theorem Holds.of_rests {a : α} (h : d.Holds fresh waiting done) (hrests : d.Rests a) :
    done a d.output := by
  unfold Holds at h
  rw [hrests.seen, hrests.pending] at h
  exact h

/-- What is true of the output in each phase is true of it. -/
theorem Holds.output {P : β → Prop} (h : d.Holds fresh waiting done) (hfresh : ∀ b, fresh b → P b)
    (hwaiting : ∀ a b, waiting a b → P b) (hdone : ∀ a b, done a b → P b) : P d.output := by
  unfold Holds at h
  split at h
  · exact hfresh _ h.2
  · exact hwaiting _ _ h
  · exact hdone _ _ h

theorem holds_effect [DecidableEq α] {arm : β → β} (a : α) (h : d.Holds fresh waiting done)
    (hfresh : ∀ b, fresh b → waiting a (arm b)) (hwaiting : ∀ a' b, waiting a' b → waiting a (arm b))
    (hdone : ∀ a' b, done a' b → waiting a (arm b)) :
    (d.effect arm a).Holds fresh waiting done := by
  unfold effect
  split
  · exact h
  · show waiting a (arm d.output)
    exact h.output (P := fun b => waiting a (arm b)) hfresh hwaiting hdone

theorem holds_fire {work : α → β → β} (h : d.Holds fresh waiting done)
    (hwork : ∀ a b, waiting a b → done a (work a b)) (hfire : d.fire work = some d') :
    d'.Holds fresh waiting done := by
  unfold fire at hfire
  unfold Holds at h
  split at hfire
  · rename_i a hseen hpending
    cases hfire
    rw [hseen, hpending] at h
    unfold Holds
    rw [hseen]
    exact hwork a _ h
  · cases hfire

end Holds

/-- An effect has seen its value. -/
theorem effect_seen [DecidableEq α] (arm : β → β) (a : α) (d : Debounced α β) :
    (d.effect arm a).seen = some a := by
  unfold effect
  split
  · assumption
  · rfl

/-- Once the work is done for a value, its effect does nothing. -/
theorem Rests.effect_eq [DecidableEq α] {arm : β → β} {a : α} {d : Debounced α β}
    (h : d.Rests a) : d.effect arm a = d :=
  if_pos h.seen

/-- An effect that changes nothing has no work to do. -/
theorem rests_of_effect_eq [DecidableEq α] {arm : β → β} {a : α} {d : Debounced α β}
    (heffect : d.effect arm a = d) (hpending : d.pending = false) : d.Rests a := by
  refine ⟨?_, hpending⟩
  rw [← heffect]
  exact effect_seen arm a d

theorem fire_eq_some {work : α → β → β} {d d' : Debounced α β} (h : d.fire work = some d') :
    ∃ a, d.seen = some a ∧ d.pending = true ∧
      d' = { seen := some a, pending := false, output := work a d.output } := by
  unfold fire at h
  split at h
  · rename_i a hseen hpending
    cases h
    refine ⟨a, hseen, hpending, ?_⟩
    rw [hseen]
  · cases h

end Debounced

end OtelHive.Lib
