import Mathlib.Init

/-!
# `OtelHive.Lib.Runs`: runs of a deterministic system

A system is a step function `step : σ → ε → Option σ`. A state and an event give the next
state, or `none` when the event has no successor (a crash, a guard that does not hold).
`run` folds the step over a list of events.

Two rules carry a property from one step to a run:

* `run_invariant`: an invariant that every step preserves holds after every run.
* `run_invariant_of_stepsMeet`: an invariant that the steps meeting a condition preserve
  holds after every run whose steps all meet the condition. `StepsMeet` is that
  hypothesis: the condition reads the state before the step and the event. It is decidable
  when the condition is.

`exists_run_of_measure` shows that a run can reach its end, by a measure that its steps lower.

`Along` says that a property holds at every state of a run. When a step leads to the property
exactly if it meets a condition, the property holds along a run exactly if all its steps meet
the condition (`along_iff_stepsMeet`).

`withGhost` pairs the state with a value that only the specification reads, such as the
last event of a kind. The ghost value does not change which runs there are
(`isSome_run_withGhost`).

Every event list is a run of its own, so a theorem about the state after `run` covers each
state that a longer run passes through.
-/

set_option autoImplicit false

namespace OtelHive.Lib

variable {σ ε γ : Type}

/-- The state after the events, from the state `s`. -/
def run (step : σ → ε → Option σ) : σ → List ε → Option σ
  | s, [] => some s
  | s, e :: es => (step s e).bind fun s' => run step s' es

/-- Every step of the run from `s` over the events meets the condition `C`. -/
def StepsMeet (step : σ → ε → Option σ) (C : σ → ε → Prop) : σ → List ε → Prop
  | _, [] => True
  | s, e :: es => C s e ∧ ∀ s', step s e = some s' → StepsMeet step C s' es

/-- Whether a run meets a condition can be computed along the run. -/
def StepsMeet.decide (step : σ → ε → Option σ) (C : σ → ε → Prop) [∀ s e, Decidable (C s e)] :
    ∀ s es, Decidable (StepsMeet step C s es)
  | _, [] => .isTrue trivial
  | s, e :: es =>
    match h : step s e with
    | none => decidable_of_iff (C s e) ⟨fun hC => ⟨hC, fun s' hs => by simp [h] at hs⟩, And.left⟩
    | some s' =>
      have := StepsMeet.decide step C s' es
      decidable_of_iff (C s e ∧ StepsMeet step C s' es)
        (and_congr_right fun _ =>
          ⟨fun hrest s'' hs => by rwa [← Option.some.inj (h.symm.trans hs)],
            fun hrest => hrest s' h⟩)

instance (step : σ → ε → Option σ) (C : σ → ε → Prop) [∀ s e, Decidable (C s e)] (s : σ)
    (es : List ε) : Decidable (StepsMeet step C s es) :=
  StepsMeet.decide step C s es

/-- The property `P` holds at every state of the run from `s` over the events. -/
def Along (step : σ → ε → Option σ) (P : σ → Prop) : σ → List ε → Prop
  | s, [] => P s
  | s, e :: es => P s ∧ ∀ s', step s e = some s' → Along step P s' es

/-- The step of the system paired with a ghost value. `upd` reads the ghost value, the
state before the step and the event. -/
def withGhost (step : σ → ε → Option σ) (upd : γ → σ → ε → γ) (p : σ × γ) (e : ε) :
    Option (σ × γ) :=
  (step p.1 e).map fun s' => (s', upd p.2 p.1 e)

section Run

variable {step : σ → ε → Option σ}

@[simp] theorem run_nil (s : σ) : run step s [] = some s := rfl

/-- A run over `e :: es` takes the step `e` and then runs over `es`. -/
theorem run_cons_eq_some {s t : σ} {e : ε} {es : List ε} :
    run step s (e :: es) = some t ↔ ∃ s', step s e = some s' ∧ run step s' es = some t := by
  simp [run, Option.bind_eq_some_iff]

/-- A run over two lists of events, one after the other. -/
theorem run_append {s t : σ} {es es' : List ε} :
    run step s (es ++ es') = some t ↔ ∃ s', run step s es = some s' ∧ run step s' es' = some t := by
  induction es generalizing s with
  | nil => simp
  | cons e es ih =>
    rw [List.cons_append, run_cons_eq_some]
    simp only [run_cons_eq_some, ih]
    constructor
    · rintro ⟨s₁, hs, s', hrun, hrun'⟩
      exact ⟨s', ⟨s₁, hs, hrun⟩, hrun'⟩
    · rintro ⟨s', ⟨s₁, hs, hrun⟩, hrun'⟩
      exact ⟨s₁, hs, s', hrun, hrun'⟩

/-- A run of one event, repeated, that takes one step and then ends. -/
theorem exists_run_replicate {s s' t : σ} {e : ε} (h : step s e = some s')
    (hend : ∃ n, run step s' (List.replicate n e) = some t) :
    ∃ n, run step s (List.replicate n e) = some t := by
  obtain ⟨n, hrun⟩ := hend
  exact ⟨n + 1, run_cons_eq_some.mpr ⟨s', h, hrun⟩⟩

/-- A system in which every event has a successor runs over every list of events. -/
theorem isSome_run_of_isSome (h : ∀ s e, (step s e).isSome) (s : σ) (es : List ε) :
    (run step s es).isSome := by
  induction es generalizing s with
  | nil => rfl
  | cons e es ih =>
    obtain ⟨s', hs⟩ := Option.isSome_iff_exists.mp (h s e)
    rw [run, hs]
    exact ih s'

/-- A condition that reads the event alone. -/
theorem stepsMeet_of_forall {D : ε → Prop} {es : List ε} (h : ∀ e ∈ es, D e) (s : σ) :
    StepsMeet step (fun _ e => D e) s es := by
  induction es generalizing s with
  | nil => trivial
  | cons e es ih =>
    refine ⟨h e List.mem_cons_self, ?_⟩
    intro s' _
    exact ih (fun e' he' => h e' (List.mem_cons_of_mem e he')) s'

/-- A condition that follows from another one at every state and event. -/
theorem StepsMeet.mono {C D : σ → ε → Prop} (hCD : ∀ s e, C s e → D s e) {s : σ} {es : List ε}
    (h : StepsMeet step C s es) : StepsMeet step D s es := by
  induction es generalizing s with
  | nil => trivial
  | cons e es ih => exact ⟨hCD _ _ h.1, fun s' hs => ih (h.2 s' hs)⟩

/-- A run over two lists of events, one after the other, whose steps all meet a condition. -/
theorem StepsMeet.append {C : σ → ε → Prop} {s : σ} {es es' : List ε} (h : StepsMeet step C s es)
    (h' : ∀ t, run step s es = some t → StepsMeet step C t es') :
    StepsMeet step C s (es ++ es') := by
  induction es generalizing s with
  | nil => exact h' s rfl
  | cons e es ih =>
    refine ⟨h.1, ?_⟩
    intro s' hs
    exact ih (h.2 s' hs) fun t hrun => h' t (run_cons_eq_some.mpr ⟨s', hs, hrun⟩)

/-- Two conditions that the steps of a run meet. -/
theorem StepsMeet.and {C D : σ → ε → Prop} {s : σ} {es : List ε} (hC : StepsMeet step C s es)
    (hD : StepsMeet step D s es) : StepsMeet step (fun s e => C s e ∧ D s e) s es := by
  induction es generalizing s with
  | nil => trivial
  | cons e es ih => exact ⟨⟨hC.1, hD.1⟩, fun s' hs => ih (hC.2 s' hs) (hD.2 s' hs)⟩

/-- An invariant that the steps meeting `C` preserve holds after every run whose steps
all meet `C`. -/
theorem run_invariant_of_stepsMeet {C : σ → ε → Prop} (I : σ → Prop)
    (hstep : ∀ s e s', I s → C s e → step s e = some s' → I s')
    {s t : σ} {es : List ε} (h0 : I s) (hmeet : StepsMeet step C s es)
    (hrun : run step s es = some t) : I t := by
  induction es generalizing s with
  | nil =>
    cases hrun
    exact h0
  | cons e es ih =>
    obtain ⟨s', hs, hrun'⟩ := run_cons_eq_some.mp hrun
    exact ih (hstep s e s' h0 hmeet.1 hs) (hmeet.2 s' hs) hrun'

/-- An invariant that every step preserves holds after every run. -/
theorem run_invariant (I : σ → Prop)
    (hstep : ∀ s e s', I s → step s e = some s' → I s')
    {s t : σ} {es : List ε} (h0 : I s) (hrun : run step s es = some t) : I t := by
  induction es generalizing s with
  | nil =>
    cases hrun
    exact h0
  | cons e es ih =>
    obtain ⟨s', hs, hrun'⟩ := run_cons_eq_some.mp hrun
    exact ih (hstep s e s' h0 hs) hrun'

/-- Let `I` be an invariant that the steps meeting `C` preserve, and that implies `P`. Then `P`
holds along a run whose steps all meet `C`. -/
theorem along_of_stepsMeet {P I : σ → Prop} {C : σ → ε → Prop} (hIP : ∀ s, I s → P s)
    (hstep : ∀ s e s', I s → C s e → step s e = some s' → I s')
    {s : σ} {es : List ε} (h0 : I s) (hmeet : StepsMeet step C s es) : Along step P s es := by
  induction es generalizing s with
  | nil => exact hIP s h0
  | cons e es ih =>
    refine ⟨hIP s h0, ?_⟩
    intro s' hs
    exact ih (hstep s e s' h0 hmeet.1 hs) (hmeet.2 s' hs)

/-- A property that holds along a run holds at its last state. -/
theorem Along.last {P : σ → Prop} {s t : σ} {es : List ε} (h : Along step P s es)
    (hrun : run step s es = some t) : P t := by
  induction es generalizing s with
  | nil =>
    cases hrun
    exact h
  | cons e es ih =>
    obtain ⟨s', hs, hrun'⟩ := run_cons_eq_some.mp hrun
    exact ih (h.2 s' hs) hrun'

/-- Let `I` be an invariant. Suppose that a step from a state with `P` leads to `P` exactly
if it meets `C`, for the events with `D`. Then `P` holds along a run over such events exactly
if all its steps meet `C`. -/
theorem along_iff_stepsMeet {P I : σ → Prop} {C : σ → ε → Prop} {D : ε → Prop}
    (hinv : ∀ s e s', I s → step s e = some s' → I s')
    (hstep : ∀ s e s', D e → I s → P s → step s e = some s' → (P s' ↔ C s e))
    {s : σ} {es : List ε} (hD : ∀ e ∈ es, D e) (hI : I s) (hP : P s)
    (hrun : (run step s es).isSome) : Along step P s es ↔ StepsMeet step C s es := by
  -- Either side says that the first step keeps `P`, which the induction hypothesis needs.
  induction es generalizing s with
  | nil => exact ⟨fun _ => trivial, fun _ => hP⟩
  | cons e es ih =>
    obtain ⟨t, ht⟩ := Option.isSome_iff_exists.mp hrun
    obtain ⟨s', hs, ht'⟩ := run_cons_eq_some.mp ht
    have hiff := hstep s e s' (hD e List.mem_cons_self) hI hP hs
    have ih' : P s' → (Along step P s' es ↔ StepsMeet step C s' es) := by
      intro hP'
      exact ih (fun e' he' => hD e' (List.mem_cons_of_mem e he')) (hinv s e s' hI hs) hP'
        (by rw [ht']; rfl)
    have hfirst : Along step P s' es → P s' := by
      intro h
      cases es with
      | nil => exact h
      | cons _ _ => exact h.1
    constructor
    · intro h
      have hP' := hfirst (h.2 s' hs)
      refine ⟨hiff.mp hP', ?_⟩
      intro s'' hs''
      rw [hs] at hs''
      cases hs''
      exact (ih' hP').mp (h.2 s' hs)
    · intro h
      refine ⟨hP, ?_⟩
      intro s'' hs''
      rw [hs] at hs''
      cases hs''
      exact (ih' (hiff.mpr h.1)).mpr (h.2 s' hs)

end Run

section Ghost

variable {step : σ → ε → Option σ} {upd : γ → σ → ε → γ}

/-- What a step of the paired system does: the system's step, and the ghost update. -/
theorem withGhost_eq_some {p q : σ × γ} {e : ε} :
    withGhost step upd p e = some q ↔
      step p.1 e = some q.1 ∧ q.2 = upd p.2 p.1 e := by
  obtain ⟨s', g'⟩ := q
  simp only [withGhost, Option.map_eq_some_iff, Prod.mk.injEq]
  constructor
  · rintro ⟨a, ha, rfl, rfl⟩
    exact ⟨ha, rfl⟩
  · rintro ⟨hs, rfl⟩
    exact ⟨s', hs, rfl, rfl⟩

/-- The paired system runs over the events that the system runs over. -/
theorem isSome_run_withGhost (p : σ × γ) (es : List ε) :
    (run (withGhost step upd) p es).isSome = (run step p.1 es).isSome := by
  induction es generalizing p with
  | nil => rfl
  | cons e es ih =>
    cases hstep : step p.1 e with
    | none => simp [run, withGhost, hstep]
    | some s' => simp [run, withGhost, hstep, ih]

end Ghost

end OtelHive.Lib
