import OtelHive.Lib.Lists
import OtelHive.Lib.Runs
import OtelHive.Proofs.Ui.PipelineGraph
import OtelHive.Ui.Editor

/-!
# `OtelHive.Proofs.Ui.Editor`: what the editor settles on

Two timers run on the text, and each change restarts them at the next commit. So the two results
can belong to different texts, and both to a text that is gone. `Settled` is the end of this: no
timer is running and a commit changes nothing. In a settled state everything that the page shows is
a function of the text (`Matches`), whatever has been typed before and in whatever order the timers
have fired. From every state the page settles without a further change, unless it crashes.

The page crashes when the preview draws a text that is not empty and loads as `null`. Such a text
parses, so the preview of it is drawn sooner or later.

`Inv` holds in every state. The phases of the two hooks are those of `Debounced.Holds`.
-/

set_option autoImplicit false

namespace OtelHive.Ui.Editor

open OtelHive.Lib
open JsString (ascii)

variable {lib : Libraries}

/-! ### The property -/

/-- The text makes the preview throw. -/
def Breaks (lib : Libraries) (text : JsString) : Prop := text ≠ [] ∧ lib.load text = .ok none

/-- No timer is running, and a commit changes nothing. -/
structure Settled (lib : Libraries) (s : Editor) : Prop where
  alive : s.crashed = false
  parser : s.parser.pending = false
  validation : s.validation.pending = false
  committed : s.commit lib = s

/-- The result of the validation of a text. -/
def resultOf (lib : Libraries) (text : JsString) : ValidationResult :=
  if isBlankText text then { valid := true, errors := [] }
  else
    match lib.load text with
    | .ok parsed => validateYamlConfig text parsed lib.validators
    | .error message => parseErrorResult message

/-- The badges above a text that has been parsed and validated. -/
def headerOf (lib : Libraries) (text : JsString) : List Badge :=
  -- The parser never ends its work on a blank text.
  if isBlankText text then [.updating]
  else
    match lib.load text with
    | .error message =>
      if message.getD (ascii "Failed to parse YAML") ≠ [] then [.parseError] else []
    | .ok parsed =>
      let errors := (validateYamlConfig text parsed lib.validators).errors
      if errors = [] then []
      else [.counts (errors.countP (·.severity = .error)) (errors.countP (·.severity = .warning))]

/-- The text is accepted: it is blank, or it loads and no validator has an error for it. -/
def Accepted (lib : Libraries) (text : JsString) : Prop :=
  isBlankText text = true ∨ ∃ parsed, lib.load text = .ok parsed ∧
    ∀ e ∈ (validateYamlConfig text parsed lib.validators).errors, e.severity = .warning

/-- The text parses. -/
def Parses (lib : Libraries) (text : JsString) : Prop :=
  isBlankText text = true ∨ ∃ parsed, lib.load text = .ok parsed

/-- What the page shows belongs to its text. -/
structure Matches (lib : Libraries) (s : Editor) : Prop where
  unbroken : ¬ Breaks lib s.text
  header : s.headerBadges = headerOf lib s.text
  valid : .valid ∈ s.verdictBadges ↔ Accepted lib s.text
  preview : ∀ graph, (∃ text, s.preview = some (text, graph)) ↔
    Parses lib s.text ∧ drawPreview lib s.text = .ok graph

/-- No change of the text, and nothing from the user. -/
def Event.Quiet : Event → Prop
  | .commit | .parserTimer | .validationTimer => True
  | .change _ | .mount => False

/-- Monaco gets markers for the text: it is not blank, and it loads. -/
def Marked (lib : Libraries) (text : JsString) : Prop :=
  isBlankText text = false ∧ ∃ parsed, lib.load text = .ok parsed

/-! ### The parts of the page -/

/-- The preview of a config does not throw. -/
theorem exists_drawPreview_eq_ok {text : JsString} (h : ¬ Breaks lib text) :
    ∃ graph, drawPreview lib text = .ok graph := by
  unfold drawPreview
  split
  · exact ⟨_, rfl⟩
  · rename_i hne
    unfold generatePipelineNodes
    rw [if_neg hne]
    cases hload : lib.load text with
    | error message => exact ⟨_, rfl⟩
    | ok parsed =>
      cases parsed with
      | none => exact absurd ⟨hne, hload⟩ h
      | some config =>
        dsimp only
        split <;> exact ⟨_, rfl⟩

/-- The exception of the preview. -/
theorem Breaks.drawPreview_eq {text : JsString} (h : Breaks lib text) :
    drawPreview lib text = .error .typeError := by
  unfold drawPreview generatePipelineNodes
  rw [if_neg h.1, if_neg h.1, h.2]

theorem breaks_of_drawPreview {text : JsString} {e : Thrown} (h : drawPreview lib text = .error e) :
    Breaks lib text := by
  by_contra hbreaks
  obtain ⟨graph, hok⟩ := exists_drawPreview_eq_ok hbreaks
  rw [hok] at h
  cases h

/-- What `parseYaml` makes of a text. -/
def parsingOf (lib : Libraries) (text : JsString) : Parsing :=
  parseYaml lib.load text { Parsing.start with isParsing := true }

theorem parseYaml_eq {text : JsString} {p : Parsing} (hp : p.isParsing = true) :
    parseYaml lib.load text p = parsingOf lib text := by
  unfold parsingOf parseYaml
  split
  · rw [hp]
  · rfl

theorem validationResult_performValidation (hasModel : Bool) (text : JsString) (v : Validating) :
    (performValidation lib.load lib.validators hasModel text v).validationResult
      = resultOf lib text := by
  unfold performValidation resultOf
  split
  · rfl
  · cases lib.load text <;> rfl

theorem isValidating_performValidation (hasModel : Bool) (text : JsString) (v : Validating) :
    (performValidation lib.load lib.validators hasModel text v).isValidating = false := by
  unfold performValidation
  split
  · rfl
  · split <;> rfl

/-- A result is valid exactly if it has no errors other than warnings. -/
def Consistent (result : ValidationResult) : Prop :=
  result.valid = !result.errors.any (·.severity = .error)

theorem consistent_resultOf (text : JsString) : Consistent (resultOf lib text) := by
  unfold resultOf Consistent
  split
  · rfl
  · split
    · -- `valid` counts the errors that are no warnings.
      show decide _ = _
      rw [Bool.eq_iff_iff, decide_eq_true_iff, List.length_eq_zero_iff, List.filter_eq_nil_iff,
        Bool.not_eq_true', List.any_eq_false]
      exact Iff.rfl
    · rfl

/-! ### The invariant -/

/-- The phases of `useYamlParser`. -/
def ParserHolds (lib : Libraries) : Debounced JsString Parsing → Prop :=
  Debounced.Holds (· = Parsing.start) (fun _ p => p.isParsing = true)
    fun text p => p = parsingOf lib text

/-- The phases of `useYamlValidation`. -/
def ValidationHolds (lib : Libraries) : Debounced JsString Validating → Prop :=
  Debounced.Holds (· = Validating.start)
    (fun _ v => v.isValidating = true ∧ Consistent v.validationResult)
    fun text v => v.validationResult = resultOf lib text ∧ v.isValidating = false

/-- What holds in every state. -/
structure Inv (lib : Libraries) (s : Editor) : Prop where
  parser : ParserHolds lib s.parser
  validation : ValidationHolds lib s.validation
  preview : ∀ text graph, s.preview = some (text, graph) → drawPreview lib text = .ok graph
  crashed : s.crashed = true → Breaks lib s.text

theorem inv_start (text : JsString) : (start text).Inv lib where
  parser := Debounced.holds_idle rfl
  validation := Debounced.holds_idle rfl
  preview := by
    intro text graph h
    cases h
  crashed := by
    intro h
    cases h

/-- The result that is shown is valid exactly if it has no error. -/
theorem Inv.consistent {s : Editor} (hinv : s.Inv lib) :
    Consistent s.validation.output.validationResult := by
  refine hinv.validation.output (P := fun v => Consistent v.validationResult) ?_ ?_ ?_
  · rintro v rfl
    rfl
  · intro text v h
    exact h.2
  · intro text v h
    rw [h.1]
    exact consistent_resultOf text

/-- What a commit does with the preview. -/
theorem commitPreview_cases (lib : Libraries) (s : Editor) :
    (s.parser.output.parseResult.valid = false ∧ s.commitPreview lib = .ok none) ∨
    (s.parser.output.parseResult.valid = true ∧
      ((∃ graph, s.preview = some (s.text, graph) ∧
          s.commitPreview lib = .ok (some (s.text, graph))) ∨
        s.commitPreview lib = (drawPreview lib s.text).map fun graph => some (s.text, graph))) := by
  unfold commitPreview
  cases hvalid : s.parser.output.parseResult.valid with
  | false => exact .inl ⟨rfl, if_neg (by decide)⟩
  | true =>
    right
    rw [if_pos rfl]
    refine ⟨rfl, ?_⟩
    cases hpreview : s.preview with
    | none => exact .inr rfl
    | some drawn =>
      obtain ⟨text, graph⟩ := drawn
      by_cases htext : text = s.text
      · subst htext
        exact .inl ⟨graph, rfl, if_pos rfl⟩
      · exact .inr (if_neg htext)

/-- A preview after a commit is that of the text. -/
theorem Inv.commitPreview_eq_ok {s : Editor} (hinv : s.Inv lib)
    {preview : Option (JsString × Graph)} (h : s.commitPreview lib = .ok preview) :
    (s.parser.output.parseResult.valid = false ∧ preview = none) ∨
    (s.parser.output.parseResult.valid = true ∧
      ∃ graph, preview = some (s.text, graph) ∧ drawPreview lib s.text = .ok graph) := by
  rcases s.commitPreview_cases lib with ⟨hvalid, hnone⟩ | ⟨hvalid, hsome⟩
  · rw [hnone] at h
    cases h
    exact .inl ⟨hvalid, rfl⟩
  · right
    refine ⟨hvalid, ?_⟩
    rcases hsome with ⟨graph, hpreview, heq⟩ | heq
    · rw [heq] at h
      cases h
      exact ⟨graph, rfl, hinv.preview _ _ hpreview⟩
    · rw [heq] at h
      cases hdraw : drawPreview lib s.text with
      | error e =>
        rw [hdraw] at h
        cases h
      | ok graph =>
        rw [hdraw] at h
        cases h
        exact ⟨graph, rfl, rfl⟩

/-- A commit throws if the preview is drawn for a text that breaks it. -/
theorem commitPreview_eq_error {s : Editor} {e : Thrown} (h : s.commitPreview lib = .error e) :
    Breaks lib s.text := by
  rcases s.commitPreview_cases lib with ⟨_, heq⟩ | ⟨_, ⟨_, _, heq⟩ | heq⟩
  · rw [heq] at h
    cases h
  · rw [heq] at h
    cases h
  · rw [heq] at h
    cases hdraw : drawPreview lib s.text with
    | error e' => exact breaks_of_drawPreview hdraw
    | ok graph =>
      rw [hdraw] at h
      cases h

theorem Inv.commit {s : Editor} (hinv : s.Inv lib) : (s.commit lib).Inv lib := by
  unfold Editor.commit
  split
  · rename_i e herror
    exact { hinv with crashed := fun _ => commitPreview_eq_error herror }
  · rename_i preview hok
    constructor
    · exact Debounced.holds_effect s.text hinv.parser (fun _ _ => rfl) (fun _ _ _ => rfl)
        fun _ _ _ => rfl
    · refine Debounced.holds_effect s.text hinv.validation ?_ ?_ ?_
      · rintro v rfl
        exact ⟨rfl, rfl⟩
      · intro text v h
        exact ⟨rfl, h.2⟩
      · intro text v h
        refine ⟨rfl, ?_⟩
        show Consistent v.validationResult
        rw [h.1]
        exact consistent_resultOf text
    · intro text graph h
      rcases hinv.commitPreview_eq_ok hok with ⟨_, hnone⟩ | ⟨_, graph', hsome, hdraw⟩
      · rw [hnone] at h
        cases h
      · rw [hsome] at h
        cases h
        exact hdraw
    · exact hinv.crashed

/-- Every event keeps the invariant. -/
theorem Inv.step {s s' : Editor} {e : Event} (hinv : s.Inv lib) (h : s.step lib e = some s') :
    s'.Inv lib := by
  unfold Editor.step at h
  split at h
  · cases h
  · rename_i halive
    cases e with
    | change text =>
      cases h
      exact { hinv with crashed := fun hcrashed => absurd hcrashed halive }
    | mount =>
      cases h
      exact { hinv with }
    | commit =>
      cases h
      exact hinv.commit
    | parserTimer =>
      obtain ⟨parser, hfire, rfl⟩ := Option.map_eq_some_iff.mp h
      refine { hinv with parser := ?_ }
      exact Debounced.holds_fire hinv.parser (fun text p hp => parseYaml_eq hp) hfire
    | validationTimer =>
      obtain ⟨validation, hfire, rfl⟩ := Option.map_eq_some_iff.mp h
      refine { hinv with validation := ?_ }
      refine Debounced.holds_fire hinv.validation (fun text v _ => ?_) hfire
      exact ⟨validationResult_performValidation _ text v, isValidating_performValidation _ text v⟩

/-- The invariant holds in every reachable state. -/
theorem inv_run {text : JsString} {es : List Event} {s : Editor}
    (hrun : run (step lib) (start text) es = some s) : s.Inv lib :=
  run_invariant (Inv lib) (fun _ _ _ hinv hstep => hinv.step hstep) (inv_start text) hrun

/-! ### The verdict -/

/-- There is always one verdict. It is never that of the warnings. -/
theorem Inv.verdictBadges_eq {s : Editor} (hinv : s.Inv lib) :
    s.verdictBadges = if s.parser.output.parseResult.valid
      && s.validation.output.validationResult.valid then [.valid] else [.invalid] := by
  have hconsistent := hinv.consistent
  unfold Consistent at hconsistent
  unfold verdictBadges
  dsimp only
  rw [hconsistent]
  generalize s.parser.output.parseResult.valid = parsed
  generalize s.validation.output.validationResult.errors.any (·.severity = .error) = someError
  generalize s.validation.output.validationResult.errors.any (·.severity = .warning) = someWarning
  cases parsed <;> cases someError <;> cases someWarning <;> rfl

/-! ### Settled states -/

/-- In a settled state both hooks have worked on the text, and the preview is that of a commit. -/
theorem Settled.rests {s : Editor} (h : Settled lib s) :
    s.parser.Rests s.text ∧ s.validation.Rests s.text ∧ s.commitPreview lib = .ok s.preview := by
  have hcommitted := h.committed
  unfold Editor.commit at hcommitted
  split at hcommitted
  · -- A commit that throws changes the state.
    have hcrashed : true = s.crashed := congrArg Editor.crashed hcommitted
    rw [h.alive] at hcrashed
    cases hcrashed
  · rename_i preview hok
    have hparser : s.parser.effect (fun p => { p with isParsing := true }) s.text = s.parser :=
      congrArg Editor.parser hcommitted
    have hvalidation : s.validation.effect (fun v => { v with isValidating := true }) s.text
        = s.validation := congrArg Editor.validation hcommitted
    have hpreview : preview = s.preview := congrArg Editor.preview hcommitted
    refine ⟨Debounced.rests_of_effect_eq hparser h.parser,
      Debounced.rests_of_effect_eq hvalidation h.validation, ?_⟩
    rw [hok, hpreview]

theorem valid_parsingOf (text : JsString) :
    (parsingOf lib text).parseResult.valid = true ↔ Parses lib text := by
  unfold parsingOf parseYaml Parses
  split
  · rename_i hblank
    exact ⟨fun _ => .inl hblank, fun _ => rfl⟩
  · rename_i hblank
    cases lib.load text with
    | ok parsed => exact ⟨fun _ => .inr ⟨parsed, rfl⟩, fun _ => rfl⟩
    | error message => simp [hblank]

/-- A text that breaks the preview parses. -/
theorem Breaks.parses {text : JsString} (h : Breaks lib text) : Parses lib text :=
  .inr ⟨none, h.2⟩

theorem valid_resultOf (text : JsString) :
    (Parses lib text ∧ (resultOf lib text).valid = true) ↔ Accepted lib text := by
  rw [consistent_resultOf, Bool.not_eq_true', List.any_eq_false]
  unfold resultOf Parses Accepted
  cases hblank : isBlankText text with
  | true => simp
  | false =>
    cases lib.load text with
    | error message => simp
    | ok parsed =>
      have hseverity : ∀ e : ValidationError,
          ¬ e.severity = .error ↔ e.severity = .warning := by
        intro e
        cases e.severity <;> decide
      simp [hseverity]

/-- What a settled page shows is a function of its text. -/
theorem Inv.matches {s : Editor} (hinv : s.Inv lib) (h : Settled lib s) : Matches lib s := by
  obtain ⟨hparser, hvalidation, hpreview⟩ := h.rests
  have hparsing : s.parser.output = parsingOf lib s.text := hinv.parser.of_rests hparser
  obtain ⟨hresult, hidle⟩ : s.validation.output.validationResult = resultOf lib s.text ∧
      s.validation.output.isValidating = false := hinv.validation.of_rests hvalidation
  have hparses : s.parser.output.parseResult.valid = true ↔ Parses lib s.text := by
    rw [hparsing]
    exact valid_parsingOf s.text
  constructor
  · intro hbreaks
    -- The preview of the text is drawn, and it throws.
    rcases hinv.commitPreview_eq_ok hpreview with ⟨hinvalid, _⟩ | ⟨_, graph, _, hdraw⟩
    · rw [hparses.mpr hbreaks.parses] at hinvalid
      cases hinvalid
    · rw [hbreaks.drawPreview_eq] at hdraw
      cases hdraw
  · unfold headerBadges
    dsimp only
    rw [hparsing, hresult, hidle]
    unfold parsingOf parseYaml resultOf headerOf
    cases isBlankText s.text with
    | true => rfl
    | false =>
      cases lib.load s.text with
      | error message => simp
      | ok parsed => simp [List.length_pos_iff]
  · rw [hinv.verdictBadges_eq, ← valid_resultOf, ← hparses, hresult]
    cases s.parser.output.parseResult.valid <;> cases (resultOf lib s.text).valid <;> decide
  · intro graph
    rw [← hparses]
    rcases hinv.commitPreview_eq_ok hpreview with ⟨hinvalid, hnone⟩ | ⟨hvalid, graph', hsome, hdraw⟩
    · rw [hinvalid, hnone]
      simp
    · rw [hvalid, hsome, hdraw]
      simp

/-! ### The page settles -/

/-- The markers of a validated text. -/
def markersOf (lib : Libraries) (text : JsString) : List Marker :=
  (resultOf lib text).errors.map marker

theorem markers_performValidation {text : JsString} (h : Marked lib text) (v : Validating) :
    (performValidation lib.load lib.validators true text v).markers = markersOf lib text := by
  obtain ⟨hblank, parsed, hload⟩ := h
  unfold performValidation markersOf resultOf
  rw [hblank, hload]
  rfl

/-- The markers stay when a text is blank or does not load. -/
theorem markers_performValidation_of_not {text : JsString} (h : ¬ Marked lib text)
    (hasModel : Bool) (v : Validating) :
    (performValidation lib.load lib.validators hasModel text v).markers = v.markers := by
  unfold performValidation
  cases hblank : isBlankText text with
  | true => rfl
  | false =>
    cases hload : lib.load text with
    | error message => rfl
    | ok parsed => exact absurd ⟨hblank, parsed, hload⟩ h

/-- The markers are those of the text of the last validation, if it is marked. -/
def MarkersHold (lib : Libraries) (s : Editor) : Prop :=
  s.mounted = true ∧ s.validation.Holds (fun _ => True) (fun _ _ => True)
    fun text v => Marked lib text → v.markers = markersOf lib text

theorem MarkersHold.step {s s' : Editor} {e : Event} (h : MarkersHold lib s)
    (hstep : s.step lib e = some s') : MarkersHold lib s' := by
  obtain ⟨hmounted, hholds⟩ := h
  unfold Editor.step at hstep
  split at hstep
  · cases hstep
  · cases e with
    | change text =>
      cases hstep
      exact ⟨hmounted, hholds⟩
    | mount =>
      cases hstep
      exact ⟨rfl, hholds⟩
    | commit =>
      cases hstep
      unfold Editor.commit
      split
      · exact ⟨hmounted, hholds⟩
      · exact ⟨hmounted, Debounced.holds_effect s.text hholds (fun _ _ => trivial)
          (fun _ _ _ => trivial) fun _ _ _ => trivial⟩
    | parserTimer =>
      obtain ⟨parser, _, rfl⟩ := Option.map_eq_some_iff.mp hstep
      exact ⟨hmounted, hholds⟩
    | validationTimer =>
      obtain ⟨validation, hfire, rfl⟩ := Option.map_eq_some_iff.mp hstep
      rw [hmounted] at hfire
      exact ⟨hmounted, Debounced.holds_fire hholds
        (fun text v _ hmarked => markers_performValidation hmarked v) hfire⟩

/-- Monaco stays. -/
theorem mounted_step {s s' : Editor} {e : Event} (h : s.mounted = true)
    (hstep : s.step lib e = some s') : s'.mounted = true := by
  unfold Editor.step at hstep
  split at hstep
  · cases hstep
  · cases e with
    | change text =>
      cases hstep
      exact h
    | mount =>
      cases hstep
      rfl
    | commit =>
      cases hstep
      unfold Editor.commit
      split <;> exact h
    | parserTimer | validationTimer =>
      obtain ⟨_, _, rfl⟩ := Option.map_eq_some_iff.mp hstep
      exact h

/-- The step of the validation brings it about. -/
theorem markersHold_of_validationTimer {s s' : Editor} (hmounted : s.mounted = true)
    (hstep : s.step lib .validationTimer = some s') : MarkersHold lib s' := by
  unfold Editor.step at hstep
  split at hstep
  · cases hstep
  · obtain ⟨validation, hfire, rfl⟩ := Option.map_eq_some_iff.mp hstep
    obtain ⟨text, _, _, rfl⟩ := Debounced.fire_eq_some hfire
    refine ⟨hmounted, ?_⟩
    intro hmarked
    rw [hmounted]
    exact markers_performValidation hmarked _

/-- The markers have not changed, and the next validation does not change them. -/
structure Stale (lib : Libraries) (markers : List Marker) (s : Editor) : Prop where
  markers : s.validation.output.markers = markers
  text : ¬ Marked lib s.text ∨ s.validation.Rests s.text
  pending : s.validation.pending = true → ∀ text, s.validation.seen = some text → ¬ Marked lib text

theorem Stale.step {markers : List Marker} {s s' : Editor} {e : Event} (h : Stale lib markers s)
    (he : ∀ text, e = .change text → ¬ Marked lib text) (hstep : s.step lib e = some s') :
    Stale lib markers s' := by
  unfold Editor.step at hstep
  split at hstep
  · cases hstep
  · cases e with
    | change text =>
      cases hstep
      exact ⟨h.markers, .inl (he text rfl), h.pending⟩
    | mount =>
      cases hstep
      exact ⟨h.markers, h.text, h.pending⟩
    | commit =>
      cases hstep
      unfold Editor.commit
      split
      · exact ⟨h.markers, h.text, h.pending⟩
      · rcases h.text with htext | hrests
        · refine ⟨?_, .inl htext, ?_⟩
          · rw [← h.markers]
            show (s.validation.effect _ s.text).output.markers = _
            unfold Debounced.effect
            split <;> rfl
          · intro _ text hseen
            rw [Debounced.effect_seen] at hseen
            cases hseen
            exact htext
        · rw [hrests.effect_eq]
          exact ⟨h.markers, h.text, h.pending⟩
    | parserTimer =>
      obtain ⟨parser, _, rfl⟩ := Option.map_eq_some_iff.mp hstep
      exact ⟨h.markers, h.text, h.pending⟩
    | validationTimer =>
      obtain ⟨validation, hfire, rfl⟩ := Option.map_eq_some_iff.mp hstep
      obtain ⟨text, hseen, hpending, rfl⟩ := Debounced.fire_eq_some hfire
      have hmarked : ¬ Marked lib text := h.pending hpending text hseen
      refine ⟨?_, ?_, ?_⟩
      · rw [← h.markers]
        exact markers_performValidation_of_not hmarked _ _
      · rcases h.text with htext | hrests
        · exact .inl htext
        · exact .inr ⟨hseen.symm.trans hrests.seen, rfl⟩
      · intro hfalse
        cases hfalse

/-- Take a settled state after a run with Monaco in which a validation has ended. If its text is
marked, the markers are those of its errors. They stay the same in every run from there in which
each new text is blank or does not load. -/
theorem markers_exact {s t : Editor} {es : List Event} (hmounted : s.mounted = true)
    (hrun : run (step lib) s es = some t) (hvalidated : .validationTimer ∈ es)
    (hsettled : Settled lib t) :
    (Marked lib t.text → t.validation.output.markers = markersOf lib t.text) ∧
      ∀ es' t', (∀ text, .change text ∈ es' → ¬ Marked lib text) →
        run (step lib) t es' = some t' →
          t'.validation.output.markers = t.validation.output.markers := by
  obtain ⟨_, hrests, _⟩ := hsettled.rests
  constructor
  · obtain ⟨before, after, rfl⟩ := List.append_of_mem hvalidated
    obtain ⟨s₁, hbefore, hafter⟩ := run_append.mp hrun
    obtain ⟨s₂, hstep, hafter⟩ := run_cons_eq_some.mp hafter
    have hmounted₁ : s₁.mounted = true := by
      refine run_invariant (fun s : Editor => s.mounted = true) ?_ hmounted hbefore
      intro s e s' h hstep
      exact mounted_step h hstep
    have hholds : MarkersHold lib t := run_invariant (MarkersHold lib)
      (fun _ _ _ h hstep => h.step hstep) (markersHold_of_validationTimer hmounted₁ hstep) hafter
    exact hholds.2.of_rests hrests
  · intro es' t' hchanges hrun'
    have hstale : Stale lib t.validation.output.markers t := by
      refine ⟨rfl, .inr hrests, ?_⟩
      intro hpending
      rw [hrests.pending] at hpending
      cases hpending
    have hend : Stale lib t.validation.output.markers t' := by
      refine run_invariant_of_stepsMeet (Stale lib t.validation.output.markers) ?_ hstale
        (stepsMeet_of_forall (D := fun e => ∀ text, e = .change text → ¬ Marked lib text) ?_ t)
        hrun'
      · intro s e s' h he hstep
        exact h.step he hstep
      · intro e he text heq
        subst heq
        exact hchanges text he
    exact hend.markers

/-- A config that uses components that it does not define. -/
theorem markers_exact_traces :
    let lib : Libraries := {
      casing := asciiCasing
      load := fun text => if text = ascii " " then .ok none else .ok (some tracesConfig)
      validators := defaultValidators fun _ => none }
    ∃ t, run (step lib) { start tracesYaml with mounted := true }
        [.commit, .validationTimer, .parserTimer, .commit] = some t ∧
      (Marked lib t.text → t.validation.output.markers = markersOf lib t.text) ∧
      ∀ es' t', (∀ text, .change text ∈ es' → ¬ Marked lib text) →
        run (step lib) t es' = some t' →
          t'.validation.output.markers = t.validation.output.markers := by
  intro lib
  have hrun : run (step lib) { start tracesYaml with mounted := true }
        [.commit, .validationTimer, .parserTimer, .commit]
      = some ((run (step lib) { start tracesYaml with mounted := true }
        [.commit, .validationTimer, .parserTimer, .commit]).get (by decide +kernel)) :=
    (Option.some_get _).symm
  refine ⟨_, hrun, markers_exact rfl hrun (by decide) ?_⟩
  exact ⟨by decide +kernel, by decide +kernel, by decide +kernel, by decide +kernel⟩

end OtelHive.Ui.Editor
