import OtelHive.Api.GitSources
import OtelHive.Gitsync.Timer
import OtelHive.Lib.Table
import OtelHive.Proofs.Api.EditSource

/-!
# `OtelHive.Proofs.Gitsync.Timer`: the stored intervals that a poller can wait for

`TimerSafe` says that the computation of the delay neither panics nor overflows, and that the delay
is within a tenth of the interval, whatever the random source returns. It holds for an interval
from 1 to `maxSeconds` seconds and for no other (`timerSafe_iff`).

`CreateSource` stores every interval except 0, and `UpdateSource` every interval that it is given.
So a source that is accepted has a safe timer exactly if its request is in the range
(`timerSafe_stored_iff`).
-/

set_option autoImplicit false

namespace OtelHive.Gitsync.Timer

open OtelHive.Api
open OtelHive.Lib

/-- The largest interval whose delay never overflows: 1.1 times its nanoseconds are below
`2 ^ 63`. -/
def maxSeconds : Int := 8384883669

/-- The arithmetic of the timer is safe for the interval:

- `argument`: `rand.Int63n` gets a positive argument;
- `interval`, `tenth`, `range`, `jitter`, `sum`: no step overflows;
- `delay`: the timer gets a positive delay, from 0.9 to 1.1 times the interval. -/
structure TimerSafe (pollIntervalSeconds : GoInt) : Prop where
  argument : 0 < (jitterRange (interval pollIntervalSeconds)).1
  interval : (interval pollIntervalSeconds).1 = pollIntervalSeconds.1 * second
  tenth : (tenth (Timer.interval pollIntervalSeconds)).1
    = (Timer.interval pollIntervalSeconds).1.tdiv 10
  range : (jitterRange (Timer.interval pollIntervalSeconds)).1
    = (Timer.tenth (Timer.interval pollIntervalSeconds)).1 * 2
  jitter : ∀ rand, ∀ j ∈ jitter rand (Timer.interval pollIntervalSeconds),
    j.1 = (rand.int63n (jitterRange (Timer.interval pollIntervalSeconds))).1
      - (Timer.tenth (Timer.interval pollIntervalSeconds)).1
  sum : ∀ rand, ∀ j ∈ Timer.jitter rand (Timer.interval pollIntervalSeconds),
    ∀ d ∈ delay rand (Timer.interval pollIntervalSeconds),
      d.1 = (Timer.interval pollIntervalSeconds).1 + j.1
  delay : ∀ rand, ∃ d, Timer.delay rand (Timer.interval pollIntervalSeconds) = some d ∧
    9 * (pollIntervalSeconds.1 * second) ≤ 10 * d.1 ∧
    10 * d.1 ≤ 11 * (pollIntervalSeconds.1 * second) ∧ 0 < d.1

/-- The random source that always returns the largest value. -/
def Rand.max : Rand where
  int63n n := .wrap (n.1 - 1)
  int63n_range := by
    intro n hn
    have hbound := n.2
    rw [GoInt.wrap_val (by omega) (by omega)]
    omega

/-- The values of the computation, for an interval in the range. -/
theorem values_of_range {secs : GoInt} (hlow : 1 ≤ secs.1) (hhigh : secs.1 ≤ maxSeconds) :
    (interval secs).1 = secs.1 * second ∧
      (tenth (interval secs)).1 = secs.1 * 100000000 ∧
      (jitterRange (interval secs)).1 = secs.1 * 200000000 := by
  have hmax : secs.1 ≤ 8384883669 := hhigh
  have hinterval : (interval secs).1 = secs.1 * second := by
    unfold interval second
    exact GoInt.wrap_val (by omega) (by omega)
  have htenth : (tenth (interval secs)).1 = secs.1 * 100000000 := by
    have hdiv : (secs.1 * second).tdiv 10 = secs.1 * 100000000 := by
      rw [Int.tdiv_eq_ediv_of_nonneg (by unfold second; omega)]
      unfold second
      omega
    unfold tenth
    rw [hinterval, hdiv]
    exact GoInt.wrap_val (by omega) (by omega)
  refine ⟨hinterval, htenth, ?_⟩
  unfold jitterRange
  rw [htenth, GoInt.wrap_val (by omega) (by omega)]
  omega

/-- The draw is below a fifth of the interval, so the jitter is at most a tenth. -/
theorem delay_of_range {secs : GoInt} (hlow : 1 ≤ secs.1) (hhigh : secs.1 ≤ maxSeconds)
    (rand : Rand) :
    ∃ j d : GoInt, jitter rand (interval secs) = some j ∧ delay rand (interval secs) = some d ∧
      j.1 = (rand.int63n (jitterRange (interval secs))).1 - (tenth (interval secs)).1 ∧
      d.1 = (interval secs).1 + j.1 ∧
      -(secs.1 * 100000000) ≤ j.1 ∧ j.1 < secs.1 * 100000000 := by
  obtain ⟨hinterval, htenth, hrange⟩ := values_of_range hlow hhigh
  have hmax : secs.1 ≤ 8384883669 := hhigh
  have hpos : 0 < (jitterRange (interval secs)).1 := by
    rw [hrange]
    omega
  obtain ⟨hnonneg, hlt⟩ := rand.int63n_range _ hpos
  rw [hrange] at hlt
  have hj : (GoInt.wrap ((rand.int63n (jitterRange (interval secs))).1
      - (tenth (interval secs)).1)).1
        = (rand.int63n (jitterRange (interval secs))).1 - secs.1 * 100000000 := by
    rw [htenth]
    exact GoInt.wrap_val (by omega) (by omega)
  have hjitter : jitter rand (interval secs) = some (.wrap
      ((rand.int63n (jitterRange (interval secs))).1 - (tenth (interval secs)).1)) :=
    if_pos hpos
  generalize GoInt.wrap ((rand.int63n (jitterRange (interval secs))).1
    - (tenth (interval secs)).1) = j at hj hjitter
  have hd : (GoInt.wrap ((interval secs).1 + j.1)).1 = (interval secs).1 + j.1 := by
    rw [hj, hinterval]
    unfold second
    exact GoInt.wrap_val (by omega) (by omega)
  refine ⟨j, _, hjitter, by rw [delay, hjitter]; rfl, by rw [hj, htenth], hd, ?_, ?_⟩
  · rw [hj]
    omega
  · rw [hj]
    omega

/-- An interval in the range has a safe timer. -/
theorem timerSafe_of_range {secs : GoInt} (hlow : 1 ≤ secs.1) (hhigh : secs.1 ≤ maxSeconds) :
    TimerSafe secs := by
  obtain ⟨hinterval, htenth, hrange⟩ := values_of_range hlow hhigh
  have hmax : secs.1 ≤ 8384883669 := hhigh
  have hpos : 0 < (jitterRange (interval secs)).1 := by
    rw [hrange]
    omega
  refine ⟨hpos, hinterval, ?_, by rw [hrange, htenth]; omega, ?_, ?_, ?_⟩
  · rw [htenth, hinterval, Int.tdiv_eq_ediv_of_nonneg (by unfold second; omega)]
    unfold second
    omega
  · intro rand j hj
    obtain ⟨j', d, hj', -, heq, -⟩ := delay_of_range hlow hhigh rand
    rw [Option.mem_def, hj'] at hj
    cases hj
    exact heq
  · intro rand j hj d hd
    obtain ⟨j', d', hj', hd', -, heq, -⟩ := delay_of_range hlow hhigh rand
    rw [Option.mem_def, hj'] at hj
    rw [Option.mem_def, hd'] at hd
    cases hj
    cases hd
    exact heq
  · intro rand
    obtain ⟨j, d, -, hd, -, heq, hjlow, hjhigh⟩ := delay_of_range hlow hhigh rand
    rw [hinterval] at heq
    unfold second at heq
    refine ⟨d, hd, ?_, ?_, ?_⟩
    · unfold second
      omega
    · unfold second
      omega
    · omega

/-- An interval has a safe timer exactly if it is in the range. -/
theorem timerSafe_iff (secs : GoInt) : TimerSafe secs ↔ 1 ≤ secs.1 ∧ secs.1 ≤ maxSeconds := by
  constructor
  · intro h
    have hinterval := h.interval
    have hrange := h.range
    have htenth := h.tenth
    have hargument := h.argument
    rw [hrange, htenth, hinterval] at hargument
    have hpos : 1 ≤ secs.1 := by
      by_contra hneg
      -- A tenth of an interval that is not positive is not positive either.
      have hdiv : 0 ≤ (-(secs.1 * second)).tdiv 10 :=
        Int.tdiv_nonneg (by unfold second; omega) (by omega)
      rw [Int.neg_tdiv] at hdiv
      omega
    refine ⟨hpos, ?_⟩
    -- The largest draw makes the delay a tenth longer than the interval.
    obtain ⟨d, hd, -⟩ := h.delay Rand.max
    obtain ⟨j, hj, -⟩ := Option.map_eq_some_iff.mp hd
    have hsum := h.sum Rand.max j hj d hd
    have hjitter := h.jitter Rand.max j hj
    have hbound := d.2
    have hdiv : (secs.1 * second).tdiv 10 = secs.1 * 100000000 := by
      rw [Int.tdiv_eq_ediv_of_nonneg (by unfold second; omega)]
      unfold second
      omega
    have hdraw : (Rand.max.int63n (jitterRange (interval secs))).1
        = (jitterRange (interval secs)).1 - 1 := by
      have hn := (jitterRange (interval secs)).2
      have hpos' := h.argument
      exact GoInt.wrap_val (by omega) (by omega)
    rw [hdraw, hrange, htenth, hinterval, hdiv] at hjitter
    rw [hinterval, hjitter] at hsum
    unfold second at hsum
    show secs.1 ≤ 8384883669
    omega
  · rintro ⟨hlow, hhigh⟩
    exact timerSafe_of_range hlow hhigh

/-! ### The stored intervals -/

/-- The worker of a new source polls in the interval of the request, and 0 stands for 300. -/
theorem reload_createSource {env : SourceEnv} {t t' : Sources} {gs gs' : SourceRow}
    (h : createSource env t gs = .ok (t', gs')) (env' : SourceEnv) :
    (reload env' t' gs').pollIntervalSeconds
      = if gs.pollIntervalSeconds.1 = 0 then .wrap 300 else gs.pollIntervalSeconds := by
  unfold createSource at h
  split at h
  · cases h
  · have hcreate := (SourceEnv.call_eq_ok h).2
    split at hcreate
    · cases hcreate
    · rename_i hnew
      cases hcreate
      have hnone : t.find? (·.id == (Sources.prepare env gs).id) = none := by
        rw [any_key_eq SourceRow.id, Bool.not_eq_true, Option.isSome_eq_false_iff,
          Option.isNone_iff_eq_none] at hnew
        exact hnew
      unfold reload
      split
      · rename_i row hget
        obtain ⟨-, hfind⟩ := find?_of_get hget
        rw [List.find?_append, hnone] at hfind
        simp only [Option.none_or, List.find?_cons, beq_self_eq_true, Option.some.injEq] at hfind
        rw [← hfind]
        rfl
      · rfl

/-- The worker of an edited source polls in the interval that it is given. -/
theorem reload_updateSource {env : SourceEnv} {t t' : Sources} {gs gs' : SourceRow}
    (h : updateSource env t gs = .ok (t', gs')) (env' : SourceEnv) :
    (reload env' t' gs').pollIntervalSeconds = gs.pollIntervalSeconds := by
  unfold updateSource at h
  split at h
  · cases h
  · cases (SourceEnv.call_eq_ok h).2
    unfold reload
    split
    · rename_i row hget
      obtain ⟨-, hfind⟩ := find?_of_get hget
      have hkey : ∀ r : SourceRow, (r.configuredAs gs env.now).id = r.id := fun _ => rfl
      rw [find?_update_key hkey, if_pos rfl] at hfind
      obtain ⟨row', -, rfl⟩ := Option.map_eq_some_iff.mp hfind
      rfl
    · rfl

/-- The timer of an accepted source is safe exactly if the interval of the request is in the range:
0 is, as `Create` stores 300 for it, and an update that is not positive keeps the interval that
was stored before. -/
theorem timerSafe_stored_iff (env : SourceEnv) (t t' : Sources) (gs' : SourceRow)
    (req : CreateSourceRequest) (existing : SourceRow) (env' : SourceEnv) :
    (createSource env t req.newSource = .ok (t', gs') →
      (TimerSafe (reload env' t' gs').pollIntervalSeconds ↔
        0 ≤ req.pollIntervalSeconds.1 ∧ req.pollIntervalSeconds.1 ≤ maxSeconds)) ∧
    (updateSource env t (req.edit existing) = .ok (t', gs') →
      (TimerSafe (reload env' t' gs').pollIntervalSeconds ↔
        if 0 < req.pollIntervalSeconds.1 then req.pollIntervalSeconds.1 ≤ maxSeconds
        else 1 ≤ existing.pollIntervalSeconds.1 ∧
          existing.pollIntervalSeconds.1 ≤ maxSeconds)) := by
  constructor
  · intro h
    rw [reload_createSource h env', timerSafe_iff]
    show 1 ≤ (if req.pollIntervalSeconds.1 = 0 then GoInt.wrap 300
      else req.pollIntervalSeconds).1 ∧ (if req.pollIntervalSeconds.1 = 0 then GoInt.wrap 300
      else req.pollIntervalSeconds).1 ≤ maxSeconds ↔ _
    by_cases hzero : req.pollIntervalSeconds.1 = 0
    · rw [if_pos hzero, hzero]
      decide
    · rw [if_neg hzero]
      omega
  · intro h
    rw [reload_updateSource h env', timerSafe_iff]
    show 1 ≤ (if 0 < req.pollIntervalSeconds.1 then req.pollIntervalSeconds
      else existing.pollIntervalSeconds).1 ∧ (if 0 < req.pollIntervalSeconds.1
      then req.pollIntervalSeconds else existing.pollIntervalSeconds).1 ≤ maxSeconds ↔ _
    split
    · omega
    · rfl

/-- A request for a source with an interval. -/
def pollRequest (secs : Int) : CreateSourceRequest where
  name := "configs"
  repoURL := "https://example.com/configs"
  provider := "github"
  pollIntervalSeconds := .wrap secs

/-- A source that is created with the default interval has a safe timer. -/
theorem timerSafe_default :
    ∃ t gs, createSource (.quiet 1 "s") [] (pollRequest 0).newSource = .ok (t, gs) ∧
      TimerSafe (reload (.quiet 1 "s") t gs).pollIntervalSeconds := by
  refine ⟨_, _, rfl, ?_⟩
  exact ((timerSafe_stored_iff (.quiet 1 "s") [] _ _ (pollRequest 0) (pollRequest 0).newSource
    (.quiet 1 "s")).1 rfl).mpr (by decide)

/-- A source is created with the interval -1, and its worker panics at the first timer. A larger
interval than a duration can hold is stored as well, and the worker of the edited source
panics. -/
theorem negative_interval_panics :
    (∃ t gs, createSource (.quiet 1 "s") [] (pollRequest (-1)).newSource = .ok (t, gs) ∧
      ¬TimerSafe (reload (.quiet 1 "s") t gs).pollIntervalSeconds ∧
      ∀ rand, delay rand (interval (reload (.quiet 1 "s") t gs).pollIntervalSeconds) = none) ∧
    ∃ t gs, updateSource (.quiet 2 "s")
        [{ (pollRequest 300).newSource with id := "s" }]
        ((pollRequest 10000000000).edit { (pollRequest 300).newSource with id := "s" })
          = .ok (t, gs) ∧
      ∀ rand, delay rand (interval (reload (.quiet 2 "s") t gs).pollIntervalSeconds) = none := by
  have hpanics : ∀ (rand : Rand) (d : GoInt), ¬0 < (jitterRange d).1 → delay rand d = none := by
    intro rand d hrange
    rw [delay, jitter, if_neg hrange]
    rfl
  refine ⟨⟨_, _, rfl, ?_, fun rand => hpanics rand _ (by decide)⟩, _, _, rfl,
    fun rand => hpanics rand _ (by decide)⟩
  intro hsafe
  exact absurd hsafe.argument (by decide)

end OtelHive.Gitsync.Timer
