import OtelHive.Gitsync.Sources

/-!
# `OtelHive.Gitsync.Timer`: how long a poller waits

The timer of `worker.run`. A duration is an `int64` of nanoseconds, and the interval, its tenth, the
jitter and the delay are computed one after the other in this type. The random source is any
source with the range that `rand.Int63n` promises.
-/

set_option autoImplicit false

namespace OtelHive.Gitsync.Timer

/-- `rand.Int63n` on the arguments for which it returns. -/
structure Rand where
  int63n : GoInt → GoInt
  int63n_range : ∀ n, 0 < n.1 → 0 ≤ (int63n n).1 ∧ (int63n n).1 < n.1

/-- `time.Second`. -/
def second : Int := 1000000000

/-- The source that `run` polls for: the first sync has read it again, if the read succeeds. -/
def reload (env : SourceEnv) (t : Sources) (gs : SourceRow) : SourceRow :=
  match t.get env gs.id with
  | .ok gs => gs
  | .error _ => gs

/-- `interval`. -/
def interval (pollIntervalSeconds : GoInt) : GoInt := .wrap (pollIntervalSeconds.1 * second)

/-- `interval/10`, rounded toward zero. -/
def tenth (interval : GoInt) : GoInt := .wrap (interval.1.tdiv 10)

/-- The argument of `rand.Int63n`. -/
def jitterRange (interval : GoInt) : GoInt := .wrap ((tenth interval).1 * 2)

/-- `jitter`, or `none` when `rand.Int63n` panics: its argument is not positive. -/
def jitter (rand : Rand) (interval : GoInt) : Option GoInt :=
  let n := jitterRange interval
  if 0 < n.1 then some (.wrap ((rand.int63n n).1 - (tenth interval).1)) else none

/-- The delay of `time.NewTimer`. -/
def delay (rand : Rand) (interval : GoInt) : Option GoInt :=
  (jitter rand interval).map fun jitter => .wrap (interval.1 + jitter.1)

end OtelHive.Gitsync.Timer
