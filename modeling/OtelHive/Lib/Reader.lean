import Mathlib.Data.List.Infix

/-!
# `OtelHive.Lib.Reader`: streams that can break off

A `Stream` is a body on its way to a reader. It arrives in reads of any size, and it ends with
the end of the stream or with a failure. What arrived is a prefix of the body, and all of it at
the end of the stream.

There are three readers. `readAll` returns a failure to its caller, and `readUntilError` does
not. `readValue` returns one value, the end of which a `Scanner` finds, and reads no further.
None of them depends on the sizes of the reads (`readAll_eq`, `readUntilError_eq`,
`readValue_eq`). A value that was read from a stream that broke off is the value of the whole
body (`Stream.value_of_readValue`).
-/

set_option autoImplicit false

namespace OtelHive.Lib

/-- How a stream ends. -/
inductive StreamEnd where
  | eof
  | failed (text : String)
deriving DecidableEq

/-- A body, as it arrives: the reads without an error, the bytes of the last read, and the error
that comes with them. -/
structure Stream where
  body : List UInt8
  reads : List (List UInt8)
  last : List UInt8
  stop : StreamEnd
  isPrefix : reads.flatten ++ last <+: body
  atEnd : stop = .eof → reads.flatten ++ last = body
deriving DecidableEq

namespace Stream

variable (s : Stream)

/-- The bytes that arrived. -/
def received : List UInt8 := s.reads.flatten ++ s.last

/-- The stream that brings the whole body at once. -/
def whole (body : List UInt8) : Stream where
  body := body
  reads := [body]
  last := []
  stop := .eof
  isPrefix := by simp
  atEnd := by simp

theorem received_whole (body : List UInt8) : (whole body).received = body := by
  simp [received, whole]

theorem received_prefix : s.received <+: s.body := s.isPrefix

theorem received_of_eof (h : s.stop = .eof) : s.received = s.body := s.atEnd h

end Stream

/-! ### Readers of a body -/

/-- A read loop that stops at any error and drops it. -/
def readUntilError (buf : List UInt8) : List (List UInt8) → List UInt8 → List UInt8
  | [], last => buf ++ last
  | chunk :: reads, last => readUntilError (buf ++ chunk) reads last

/-- A read loop that stops at any error and returns it, unless it is the end of the stream. -/
def readAll (stop : StreamEnd) (buf : List UInt8) :
    List (List UInt8) → List UInt8 → Except String (List UInt8)
  | [], last =>
    match stop with
    | .eof => .ok (buf ++ last)
    | .failed text => .error text
  | chunk :: reads, last => readAll stop (buf ++ chunk) reads last

theorem readUntilError_eq (buf last : List UInt8) (reads : List (List UInt8)) :
    readUntilError buf reads last = buf ++ (reads.flatten ++ last) := by
  induction reads generalizing buf with
  | nil => simp [readUntilError]
  | cons chunk reads ih => simp [readUntilError, ih]

theorem readAll_eq (stop : StreamEnd) (buf last : List UInt8) (reads : List (List UInt8)) :
    readAll stop buf reads last =
      match stop with
      | .eof => .ok (buf ++ (reads.flatten ++ last))
      | .failed text => .error text := by
  induction reads generalizing buf with
  | nil => cases stop <;> simp [readAll]
  | cons chunk reads ih => cases stop <;> simp [readAll, ih]

/-- What `readAll` returns is the body. -/
theorem Stream.body_of_readAll (s : Stream) {bytes : List UInt8}
    (h : readAll s.stop [] s.reads s.last = .ok bytes) : bytes = s.body := by
  rw [readAll_eq] at h
  cases hstop : s.stop with
  | eof =>
    rw [hstop] at h
    have hbytes : s.received = bytes := by simpa [received] using h
    rw [← hbytes, s.received_of_eof hstop]
  | failed text => simp [hstop] at h

/-! ### Readers of one value -/

/-- What a byte tells a scanner. -/
inductive Verdict where
  /-- The value goes on. -/
  | more
  /-- The value ended before the byte. -/
  | done
  /-- The byte closes a bracket. -/
  | closed
  | error
deriving DecidableEq

/-- A scanner: a state, and what a byte does to it. -/
structure Scanner where
  State : Type
  start : State
  step : State → UInt8 → State × Verdict

/-- The result of a scan: it needs more bytes, or it found the end of the value. -/
inductive Scan (State : Type) where
  | more (s : State) (value : List UInt8)
  | found (value : List UInt8)
  | error

namespace Scanner

variable (sc : Scanner)

/-- A blank would end the value here. -/
def ended (s : sc.State) : Bool := (sc.step s 32).2 = .done

/-- Scan the bytes, after those of the value so far. A bracket that closes the value ends it, so
that the byte after it need not arrive. -/
def scan : sc.State → List UInt8 → List UInt8 → Scan sc.State
  | s, value, [] => .more s value
  | s, value, c :: rest =>
    match sc.step s c with
    | (s', .more) => scan s' (value ++ [c]) rest
    | (_, .done) => .found value
    | (s', .closed) =>
      if sc.ended s' then .found (value ++ [c]) else scan s' (value ++ [c]) rest
    | (_, .error) => .error

/-- What the error of the last read makes of a scan. -/
def finish (stop : StreamEnd) : Scan sc.State → Option (List UInt8)
  | .found value => some value
  | .error => none
  | .more s value =>
    match stop with
    | .eof => if sc.ended s then some value else none
    | .failed _ => none

/-- Read one value. After each read, its bytes are scanned before its error is looked at. -/
def readValue (stop : StreamEnd) (s : sc.State) (value : List UInt8) :
    List (List UInt8) → List UInt8 → Option (List UInt8)
  | [], last => sc.finish stop (sc.scan s value last)
  | chunk :: reads, last =>
    match sc.scan s value chunk with
    | .found value => some value
    | .error => none
    | .more s' value' => readValue stop s' value' reads last

/-- A scan goes on where the scan of the first bytes ended. -/
theorem scan_append (s : sc.State) (value a b : List UInt8) :
    sc.scan s value (a ++ b) =
      match sc.scan s value a with
      | .more s' value' => sc.scan s' value' b
      | .found value' => .found value'
      | .error => .error := by
  induction a generalizing s value with
  | nil => rfl
  | cons c rest ih =>
    simp only [List.cons_append, scan]
    cases hstep : sc.step s c with
    | mk s' verdict =>
      cases verdict with
      | more => exact ih s' (value ++ [c])
      | done => rfl
      | closed =>
        by_cases hended : sc.ended s'
        · simp [hended]
        · simpa [hended] using ih s' (value ++ [c])
      | error => rfl

theorem readValue_eq (stop : StreamEnd) (s : sc.State) (value last : List UInt8)
    (reads : List (List UInt8)) :
    sc.readValue stop s value reads last =
      sc.finish stop (sc.scan s value (reads.flatten ++ last)) := by
  induction reads generalizing s value with
  | nil => rfl
  | cons chunk reads ih =>
    rw [List.flatten_cons, List.append_assoc, scan_append, readValue]
    cases sc.scan s value chunk with
    | more s' value' => exact ih s' value'
    | found value' => rfl
    | error => rfl

/-- A value that was found stays the value when more bytes follow. -/
theorem scan_of_prefix {s : sc.State} {seen value a b : List UInt8} (hpre : a <+: b)
    (h : sc.scan s seen a = .found value) : sc.scan s seen b = .found value := by
  obtain ⟨t, rfl⟩ := hpre
  rw [scan_append, h]

end Scanner

/-- A value that was read is the value of the whole body, also if the stream broke off. -/
theorem Stream.value_of_readValue (sc : Scanner) (s : Stream) {value : List UInt8}
    (h : sc.readValue s.stop sc.start [] s.reads s.last = some value) :
    sc.readValue (whole s.body).stop sc.start [] (whole s.body).reads (whole s.body).last
      = some value := by
  rw [Scanner.readValue_eq] at h ⊢
  change sc.finish s.stop (sc.scan sc.start [] s.received) = some value at h
  change sc.finish .eof (sc.scan sc.start [] (whole s.body).received) = some value
  rw [received_whole]
  cases hstop : s.stop with
  | eof => rwa [hstop, s.received_of_eof hstop] at h
  | failed text =>
    -- The end of the value was found before the failure, and the body goes on from there.
    rw [hstop] at h
    cases hscan : sc.scan sc.start [] s.received with
    | found value' =>
      rw [hscan] at h
      have hbody := sc.scan_of_prefix s.received_prefix hscan
      rw [hbody]
      exact h
    | more s' value' => simp [hscan, Scanner.finish] at h
    | error => simp [hscan, Scanner.finish] at h

end OtelHive.Lib
