import Mathlib.Algebra.Group.Int.Defs
import Mathlib.Order.Basic
import OtelHive.Lib.GoMap
import OtelHive.Lib.Sha256

/-!
# `OtelHive.Basic`: the values the server's packages share

Config bodies are Go byte slices and Go strings made from them, so they are `Bytes`.
Identifiers, names and labels come from JSON or protobuf strings, which are UTF-8, so they
are `String`. An `error` is its text. A Go panic is a value of `Panic`: a function that can
panic returns `Except Panic`, and a panic ends it at that point.

`Env` holds what the world outside answers while one handler runs: the clock, a fresh
UUID, which storage calls fail, and the results of the packages outside the repository.
-/

set_option autoImplicit false

namespace OtelHive

open OtelHive.Lib

/-- A Go byte slice, or a Go string that can hold any bytes. -/
abbrev Bytes : Type := List UInt8

/-- `uuid.UUID`: an array of sixteen bytes. -/
structure UUID where
  bytes : Bytes
  length_bytes : bytes.length = 16
deriving DecidableEq

/-- A point in time. Only the order of two times is read. -/
abbrev Time : Type := Nat

/-- Go's `int` on a 64-bit platform. -/
abbrev GoInt : Type := { z : Int // -2 ^ 63 ≤ z ∧ z < 2 ^ 63 }

/-- The run-time panics of the modelled code. -/
inductive Panic where
  /-- A slice that is too short for the array it is converted to. -/
  | sliceToArray
  /-- A field read through a nil pointer. -/
  | nilDereference
deriving DecidableEq

/-- `x >>= f` returns when `x` returns and `f` returns on its value. -/
theorem bind_eq_ok {ε α β : Type} {x : Except ε α} {f : α → Except ε β} {b : β}
    (h : (x >>= f) = .ok b) : ∃ a, x = .ok a ∧ f a = .ok b := by
  cases x with
  | error err => cases h
  | ok a => exact ⟨a, rfl, h⟩

/-- The converse of `bind_eq_ok`. -/
theorem bind_ok {ε α β : Type} {x : Except ε α} {f : α → Except ε β} {a : α} {b : β}
    (hx : x = .ok a) (hf : f a = .ok b) : (x >>= f) = .ok b := by
  rw [hx]
  exact hf

namespace GoInt

/-- The `int` with the low 64 bits of `z`. -/
def wrap (z : Int) : GoInt :=
  ⟨(z + 2 ^ 63) % 2 ^ 64 - 2 ^ 63, by omega, by omega⟩

/-- Inside the range, nothing wraps. -/
theorem wrap_val {z : Int} (hlow : -2 ^ 63 ≤ z) (hhigh : z < 2 ^ 63) : (wrap z).1 = z := by
  simp only [wrap]
  omega

/-- `x + 1` on `int`, which wraps at the largest value. -/
def succ (x : GoInt) : GoInt := wrap (x.1 + 1)

/-- Below the largest value, `x + 1` does not wrap. -/
theorem succ_val {x : GoInt} (h : x.1 < 2 ^ 63 - 1) : (succ x).1 = x.1 + 1 := by
  obtain ⟨hlow, -⟩ := x.2
  exact wrap_val (by omega) (by omega)

/-- Below the largest value, `x + 1` is larger. -/
theorem lt_succ {x : GoInt} (h : x.1 < 2 ^ 63 - 1) : x < succ x := by
  rw [← Subtype.coe_lt_coe, succ_val h]
  omega

end GoInt

/-- `uuid.UUID(b)`: the first sixteen bytes of the slice. The conversion of a shorter slice
panics. -/
def UUID.ofSlice (b : Bytes) : Except Panic UUID :=
  if h : 16 ≤ b.length then .ok ⟨b.take 16, by simp [h]⟩ else .error .sliceToArray

/-- `uuid.Nil`. -/
def UUID.nil : UUID := ⟨List.replicate 16 0, rfl⟩

/-- Hexadecimal text in lower case, as `%x` and `hex.EncodeToString` write it. -/
def hexEncode (b : Bytes) : String :=
  String.ofList (b.flatMap fun x =>
    [Nat.digitChar (x.toNat / 16), Nat.digitChar (x.toNat % 16)])

/-- `id.String()`: the hexadecimal digits in groups of 8, 4, 4, 4 and 12. -/
def UUID.toString (id : UUID) : String :=
  "-".intercalate [hexEncode (id.bytes.take 4), hexEncode ((id.bytes.drop 4).take 2),
    hexEncode ((id.bytes.drop 6).take 2), hexEncode ((id.bytes.drop 8).take 2),
    hexEncode (id.bytes.drop 10)]

/-- A certificate request that `x509` has parsed. -/
structure CertificateRequest where
  signatureValid : Bool
  commonName : String
deriving DecidableEq

/-- The results of `encoding/pem` and `crypto/x509` on certificate requests. -/
structure X509 where
  /-- `pem.Decode`: the bytes of the block, or `none` for a nil block. -/
  pemDecode : Bytes → Option Bytes
  /-- `x509.ParseCertificateRequest`. -/
  parseCertificateRequest : Bytes → Except String CertificateRequest

/-- The storage calls that a handler makes. -/
inductive StoreOp where
  | createAgent
  | getAgent
  | listAgents
  | updateAgentStatus
  | updateAgentLastSeen
  | updateAgentEffectiveConfig
  | createGroup
  | getGroup
  | listGroups
  | createConfig
  | getConfig
  | getLatestConfigForAgent
  | getLatestConfigForGroup
deriving DecidableEq

/-- What the world outside answers while one handler runs. -/
structure Env where
  /-- `time.Now()`. -/
  now : Time
  /-- `uuid.New().String()`. -/
  newUUID : String
  /-- The error of the database for a storage call, `none` for a call that succeeds. -/
  faults : StoreOp → Option String
  /-- Whether the pooled connection enforces foreign keys. -/
  foreignKeys : Bool
  /-- Certificate requests. -/
  x509 : X509
  /-- `yaml.Unmarshal` into a map: the text of its error, if it fails. -/
  yamlUnmarshal : Bytes → Option String
  /-- `uuid.Parse`. -/
  uuidParse : String → Option UUID

/-- Every storage call succeeds. -/
def Env.FaultFree (env : Env) : Prop := ∀ op, env.faults op = none

/-- An environment in which every storage call succeeds, at a time and with a fresh UUID. -/
def Env.quiet (now : Time) (newUUID : String) : Env where
  now
  newUUID
  faults _ := none
  foreignKeys := true
  x509 := { pemDecode := fun _ => none, parseCertificateRequest := fun _ => .error "asn1" }
  yamlUnmarshal _ := none
  uuidParse _ := none

theorem Env.quiet_faultFree (now : Time) (newUUID : String) : (Env.quiet now newUUID).FaultFree :=
  fun _ => rfl

/-- Run a storage call. A failing call returns an error and the database stays as it is. -/
def Env.call {α : Type} (env : Env) (op : StoreOp) (result : Except String α) : Except String α :=
  match env.faults op with
  | some err => .error err
  | none => result

theorem Env.call_of_faults_eq_none {α : Type} {env : Env} {op : StoreOp}
    (h : env.faults op = none) (result : Except String α) : env.call op result = result := by
  simp [Env.call, h]

/-- A call that returns a value has not failed, and the value is its result. -/
theorem Env.call_eq_ok {α : Type} {env : Env} {op : StoreOp} {result : Except String α} {a : α}
    (h : env.call op result = .ok a) : env.faults op = none ∧ result = .ok a := by
  unfold Env.call at h
  split at h
  · cases h
  · exact ⟨by assumption, h⟩

end OtelHive
