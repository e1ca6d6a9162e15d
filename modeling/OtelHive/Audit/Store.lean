import Mathlib.Algebra.Group.Nat.Defs
import OtelHive.Basic
import OtelHive.Lib.Pages

/-!
# `OtelHive.Audit.Store`: the audit log

`internal/audit/audit.go` over the table `audit_log`. `Log` inserts a row, and `AUTOINCREMENT` gives
it an id above all earlier ones. `List` counts the matching rows and reads one page of them.

A timestamp is `CURRENT_TIMESTAMP`, which is a text with a resolution of one second. The text has a
fixed width, so the order of the texts is that of the seconds.

`Database` is what SQLite answers: whether a query fails, and the order of rows that tie in
`ORDER BY`, which can be another one for each query.
-/

set_option autoImplicit false

namespace OtelHive.Audit

open OtelHive.Lib

/-! ### Entries -/

/-- `Entry`. -/
structure Entry where
  id : Nat
  timestamp : Time
  actorID : String
  actorName : String
  eventType : String
  resourceType : String
  resourceID : String
  details : String
  ipAddress : String
deriving DecidableEq

/-- A row of `audit_log`. -/
structure Row where
  id : Nat
  timestamp : Time
  actorID : Option String
  actorName : Option String
  eventType : String
  resourceType : Option String
  resourceID : Option String
  details : Option String
  ipAddress : Option String
deriving DecidableEq

/-- `nullStr`. -/
def nullStr (s : String) : Option String := if s = "" then none else some s

/-- What `rows.Scan` reads from a row. -/
def Row.entry (row : Row) : Entry where
  id := row.id
  timestamp := row.timestamp
  actorID := row.actorID.getD ""
  actorName := row.actorName.getD ""
  eventType := row.eventType
  resourceType := row.resourceType.getD ""
  resourceID := row.resourceID.getD ""
  details := row.details.getD ""
  ipAddress := row.ipAddress.getD ""

/-! ### The table -/

/-- The rows in the order of the inserts. A database file has at most `2 ^ 48` bytes. -/
structure Table where
  rows : List Row
  increasing : rows.Pairwise fun a b => a.id < b.id
  small : rows.length < 2 ^ 48

namespace Table

/-- The table that the migration creates. -/
def empty : Table where
  rows := []
  increasing := .nil
  small := by decide

/-- The next id of `AUTOINCREMENT`: one above the last. -/
def nextID (t : Table) : Nat := (t.rows.getLast?.map (·.id)).getD 0 + 1

theorem lt_nextID (t : Table) : ∀ row ∈ t.rows, row.id < t.nextID := by
  intro row hrow
  have hincreasing := t.increasing
  rcases List.eq_nil_or_concat t.rows with hnil | ⟨before, last, hrows⟩
  · rw [hnil] at hrow
    cases hrow
  · rw [List.concat_eq_append] at hrows
    rw [hrows] at hrow hincreasing
    have hnext : t.nextID = last.id + 1 := by simp [nextID, hrows]
    rw [hnext]
    rcases List.mem_append.mp hrow with hbefore | hlast
    · have hlt := (List.pairwise_append.mp hincreasing).2.2 row hbefore last
        (List.mem_singleton_self last)
      omega
    · rw [List.mem_singleton.mp hlast]
      omega

/-- The row that `Log` inserts. -/
def newRow (t : Table) (now : Time) (e : Entry) : Row where
  id := t.nextID
  timestamp := now
  actorID := nullStr e.actorID
  actorName := nullStr e.actorName
  eventType := e.eventType
  resourceType := nullStr e.resourceType
  resourceID := nullStr e.resourceID
  details := nullStr e.details
  ipAddress := nullStr e.ipAddress

/-- `Log`. -/
def log (t : Table) (fault : Option String) (now : Time) (e : Entry) : Except String Table :=
  match fault with
  | some err => .error err
  | none =>
    if h : (t.rows ++ [t.newRow now e]).length < 2 ^ 48 then .ok {
      rows := t.rows ++ [t.newRow now e]
      increasing := List.pairwise_append.mpr ⟨t.increasing, List.pairwise_singleton _ _,
        fun row hrow _ hnew => List.mem_singleton.mp hnew ▸ t.lt_nextID row hrow⟩
      small := h }
    else .error "database or disk is full"

end Table

/-! ### List -/

/-- `ListParams`. -/
structure ListParams where
  page : GoInt
  limit : GoInt
  eventType : String

/-- `ListResult`. -/
structure ListResult where
  entries : List Entry
  total : GoInt
  page : GoInt
  limit : GoInt

/-- The limit that `List` applies: 50 by default and 200 at most. -/
def ListParams.appliedLimit (p : ListParams) : GoInt :=
  let limit := if p.limit.1 ≤ 0 then .wrap 50 else p.limit
  if limit.1 > 200 then .wrap 200 else limit

/-- The page that `List` reads: the first one by default. -/
def ListParams.appliedPage (p : ListParams) : GoInt := if p.page.1 ≤ 0 then .wrap 1 else p.page

/-- The rows that match the filter. -/
def Table.matching (t : Table) (eventType : String) : List Row :=
  if eventType = "" then t.rows else t.rows.filter (·.eventType == eventType)

/-- What SQLite answers to the queries of one call of `List`. -/
structure Database where
  countFault : Option String := none
  rowsFault : Option String := none
  arrange : ∀ rows : List Row, Arrangement Row.timestamp rows

/-- `List`. A negative offset is zero. -/
def list (db : Database) (t : Table) (p : ListParams) : Except String ListResult :=
  let limit := p.appliedLimit
  let page := p.appliedPage
  let offset := GoInt.wrap ((page.1 - 1) * limit.1)
  let matching := t.matching p.eventType
  match db.countFault, db.rowsFault with
  | some err, _ => .error err
  | none, some err => .error err
  | none, none => .ok {
      entries := (((db.arrange matching).sorted.drop offset.1.toNat).take limit.1.toNat).map
        Row.entry
      total := .wrap matching.length
      page
      limit }

end OtelHive.Audit
