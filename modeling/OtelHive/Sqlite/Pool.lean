import OtelHive.Sqlite.Storage

/-!
# `OtelHive.Sqlite.Pool`: the connections of the database

`NewSQLiteStorage` opens the database through a pool of `database/sql`, and runs
`PRAGMA foreign_keys=ON` once. SQLite keeps this pragma for each connection, and it is off on a
new one. The pool opens and closes connections as it likes, up to 25 at a time, and a statement
runs on any of them.
-/

set_option autoImplicit false

namespace OtelHive.Sqlite

open OtelHive.Types

/-- The database, and the pragma of each open connection. -/
structure Pool where
  store : Storage
  connections : List Bool
deriving DecidableEq

/-- `SetMaxOpenConns`. -/
def maxOpenConns : Nat := 25

/-- What happens to the pool. -/
inductive Pool.Event where
  /-- The pool opens a connection. -/
  | connect
  /-- The pool closes a connection, which was idle for long or is too old. -/
  | close (conn : Nat)
  /-- An operation runs on a connection. -/
  | perform (conn : Nat) (now : Time) (op : Operation)

namespace Pool

/-- The pool after `NewSQLiteStorage`: the pragma is on for the one connection. -/
def newSQLiteStorage (store : Storage) : Pool := ⟨store, [true]⟩

/-- One step. -/
def step (p : Pool) : Event → Option Pool
  | .connect =>
    if p.connections.length < maxOpenConns then
      some { p with connections := p.connections ++ [false] }
    else none
  | .close conn =>
    if conn < p.connections.length then
      some { p with connections := p.connections.eraseIdx conn }
    else none
  | .perform conn now op =>
    match p.connections[conn]? with
    | none => none
    | some foreignKeys => some { p with store := (p.store.perform foreignKeys now op).1 }

end Pool

end OtelHive.Sqlite
