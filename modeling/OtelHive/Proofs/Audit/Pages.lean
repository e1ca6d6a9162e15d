import OtelHive.Audit.Store

/-!
# `OtelHive.Proofs.Audit.Pages`: the pages of the audit log

A client that reads the pages of `List` until an empty one gets a page of another arrangement of the
rows with each query. When each matching row has a later second than the one before, there is only
one arrangement, and the pages make up the log (`readAll_eq`). When two rows tie, or the clock has
gone back, an arrangement that all queries may use puts the older row first.

`partitions_iff` is the result for every table, filter and page size.
-/

set_option autoImplicit false

namespace OtelHive.Audit

open OtelHive.Lib

/-! ### Log -/

/-- An empty string is stored as `NULL` and reads back as an empty string. -/
theorem getD_nullStr (s : String) : (nullStr s).getD "" = s := by
  unfold nullStr
  split
  · rename_i h
    exact h.symm
  · rfl

/-- A logged entry reads back with its id and its timestamp. -/
theorem entry_newRow (t : Table) (now : Time) (e : Entry) :
    (t.newRow now e).entry = { e with id := t.nextID, timestamp := now } := by
  simp [Row.entry, Table.newRow, getD_nullStr]

/-! ### The property -/

/-- Read the pages from a page on, until one is empty. The result is none when a query fails or the
fuel is used up. -/
def readAll (dbs : Nat → Database) (t : Table) (eventType : String) (limit : GoInt) :
    Nat → Nat → Option (List Entry)
  | 0, _ => none
  | fuel + 1, page =>
    match list (dbs page) t { page := .wrap page, limit, eventType } with
    | .error _ => none
    | .ok result =>
      if result.entries = [] then some []
      else (readAll dbs t eventType limit fuel (page + 1)).map (result.entries ++ ·)

/-- No query fails. -/
def Database.FaultFree (db : Database) : Prop := db.countFault = none ∧ db.rowsFault = none

/-- The pages from the first one on, until an empty one, are the matching entries, each once and
the newest insertion first. The total is their number. -/
def Partitions (t : Table) (eventType : String) (limit : GoInt) : Prop :=
  ∀ dbs : Nat → Database, (∀ page, (dbs page).FaultFree) →
    (∃ fuel, readAll dbs t eventType limit fuel 1
      = some ((t.matching eventType).reverse.map Row.entry)) ∧
    ∀ page, ∃ result, list (dbs page) t { page := .wrap page, limit, eventType } = .ok result ∧
      result.total.1 = (t.matching eventType).length

/-! ### One page -/

theorem appliedLimit_bounds (p : ListParams) :
    1 ≤ p.appliedLimit.1 ∧ p.appliedLimit.1 ≤ 200 := by
  have hdefault : 1 ≤ (if p.limit.1 ≤ 0 then GoInt.wrap 50 else p.limit).1 := by
    split
    · decide
    · omega
  unfold ListParams.appliedLimit
  generalize (if p.limit.1 ≤ 0 then GoInt.wrap 50 else p.limit) = limit at hdefault ⊢
  show 1 ≤ (if limit.1 > 200 then GoInt.wrap 200 else limit).1 ∧
    (if limit.1 > 200 then GoInt.wrap 200 else limit).1 ≤ 200
  split
  · decide
  · omega

/-- The applied limit does not depend on the page or the filter. -/
theorem appliedLimit_eq {p q : ListParams} (h : p.limit = q.limit) :
    p.appliedLimit = q.appliedLimit := by
  unfold ListParams.appliedLimit
  rw [h]

theorem length_matching_lt (t : Table) (eventType : String) :
    (t.matching eventType).length < 2 ^ 48 := by
  have hle : (t.matching eventType).length ≤ t.rows.length := by
    unfold Table.matching
    split
    · exact le_rfl
    · exact List.length_filter_le _ _
  exact hle.trans_lt t.small

/-- The rows of one page. -/
def pageSize (limit : GoInt) : Nat := (ListParams.appliedLimit ⟨.wrap 1, limit, ""⟩).1.toNat

theorem pageSize_bounds (limit : GoInt) : 1 ≤ pageSize limit ∧ pageSize limit ≤ 200 := by
  have hbounds := appliedLimit_bounds ⟨.wrap 1, limit, ""⟩
  unfold pageSize
  omega

/-- The total of a call that does not fail. -/
theorem exists_list_total {db : Database} (hdb : db.FaultFree) (t : Table) (p : ListParams) :
    ∃ result, list db t p = .ok result ∧ result.total.1 = (t.matching p.eventType).length := by
  have hlength := length_matching_lt t p.eventType
  unfold list
  rw [hdb.1, hdb.2]
  exact ⟨_, rfl, GoInt.wrap_val (by omega) (by omega)⟩

/-- The entries of a page whose offset is in range. -/
theorem exists_list_entries {db : Database} (hdb : db.FaultFree) (t : Table) (eventType : String)
    (limit : GoInt) {k : Nat} (hk : k * pageSize limit < 2 ^ 62) :
    ∃ result, list db t { page := .wrap (k + 1 : Nat), limit, eventType } = .ok result ∧
      result.entries = (page (db.arrange (t.matching eventType)).sorted (pageSize limit) k).map
        Row.entry := by
  have hsize := pageSize_bounds limit
  have hpage : (GoInt.wrap (k + 1 : Nat)).1 = (k + 1 : Nat) := by
    have hle : k ≤ k * pageSize limit := Nat.le_mul_of_pos_right k hsize.1
    exact GoInt.wrap_val (by omega) (by omega)
  have happlied : (ListParams.appliedPage ⟨.wrap (k + 1 : Nat), limit, eventType⟩).1
      = (k + 1 : Nat) := by
    unfold ListParams.appliedPage
    rw [if_neg (by rw [hpage]; omega), hpage]
  have hlimit : (ListParams.appliedLimit ⟨.wrap (k + 1 : Nat), limit, eventType⟩).1
      = pageSize limit := by
    have hbounds := appliedLimit_bounds ⟨.wrap 1, limit, ""⟩
    have hsame : ListParams.appliedLimit ⟨.wrap (k + 1 : Nat), limit, eventType⟩
        = ListParams.appliedLimit ⟨.wrap 1, limit, ""⟩ := appliedLimit_eq rfl
    rw [hsame, pageSize]
    omega
  have hoffset : (GoInt.wrap (((k + 1 : Nat) - 1 : Int) * pageSize limit)).1
      = (k * pageSize limit : Nat) := by
    have hcast : ((k + 1 : Nat) - 1 : Int) * pageSize limit = (k * pageSize limit : Nat) := by
      push_cast
      rw [Int.add_sub_cancel]
    rw [hcast]
    exact GoInt.wrap_val (by omega) (by omega)
  unfold list
  rw [hdb.1, hdb.2]
  refine ⟨_, rfl, ?_⟩
  simp only [happlied, hlimit, hoffset, Int.toNat_natCast, page]

/-! ### All pages -/

/-- More fuel does not change what is read. -/
theorem readAll_succ {dbs : Nat → Database} {t : Table} {eventType : String} {limit : GoInt}
    {fuel first : Nat} {entries : List Entry}
    (h : readAll dbs t eventType limit fuel first = some entries) :
    readAll dbs t eventType limit (fuel + 1) first = some entries := by
  induction fuel generalizing first entries with
  | zero => cases h
  | succ fuel ih =>
    rw [readAll] at h ⊢
    split
    · rename_i hlist
      simp [hlist] at h
    · rename_i result hlist
      simp only [hlist] at h
      split
      · rename_i hnil
        simpa [hnil] using h
      · rename_i hnil
        rw [if_neg hnil] at h
        obtain ⟨rest, hrest, rfl⟩ := Option.map_eq_some_iff.mp h
        rw [ih hrest, Option.map_some]

/-- What is read does not depend on the fuel. -/
theorem readAll_unique {dbs : Nat → Database} {t : Table} {eventType : String} {limit : GoInt}
    {fuel fuel' first : Nat} {entries entries' : List Entry}
    (h : readAll dbs t eventType limit fuel first = some entries)
    (h' : readAll dbs t eventType limit fuel' first = some entries') : entries = entries' := by
  have hmore : ∀ {fuel entries} (n : Nat),
      readAll dbs t eventType limit fuel first = some entries →
      readAll dbs t eventType limit (fuel + n) first = some entries := by
    intro fuel entries n hread
    induction n with
    | zero => exact hread
    | succ n ih => exact readAll_succ ih
  have hleft := hmore fuel' h
  have hright := hmore fuel h'
  rw [Nat.add_comm fuel' fuel, hleft] at hright
  exact Option.some.inj hright

/-- When all queries arrange the matching rows alike, the pages from one on are the rows from
there on. -/
theorem exists_readAll {dbs : Nat → Database} (hdbs : ∀ page, (dbs page).FaultFree) (t : Table)
    (eventType : String) (limit : GoInt) {sorted : List Row}
    (hlength : sorted.length = (t.matching eventType).length)
    (harrange : ∀ page, ((dbs page).arrange (t.matching eventType)).sorted = sorted) (k : Nat)
    (hk : k * pageSize limit < 2 ^ 62) :
    ∃ fuel, readAll dbs t eventType limit fuel (k + 1)
      = some ((sorted.drop (k * pageSize limit)).map Row.entry) := by
  have hsize := pageSize_bounds limit
  obtain ⟨result, hlist, hentries⟩ :=
    exists_list_entries (hdbs (k + 1)) t eventType limit hk
  rw [harrange] at hentries
  by_cases hend : sorted.length ≤ k * pageSize limit
  · have hnil : result.entries = [] := by
      rw [hentries, (page_eq_nil_iff sorted _ k hsize.1).mpr hend, List.map_nil]
    refine ⟨1, ?_⟩
    rw [readAll, hlist, List.drop_eq_nil_of_le hend]
    simp [hnil]
  · have hne : result.entries ≠ [] := by
      rw [hentries]
      intro hnil
      exact hend ((page_eq_nil_iff sorted _ k hsize.1).mp (List.map_eq_nil_iff.mp hnil))
    have hnext : (k + 1) * pageSize limit < 2 ^ 62 := by
      have hlt := length_matching_lt t eventType
      rw [Nat.succ_mul]
      omega
    obtain ⟨fuel, hfuel⟩ := exists_readAll hdbs t eventType limit hlength harrange (k + 1) hnext
    refine ⟨fuel + 1, ?_⟩
    rw [readAll, hlist]
    simp only [if_neg hne, hfuel, Option.map_some]
    rw [hentries, ← List.map_append, page_append_drop]
termination_by sorted.length - k * pageSize limit
decreasing_by
  have hsucc : (k + 1) * pageSize limit = k * pageSize limit + pageSize limit := Nat.succ_mul _ _
  omega

/-- When all queries arrange the matching rows alike, the pages are the rows in that order. -/
theorem readAll_eq {dbs : Nat → Database} (hdbs : ∀ page, (dbs page).FaultFree) (t : Table)
    (eventType : String) (limit : GoInt) {sorted : List Row}
    (hlength : sorted.length = (t.matching eventType).length)
    (harrange : ∀ page, ((dbs page).arrange (t.matching eventType)).sorted = sorted) :
    ∃ fuel, readAll dbs t eventType limit fuel 1 = some (sorted.map Row.entry) := by
  have h := exists_readAll hdbs t eventType limit hlength harrange 0 (by simp)
  simpa using h

/-! ### The result -/

theorem pairwise_id_matching (t : Table) (eventType : String) :
    (t.matching eventType).Pairwise fun a b => a.id < b.id := by
  unfold Table.matching
  split
  · exact t.increasing
  · exact t.increasing.filter _

/-- The database whose queries put the older of two tied rows first. -/
def olderFirst : Database where
  arrange rows := .byTie Row.timestamp Row.id rows

/-- Pages that are the rows in the order of `olderFirst` leave no tied rows and no row that is
earlier than the one before. -/
theorem later_of_partitions {t : Table} {eventType : String} {limit : GoInt}
    (h : Partitions t eventType limit) :
    (t.matching eventType).Pairwise fun a b => a.timestamp < b.timestamp := by
  have hfree : ∀ page : Nat, olderFirst.FaultFree := fun _ => ⟨rfl, rfl⟩
  obtain ⟨⟨fuel, hread⟩, -⟩ := h (fun _ => olderFirst) hfree
  have hperm := (olderFirst.arrange (t.matching eventType)).perm
  obtain ⟨fuel', hread'⟩ := readAll_eq hfree t eventType limit hperm.length_eq fun _ => rfl
  have hsame := readAll_unique hread' hread
  -- The rows are in the order of `olderFirst`, and their ids decrease.
  have htie : ((t.matching eventType).reverse.map Row.entry).Pairwise
      (TieOrder Entry.timestamp Entry.id) := by
    rw [← hsame, List.pairwise_map]
    exact pairwise_tieOrder Row.timestamp Row.id _
  rw [List.pairwise_map, List.pairwise_reverse] at htie
  refine (htie.and (pairwise_id_matching t eventType)).imp ?_
  rintro a b ⟨hlt | ⟨-, hle⟩, hid⟩
  · exact hlt
  · exact absurd hle (not_le.mpr hid)

/-- For every table, filter and page size, the pages partition the matching entries, the newest
insertion first, exactly if each matching row has a later timestamp than the one before. -/
theorem partitions_iff (t : Table) (eventType : String) (limit : GoInt) :
    Partitions t eventType limit ↔
      (t.matching eventType).Pairwise fun a b => a.timestamp < b.timestamp := by
  constructor
  · exact later_of_partitions
  · intro h dbs hdbs
    have hdesc : (t.matching eventType).reverse.Pairwise fun a b => b.timestamp < a.timestamp :=
      List.pairwise_reverse.mpr h
    have harrange : ∀ page, ((dbs page).arrange (t.matching eventType)).sorted
        = (t.matching eventType).reverse := by
      intro page
      exact ((dbs page).arrange (t.matching eventType)).sorted_eq (List.reverse_perm _) hdesc
    refine ⟨?_, fun page => exists_list_total (hdbs page) t _⟩
    exact readAll_eq hdbs t eventType limit List.length_reverse harrange

/-- An entry of a login. -/
def loginEntry : Entry where
  id := 0
  timestamp := 0
  actorID := "u1"
  actorName := "admin"
  eventType := "user.login"
  resourceType := ""
  resourceID := ""
  details := ""
  ipAddress := "127.0.0.1"

/-- Two entries that are logged in one second: a query may put the older one first. -/
theorem same_second :
    ∃ t t' : Table, Table.empty.log none 1700000000 loginEntry = .ok t ∧
      t.log none 1700000000 { loginEntry with eventType := "config.pushed" } = .ok t' ∧
      ¬ Partitions t' "" (.wrap 50) := by
  refine ⟨_, _, rfl, rfl, ?_⟩
  intro h
  exact absurd (later_of_partitions h) (by decide)

end OtelHive.Audit
