import Orchestra.Coordinator.Session
import Orchestra.Foundation.Overtaking

/-!
# Several connections to one database

Every process that uses the store has its own connection, and the database runs their transactions
at the isolation level READ COMMITTED: a statement sees what is committed when it runs, and what its
own transaction has written. A row that a transaction has inserted, updated or selected for update
is locked until the transaction ends; a statement that needs a lock which another session holds
waits. A row that is not there cannot be locked, so a statement that selects nothing locks nothing.

The server keeps a history of what the sessions have read and stored. A transaction is *overtaken*
when it stores something and another session has stored something since its last read
(`NotOvertaken` is the condition that it is not).
-/

namespace Orchestra

open Interaction Overtaking

/-- The current transaction of a connection: the statements that have run in it. -/
structure Session where
  work : List Statement := []
  failed : Bool := false

/-- What a session sees of a database. -/
def Session.view (session : Session) (db : Database) : Database :=
  session.work.foldl (fun db s ↦ s.apply db) db

/-- The transaction has written. -/
def Session.writes (session : Session) : Bool := session.work.any Statement.writes

/-- A transaction that has only read sees what is committed. -/
theorem Session.view_of_reads {session : Session} (h : session.writes = false) (db : Database) :
    session.view db = db := by
  obtain ⟨work, failed⟩ := session
  induction work generalizing db with
  | nil => rfl
  | cons s work ih =>
    obtain ⟨hs, hwork⟩ := Bool.or_eq_false_iff.mp h
    change Session.view ⟨work, failed⟩ (s.apply db) = db
    rw [Statement.apply_of_reads hs]
    exact ih db hwork

structure DatabaseServer (ι : Type*) where
  /-- What is committed. -/
  stored : Database
  sessions : ι → Session := fun _ ↦ {}
  locks : List (ι × RowKey) := []
  marks : List (Mark ι) := []

namespace DatabaseServer

variable {ι : Type*} [DecidableEq ι] (server : DatabaseServer ι)

/-- What session `i` sees. -/
def view (i : ι) : Database := (server.sessions i).view server.stored

/-- A lock of the statement is held by another session. -/
def mustWait (i : ι) (s : Statement) : Bool :=
  (s.locks (server.view i)).any fun key ↦ server.locks.any fun lock ↦
    decide (lock.1 ≠ i) && decide (lock.2 = key)

/-- The session of `i` gives up its locks and goes on with this transaction. -/
def release (i : ι) (session : Session) : DatabaseServer ι :=
  { server with
    sessions := Function.update server.sessions i session
    locks := server.locks.filter fun lock ↦ decide (lock.1 ≠ i) }

/-- A statement has run. -/
def ran (i : ι) (s : Statement) : DatabaseServer ι :=
  { server with
    sessions := Function.update server.sessions i
      { server.sessions i with work := (server.sessions i).work ++ [s] }
    locks := server.locks ++ (s.locks (server.view i)).map fun key ↦ (i, key)
    marks := if s.writes then server.marks else server.marks ++ [.read i] }

/-- The transaction is committed. -/
def store (i : ι) : DatabaseServer ι :=
  { server.release i {} with
    stored := server.view i
    marks := if (server.sessions i).writes then server.marks ++ [.stored i] else server.marks }

/-- The server on a call of session `i`, where `fault` says whether the call fails for a reason that
is not in the tables. -/
def answer (i : ι) (fault : Bool) :
    (c : Call) → Option (Except StoreError c.Reply × DatabaseServer ι)
  | .execute s =>
    if (server.sessions i).failed then some (.error .unavailable, server)
    -- a deadlock or a timeout ends the wait
    else if fault then some (.error .unavailable, server.release i { failed := true })
    else if server.mustWait i s then none
    else
      match s.exec (server.view i) with
      | .error e => some (.error e, server.release i { failed := true })
      | .ok (r, _) => some (.ok r, server.ran i s)
  | .commit =>
    if (server.sessions i).failed then some (.ok (), server.release i {})
    else if fault then some (.error .unavailable, server.release i {})
    else some (.ok (), server.store i)
  | .rollback => some (if fault then .error .unavailable else .ok (), server.release i {})

/-- The call commits what the session has written. -/
def stores (i : ι) (fault : Bool) : Call → Bool
  | .execute _ => false
  | .commit => !(server.sessions i).failed && !fault && (server.sessions i).writes
  | .rollback => false

/-! ## What a call does -/

variable {server} {server' : DatabaseServer ι} {i : ι} {fault : Bool}

omit [DecidableEq ι] in
theorem view_of_reads (h : (server.sessions i).writes = false) : server.view i = server.stored :=
  Session.view_of_reads h server.stored

/-- The commit of a transaction that has only read. -/
theorem store_of_reads (h : (server.sessions i).writes = false) :
    (server.store i).stored = server.stored ∧ (server.store i).marks = server.marks := by
  rw [store, h]
  exact ⟨view_of_reads h, rfl⟩

omit [DecidableEq ι] in
theorem stores_of_reads (h : (server.sessions i).writes = false) (fault : Bool) (c : Call) :
    server.stores i fault c = false := by
  cases c with
  | execute s => rfl
  | commit => rw [stores, h, Bool.and_false]
  | rollback => rfl

theorem sessions_ran (s : Statement) : (server.ran i s).sessions i
    = { server.sessions i with work := (server.sessions i).work ++ [s] } :=
  Function.update_self i _ _


theorem answer_execute_cases {s : Statement} {r : Except StoreError s.Reply}
    (h : server.answer i fault (.execute s) = some (r, server')) :
    (∃ e, r = .error e ∧ (server' = server ∨ server' = server.release i { failed := true })) ∨
      ∃ a db, r = .ok a ∧ server.mustWait i s = false ∧ s.exec (server.view i) = .ok (a, db) ∧
        server' = server.ran i s := by
  rw [answer] at h
  split at h
  · cases h
    exact .inl ⟨_, rfl, .inl rfl⟩
  · split at h
    · cases h
      exact .inl ⟨_, rfl, .inr rfl⟩
    · split at h
      · cases h
      · next hwait =>
        split at h
        · cases h
          exact .inl ⟨_, rfl, .inr rfl⟩
        · next a db hexec =>
          cases h
          exact .inr ⟨a, db, rfl, by simpa using hwait, hexec, rfl⟩

theorem answer_commit_cases {r : Except StoreError Unit}
    (h : server.answer i fault .commit = some (r, server')) :
    (r = .ok () ∧ (server.sessions i).failed = true ∧ server' = server.release i {}) ∨
      (r = .error .unavailable ∧ fault = true ∧ server' = server.release i {}) ∨
      (r = .ok () ∧ (server.sessions i).failed = false ∧ fault = false ∧
        server' = server.store i) := by
  rw [answer] at h
  split at h
  · next hfailed =>
    cases h
    exact .inl ⟨rfl, hfailed, rfl⟩
  · next hfailed =>
    split at h
    · next hfault =>
      cases h
      exact .inr (.inl ⟨rfl, hfault, rfl⟩)
    · next hfault =>
      cases h
      exact .inr (.inr ⟨rfl, by simpa using hfailed, by simpa using hfault, rfl⟩)

theorem answer_rollback {r : Except StoreError Unit}
    (h : server.answer i fault .rollback = some (r, server')) :
    server' = server.release i {} :=
  (congrArg Prod.snd (Option.some.inj h)).symm

/-- A commit does not wait. -/
theorem answer_ne_none_of_stores {c : Call} (h : server.stores i fault c = true) :
    server.answer i fault c ≠ none := by
  cases c with
  | execute s => cases h
  | commit =>
    rw [answer]
    split
    · nofun
    · split <;> nofun
  | rollback => nofun

/-- The other sessions keep their transactions. -/
theorem sessions_of_answer {c : Call} {r : Except StoreError c.Reply}
    (h : server.answer i fault c = some (r, server')) {j : ι} (hj : j ≠ i) :
    server'.sessions j = server.sessions j := by
  cases c with
  | execute s =>
    rcases answer_execute_cases h with ⟨e, -, rfl | rfl⟩ | ⟨a, db, -, -, -, rfl⟩
    · rfl
    · exact Function.update_of_ne hj _ _
    · exact Function.update_of_ne hj _ _
  | commit =>
    rcases answer_commit_cases h with ⟨-, -, rfl⟩ | ⟨-, -, rfl⟩ | ⟨-, -, -, rfl⟩ <;>
      exact Function.update_of_ne hj _ _
  | rollback =>
    rw [answer_rollback h]
    exact Function.update_of_ne hj _ _

/-! ## Locks -/

theorem mem_locks_release {j : ι} {key : RowKey} (hj : j ≠ i) (h : (j, key) ∈ server.locks)
    (session : Session) : (j, key) ∈ (server.release i session).locks :=
  List.mem_filter.mpr ⟨h, decide_eq_true hj⟩

/-- The other sessions keep their locks. -/
theorem mem_locks_of_answer {c : Call} {r : Except StoreError c.Reply}
    (h : server.answer i fault c = some (r, server')) {j : ι} (hj : j ≠ i) {key : RowKey}
    (hkey : (j, key) ∈ server.locks) : (j, key) ∈ server'.locks := by
  cases c with
  | execute s =>
    rcases answer_execute_cases h with ⟨e, -, rfl | rfl⟩ | ⟨a, db, -, -, -, rfl⟩
    · exact hkey
    · exact mem_locks_release hj hkey _
    · exact List.mem_append_left _ hkey
  | commit =>
    rcases answer_commit_cases h with ⟨-, -, rfl⟩ | ⟨-, -, rfl⟩ | ⟨-, -, -, rfl⟩ <;>
      exact mem_locks_release hj hkey {}
  | rollback =>
    rw [answer_rollback h]
    exact mem_locks_release hj hkey _

/-- A lock has one holder. -/
def LocksHeldOnce (server : DatabaseServer ι) : Prop :=
  ∀ i j key, (i, key) ∈ server.locks → (j, key) ∈ server.locks → i = j

theorem LocksHeldOnce.release (h : server.LocksHeldOnce) (i : ι) (session : Session) :
    (server.release i session).LocksHeldOnce :=
  fun _ _ _ hj hk ↦ h _ _ _ (List.mem_of_mem_filter hj) (List.mem_of_mem_filter hk)

theorem LocksHeldOnce.ran (h : server.LocksHeldOnce) {s : Statement}
    (hwait : server.mustWait i s = false) : (server.ran i s).LocksHeldOnce := by
  -- a key that the statement locks is held by nobody else
  have hfree : ∀ j key, (j, key) ∈ server.locks → key ∈ s.locks (server.view i) → j = i := by
    intro j key hlock hkey
    by_contra hne
    rw [mustWait, List.any_eq_false] at hwait
    refine hwait key hkey (List.any_eq_true.mpr ⟨(j, key), hlock, ?_⟩)
    simp [hne]
  have hnew : ∀ j key, (j, key) ∈ (s.locks (server.view i)).map (fun key ↦ (i, key)) →
      j = i ∧ key ∈ s.locks (server.view i) := by
    intro j key hmem
    obtain ⟨key', hkey', heq⟩ := List.mem_map.mp hmem
    cases heq
    exact ⟨rfl, hkey'⟩
  intro j k key hj hk
  rcases List.mem_append.mp hj with hold | hown <;> rcases List.mem_append.mp hk with hold' | hown'
  · exact h j k key hold hold'
  · obtain ⟨rfl, hkey⟩ := hnew k key hown'
    exact hfree j key hold hkey
  · obtain ⟨rfl, hkey⟩ := hnew j key hown
    exact (hfree k key hold' hkey).symm
  · rw [(hnew j key hown).1, (hnew k key hown').1]

theorem LocksHeldOnce.answer (h : server.LocksHeldOnce) {c : Call} {r : Except StoreError c.Reply}
    (hanswer : server.answer i fault c = some (r, server')) : server'.LocksHeldOnce := by
  cases c with
  | execute s =>
    rcases answer_execute_cases hanswer with ⟨e, -, rfl | rfl⟩ | ⟨a, db, -, hwait, -, rfl⟩
    · exact h
    · exact h.release i _
    · exact h.ran hwait
  | commit =>
    rcases answer_commit_cases hanswer with ⟨-, -, rfl⟩ | ⟨-, -, rfl⟩ | ⟨-, -, -, rfl⟩
    · exact h.release i _
    · exact h.release i _
    · exact h.release i {}
  | rollback =>
    rw [answer_rollback hanswer]
    exact h.release i _

end DatabaseServer

/-! ## Methods on their connections -/

/-- The methods, each on a connection of its own, and the server. -/
abbrev Sessions {ι : Type*} (α : ι → Type) :=
  Pool Call Call.Reply StoreError α (DatabaseServer ι)

namespace Sessions

variable {ι : Type*} [DecidableEq ι] {α : ι → Type}

abbrev step : Sessions α → ι × Bool → Sessions α := Pool.step DatabaseServer.answer

/-- The methods before their first call. -/
def start (db : Database) (methods : ∀ i, Method (α i)) : Sessions α := ⟨{ stored := db }, methods⟩

/-- The next call of the method commits what it has written. -/
def stores (p : Sessions α) (label : ι × Bool) : Bool :=
  match p.threads label.1 with
  | .call c _ => p.state.stores label.1 label.2 c
  | _ => false

/-- The method does not store anything after another one has since its last read. -/
def NotOvertaken (p : Sessions α) (label : ι × Bool) : Prop :=
  stores p label = true → upToDate label.1 p.state.marks = true

instance (p : Sessions α) (label : ι × Bool) : Decidable (NotOvertaken p label) :=
  inferInstanceAs (Decidable (_ → _))

/-- A method that waits stores nothing. -/
theorem stores_of_waits {p : Sessions α} {i : ι} {fault : Bool}
    (h : ∀ c k, p.threads i = .call c k → p.state.answer i fault c = none) :
    stores p (i, fault) = false := by
  rw [stores]
  cases hi : p.threads i with
  | ret a => rfl
  | raise e => rfl
  | call c k =>
    by_contra hstores
    exact DatabaseServer.answer_ne_none_of_stores (by simpa using hstores) (h c k hi)

end Sessions

end Orchestra
