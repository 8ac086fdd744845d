import Orchestra.Coordinator.ReadCommitted

/-!
# One approval for a gate

`create_approval` selects the rows of the gate for update and inserts one when there is none. The
lock that is meant to keep a racing call from inserting is a lock on the rows that were selected, so
it protects a row that exists, and nothing protects a gate without rows.

Calls for one gate on several connections create at most one row and all return it exactly in those
runs in which no call is overtaken: between its `SELECT` and the commit of its row no other call
commits one (`one_approval_iff`). Rows of the gate from before the calls are never added to; where
there are several of them, the calls return the same one as far as the database selects the same one
first.
-/

namespace Orchestra

open Interaction Overtaking

namespace ApprovalRace

variable {ι : Type*} [DecidableEq ι]

/-- The arguments of a call for this gate. -/
def forGate (t n : String) (c : CreateApproval) : CreateApproval :=
  { c with taskRunId := t, nodeId := n }

/-- The calls before they run. -/
def start (db : Database) (t n : String) (calls : ι → CreateApproval) :
    Sessions fun _ : ι ↦ Approval :=
  Sessions.start db fun i ↦ Method.createApproval (forGate t n (calls i))

/-- The rows of the gate. -/
def gateRows (db : Database) (t n : String) : List Approval :=
  EventStore.approvalsOfGate db.approvals t n

/-- The rows the calls have created. -/
def created (db stored : Database) : List Approval :=
  stored.approvals.approvals.rows.drop db.approvals.approvals.rows.length

/-- The calls have created at most one row, and those that have returned have returned one
approval. -/
structure OneApproval (db : Database) (p : Sessions fun _ : ι ↦ Approval) : Prop where
  created : (created db p.state.stored).length ≤ 1
  same : ∀ i j a b, p.threads i = .ret a → p.threads j = .ret b → a.approvalId = b.approvalId

/-- Where the gate had several rows before the calls, the database selects the same one first for
all calls that have returned. -/
def SameSelection (db : Database) (t n : String) (calls : ι → CreateApproval)
    (p : Sessions fun _ : ι ↦ Approval) : Prop :=
  2 ≤ (gateRows db t n).length → ∀ i j a b, p.threads i = .ret a → p.threads j = .ret b →
    (calls i).choice % (gateRows db t n).length = (calls j).choice % (gateRows db t n).length

/-! ## What the calls create -/

/-- Rows were added for the gate and nowhere else, and only when it had none. -/
structure Created (db : Database) (t n : String) (stored : Database) : Prop where
  rows_eq : stored.approvals.approvals.rows
    = db.approvals.approvals.rows ++ created db stored
  gate : ∀ r ∈ created db stored, r.taskRunId = t ∧ r.nodeId = n
  none_before : created db stored ≠ [] → gateRows db t n = []

theorem created_self (db : Database) : created db db = [] := by
  rw [created, List.drop_length]

theorem Created.start (db : Database) (t n : String) : Created db t n db where
  rows_eq := by rw [created_self, List.append_nil]
  gate r hr := by
    rw [created_self] at hr
    cases hr
  none_before hne := absurd (created_self db) hne

variable {db stored stored' : Database} {t n : String}

theorem Created.gateRows_eq (h : Created db t n stored) :
    gateRows stored t n = gateRows db t n ++ created db stored := by
  rw [gateRows, EventStore.approvalsOfGate, h.rows_eq, List.filter_append]
  congr 1
  exact List.filter_eq_self.mpr fun r hr ↦ decide_eq_true (h.gate r hr)

/-- Rows of the gate have different identifiers. -/
theorem gateRows_nodup (db : Database) (t n : String) :
    ((gateRows db t n).map Approval.approvalId).Nodup :=
  db.approvals.approvals.nodup_keys.sublist (List.filter_sublist.map _)

theorem created_insert (h : Created db t n stored) {row a : Approval}
    (hins : (Statement.insertApproval row).exec stored = .ok (a, stored')) :
    created db stored' = created db stored ++ [row] := by
  obtain ⟨-, tables, hinsert, rfl⟩ := Statement.exec_insertApproval_cases hins
  have hrows := ApprovalTables.rows_of_insertApproval hinsert
  rw [h.rows_eq, List.append_assoc] at hrows
  change tables.approvals.rows.drop _ = _
  rw [hrows, List.drop_left]

theorem Created.insert (h : Created db t n stored) {row a : Approval}
    (hgate : row.taskRunId = t ∧ row.nodeId = n) (hnone : gateRows db t n = [])
    (hins : (Statement.insertApproval row).exec stored = .ok (a, stored')) :
    Created db t n stored' := by
  have hcreated := created_insert h hins
  obtain ⟨-, tables, hinsert, rfl⟩ := Statement.exec_insertApproval_cases hins
  have hrows := ApprovalTables.rows_of_insertApproval hinsert
  refine ⟨?_, ?_, fun _ ↦ hnone⟩
  · rw [hcreated]
    change tables.approvals.rows = _
    rw [hrows, h.rows_eq, List.append_assoc]
  · intro r hr
    rw [hcreated] at hr
    rcases List.mem_append.mp hr with hr | hr
    · exact h.gate r hr
    · rw [List.mem_singleton.mp hr]
      exact hgate

/-- Insertions with different identifiers are independent. -/
theorem exists_exec_of_ne {row row' : Approval} {a : Approval} {stored' : Database}
    (h : stored.approvals.approvals.find? row.approvalId = none)
    (hne : row'.approvalId ≠ row.approvalId)
    (hins : (Statement.insertApproval row').exec stored = .ok (a, stored')) :
    stored'.approvals.approvals.find? row.approvalId = none := by
  obtain ⟨-, tables, hinsert, rfl⟩ := Statement.exec_insertApproval_cases hins
  change tables.approvals.find? row.approvalId = none
  rw [ApprovalTables.find?_of_insertApproval hinsert, if_neg hne, h]

/-! ## Where a call is -/

/-- A call that has selected nothing: the gate had no rows then, and it has none as long as the call
is up to date. -/
def Ticket (db : Database) (t n : String) (server : DatabaseServer ι) (i : ι) : Prop :=
  gateRows db t n = [] ∧ (upToDate i server.marks = true ↔ created db server.stored = [])

/-- The approval a call returns is a row of the gate, and where the gate had rows before the calls
it is the one the database selects. -/
def Fetched (db : Database) (t n : String) (c : CreateApproval) (stored : Database)
    (a : Approval) : Prop :=
  a ∈ gateRows stored t n ∧ (gateRows db t n ≠ [] →
    (gateRows db t n)[c.choice % (gateRows db t n).length]? = some a)

/-- Where the call of `i` is, and what the server knows of it there. -/
inductive Stage (db : Database) (t n : String) (c : CreateApproval) (server : DatabaseServer ι)
    (i : ι) (p : Method Approval) : Prop where
  | selecting (hp : p = Method.createApproval (forGate t n c)) (hsession : server.sessions i = {})
  | found (a : Approval) (hp : p = .call Call.commit (Method.committed (.ret a)))
      (hsession : server.sessions i = { work := [.selectApproval t n c.choice] })
      (hfetched : Fetched db t n c server.stored a)
  | missing (hp : p = Method.tx (Method.execute
        (.insertApproval (EventStore.pendingRow (forGate t n c)))))
      (hsession : server.sessions i = { work := [.selectApproval t n c.choice] })
      (hticket : Ticket db t n server i)
  | inserted (hp : p = .call Call.commit
        (Method.committed (.ret (EventStore.pendingRow (forGate t n c)))))
      (hsession : server.sessions i = { work := [.selectApproval t n c.choice,
        .insertApproval (EventStore.pendingRow (forGate t n c))] })
      (hlock : (i, .approval c.approvalId) ∈ server.locks)
      (hfree : server.stored.approvals.approvals.find? c.approvalId = none)
      (hticket : Ticket db t n server i)
  | returned (a : Approval) (hp : p = .ret a) (hfetched : Fetched db t n c server.stored a)
  | undoing (e : StoreError) (hp : p = Method.undo e)
  | raised (e : StoreError) (hp : p = .raise e)

/-- What a call of `i` does to the rows: nothing, or it creates the row of `i`. -/
inductive Moves (db : Database) (t n : String) (c : CreateApproval) (i : ι) (fault : Bool)
    (call : Call) (server server' : DatabaseServer ι) : Prop where
  | quiet (hstores : server.stores i fault call = false) (hstored : server'.stored = server.stored)
      (hmarks : ∀ j, j ≠ i → upToDate j server'.marks = upToDate j server.marks)
  | creates (hstores : server.stores i fault call = true)
      (hinsert : (Statement.insertApproval (EventStore.pendingRow (forGate t n c))).exec
        server.stored = .ok (EventStore.pendingRow (forGate t n c), server'.stored))
      (hlock : (i, .approval c.approvalId) ∈ server.locks) (hticket : Ticket db t n server i)
      (hmarks : server'.marks = server.marks ++ [.stored i])

variable {server server' : DatabaseServer ι} {i : ι} {c : CreateApproval} {p : Method Approval}
  {fault : Bool}

theorem Ticket.congr (h : Ticket db t n server i) (hstored : server'.stored = server.stored)
    (hmarks : upToDate i server'.marks = upToDate i server.marks) : Ticket db t n server' i := by
  rw [Ticket, hstored, hmarks]
  exact h

/-- Rows of the gate stay. -/
theorem Fetched.mono {a : Approval} (h : Fetched db t n c stored a)
    (hmem : a ∈ gateRows stored t n → a ∈ gateRows stored' t n) : Fetched db t n c stored' a :=
  ⟨hmem h.1, h.2⟩

theorem gateRows_of_moves {call : Call} {c' : CreateApproval} (h : Created db t n server.stored)
    (hmoves : Moves db t n c' i fault call server server') {a : Approval}
    (ha : a ∈ gateRows server.stored t n) : a ∈ gateRows server'.stored t n := by
  cases hmoves with
  | quiet hstores hstored hmarks =>
    rw [hstored]
    exact ha
  | creates hstores hinsert hlock hticket hmarks =>
    rw [(h.insert ⟨rfl, rfl⟩ hticket.1 hinsert).gateRows_eq, created_insert h hinsert,
      ← List.append_assoc, ← h.gateRows_eq]
    exact List.mem_append_left _ ha

/-- A call that is overtaken is out of date, and the gate has a row. -/
theorem Ticket.of_moves {j : ι} {c' : CreateApproval} {call : Call} (h : Ticket db t n server j)
    (hcreated : Created db t n server.stored)
    (hmoves : Moves db t n c' i fault call server server') (hj : j ≠ i) :
    Ticket db t n server' j := by
  cases hmoves with
  | quiet hstores hstored hmarks => exact h.congr hstored (hmarks j hj)
  | creates hstores hinsert hlock hticket hmarks =>
    refine ⟨h.1, ?_⟩
    rw [hmarks, upToDate_concat_stored, created_insert hcreated hinsert]
    simp

/-- The steps of the others. -/
theorem Stage.of_moves {j : ι} {c' : CreateApproval} {call : Call}
    {r : Except StoreError call.Reply} (h : Stage db t n c server j p)
    (hcreated : Created db t n server.stored) (hlocks : server.LocksHeldOnce)
    (hanswer : server.answer i fault call = some (r, server'))
    (hmoves : Moves db t n c' i fault call server server') (hj : j ≠ i) :
    Stage db t n c server' j p := by
  have hsessions := DatabaseServer.sessions_of_answer hanswer hj
  cases h with
  | selecting hp hsession => exact .selecting hp (hsessions.trans hsession)
  | found a hp hsession hfetched =>
    exact .found a hp (hsessions.trans hsession)
      (hfetched.mono (gateRows_of_moves hcreated hmoves))
  | missing hp hsession hticket =>
    exact .missing hp (hsessions.trans hsession) (hticket.of_moves hcreated hmoves hj)
  | inserted hp hsession hlock hfree hticket =>
    refine .inserted hp (hsessions.trans hsession)
      (DatabaseServer.mem_locks_of_answer hanswer hj hlock) ?_
      (hticket.of_moves hcreated hmoves hj)
    cases hmoves with
    | quiet hstores hstored hmarks =>
      rw [hstored]
      exact hfree
    | creates hstores hinsert hlock' hticket' hmarks =>
      -- the two rows have different keys, since a key is locked by one session only
      have hne : (EventStore.pendingRow (forGate t n c')).approvalId
          ≠ (EventStore.pendingRow (forGate t n c)).approvalId := by
        intro heq
        have hkey : c'.approvalId = c.approvalId := heq
        rw [hkey] at hlock'
        exact hj (hlocks j i _ hlock hlock')
      exact exists_exec_of_ne hfree hne hinsert
  | returned a hp hfetched =>
    exact .returned a hp (hfetched.mono (gateRows_of_moves hcreated hmoves))
  | undoing e hp => exact .undoing e hp
  | raised e hp => exact .raised e hp

/-! ### One's own step -/

/-- The `SELECT`. -/
theorem selecting_step (hcreated : Created db t n server.stored)
    (hsession : server.sessions i = {}) {r : Except StoreError (Option Approval)}
    (hanswer : server.answer i fault (.execute (.selectApproval t n c.choice))
      = some (r, server')) :
    Stage db t n c server' i (Method.selected (forGate t n c) r) ∧
      Moves db t n c i fault (.execute (.selectApproval t n c.choice)) server server' := by
  rcases DatabaseServer.answer_execute_cases hanswer with
    ⟨e, rfl, rfl | rfl⟩ | ⟨a, db', rfl, -, hexec, rfl⟩
  · exact ⟨.undoing e rfl, .quiet rfl rfl fun _ _ ↦ rfl⟩
  · exact ⟨.undoing e rfl, .quiet rfl rfl fun _ _ ↦ rfl⟩
  · rw [DatabaseServer.view_of_reads (by rw [hsession]; rfl)] at hexec
    have hwork : (server.ran i (.selectApproval t n c.choice)).sessions i
        = { work := [.selectApproval t n c.choice] } := by
      rw [DatabaseServer.sessions_ran, hsession]
      rfl
    refine ⟨?_, .quiet rfl rfl fun j hj ↦ upToDate_concat_read hj.symm _⟩
    have hselect : EventStore.selectForGate server.stored.approvals t n c.choice = a := by
      cases hexec
      rfl
    cases a with
    | some a =>
      refine .found a rfl hwork ⟨EventStore.mem_of_selectForGate hselect, fun hgate ↦ ?_⟩
      -- the gate had rows before, so nothing was created
      have hnone : created db server.stored = [] := by
        by_contra hne
        exact hgate (hcreated.none_before hne)
      have hrows : EventStore.approvalsOfGate server.stored.approvals t n = gateRows db t n := by
        rw [← List.append_nil (gateRows db t n), ← hnone]
        exact hcreated.gateRows_eq
      rwa [EventStore.selectForGate, hrows] at hselect
    | none =>
      have hrows := EventStore.approvalsOfGate_eq_nil hselect
      obtain ⟨hgate, hnone⟩ := List.append_eq_nil_iff.mp (hcreated.gateRows_eq.symm.trans hrows)
      refine .missing rfl hwork ⟨hgate, ?_⟩
      have hmarks : (server.ran i (.selectApproval t n c.choice)).marks
          = server.marks ++ [.read i] := rfl
      rw [hmarks, upToDate_concat_read_self]
      exact iff_of_true rfl hnone

/-- **One's own step.** -/
theorem Stage.own (h : Stage db t n c server i p) (hcreated : Created db t n server.stored)
    {call : Call} {k : Except StoreError call.Reply → Method Approval} (hcall : p = .call call k)
    {r : Except StoreError call.Reply}
    (hanswer : server.answer i fault call = some (r, server')) :
    Stage db t n c server' i (k r) ∧ Moves db t n c i fault call server server' := by
  cases h with
  | selecting hp hsession =>
    rw [hp, Method.createApproval_eq] at hcall
    cases hcall
    exact selecting_step hcreated hsession hanswer
  | found a hp hsession hfetched =>
    rw [hp] at hcall
    cases hcall
    have hreads : (server.sessions i).writes = false := by
      rw [hsession]
      rfl
    obtain ⟨hstored, hmarks⟩ := DatabaseServer.store_of_reads hreads
    have hstores := DatabaseServer.stores_of_reads hreads fault .commit
    rcases DatabaseServer.answer_commit_cases hanswer with
      ⟨rfl, hfailed, rfl⟩ | ⟨rfl, -, rfl⟩ | ⟨rfl, -, -, rfl⟩
    · rw [hsession] at hfailed
      cases hfailed
    · exact ⟨.undoing _ rfl, .quiet hstores rfl fun _ _ ↦ rfl⟩
    · refine ⟨.returned a rfl ?_, .quiet hstores hstored fun j _ ↦ by rw [hmarks]⟩
      rw [hstored]
      exact hfetched
  | missing hp hsession hticket =>
    rw [hp, Method.tx_execute] at hcall
    cases hcall
    rcases DatabaseServer.answer_execute_cases hanswer with
      ⟨e, rfl, rfl | rfl⟩ | ⟨a, db', rfl, -, hexec, rfl⟩
    · exact ⟨.undoing e rfl, .quiet rfl rfl fun _ _ ↦ rfl⟩
    · exact ⟨.undoing e rfl, .quiet rfl rfl fun _ _ ↦ rfl⟩
    · rw [DatabaseServer.view_of_reads (by rw [hsession]; rfl)] at hexec
      obtain ⟨rfl, tables, hinsert, -⟩ := Statement.exec_insertApproval_cases hexec
      refine ⟨.inserted rfl ?_ ?_ (ApprovalTables.find?_key_of_insertApproval hinsert)
        (hticket.congr rfl rfl), .quiet rfl rfl fun _ _ ↦ rfl⟩
      · rw [DatabaseServer.sessions_ran, hsession]
        rfl
      · exact List.mem_append_right _ List.mem_cons_self
  | inserted hp hsession hlock hfree hticket =>
    rw [hp] at hcall
    cases hcall
    have hkey : server.stored.approvals.approvals.find?
        (EventStore.pendingRow (forGate t n c)).approvalId = none := hfree
    obtain ⟨db', hexec⟩ := Statement.exists_exec_insertApproval hkey
    rcases DatabaseServer.answer_commit_cases hanswer with
      ⟨rfl, hfailed, rfl⟩ | ⟨rfl, hfault, rfl⟩ | ⟨rfl, -, hfault, rfl⟩
    · rw [hsession] at hfailed
      cases hfailed
    · refine ⟨.undoing _ rfl, .quiet ?_ rfl fun _ _ ↦ rfl⟩
      simp [DatabaseServer.stores, hfault]
    · have hwrites : (server.sessions i).writes = true := by
        rw [hsession]
        rfl
      have hstored : (server.store i).stored = db' := by
        change server.view i = db'
        rw [DatabaseServer.view, hsession]
        exact Statement.apply_eq hexec
      have hinsert := hexec
      rw [← hstored] at hinsert
      refine ⟨.returned _ rfl ⟨?_, fun hgate ↦ absurd hticket.1 hgate⟩,
        .creates ?_ hinsert hlock hticket ?_⟩
      · rw [(hcreated.insert ⟨rfl, rfl⟩ hticket.1 hinsert).gateRows_eq,
          created_insert hcreated hinsert]
        simp
      · rw [DatabaseServer.stores, hwrites, hsession, hfault]
        rfl
      · rw [DatabaseServer.store, hwrites]
        rfl
  | returned a hp hfetched =>
    rw [hp] at hcall
    cases hcall
  | undoing e hp =>
    rw [hp, Method.undo_eq] at hcall
    cases hcall
    rw [DatabaseServer.answer_rollback hanswer]
    obtain ⟨e', hraise⟩ := Method.undone_eq_raise e r
    exact ⟨.raised e' hraise, .quiet rfl rfl fun _ _ ↦ rfl⟩
  | raised e hp =>
    rw [hp] at hcall
    cases hcall

/-! ## Runs -/

theorem Created.of_moves {call : Call} (h : Created db t n server.stored)
    (hmoves : Moves db t n c i fault call server server') : Created db t n server'.stored := by
  cases hmoves with
  | quiet hstores hstored hmarks =>
    rw [hstored]
    exact h
  | creates hstores hinsert hlock hticket hmarks => exact h.insert ⟨rfl, rfl⟩ hticket.1 hinsert

/-- What holds of the server in every run. -/
structure Gate (db : Database) (t n : String) (server : DatabaseServer ι) : Prop where
  created : Created db t n server.stored
  locks : server.LocksHeldOnce

/-- **What every run keeps.** -/
theorem gate_and_stages (db : Database) (t n : String) (calls : ι → CreateApproval)
    (as : List (ι × Bool)) :
    Gate db t n (Transition.run Sessions.step (start db t n calls) as).state ∧
      ∀ j, Stage db t n (calls j)
        (Transition.run Sessions.step (start db t n calls) as).state j
        ((Transition.run Sessions.step (start db t n calls) as).threads j) := by
  refine Pool.run_forall (J := fun j server p ↦ Stage db t n (calls j) server j p) ?_
    ⟨.start db t n, fun _ _ _ h ↦ by cases h⟩ (fun j ↦ .selecting rfl rfl)
    (Transition.allSteps_of_forall (P := fun _ _ ↦ True) (fun _ _ ↦ trivial) _ as)
  intro p i fault call k r server' _ hgate hstage hcall hanswer
  obtain ⟨hown, hmoves⟩ := (hstage i).own hgate.created hcall hanswer
  exact ⟨⟨hgate.created.of_moves hmoves, hgate.locks.answer hanswer⟩, hown,
    fun j hj ↦ (hstage j).of_moves hgate.created hgate.locks hanswer hmoves hj⟩

/-- What a step does to the created rows: there is still at most one exactly when the step is not
overtaken. -/
theorem created_step_iff {pool : Sessions fun _ : ι ↦ Approval} {calls : ι → CreateApproval}
    (hgate : Gate db t n pool.state)
    (hstage : ∀ j, Stage db t n (calls j) pool.state j (pool.threads j)) (label : ι × Bool) :
    (created db (Sessions.step pool label).state.stored).length ≤ 1 ↔
      (created db pool.state.stored).length ≤ 1 ∧ Sessions.NotOvertaken pool label := by
  obtain ⟨i, fault⟩ := label
  rcases Pool.step_cases (m := DatabaseServer.answer) pool i fault with
    ⟨heq, hwait⟩ | ⟨call, k, r, server', hcall, hanswer, heq⟩
  · rw [Sessions.step, heq, Sessions.NotOvertaken, Sessions.stores_of_waits hwait]
    simp
  · obtain ⟨-, hmoves⟩ := (hstage i).own hgate.created hcall hanswer
    have hstores : Sessions.stores pool (i, fault) = pool.state.stores i fault call := by
      rw [Sessions.stores, hcall]
    rw [Sessions.step, heq, Sessions.NotOvertaken, hstores]
    cases hmoves with
    | quiet hquiet hstored hmarks => simp [hquiet, hstored]
    | creates hcreates hinsert hlock hticket hmarks =>
      have hlen : (created db pool.state.stored).length + 1 ≤ 1 ↔
          created db pool.state.stored = [] := by
        rw [← List.length_eq_zero_iff]
        omega
      rw [created_insert hgate.created hinsert, hcreates, hticket.2, List.length_append,
        List.length_singleton, hlen]
      refine ⟨fun hnil ↦ ⟨?_, fun _ ↦ hnil⟩, fun h ↦ h.2 rfl⟩
      rw [hnil]
      exact Nat.zero_le 1

theorem created_run_iff (db : Database) (t n : String) (calls : ι → CreateApproval)
    (as : List (ι × Bool)) :
    (created db (Transition.run Sessions.step (start db t n calls) as).state.stored).length ≤ 1 ↔
      Transition.AllSteps Sessions.step Sessions.NotOvertaken (start db t n calls) as := by
  induction as using List.reverseRecOn with
  | nil =>
    refine iff_of_true ?_ trivial
    change (created db db).length ≤ 1
    rw [created_self]
    exact Nat.zero_le 1
  | append_singleton as label ih =>
    obtain ⟨hgate, hstage⟩ := gate_and_stages db t n calls as
    rw [Transition.run_append, Transition.run_cons, Transition.run_nil,
      created_step_iff hgate hstage, ih, Transition.allSteps_append, Transition.allSteps_cons]
    simp

/-! ### What the calls return -/

/-- What is returned was fetched. -/
theorem Stage.fetched {a : Approval} (h : Stage db t n c server i p) (hret : p = .ret a) :
    Fetched db t n c server.stored a := by
  cases h with
  | selecting hp hsession =>
    rw [hp, Method.createApproval_eq] at hret
    cases hret
  | found a' hp hsession hfetched =>
    rw [hp] at hret
    cases hret
  | missing hp hsession hticket =>
    rw [hp, Method.tx_execute] at hret
    cases hret
  | inserted hp hsession hlock hfree hticket =>
    rw [hp] at hret
    cases hret
  | returned a' hp hfetched =>
    rw [hp] at hret
    cases hret
    exact hfetched
  | undoing e hp =>
    rw [hp, Method.undo_eq] at hret
    cases hret
  | raised e hp =>
    rw [hp] at hret
    cases hret

/-- Two rows of the gate from before the calls are one where they were selected alike. -/
theorem same_row_iff {c' : CreateApproval} {a b : Approval} (hgate : gateRows db t n ≠ [])
    (ha : (gateRows db t n)[c.choice % (gateRows db t n).length]? = some a)
    (hb : (gateRows db t n)[c'.choice % (gateRows db t n).length]? = some b) :
    a.approvalId = b.approvalId ↔
      c.choice % (gateRows db t n).length = c'.choice % (gateRows db t n).length := by
  constructor
  · intro hid
    have hlt : c.choice % (gateRows db t n).length
        < ((gateRows db t n).map Approval.approvalId).length := by
      rw [List.length_map]
      exact Nat.mod_lt _ (List.length_pos_of_ne_nil hgate)
    refine List.getElem?_inj hlt (gateRows_nodup db t n) |>.mp ?_
    rw [List.getElem?_map, List.getElem?_map, ha, hb, Option.map_some, Option.map_some, hid]
  · intro hindex
    rw [hindex, hb] at ha
    rw [Option.some.inj ha]

/-- The calls that have returned agree exactly when the database has selected the same row for
them. -/
theorem same_iff {pool : Sessions fun _ : ι ↦ Approval} {calls : ι → CreateApproval}
    (hgate : Gate db t n pool.state) (hone : (created db pool.state.stored).length ≤ 1)
    (hstage : ∀ j, Stage db t n (calls j) pool.state j (pool.threads j)) :
    (∀ i j a b, pool.threads i = .ret a → pool.threads j = .ret b → a.approvalId = b.approvalId) ↔
      SameSelection db t n calls pool := by
  by_cases hnil : gateRows db t n = []
  · -- everything that is returned was created
    have hmem : ∀ i a, pool.threads i = .ret a → a ∈ created db pool.state.stored := by
      intro i a hret
      have ha := ((hstage i).fetched hret).1
      rwa [hgate.created.gateRows_eq, hnil, List.nil_append] at ha
    refine iff_of_true (fun i j a b hi hj ↦ ?_) fun hlen ↦ ?_
    · have ha := hmem i a hi
      have hb := hmem j b hj
      cases hrows : created db pool.state.stored with
      | nil =>
        rw [hrows] at ha
        cases ha
      | cons x rows =>
        rw [hrows, List.length_cons] at hone
        obtain rfl := List.eq_nil_of_length_eq_zero (show rows.length = 0 by omega)
        rw [hrows, List.mem_singleton] at ha hb
        rw [ha, hb]
    · rw [hnil] at hlen
      cases hlen
  · have hrow : ∀ i j a b, pool.threads i = .ret a → pool.threads j = .ret b →
        (a.approvalId = b.approvalId ↔ (calls i).choice % (gateRows db t n).length
          = (calls j).choice % (gateRows db t n).length) := fun i j a b hi hj ↦
      same_row_iff hnil (((hstage i).fetched hi).2 hnil) (((hstage j).fetched hj).2 hnil)
    constructor
    · intro hsame _ i j a b hi hj
      exact (hrow i j a b hi hj).mp (hsame i j a b hi hj)
    · intro hselect i j a b hi hj
      refine (hrow i j a b hi hj).mpr ?_
      by_cases hlen : 2 ≤ (gateRows db t n).length
      · exact hselect hlen i j a b hi hj
      · have hpos := List.length_pos_of_ne_nil hnil
        rw [show (gateRows db t n).length = 1 by omega, Nat.mod_one, Nat.mod_one]

/-- **Exactly when a gate gets one approval.** However the calls of `create_approval` for a gate
interleave, each on a connection of its own: they create at most one row and all return it if and
only if no call was overtaken between its `SELECT` and the commit of its row, and the database
selected the same row for all where there were several before. -/
theorem one_approval_iff (db : Database) (t n : String) (calls : ι → CreateApproval)
    (as : List (ι × Bool)) :
    OneApproval db (Transition.run Sessions.step (start db t n calls) as) ↔
      Transition.AllSteps Sessions.step Sessions.NotOvertaken (start db t n calls) as ∧
        SameSelection db t n calls (Transition.run Sessions.step (start db t n calls) as) := by
  obtain ⟨hgate, hstage⟩ := gate_and_stages db t n calls as
  constructor
  · intro h
    exact ⟨(created_run_iff db t n calls as).mp h.created,
      (same_iff hgate h.created hstage).mp h.same⟩
  · rintro ⟨hsteps, hselect⟩
    have hone := (created_run_iff db t n calls as).mpr hsteps
    exact ⟨hone, (same_iff hgate hone hstage).mpr hselect⟩

/-! ### Two calls -/

def sampleCalls : Bool → CreateApproval
  | false =>
    { taskRunId := "t", nodeId := "n", tenantId := "x", requestedBy := "u", approvalId := "a",
      now := 1 }
  | true =>
    { taskRunId := "t", nodeId := "n", tenantId := "x", requestedBy := "u", approvalId := "b",
      now := 2 }

/-- Both calls select before one of them has committed its row. -/
def bothSelected : Sessions fun _ : Bool ↦ Approval :=
  Transition.run Sessions.step (start sampleDatabase "t" "n" sampleCalls)
    [(false, false), (true, false), (false, false), (true, false), (false, false), (true, false)]

/-- Both calls return, and each has a row of its own. -/
theorem two_rows_for_one_gate :
    ¬OneApproval sampleDatabase bothSelected ∧
      (created sampleDatabase bothSelected.state.stored).map Approval.approvalId = ["a", "b"] ∧
      bothSelected.threads false = .ret (EventStore.pendingRow (sampleCalls false)) ∧
      bothSelected.threads true = .ret (EventStore.pendingRow (sampleCalls true)) := by
  have hcreated : (created sampleDatabase bothSelected.state.stored).map Approval.approvalId
      = ["a", "b"] := by decide
  refine ⟨fun h ↦ ?_, hcreated, rfl, rfl⟩
  have hlen := congrArg List.length hcreated
  rw [List.length_map] at hlen
  have hone := h.created
  rw [hlen] at hone
  exact absurd hone (by decide)

end ApprovalRace

end Orchestra
