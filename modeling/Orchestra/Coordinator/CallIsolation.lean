import Orchestra.Coordinator.OwnCalls
import Orchestra.Coordinator.StoreIsolation

/-!
# What a call does for its task and for the others

A call that is the run's own has the same answer in two hubs that are the same for its task
(`serve_same`), and the other tasks do not see it (`sameHub_serve`). Besides it keeps what makes the
next call an own one: the coordinator stays wired, and what the run has received stays valid
(`hubOk_serve`, `threadOk_serve`).

The one field that the view of a task leaves out is the stash of the initial inputs, which the
tasks do overwrite for each other. A run reads it in the turn in which it has written it
(`sameInputs_serve`).
-/

namespace Orchestra

namespace Engine

open Interaction EventStore

variable {cfg : Config} {own : String → Prop} {taskRunId : String} {d : Draws}
  {adapter : AdapterRequest → Except Raised AdapterResult} {t : RunTrace} {c : Cmd} {w w' : World}

/-! ## The answers of the store -/

/-- The answers are the same, and what they leave is the same for the task. -/
structure SameAnswer (own : String → Prop) (taskRunId : String) {α : Type}
    (r r' : Except Raised α × World) : Prop where
  reply : r.1 = r'.1
  tables : SameTables own taskRunId r.2.db r'.2.db
  results : r.2.results = r'.2.results

theorem SameAnswer.commit (h : SameTables own taskRunId w.db w'.db)
    (hresults : w.results = w'.results) {tx tx' : Except StoreError Database}
    (htx : Both (SameTables own taskRunId) tx tx') :
    SameAnswer own taskRunId (w.commit tx) (w'.commit tx') := by
  cases htx with
  | ok hdb => exact ⟨rfl, hdb, hresults⟩
  | error e => exact ⟨rfl, h, hresults⟩

theorem SameAnswer.createForNode (h : SameTables own taskRunId w.db w'.db)
    (hresults : w.results = w'.results) {create : CreateApproval}
    (htask : create.taskRunId = taskRunId) (hid : own create.approvalId) :
    SameAnswer own taskRunId (w.createForNode create) (w'.createForNode create) := by
  rw [World.createForNode, World.createForNode]
  have hcreate := h.approvals.createApproval htask hid
  revert hcreate
  generalize EventStore.createApproval w.db.approvals create = r
  generalize EventStore.createApproval w'.db.approvals create = r'
  rintro (⟨hsame, hrow⟩ | e)
  · exact ⟨congrArg (fun row : Approval ↦ Except.ok row.approvalId) hrow,
      { h with approvals := hsame }, hresults⟩
  · exact ⟨rfl, h, hresults⟩

theorem SameAnswer.saveApproval (h : SameTables own taskRunId w.db w'.db)
    (hresults : w.results = w'.results) {row : Approval} (hid : own row.approvalId) :
    SameAnswer own taskRunId (w.saveApproval row) (w'.saveApproval row) := by
  rw [World.saveApproval, World.saveApproval]
  have hsave := h.approvals.saveApproval hid false
  revert hsave
  generalize Coordinator.saveApproval false w.db.approvals row = r
  generalize Coordinator.saveApproval false w'.db.approvals row = r'
  rintro (hsame | e)
  · exact ⟨rfl, { h with approvals := hsame }, hresults⟩
  · exact ⟨rfl, h, hresults⟩

variable (adapter w w') in
/-- **A call of the task** has the same answer in both. -/
theorem sameAnswer_answer (h : SameTables own taskRunId w.db w'.db)
    (hresults : w.results = w'.results) (hown : c.Own cfg taskRunId t)
    (huses : ∀ id, Token.id id ∈ c.uses → own id)
    (happroval : own (Coordinator.newApprovalId (d.approvalRowId t)))
    (hinputs : c = .getInitialInputs → w.initialInputs = w'.initialInputs) :
    SameAnswer own taskRunId (answer cfg (d.env adapter taskRunId) w t c)
      (answer cfg (d.env adapter taskRunId) w' t c) := by
  have htask := hown.task
  cases c with
  | getInitialInputs => exact ⟨congrArg Except.ok (hinputs rfl), h, hresults⟩
  | setResult nodeId outputs =>
    exact ⟨rfl, h, congrArg (Json.setField · nodeId (.obj outputs)) hresults⟩
  | getResult nodeId =>
    refine ⟨?_, h, hresults⟩
    change w.getResult nodeId = w'.getResult nodeId
    rw [World.getResult, World.getResult, hresults]
  | getResults => exact ⟨congrArg Except.ok hresults, h, hresults⟩
  | upsertTaskRun id contractId templateId state planId =>
    obtain rfl : id = taskRunId := htask
    exact .commit h hresults (.ok (h.upsertTaskRun contractId templateId state planId _))
  | updateTaskState id state =>
    obtain rfl : id = taskRunId := htask
    exact .commit h hresults (.ok (h.updateTaskState state _))
  | getTaskRun id =>
    obtain rfl : id = taskRunId := htask
    exact ⟨congrArg Except.ok h.taskRun, h, hresults⟩
  | upsertNodeRun row =>
    exact .commit h hresults (h.upsertNodeRun htask (huses _ List.mem_cons_self))
  | updateNodeState id state output started ended =>
    exact .commit h hresults (.ok (h.updateNodeState id state output started ended _))
  | appendEvent ev =>
    refine .commit h hresults (h.appendEvent htask (huses _ List.mem_cons_self) fun id hid ↦ ?_)
    -- the node run that the event names
    refine huses id (List.mem_cons_of_mem _ ?_)
    rw [hid]
    exact List.mem_cons_self
  | saveGrant grant => exact .commit h hresults (h.saveGrant (huses _ List.mem_cons_self))
  | saveReceipt receipt =>
    exact .commit h hresults (h.saveReceipt htask (huses _ List.mem_cons_self)
      (huses _ (List.mem_cons_of_mem _ List.mem_cons_self)) _)
  | getReceipts id =>
    obtain rfl : id = taskRunId := htask
    exact ⟨congrArg Except.ok h.getReceipts, h, hresults⟩
  | createForNode id nodeId tenantId => exact .createForNode h hresults htask happroval
  | saveApproval row => exact .saveApproval h hresults (huses _ List.mem_cons_self)
  | _ => exact ⟨rfl, h, hresults⟩

/-! ### What another task sees of them -/

theorem sameTables_commit {tx : Except StoreError Database}
    (h : ∀ db', tx = .ok db' → SameTables own taskRunId w.db db') :
    SameTables own taskRunId w.db (w.commit tx).2.db := by
  cases tx with
  | ok db' => exact h db' rfl
  | error e => exact .refl _

theorem sameTables_createForNode {create : CreateApproval} (htask : create.taskRunId ≠ taskRunId)
    (hid : ¬own create.approvalId) :
    SameTables own taskRunId w.db (w.createForNode create).2.db := by
  rw [World.createForNode]
  rcases hcreate : EventStore.createApproval w.db.approvals create with e | ⟨approvals, row⟩
  · exact .refl _
  · exact { SameTables.refl w.db with
      approvals := sameApprovals_createApproval htask hid hcreate }

theorem sameTables_saveApproval {row : Approval} (htask : row.taskRunId ≠ taskRunId)
    (hid : ¬own row.approvalId) : SameTables own taskRunId w.db (w.saveApproval row).2.db := by
  rw [World.saveApproval, Coordinator.saveApproval, if_neg Bool.false_ne_true]
  cases hins : w.db.approvals.insertApproval row with
  | none => exact .refl _
  | some approvals =>
    exact { SameTables.refl w.db with
      approvals := sameApprovals_insertApproval hid htask hins }

variable (w) in
/-- **A call of another task** is not seen. -/
theorem sameTables_answer {other : String} {env : Env other} (hown : c.Own cfg other t)
    (hne : other ≠ taskRunId) (huses : ∀ id, Token.id id ∈ c.uses → ¬own id)
    (happroval : ¬own (Coordinator.newApprovalId (env.approvalRowId t))) :
    SameTables own taskRunId w.db (answer cfg env w t c).2.db := by
  have htask := hown.task
  cases c with
  | upsertTaskRun id contractId templateId state planId =>
    obtain rfl : id = other := htask
    refine sameTables_commit fun db' hdb ↦ ?_
    cases hdb
    exact sameTables_upsertTaskRun hne contractId templateId state planId _
  | updateTaskState id state =>
    obtain rfl : id = other := htask
    refine sameTables_commit fun db' hdb ↦ ?_
    cases hdb
    exact sameTables_updateTaskState hne state _
  | upsertNodeRun row =>
    exact sameTables_commit fun _ hdb ↦
      sameTables_upsertNodeRun (huses _ List.mem_cons_self) hdb
  | updateNodeState id state output started ended =>
    refine sameTables_commit fun db' hdb ↦ ?_
    cases hdb
    exact sameTables_updateNodeState id state output started ended _
  | appendEvent ev =>
    refine sameTables_commit fun _ hdb ↦
      sameTables_appendEvent (fun hev ↦ hne ?_) (huses _ List.mem_cons_self) hdb
    rw [Cmd.taskOf, hev] at htask
    exact htask.symm
  | saveGrant grant =>
    exact sameTables_commit fun _ hdb ↦ sameTables_saveGrant (huses _ List.mem_cons_self) hdb
  | saveReceipt receipt =>
    exact sameTables_commit fun _ hdb ↦ sameTables_saveReceipt (fun hr ↦ hne (htask.symm.trans hr))
      (huses _ List.mem_cons_self) hdb
  | createForNode id nodeId tenantId =>
    exact sameTables_createForNode (fun hid ↦ hne (htask.symm.trans hid)) happroval
  | saveApproval row =>
    exact sameTables_saveApproval (fun hr ↦ hne (htask.symm.trans hr))
      (huses _ List.mem_cons_self)
  | _ => exact .refl _

/-! ### What every call keeps -/

theorem gatesStay_insertApproval {t t' : ApprovalTables} {row : Approval}
    (h : t.insertApproval row = some t') : GatesStay t t' := by
  intro a r hr
  have hne : row.approvalId ≠ a := by
    rintro rfl
    rw [ApprovalTables.find?_key_of_insertApproval h] at hr
    cases hr
  refine ⟨r, ?_, rfl⟩
  rw [ApprovalTables.find?_of_insertApproval h, if_neg hne]
  exact hr

theorem gatesStay_commit {tx : Except StoreError Database}
    (h : ∀ db', tx = .ok db' → db'.approvals = w.db.approvals) :
    GatesStay w.db.approvals (w.commit tx).2.db.approvals := by
  cases tx with
  | ok db' =>
    rw [show (w.commit (.ok db')).2.db = db' from rfl, h db' rfl]
    exact (Advances.refl _).gatesStay
  | error e => exact (Advances.refl _).gatesStay

/-- The approvals stay at their gates. -/
theorem gatesStay_answer (env : Env taskRunId) (w : World) (t : RunTrace) (c : Cmd) :
    GatesStay w.db.approvals (answer cfg env w t c).2.db.approvals := by
  cases c with
  | createForNode id nodeId tenantId =>
    rw [answer, World.createForNode]
    split
    · next approvals row hcreate =>
      exact (createApproval_cases (Coordinator.newApprovalId_ne_empty _) hcreate).1.gatesStay
    · exact (Advances.refl _).gatesStay
  | saveApproval row =>
    rw [answer, World.saveApproval, Coordinator.saveApproval, if_neg Bool.false_ne_true]
    cases hins : w.db.approvals.insertApproval row with
    | none => exact (Advances.refl _).gatesStay
    | some approvals => exact gatesStay_insertApproval hins
  | upsertNodeRun row =>
    refine gatesStay_commit fun db' hdb ↦ ?_
    rw [upsertNodeRun_eq_ok hdb]
  | appendEvent ev =>
    refine gatesStay_commit fun db' hdb ↦ ?_
    obtain ⟨_, _, -, -, -, -, -, rfl⟩ := appendEvent_cases hdb
    rfl
  | saveGrant grant =>
    refine gatesStay_commit fun db' hdb ↦ ?_
    rw [saveGrant] at hdb
    split at hdb <;> cases hdb
    rfl
  | saveReceipt receipt =>
    refine gatesStay_commit fun db' hdb ↦ ?_
    rw [saveReceipt] at hdb
    split at hdb
    · split at hdb <;> cases hdb
      rfl
    · cases hdb
  | _ => exact (Advances.refl _).gatesStay

/-! ## A run on the hub -/

/-- The coordinator is wired, and is the one of the configuration. -/
structure HubOk (cfg : Config) (h : Hub) : Prop where
  gates : CoordinatorOk h.db.approvals h.co
  tenantId : h.co.tenantId = cfg.tenantId
  hasApprovalService : h.co.hasApprovalService = cfg.hasApprovalService

/-- The hubs are the same for a task with these identifiers. -/
structure SameHub (own : String → Prop) (taskRunId : String) (h h' : Hub) : Prop where
  tables : SameTables own taskRunId h.db h'.db
  gates : Coordinator.SameGates taskRunId h.co h'.co

theorem SameHub.equivalence (own : String → Prop) (taskRunId : String) :
    Equivalence (SameHub own taskRunId) where
  refl _ := ⟨.refl _, .refl _⟩
  symm h := ⟨h.tables.symm, h.gates.symm⟩
  trans h h' := ⟨h.tables.trans h'.tables, h.gates.trans h'.gates⟩

/-- The identifiers of a task: `owner` knows the task an identifier was drawn for. -/
abbrev OwnedBy (owner : String → String) (taskRunId : String) (id : String) : Prop :=
  owner id = taskRunId

/-- What a run of the task draws is its own. -/
structure Draws.OwnedBy (d : Draws) (owner : String → String) (taskRunId : String) : Prop where
  newId : ∀ t, owner (d.newId t) = taskRunId
  approvalId : ∀ t, owner (Coordinator.newApprovalId (d.approvalRowId t)) = taskRunId

variable {owner : String → String} {h h' : Hub} {l : Locals} {α : Type} {a a' : ApprovalTables}

/-- The identifier is one of the task, and the approval is the row of the gate. -/
def Token.Valid (owner : String → String) (taskRunId : String) (a : ApprovalTables) : Token → Prop
  | .id s => owner s = taskRunId
  | .approval nodeId approvalId => ∃ row, a.approvals.find? approvalId = some row ∧
      (row.taskRunId, row.nodeId) = (taskRunId, nodeId)

theorem Token.Valid.of_gatesStay {k : Token} (hk : k.Valid owner taskRunId a)
    (hstay : GatesStay a a') : k.Valid owner taskRunId a' := by
  cases k with
  | id id => exact hk
  | approval nodeId approvalId =>
    obtain ⟨row, hrow, hgate⟩ := hk
    obtain ⟨row', hrow', hgate'⟩ := hstay approvalId row hrow
    exact ⟨row', hrow', hgate'.trans hgate⟩

/-- A run somewhere: what is left of it makes own calls, what it has received is valid, and it waits
at a gate of its own. -/
structure ThreadOk (cfg : Config) (owner : String → String) (taskRunId : String)
    (a : ApprovalTables) (p : Prog α) (l : Locals) (t : RunTrace) : Prop where
  own : Sat AnyReply p (fun _ ↦ Owned cfg taskRunId) t
  tokens : ∀ k ∈ received t, k.Valid owner taskRunId a
  gate : ∀ key, l.gate = some key → key.1 = taskRunId

namespace ThreadOk

variable {p : Prog α} {k : Except Raised (Reply c) → Prog α}

theorem of_gatesStay (hth : ThreadOk cfg owner taskRunId a p l t) (hstay : GatesStay a a') :
    ThreadOk cfg owner taskRunId a' p l t :=
  ⟨hth.own, fun k hk ↦ (hth.tokens k hk).of_gatesStay hstay, hth.gate⟩

/-- The next call is the run's own. -/
theorem call_own (hth : ThreadOk cfg owner taskRunId a (.call c k) l t) :
    c.Own cfg taskRunId t := by
  have hnext := (hth.own (.error ⟨"", ""⟩) trivial).everyStep ⟨"", ""⟩ fun _ _ ↦ trivial
  exact (everyStep_concat.mp hnext).2

/-- The identifiers of the next call belong to the task. -/
theorem owner_of_uses (hth : ThreadOk cfg owner taskRunId a (.call c k) l t) {id : String}
    (hid : Token.id id ∈ c.uses) : owner id = taskRunId :=
  hth.tokens _ (hth.call_own.uses _ hid)

/-- An approval is received from the service, which is used with a tenant only. -/
theorem exists_tenant (hth : ThreadOk cfg owner taskRunId a p l t) {nodeId approvalId : String}
    (hk : Token.approval nodeId approvalId ∈ received t) :
    ∃ tenantId, cfg.hasApprovalService = true ∧ cfg.tenantId = some tenantId ∧ tenantId ≠ "" := by
  obtain ⟨⟨create, r⟩, hs, hreceived⟩ := List.mem_filterMap.mp hk
  have howned : Owned cfg taskRunId t := hth.own.everyStep ⟨"", ""⟩ fun _ _ ↦ trivial
  obtain ⟨pre, hown⟩ := howned.exists_of_mem hs
  cases create with
  | createForNode id node tenantId => exact ⟨tenantId, hown.tenant id node tenantId rfl⟩
  | newId => cases r <;> cases hreceived
  | _ => cases hreceived

end ThreadOk

/-! ### A call is answered -/

/-- Only the calls on the registered events are answered in a way of their own. -/
theorem serve_eq {env : Env taskRunId}
    (hregister : ∀ id nodeId bucket, c ≠ .registerApproval id nodeId bucket)
    (hwait : ∀ bucket, c ≠ .awaitDecision bucket) :
    serve cfg env (h, l) t c = match fault env t c with
      | some e => (.error e, h, l)
      | none => ((answer cfg env (h.world l.results) t c).1,
          h.after (answer cfg env (h.world l.results) t c).2,
          { l with results := (answer cfg env (h.world l.results) t c).2.results }) := by
  cases c with
  | registerApproval id nodeId bucket => exact absurd rfl (hregister id nodeId bucket)
  | awaitDecision bucket => exact absurd rfl (hwait bucket)
  | _ => rfl

variable (cfg) in
/-- The calls on the registered events, the exceptions, and the other calls. -/
theorem serve_cases (env : Env taskRunId) (h : Hub) (l : Locals) (t : RunTrace) (c : Cmd) :
    (∃ id nodeId bucket, c = .registerApproval id nodeId bucket) ∨
    (∃ bucket, c = .awaitDecision bucket) ∨
    (∃ e, serve cfg env (h, l) t c = (.error e, h, l)) ∨
    serve cfg env (h, l) t c = ((answer cfg env (h.world l.results) t c).1,
      h.after (answer cfg env (h.world l.results) t c).2,
      { l with results := (answer cfg env (h.world l.results) t c).2.results }) := by
  by_cases hregister : ∃ id nodeId bucket, c = .registerApproval id nodeId bucket
  · exact .inl hregister
  by_cases hwait : ∃ bucket, c = .awaitDecision bucket
  · exact .inr (.inl hwait)
  push Not at hregister hwait
  rw [serve_eq hregister hwait]
  cases fault env t c with
  | some e => exact .inr (.inr (.inl ⟨e, rfl⟩))
  | none => exact .inr (.inr (.inr rfl))

variable (cfg) in
theorem gatesStay_serve (env : Env taskRunId) (h : Hub) (l : Locals) (t : RunTrace) (c : Cmd) :
    GatesStay h.db.approvals (serve cfg env (h, l) t c).2.1.db.approvals := by
  rcases serve_cases cfg env h l t c with
    ⟨id, nodeId, bucket, rfl⟩ | ⟨bucket, rfl⟩ | ⟨e, heq⟩ | heq
  · exact (Advances.refl _).gatesStay
  · exact (Advances.refl _).gatesStay
  · rw [heq]
    exact (Advances.refl _).gatesStay
  · rw [heq]
    exact gatesStay_answer env (h.world l.results) t c

/-- What a call replies is valid. -/
theorem valid_answer (hd : d.OwnedBy owner taskRunId) (hown : c.Own cfg taskRunId t) {k : Token}
    (hk : received? ⟨c, (answer cfg (d.env adapter taskRunId) w t c).1⟩ = some k) :
    k.Valid owner taskRunId (answer cfg (d.env adapter taskRunId) w t c).2.db.approvals := by
  cases c with
  | newId =>
    obtain rfl := Option.some.inj hk
    exact hd.newId t
  | createForNode id nodeId tenantId =>
    obtain rfl : id = taskRunId := hown.task
    rw [answer, World.createForNode] at hk ⊢
    split at hk
    · next approvals row hcreate =>
      obtain rfl := Option.some.inj hk
      obtain ⟨-, hrow, htask, hnode⟩ :=
        createApproval_cases (Coordinator.newApprovalId_ne_empty _) hcreate
      exact ⟨row, hrow, by rw [htask, hnode]⟩
    · cases hk
  | _ => cases hk

section Serve

variable {k : Except Raised (Reply c) → Prog α}

/-- The payload that a run registers names the row of its gate, or none. -/
theorem row_of_newHandle {id nodeId : String} {bucket : Dict}
    {k : Except Raised (Reply (.registerApproval id nodeId bucket)) → Prog α}
    (hhub : HubOk cfg h)
    (hth : ThreadOk cfg owner taskRunId h.db.approvals (.call (.registerApproval id nodeId bucket) k)
      l t)
    {approvalId : String}
    (ha : (newHandle t id nodeId bucket).bucket.approvalId = some approvalId) :
    h.co.approvalTenant.isSome ∧ ∃ row, h.db.approvals.approvals.find? approvalId = some row ∧
      (row.taskRunId, row.nodeId) = (newHandle t id nodeId bucket).key := by
  have htask : id = taskRunId := hth.call_own.task
  have hmem : Token.approval nodeId approvalId ∈ received t := by
    refine hth.call_own.uses _ ?_
    rw [Cmd.uses, show textField _ = some approvalId from ha]
    exact List.mem_singleton_self _
  obtain ⟨tenantId, hservice, htenant, hne⟩ := hth.exists_tenant hmem
  refine ⟨?_, htask ▸ hth.tokens _ hmem⟩
  rw [Coordinator.approvalTenant, hhub.hasApprovalService, hhub.tenantId, if_pos hservice, htenant,
    Option.filter_some, if_pos (decide_eq_true hne)]
  rfl

theorem hubOk_serve (hhub : HubOk cfg h)
    (hth : ThreadOk cfg owner taskRunId h.db.approvals (.call c k) l t) (env : Env taskRunId) :
    HubOk cfg (serve cfg env (h, l) t c).2.1 := by
  rcases serve_cases cfg env h l t c with
    ⟨id, nodeId, bucket, rfl⟩ | ⟨bucket, rfl⟩ | ⟨e, heq⟩ | heq
  · exact ⟨hhub.gates.register fun a ha ↦ row_of_newHandle hhub hth ha, hhub.tenantId,
      hhub.hasApprovalService⟩
  · exact hhub
  · rwa [heq]
  · rw [heq]
    exact ⟨hhub.gates.of_gatesStay (gatesStay_answer env (h.world l.results) t c), hhub.tenantId,
      hhub.hasApprovalService⟩

variable (adapter) in
/-- **A call keeps** what is known of its run. -/
theorem threadOk_serve (hd : d.OwnedBy owner taskRunId)
    (hth : ThreadOk cfg owner taskRunId h.db.approvals (.call c k) l t) :
    ThreadOk cfg owner taskRunId (serve cfg (d.env adapter taskRunId) (h, l) t c).2.1.db.approvals
      (k (serve cfg (d.env adapter taskRunId) (h, l) t c).1)
      (serve cfg (d.env adapter taskRunId) (h, l) t c).2.2
      (t ++ [⟨c, (serve cfg (d.env adapter taskRunId) (h, l) t c).1⟩]) := by
  have hstay := gatesStay_serve cfg (d.env adapter taskRunId) h l t c
  refine ⟨hth.own _ trivial, fun k hk ↦ ?_, fun key hkey ↦ ?_⟩
  · rw [received_concat, List.mem_append, Option.mem_toList] at hk
    rcases hk with hold | hnew
    · exact (hth.tokens k hold).of_gatesStay hstay
    -- only the answers of the store and of `new_id` bring a new token
    · rcases serve_cases cfg (d.env adapter taskRunId) h l t c with
        ⟨id, nodeId, bucket, rfl⟩ | ⟨bucket, rfl⟩ | ⟨e, heq⟩ | heq
      · cases hnew
      · cases hnew
      · rw [heq] at hnew
        cases c <;> cases hnew
      · rw [heq] at hnew ⊢
        exact valid_answer hd hth.call_own hnew
  · rcases serve_cases cfg (d.env adapter taskRunId) h l t c with
      ⟨id, nodeId, bucket, rfl⟩ | ⟨bucket, rfl⟩ | ⟨e, heq⟩ | heq
    · obtain rfl := Option.some.inj hkey
      exact hth.call_own.task
    · exact hth.gate key hkey
    · rw [heq] at hkey
      exact hth.gate key hkey
    · rw [heq] at hkey
      exact hth.gate key hkey

/-- **A call of another task** is not seen. -/
theorem sameHub_serve {other : String} (hd : d.OwnedBy owner other) (hhub : HubOk cfg h)
    (hth : ThreadOk cfg owner other h.db.approvals (.call c k) l t) (hne : other ≠ taskRunId) :
    SameHub (OwnedBy owner taskRunId) taskRunId h
      (serve cfg (d.env adapter other) (h, l) t c).2.1 := by
  rcases serve_cases cfg (d.env adapter other) h l t c with
    ⟨id, nodeId, bucket, rfl⟩ | ⟨bucket, rfl⟩ | ⟨e, heq⟩ | heq
  · have htask : id = other := hth.call_own.task
    exact ⟨.refl _, Coordinator.sameGates_register hhub.gates (htask.trans_ne hne)⟩
  · exact (SameHub.equivalence _ _).refl h
  · rw [heq]
    exact (SameHub.equivalence _ _).refl h
  · rw [heq]
    refine ⟨sameTables_answer (h.world l.results) hth.call_own hne (fun id hid heq ↦ ?_) ?_,
      .refl _⟩
    · exact hne ((hth.owner_of_uses hid).symm.trans heq)
    · exact fun heq ↦ hne ((hd.approvalId t).symm.trans heq)

/-! ### In two hubs -/

/-- The event that a run waits on is the same. -/
theorem SameHub.awaited (hs : SameHub own taskRunId h h')
    (hgate : ∀ key, l.gate = some key → key.1 = taskRunId) : h.awaited l = h'.awaited l := by
  rw [Hub.awaited, Hub.awaited]
  cases hkey : l.gate with
  | none => rfl
  | some key =>
    obtain ⟨task, nodeId⟩ := key
    obtain rfl : task = taskRunId := hgate _ hkey
    exact hs.gates.handle nodeId

theorem commit_initialInputs (w : World) (tx : Except StoreError Database) :
    (w.commit tx).2.initialInputs = w.initialInputs := by
  cases tx <;> rfl

theorem answer_initialInputs (env : Env taskRunId) (w : World) (t : RunTrace)
    (hc : c.setsInputs = false) : (answer cfg env w t c).2.initialInputs = w.initialInputs := by
  cases c with
  | setInitialInputs inputs => cases hc
  | createForNode id nodeId tenantId =>
    rw [answer, World.createForNode]
    split <;> rfl
  | saveApproval row =>
    rw [answer, World.saveApproval]
    split <;> rfl
  | upsertNodeRun row => exact commit_initialInputs w _
  | appendEvent ev => exact commit_initialInputs w _
  | saveGrant grant => exact commit_initialInputs w _
  | saveReceipt receipt => exact commit_initialInputs w _
  | _ => rfl

/-- Only one call writes the stash of the inputs. -/
theorem serve_initialInputs (env : Env taskRunId) (h : Hub) (l : Locals) (t : RunTrace)
    (hc : c.setsInputs = false) :
    (serve cfg env (h, l) t c).2.1.initialInputs = h.initialInputs := by
  rcases serve_cases cfg env h l t c with
    ⟨id, nodeId, bucket, rfl⟩ | ⟨bucket, rfl⟩ | ⟨e, heq⟩ | heq
  · rfl
  · rfl
  · rw [heq]
  · rw [heq]
    exact answer_initialInputs env (h.world l.results) t hc

/-- A run that holds its inputs finds the same ones. -/
theorem sameInputs_serve (env : Env taskRunId)
    (hslot : holdsInputs t = true → c.suspends = false → h.initialInputs = h'.initialInputs)
    {r : Except Raised (Reply c)} (hholds : holdsInputs (t ++ [⟨c, r⟩]) = true) :
    (serve cfg env (h, l) t c).2.1.initialInputs =
      (serve cfg env (h', l) t c).2.1.initialInputs := by
  cases hc : c.setsInputs with
  | true =>
    cases c with
    | setInitialInputs inputs => rfl
    | _ => cases hc
  | false =>
    rw [serve_initialInputs env h l t hc, serve_initialInputs env h' l t hc]
    rw [holdsInputs_concat, hc, Bool.false_or, Bool.and_eq_true, Bool.not_eq_true'] at hholds
    exact hslot hholds.1 hholds.2

variable (adapter) in
/-- **A call of the task** is answered alike in hubs that are the same for it. -/
theorem serve_same (hd : d.OwnedBy owner taskRunId) (hhub : HubOk cfg h) (hhub' : HubOk cfg h')
    (hth : ThreadOk cfg owner taskRunId h.db.approvals (.call c k) l t)
    (hs : SameHub (OwnedBy owner taskRunId) taskRunId h h')
    (hslot : holdsInputs t = true → c.suspends = false → h.initialInputs = h'.initialInputs) :
    (serve cfg (d.env adapter taskRunId) (h, l) t c).1 =
        (serve cfg (d.env adapter taskRunId) (h', l) t c).1 ∧
      (serve cfg (d.env adapter taskRunId) (h, l) t c).2.2 =
        (serve cfg (d.env adapter taskRunId) (h', l) t c).2.2 ∧
      SameHub (OwnedBy owner taskRunId) taskRunId
        (serve cfg (d.env adapter taskRunId) (h, l) t c).2.1
        (serve cfg (d.env adapter taskRunId) (h', l) t c).2.1 := by
  by_cases hregister : ∃ id nodeId bucket, c = .registerApproval id nodeId bucket
  -- the payload has the time that the run has read last, so it is the same
  · obtain ⟨id, nodeId, bucket, rfl⟩ := hregister
    exact ⟨rfl, rfl, hs.tables, hs.gates.register hhub.gates hhub'.gates _⟩
  by_cases hwait : ∃ bucket, c = .awaitDecision bucket
  · obtain ⟨bucket, rfl⟩ := hwait
    refine ⟨?_, rfl, hs⟩
    change Except.ok (h.payload l bucket) = Except.ok (h'.payload l bucket)
    rw [Hub.payload, Hub.payload, hs.awaited hth.gate]
  push Not at hregister hwait
  rw [serve_eq hregister hwait, serve_eq hregister hwait]
  cases fault (d.env adapter taskRunId) t c with
  | some e => exact ⟨rfl, rfl, hs⟩
  | none =>
    have hown := hth.call_own
    -- the stash is read by a run that holds it, and reading does not suspend
    have hread : c = .getInitialInputs → h.initialInputs = h'.initialInputs := by
      rintro rfl
      exact hslot (hown.inputs rfl) rfl
    have hanswer := sameAnswer_answer adapter (h.world l.results) (h'.world l.results)
      hs.tables rfl hown (fun id hid ↦ hth.owner_of_uses hid)
      (hd.approvalId t) hread
    exact ⟨hanswer.reply, congrArg (Locals.mk · l.gate) hanswer.results, hanswer.tables, hs.gates⟩

end Serve

end Engine

end Orchestra
