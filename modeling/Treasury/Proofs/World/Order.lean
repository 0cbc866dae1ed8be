import Treasury.Proofs.Claim.Stage
import Treasury.Proofs.Store.Oldest
import Treasury.Proofs.Tick.Failure
import Treasury.Proofs.World.Basic

/-!
# Rows stay in the order of their numbers

That a tick touches no other record than the oldest one rests on the order of the tables
(`Store.Ordered`). An update leaves every row where it stands, and a new row stands behind all
others under the next number. So each write keeps each table in order, whatever has become of the
other ones (`Store.KeepsOrder`), and so do whole ticks (`Store.Ordered.workflowTick`,
`Store.Ordered.transferTick`) and everybody at work at once (`World.ordered_run`).
-/

namespace Treasury

namespace Store

/-- A table whose rows stand in the order of their numbers goes on like that. -/
structure KeepsOrder (s s' : Store) : Prop where
  workflows : s.workflows.Numbered WorkflowRow.id → s'.workflows.Numbered WorkflowRow.id
  tasks : s.tasks.Numbered TaskRow.id → s'.tasks.Numbered TaskRow.id
  transfers : s.transfers.Numbered TransferRow.id → s'.transfers.Numbered TransferRow.id

theorem KeepsOrder.refl (s : Store) : s.KeepsOrder s where
  workflows := fun h => h
  tasks := fun h => h
  transfers := fun h => h

theorem KeepsOrder.trans {a b c : Store} (hab : a.KeepsOrder b) (hbc : b.KeepsOrder c) :
    a.KeepsOrder c where
  workflows := fun h => hbc.workflows (hab.workflows h)
  tasks := fun h => hbc.tasks (hab.tasks h)
  transfers := fun h => hbc.transfers (hab.transfers h)

theorem Ordered.keep {s s' : Store} (hs : s.Ordered) (h : s.KeepsOrder s') : s'.Ordered where
  workflows := h.workflows hs.workflows
  tasks := h.tasks hs.tasks
  transfers := h.transfers hs.transfers

/-! ## What is written -/

/-- Leases are in no order. -/
theorem keepsOrder_leases (s : Store) (leases : List LeaseRow) :
    s.KeepsOrder { s with leases := leases } := ⟨fun h => h, fun h => h, fun h => h⟩

theorem keepsOrder_insertWorkflow {s s' : Store} {params : WorkflowParams} {id : Int}
    (h : s.insertWorkflow params = .ok (s', id)) : s.KeepsOrder s' := by
  obtain ⟨-, hnext, rfl⟩ := insertWorkflow_eq_ok.1 h
  exact { KeepsOrder.refl s with workflows := fun hs => hs.push hnext rfl }

theorem keepsOrder_updateWorkflow {s s' : Store} {expected : WorkflowState} {copy : Workflow}
    (h : s.updateWorkflow expected copy = .ok s') : s.KeepsOrder s' := by
  obtain ⟨-, -, rfl⟩ := updateWorkflow_eq_ok.1 h
  exact { KeepsOrder.refl s with workflows := fun hs => hs.update _ fun _ => rfl }

theorem keepsOrder_insertTransfer {s s' : Store} {rebalanceId : Int} {type : TransferType}
    {params : TransferParams} {id : Int}
    (h : s.insertTransfer rebalanceId type params = .ok (s', id)) : s.KeepsOrder s' := by
  obtain ⟨hnext, rfl⟩ := insertTransfer_eq_ok.1 h
  exact { KeepsOrder.refl s with transfers := fun hs => hs.push hnext rfl }

theorem keepsOrder_updateTransfer {s s' : Store} {expected : TransferState} {copy : TransferTask}
    (h : s.updateTransfer expected copy = .ok s') : s.KeepsOrder s' := by
  obtain ⟨-, -, rfl⟩ := updateTransfer_eq_ok.1 h
  exact { KeepsOrder.refl s with transfers := fun hs => hs.update _ fun _ => rfl }

theorem keepsOrder_saveTasks {s s' : Store} {batch : List Prepared} {ids : List Int}
    (h : s.saveTasks batch = .ok (s', ids)) : s.KeepsOrder s' := by
  obtain ⟨hworkflows, htransfers, -⟩ := saveTasks_frame h
  exact ⟨fun hs => hworkflows ▸ hs, numbered_saveTasks h, fun hs => htransfers ▸ hs⟩

theorem keepsOrder_setTask (s : Store) (id : Int) (state : TransactionState) (message : String)
    (hash : Option TransactionHash) : s.KeepsOrder (s.setTask id state message hash) :=
  { KeepsOrder.refl s with tasks := fun hs => numbered_setTask hs id state message hash }

end Store

/-! ## What ticks do -/

theorem WorkflowTick.Advances.keepsOrder {desk : Desk} {s next : Store} {phase phase' : Phase}
    {events : List Event} (h : Advances desk s phase (next, phase', events)) :
    s.KeepsOrder next := by
  cases h with
  | acquire lease leases => exact s.keepsOrder_leases leases
  | leaseHeld leases => exact s.keepsOrder_leases leases
  | skip lease id w next hu => exact Store.keepsOrder_updateWorkflow hu
  | save lease id w batch next hc =>
    obtain ⟨saved, ids, hsave, hu⟩ := Claim.commit_eq_ok.1 hc
    exact (Store.keepsOrder_saveTasks hsave).trans (Store.keepsOrder_updateWorkflow hu)
  | settle lease w check next hu => exact Store.keepsOrder_updateWorkflow hu
  | release lease result leases => exact s.keepsOrder_leases leases
  | _ => exact .refl s

theorem TransferTick.Advances.keepsOrder {gas : GasAssigner} {chains : Chains} {s next : Store}
    {phase phase' : Phase} {events : List Event}
    (h : Advances gas chains s phase (next, phase', events)) : s.KeepsOrder next := by
  cases h with
  | acquire lease leases => exact s.keepsOrder_leases leases
  | leaseHeld leases => exact s.keepsOrder_leases leases
  | save lease t batch next hc =>
    obtain ⟨⟨saved, ids⟩, hsave, hu⟩ := bind_eq_ok.1 hc
    exact (Store.keepsOrder_saveTasks hsave).trans (Store.keepsOrder_updateTransfer hu)
  | settle lease t progress next hu => exact Store.keepsOrder_updateTransfer hu
  | release lease result leases => exact s.keepsOrder_leases leases
  | _ => exact .refl s

/-- **A whole workflow tick keeps the tables in order**, whatever comes of it. -/
theorem Store.Ordered.workflowTick {s : Store} (hs : s.Ordered) (desk : Desk) (turn : Turn) :
    (s.workflowTick desk turn).1.Ordered := by
  obtain ⟨-, -, hordered⟩ := (WorkflowTick.phases desk turn).run_keeps
    (P := fun s _ => s.Ordered)
    (fun s p hs => hs.keep (WorkflowTick.advances_step desk turn s p).keepsOrder)
    (s := s) (p := .waiting) hs
  exact hordered

/-- **A whole transfer tick keeps the tables in order**, whatever comes of it. -/
theorem Store.Ordered.transferTick {s : Store} (hs : s.Ordered) (gas : GasAssigner)
    (chains : Chains) (turn : Turn) : (s.transferTick gas chains turn).1.Ordered := by
  obtain ⟨-, -, hordered⟩ := (TransferTick.phases gas chains turn).run_keeps
    (P := fun s _ => s.Ordered)
    (fun s p hs => hs.keep (TransferTick.advances_step gas chains turn s p).keepsOrder)
    (s := s) (p := .waiting) hs
  exact hordered

namespace World

/-- **Every move keeps the tables in order.** -/
theorem Writes.keepsOrder {w : World} {next : Store} (h : Writes w next) :
    w.store.KeepsOrder next := by
  cases h with
  | rest => exact .refl w.store
  | openWorkflow h => exact Store.keepsOrder_insertWorkflow h
  | updateWorkflow h => exact Store.keepsOrder_updateWorkflow h
  | createTransfer h => exact Store.keepsOrder_insertTransfer h
  | updateTransfer h => exact Store.keepsOrder_updateTransfer h
  | setTask id state message hash => exact w.store.keepsOrder_setTask id state message hash
  | advance _ hadvances =>
    cases hadvances with
    | workflow h => exact h.keepsOrder
    | transfer h => exact h.keepsOrder

theorem keepsOrder_run (w : World) (moves : List Move) :
    w.store.KeepsOrder (w.run moves).store := by
  induction moves generalizing w with
  | nil => exact .refl w.store
  | cons move moves ih => exact (w.writes_after move).keepsOrder.trans (ih (w.after move))

/-- **Tables that are in order stay so**, whoever is at work and in whatever order things happen. -/
theorem ordered_run {w : World} (h : w.store.Ordered) (moves : List Move) :
    (w.run moves).store.Ordered :=
  h.keep (w.keepsOrder_run moves)

end World

end Treasury
