import Treasury.Claim.Stage
import Treasury.Proofs.Except
import Treasury.Proofs.Store.Tasks
import Treasury.Proofs.Store.Workflows

/-!
# What the claim stage drafts and writes

A plan drafts one transaction for each claim, all of them for the workflow that the plan is made
for. Writing a batch is writing its rows and moving the workflow, or nothing.
-/

namespace Treasury.Claim

/-- **A draft names the claim's chain, is sent by the bridge account found under the chain's name
and goes to the vault.** -/
theorem draft_eq_ok {desk : Desk} {id : Int} {p : ClaimParam} {d : Draft} :
    draft desk id p = .ok d ↔
      ∃ inputData chain, buildClaimCall desk.tokens p = .ok inputData
        ∧ desk.chains.get? p.chainName = some chain
        ∧ d = ⟨.workflow id, .claimFromVault, p.chainId, p.chainName, chain.bridge, p.vault,
          inputData, p.toJson.sorted⟩ := by
  unfold draft
  cases buildClaimCall desk.tokens p with
  | error cause => simp
  | ok inputData =>
    cases desk.chains.get? p.chainName with
    | none => simp
    | some chain => simp [eq_comm]

/-- **A plan has one draft for each claim, in the order of the claims.** -/
theorem plan_eq_ok {desk : Desk} {id : Int} {snapshot : Snapshot} {drafts : List Draft} :
    plan desk id snapshot = .ok (some drafts) ↔
      snapshot.providers.isEmpty = false ∧ snapshot.vaults.isEmpty = false
        ∧ ∃ claims, aggregateClaims desk.tokens snapshot.vaults snapshot.providers = .ok claims
          ∧ List.Forall₂ (fun p d => draft desk id p = .ok d) claims drafts := by
  unfold plan
  cases snapshot.providers.isEmpty with
  | true => simp
  | false =>
    cases snapshot.vaults.isEmpty with
    | true => simp
    | false =>
      cases aggregateClaims desk.tokens snapshot.vaults snapshot.providers with
      | error cause => simp
      | ok claims => simp [map_eq_ok, mapM_eq_ok]

/-- Every draft of a plan is a claim of its workflow. -/
theorem claim_of_plan {desk : Desk} {id : Int} {snapshot : Snapshot} {drafts : List Draft}
    (h : plan desk id snapshot = .ok (some drafts)) :
    ∀ d ∈ drafts, d.owner = .workflow id ∧ d.type = .claimFromVault := by
  obtain ⟨_, _, claims, _, hdrafts⟩ := plan_eq_ok.1 h
  intro d hd
  obtain ⟨p, _, hp⟩ := exists_mem_of_forall₂ hdrafts hd
  obtain ⟨_, _, _, _, rfl⟩ := draft_eq_ok.1 hp
  exact ⟨rfl, rfl⟩

/-- A batch is written together with the move of its workflow. -/
theorem commit_eq_ok {s s' : Store} {w : Workflow} {batch : List Prepared} :
    commit s w batch = .ok s' ↔
      ∃ saved ids, s.saveTasks batch = .ok (saved, ids)
        ∧ saved.updateWorkflow w.state (advanced w batch.length) = .ok s' := by
  unfold commit
  rw [bind_eq_ok]
  exact ⟨fun ⟨⟨saved, ids⟩, h⟩ => ⟨saved, ids, h⟩, fun ⟨saved, ids, h⟩ => ⟨⟨saved, ids⟩, h⟩⟩

/-! ## Carrying out what is left -/

theorem run_of_result {desk : Desk} {s : Store} {p : Phase}
    {result : Except StageError ExecuteOutcome} (h : p.result? = some result) :
    run desk s p = (s, result, []) := by
  rw [run]
  split
  · rename_i heq
    cases h.symm.trans heq
    rfl
  · rename_i heq
    exact absurd (h.symm.trans heq) (by simp)

theorem run_of_step {desk : Desk} {s : Store} {p : Phase} (h : p.result? = none) :
    run desk s p =
      ((run desk (step desk s p).1 (step desk s p).2.1).1,
        (run desk (step desk s p).1 (step desk s p).2.1).2.1,
        (step desk s p).2.2 ++ (run desk (step desk s p).1 (step desk s p).2.1).2.2) := by
  rw [run]
  split
  · rename_i heq
    exact absurd (h.symm.trans heq) (by simp)
  · rfl

section

variable {desk : Desk} {s s' : Store} {w : Workflow} {n : Nat} {events : List Event}

theorem run_announcing (desk : Desk) (s : Store) (alert : StageAlert) (n : Nat) :
    run desk s (.announcing alert n) =
      (s, .ok (.advanced n), alert.publish desk.notifier desk.recipients) := by
  rw [run_of_step rfl, step]
  dsimp only
  rw [run_of_result rfl, List.append_nil]

/-- Nothing comes after the last phase. -/
theorem eq_of_run_finished {result : Except StageError ExecuteOutcome} {before : List Event}
    (h : ((run desk s (.finished result)).1, (run desk s (.finished result)).2.1,
      before ++ (run desk s (.finished result)).2.2) = (s', .ok (.advanced n), events)) :
    s = s' ∧ result = .ok (.advanced n) ∧ before = events := by
  rw [run_of_result rfl, List.append_nil] at h
  cases h
  exact ⟨rfl, rfl, rfl⟩

theorem run_prepared_eq_advanced {batch : List Prepared}
    (h : run desk s (.prepared w batch) = (s', .ok (.advanced n), events)) :
    commit s w batch = .ok s' ∧ n = batch.length
      ∧ events = (createdAlert w batch).publish desk.notifier desk.recipients := by
  rw [run_of_step rfl, step, save] at h
  cases hc : commit s w batch with
  | error e =>
    rw [hc] at h
    cases (eq_of_run_finished h).2.1
  | ok next =>
    rw [hc] at h
    dsimp only at h
    rw [run_announcing] at h
    cases h
    exact ⟨rfl, rfl, rfl⟩

/-- **Whoever advances has nothing to claim, or writes one batch and reports it.** -/
theorem run_drafted_eq_advanced {drafts : List Draft}
    (h : run desk s (.drafted w drafts) = (s', .ok (.advanced n), events)) :
    (drafts = [] ∧ n = 0 ∧ events = [] ∧ s.updateWorkflow w.state (advancedEmpty w) = .ok s')
      ∨ (drafts ≠ [] ∧ ∃ batch, desk.gas.assign desk.chains s drafts = .ok batch
        ∧ commit s w batch = .ok s' ∧ n = batch.length
        ∧ events = (createdAlert w batch).publish desk.notifier desk.recipients) := by
  rw [run_of_step rfl, step, prepare] at h
  cases drafts with
  | nil =>
    left
    rw [if_pos List.isEmpty_nil] at h
    cases hu : s.updateWorkflow w.state (advancedEmpty w) with
    | error e =>
      rw [hu] at h
      cases (eq_of_run_finished h).2.1
    | ok next =>
      rw [hu] at h
      obtain ⟨rfl, hn, rfl⟩ := eq_of_run_finished h
      cases hn
      exact ⟨rfl, rfl, rfl, rfl⟩
  | cons d rest =>
    right
    rw [if_neg (by simp)] at h
    cases hb : desk.gas.assign desk.chains s (d :: rest) with
    | error e =>
      rw [hb] at h
      cases (eq_of_run_finished h).2.1
    | ok batch =>
      rw [hb] at h
      exact ⟨List.cons_ne_nil d rest, batch, rfl, run_prepared_eq_advanced h⟩

/-- Whoever advances from the start has made a plan. -/
theorem execute_eq_advanced (h : execute desk s w = (s', .ok (.advanced n), events)) :
    ∃ snapshot drafts, desk.liquidity = .ok snapshot ∧ plan desk w.id snapshot = .ok (some drafts)
      ∧ run desk s (.drafted w drafts) = (s', .ok (.advanced n), events) := by
  unfold execute at h
  rw [run_of_step rfl, step, enter] at h
  cases hl : desk.liquidity with
  | error cause =>
    rw [hl] at h
    cases (eq_of_run_finished h).2.1
  | ok snapshot =>
    rw [hl] at h
    dsimp only at h
    cases hp : plan desk w.id snapshot with
    | error e =>
      rw [hp] at h
      cases (eq_of_run_finished h).2.1
    | ok planned =>
      rw [hp] at h
      cases planned with
      | none => cases (eq_of_run_finished h).2.1
      | some drafts => exact ⟨snapshot, drafts, rfl, hp, h⟩

end

/-! ## A desk with one claim to make -/

/-- One position on one chain, and a vault that can claim from it. -/
def oneClaim : Snapshot where
  thresholds := []
  vaults := [⟨"USDT", "bsc", "USDT",
    ⟨[("bsc", ⟨none, "0x0202020202020202020202020202020202020202"⟩)], List.pairwise_singleton _ _⟩⟩]
  providers := [⟨"bsc", 56, "USDT-WBNB", none, "", "pancake",
    [⟨0, none, "", "", "USDT", "WBNB", ⟨15, 1, by decide, by decide, false, nofun⟩,
      ⟨20, 1, by decide, by decide, false, nofun⟩,
      some "0x0303030303030303030303030303030303030303"⟩]⟩]

/-- A desk to which the provider reports one claim. -/
def oneClaimDesk : Desk where
  tokens := ⟨fun _ _ => some 18, fun _ _ => some "USDT"⟩
  chains := ⟨⟨[("bsc", ⟨56, ⟨List.replicate 20 1, rfl⟩, 3000000000, 800000⟩)],
    List.pairwise_singleton _ _⟩⟩
  gas := .sequential
  liquidity := .ok oneClaim
  notifier := .log
  recipients := []

end Treasury.Claim
