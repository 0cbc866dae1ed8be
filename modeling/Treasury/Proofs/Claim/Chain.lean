import Std.Data.String.ToNat
import Treasury.Proofs.Claim.Stage
import Treasury.Proofs.Claim.Tally
import Treasury.Proofs.Gas
import Treasury.Proofs.Text.NameMap

/-!
# Where a transaction has its chain from

A provider reports the name and the number of its chain. Both go into the transaction as they
are: the sender is found by the name, and the gas by the number. Nothing compares the two, and
nothing keeps two chains of the table from having one number; so the sender may be that of one chain
and the gas that of another, and the number may be that of a third.
-/

namespace Treasury

/-- The transaction in a row is as one entry of the chain table says. -/
structure TaskRow.OnChain (row : TaskRow) (entry : String × ChainInfo) : Prop where
  name : Text.toLower row.chainName = entry.1
  chainId : row.chainId = .int entry.2.chainId.toNat
  sender : row.sender = entry.2.bridge.toText
  gasPrice : row.gasPrice = (Word256.ofUInt64 entry.2.gasPrice).toText
  gasLimit : row.gasLimit = .int entry.2.gasLimit.toNat

/-- Each word has a text of its own. -/
theorem Word256.toText_ofUInt64_inj {a b : UInt64} :
    (ofUInt64 a).toText = (ofUInt64 b).toText ↔ a = b := by
  constructor
  · intro h
    exact UInt64.toNat_inj.1 (Nat.repr_inj.1 h)
  · rintro rfl
    rfl

namespace Claim

/-- A draft for what a provider of the snapshot reports. -/
def ReportedBy (desk : Desk) (provider : Provider) (named : ChainInfo) (d : Draft) : Prop :=
  (∃ snapshot, desk.liquidity = .ok snapshot ∧ provider ∈ snapshot.providers)
    ∧ desk.chains.get? provider.chain = some named
    ∧ d.chainName = provider.chain ∧ d.chainId = provider.chainId ∧ d.sender = named.bridge

/-- A draft that could be prepared, with the gas that was found. -/
def PaidBy (desk : Desk) (paid : String × ChainInfo) (p : Prepared) : Prop :=
  desk.chains.findById? p.draft.chainId = some paid
    ∧ p.gas.gasPrice = Word256.ofUInt64 paid.2.gasPrice ∧ p.gas.gasLimit = paid.2.gasLimit

/-- Every draft of a plan is for what some provider reports. -/
theorem reportedBy_of_plan {desk : Desk} {id : Int} {snapshot : Snapshot} {drafts : List Draft}
    (hl : desk.liquidity = .ok snapshot) (h : plan desk id snapshot = .ok (some drafts)) :
    ∀ d ∈ drafts, ∃ provider named, ReportedBy desk provider named d := by
  obtain ⟨-, -, claims, hclaims, hdrafts⟩ := plan_eq_ok.1 h
  intro d hd
  obtain ⟨p, hp, hdraft⟩ := exists_mem_of_forall₂ hdrafts hd
  obtain ⟨provider, hprovider, hname, hid⟩ := provider_of_aggregateClaims hclaims p hp
  obtain ⟨_, named, -, hnamed, rfl⟩ := draft_eq_ok.1 hdraft
  exact ⟨provider, named, ⟨snapshot, hl, hprovider⟩, hname ▸ hnamed, hname, hid, rfl⟩

/-- What is on its way through the phases is for what some provider reports, and paid for. -/
def Phase.Reported (desk : Desk) : Phase → Prop
  | .drafted _ drafts => ∀ d ∈ drafts, ∃ provider named, ReportedBy desk provider named d
  | .prepared _ batch =>
    ∀ p ∈ batch, ∃ provider named paid, ReportedBy desk provider named p.draft ∧ PaidBy desk paid p
  | _ => True

/-- The row of a transaction that is for what some provider reports, and paid for. -/
def RowReported (desk : Desk) (row : TaskRow) : Prop :=
  ∃ p id provider named paid, row = Prepared.rowAt p id
    ∧ ReportedBy desk provider named p.draft ∧ PaidBy desk paid p

/-- **A phase adds rows of what is reported, and no others.** -/
theorem rows_of_step {desk : Desk} (hgas : desk.gas = .sequential) (s : Store) {phase : Phase}
    (h : phase.Reported desk) :
    (step desk s phase).2.1.Reported desk
      ∧ ∃ rows, (step desk s phase).1.tasks.rows = s.tasks.rows ++ rows
        ∧ ∀ row ∈ rows, RowReported desk row := by
  have hnone : ∃ rows, s.tasks.rows = s.tasks.rows ++ rows ∧ ∀ row ∈ rows, RowReported desk row :=
    ⟨[], (List.append_nil _).symm, fun _ hrow => absurd hrow List.not_mem_nil⟩
  cases phase with
  | entering w =>
    refine ⟨?_, hnone⟩
    unfold step enter
    dsimp only
    split
    · trivial
    · rename_i snapshot hl
      split
      · trivial
      · trivial
      · rename_i drafts hplan
        exact reportedBy_of_plan hl hplan
  | drafted w drafts =>
    unfold step prepare
    dsimp only
    split
    · split
      · exact ⟨trivial, hnone⟩
      · rename_i next hu
        rw [Store.updateWorkflow_tasks hu]
        exact ⟨trivial, hnone⟩
    · split
      · exact ⟨trivial, hnone⟩
      · rename_i batch hb
        refine ⟨fun p hp => ?_, hnone⟩
        rw [hgas] at hb
        obtain ⟨paid, hpaid⟩ := GasAssigner.gas_of_assignFrom hb p hp
        obtain ⟨provider, named, hreported⟩ :=
          h p.draft (GasAssigner.draft_mem_of_assignFrom hb p hp)
        exact ⟨provider, named, paid, hreported, hpaid⟩
  | prepared w batch =>
    unfold step save
    dsimp only
    split
    · exact ⟨trivial, hnone⟩
    · rename_i next hc
      obtain ⟨saved, ids, hsave, hu⟩ := commit_eq_ok.1 hc
      refine ⟨trivial, batch.zipWith Prepared.rowAt ids, ?_, ?_⟩
      · rw [Store.updateWorkflow_tasks hu, (Store.saveTasks_rows hsave).1]
      · intro row hrow
        obtain ⟨p, hp, id, rfl⟩ := Store.exists_of_mem_zipWith hrow
        obtain ⟨provider, named, paid, hreported, hpaid⟩ := h p hp
        exact ⟨p, id, provider, named, paid, rfl, hreported, hpaid⟩
  | announcing alert transactions => exact ⟨trivial, hnone⟩
  | finished result => exact ⟨trivial, hnone⟩

theorem rows_of_run {desk : Desk} (hgas : desk.gas = .sequential) (s : Store) {phase : Phase}
    (h : phase.Reported desk) :
    ∃ rows, (run desk s phase).1.tasks.rows = s.tasks.rows ++ rows
      ∧ ∀ row ∈ rows, RowReported desk row := by
  induction s, phase using run.induct desk with
  | case1 s phase result hresult =>
    refine ⟨[], ?_, fun _ hrow => absurd hrow List.not_mem_nil⟩
    rw [run_of_result hresult, List.append_nil]
  | case2 s phase hresult next ih =>
    -- the rows of this phase come first, and those of the later phases after them
    obtain ⟨hnext, rows, hrows, hreported⟩ := rows_of_step hgas s h
    obtain ⟨later, hlater, hreported'⟩ := ih hnext
    refine ⟨rows ++ later, ?_, ?_⟩
    · rw [run_of_step hresult, ← List.append_assoc, ← hrows]
      exact hlater
    · intro row hrow
      rcases List.mem_append.mp hrow with hrow | hrow
      · exact hreported row hrow
      · exact hreported' row hrow

/-- **Both lookups have to come to the same.** -/
theorem onChain_iff {desk : Desk} {p : Prepared} (id : Int) {provider : Provider}
    {named : ChainInfo} {paid : String × ChainInfo}
    (hreported : ReportedBy desk provider named p.draft) (hpaid : PaidBy desk paid p) :
    (∃ entry ∈ desk.chains.byName.entries, (p.rowAt id).OnChain entry) ↔
      named.chainId = provider.chainId ∧ named.gasPrice = paid.2.gasPrice
        ∧ named.gasLimit = paid.2.gasLimit := by
  obtain ⟨-, hnamed, hname, hid, hsender⟩ := hreported
  obtain ⟨-, hprice, hlimit⟩ := hpaid
  have hfound : ∀ info, (Text.toLower provider.chain, info) ∈ desk.chains.byName.entries ↔
      info = named := by
    intro info
    rw [← NameMap.get?_eq_some_iff]
    exact ⟨fun h => Option.some.inj (h.symm.trans hnamed), fun h => h ▸ hnamed⟩
  constructor
  · rintro ⟨⟨name, info⟩, hmem, hon⟩
    have hkey : Text.toLower provider.chain = name := hname ▸ hon.name
    obtain rfl := (hfound info).1 (hkey ▸ hmem)
    have hnumber : p.draft.chainId.toNat = info.chainId.toNat :=
      Int.ofNat_inj.1 (Cell.int.inj hon.chainId)
    have hgas : p.gas.gasLimit.toNat = info.gasLimit.toNat :=
      Int.ofNat_inj.1 (Cell.int.inj hon.gasLimit)
    have hpriceText : p.gas.gasPrice.toText = (Word256.ofUInt64 info.gasPrice).toText :=
      hon.gasPrice
    rw [hprice] at hpriceText
    refine ⟨?_, (Word256.toText_ofUInt64_inj.1 hpriceText).symm, ?_⟩
    · rw [← hid]
      exact (UInt64.toNat_inj.1 hnumber).symm
    · rw [← hlimit]
      exact (UInt64.toNat_inj.1 hgas).symm
  · rintro ⟨hnumber, hgasPrice, hgasLimit⟩
    refine ⟨(Text.toLower provider.chain, named), (hfound named).2 rfl, ?_⟩
    refine ⟨congrArg Text.toLower hname, ?_, ?_, ?_, ?_⟩
    · show Cell.int p.draft.chainId.toNat = _
      rw [hid, hnumber]
    · exact congrArg FixedBytes.toText hsender
    · show p.gas.gasPrice.toText = _
      rw [hprice, hgasPrice]
    · show Cell.int p.gas.gasLimit.toNat = _
      rw [hlimit, hgasLimit]

/--
**A transaction belongs to one chain exactly if the provider's name and number lead to one.**

Whatever the settings, the store and the snapshot: each row that the stage adds has the chain of
a provider of the snapshot, as that spells and numbers it. Its sender was found by the name, and
its gas is that of the first chain of the number. It is as one entry of the chain table says if
and only if the entry of that name has that number, and pays the same gas as the first that has.
-/
theorem chain_of_execute (desk : Desk) (s : Store) (w : Workflow) :
    ∃ rows, (execute { desk with gas := .sequential } s w).1.tasks.rows = s.tasks.rows ++ rows
      ∧ ∀ row ∈ rows, ∃ snapshot, desk.liquidity = .ok snapshot
        ∧ ∃ provider ∈ snapshot.providers, ∃ named paid,
          desk.chains.get? provider.chain = some named
          ∧ desk.chains.findById? provider.chainId = some paid
          ∧ row.chainName = provider.chain ∧ row.chainId = .int provider.chainId.toNat
          ∧ row.sender = named.bridge.toText
          ∧ row.gasPrice = (Word256.ofUInt64 paid.2.gasPrice).toText
          ∧ row.gasLimit = .int paid.2.gasLimit.toNat
          ∧ ((∃ entry ∈ desk.chains.byName.entries, row.OnChain entry) ↔
            named.chainId = provider.chainId ∧ named.gasPrice = paid.2.gasPrice
              ∧ named.gasLimit = paid.2.gasLimit) := by
  obtain ⟨rows, hrows, hreported⟩ :=
    @rows_of_run { desk with gas := .sequential } rfl s (.entering w) trivial
  refine ⟨rows, hrows, fun row hrow => ?_⟩
  obtain ⟨p, id, provider, named, paid, rfl, hreported, hpaid⟩ := hreported row hrow
  have hiff := onChain_iff id hreported hpaid
  obtain ⟨⟨snapshot, hl, hprovider⟩, hnamed, hname, hid, hsender⟩ := hreported
  obtain ⟨hfound, hprice, hlimit⟩ := hpaid
  refine ⟨snapshot, hl, provider, hprovider, named, paid, hnamed, hid ▸ hfound, hname, ?_,
    congrArg FixedBytes.toText hsender, congrArg Word256.toText hprice, ?_, hiff⟩
  · show Cell.int p.draft.chainId.toNat = _
    rw [hid]
  · show Cell.int p.gas.gasLimit.toNat = _
    rw [hlimit]

end Claim

end Treasury
