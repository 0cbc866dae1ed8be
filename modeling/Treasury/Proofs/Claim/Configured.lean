import Treasury.Proofs.Claim.Call
import Treasury.Proofs.Claim.Stage
import Treasury.Proofs.Claim.Tally
import Treasury.Proofs.Store.Insertion

/-!
# Claiming by accepted settings

Settings are checked when they are read, so that the stage need not be told late what is wrong with
them. A claim is for at least one strategy, a call is only built for tokens that are known, and a
known token is on a known chain: so the chain of a claim whose call was built is always
found. What remains of the ways in which the transactions cannot be inserted is the end of the
nonces, or of the numbers of the table.
-/

namespace Treasury

/-- The desk of somebody who works by these settings, whatever the provider answers. -/
def Settings.desk (settings : Settings) (liquidity : Except FetchError Snapshot)
    (notifier : Notifier) (recipients : List String) : Desk where
  tokens := settings.tokens
  chains := settings.chains
  gas := .sequential
  liquidity := liquidity
  notifier := notifier
  recipients := recipients

/-- No claim is for nothing. -/
theorem strategies_ne_nil_of_aggregateClaims {tokens : TokenRegistry} {vaults : List Vault}
    {providers : List Provider} {claims : List ClaimParam}
    (h : aggregateClaims tokens vaults providers = .ok claims) :
    ∀ p ∈ claims, p.strategies ≠ [] := by
  obtain ⟨tallies, -, rfl⟩ := map_eq_ok.1 h
  exact strategies_ne_nil_of_gatherAll tallies

/-- A call has been built for tokens that are known on the chain of the claim. -/
theorem decimals?_of_buildClaimCall {tokens : TokenRegistry} {p : ClaimParam} {data : List UInt8}
    (hne : p.strategies ≠ []) (h : buildClaimCall tokens p = .ok data) :
    ∃ symbol decimals, tokens.decimals? p.chainName symbol = some decimals := by
  obtain ⟨lines, -, hlines⟩ := shows_of_buildClaimCall h
  obtain ⟨s, rest, hs⟩ := List.exists_cons_of_ne_nil hne
  rw [hs] at hlines
  obtain ⟨line, -, hshows, -, -⟩ := List.forall₂_cons_left_iff.1 hlines
  obtain ⟨decimals, hdecimals, -⟩ := hshows.base
  exact ⟨s.baseSymbol, decimals, hdecimals⟩

namespace Claim

variable {settings : Settings} {liquidity : Except FetchError Snapshot} {notifier : Notifier}
  {recipients : List String}

theorem draft_ne_missingChain (hsettings : settings.Sound) {id : Int} {p : ClaimParam}
    (hne : p.strategies ≠ []) (chain : String) :
    draft (settings.desk liquidity notifier recipients) id p ≠ .error (.missingChain chain) := by
  unfold draft Settings.desk
  cases hcall : buildClaimCall settings.tokens p with
  | error cause => exact nofun
  | ok data =>
    -- the call needed the decimals of a token, and accepted settings know the chains of tokens
    obtain ⟨symbol, decimals, hdecimals⟩ := decimals?_of_buildClaimCall hne hcall
    obtain ⟨info, hinfo, -⟩ := Option.map_eq_some_iff.1 hdecimals
    obtain ⟨named, hnamed⟩ := Option.isSome_iff_exists.1
      (hsettings.chain p.chainName symbol (Option.isSome_iff_exists.2 ⟨info, hinfo⟩))
    simp [hnamed]

/-- **A plan finds all its chains.** -/
theorem plan_ne_missingChain (hsettings : settings.Sound) (id : Int) (snapshot : Snapshot)
    (chain : String) :
    plan (settings.desk liquidity notifier recipients) id snapshot ≠ .error (.missingChain chain)
    := by
  unfold plan
  split
  · exact nofun
  split
  · exact nofun
  split
  · exact nofun
  · rename_i claims hclaims
    intro h
    obtain ⟨p, hp, hdraft⟩ := exists_of_mapM_eq_error (map_eq_error.1 h)
    exact draft_ne_missingChain hsettings (strategies_ne_nil_of_aggregateClaims hclaims p hp) chain
      hdraft

/-- A phase that has not failed for want of a chain. -/
def Phase.ChainsFound : Phase → Prop
  | .finished result => ∀ chain, result ≠ .error (.missingChain chain)
  | _ => True

theorem chainsFound_step (hsettings : settings.Sound) (s : Store) {phase : Phase}
    (h : phase.ChainsFound) :
    (step (settings.desk liquidity notifier recipients) s phase).2.1.ChainsFound := by
  cases phase with
  | entering w =>
    unfold step enter
    dsimp only
    split
    · exact fun _ => nofun
    · split
      · rename_i hplan
        intro chain heq
        cases heq
        exact plan_ne_missingChain hsettings _ _ chain hplan
      · exact fun _ => nofun
      · trivial
  | drafted w drafts =>
    unfold step prepare
    dsimp only
    split
    · split
      · exact fun _ => nofun
      · exact fun _ => nofun
    · split
      · exact fun _ => nofun
      · trivial
  | prepared w batch =>
    unfold step save
    dsimp only
    split
    · exact fun _ => nofun
    · trivial
  | announcing alert transactions => exact fun _ => nofun
  | finished result => exact h

theorem chainsFound_run (hsettings : settings.Sound) (s : Store) {phase : Phase}
    (h : phase.ChainsFound) (chain : String) :
    (run (settings.desk liquidity notifier recipients) s phase).2.1 ≠ .error (.missingChain chain)
    := by
  induction s, phase using run.induct (settings.desk liquidity notifier recipients) with
  | case1 s phase result hresult =>
    rw [run_of_result hresult]
    cases phase with
    | finished =>
      cases hresult
      exact h chain
    | _ => exact absurd hresult (by simp [Phase.result?])
  | case2 s phase hresult next ih =>
    rw [run_of_step hresult]
    exact ih (chainsFound_step hsettings s h)

/-! ## Inserting what was planned -/

/-- A batch that cannot be inserted is what entering the stage fails with. -/
theorem execute_eq_error {desk : Desk} {s : Store} {w : Workflow} {snapshot : Snapshot}
    {drafts : List Draft} {batch : List Prepared} {e : StoreError}
    (hl : desk.liquidity = .ok snapshot) (hplan : plan desk w.id snapshot = .ok (some drafts))
    (hb : desk.gas.assign desk.chains s drafts = .ok batch) (hdrafts : drafts ≠ [])
    (he : s.saveTasks batch = .error e) : execute desk s w = (s, .error (.store e), []) := by
  have hentered : step desk s (.entering w) = (s, .drafted w drafts, []) := by
    unfold step enter
    simp only [hl, hplan]
  have hprepared : step desk s (.drafted w drafts) = (s, .prepared w batch, []) := by
    have hne : drafts.isEmpty = false := List.isEmpty_eq_false_iff.2 hdrafts
    unfold step prepare
    simp only [hne, hb, Bool.false_eq_true, ↓reduceIte]
  have hsaved : step desk s (.prepared w batch) = (s, .finished (.error (.store e)), []) := by
    have hcommit : commit s w batch = .error e := bind_eq_error.2 (.inl he)
    unfold step save
    simp only [hcommit]
  unfold execute
  rw [run_of_step rfl, hentered]
  dsimp only
  rw [run_of_step rfl, hprepared]
  dsimp only
  rw [run_of_step rfl, hsaved]
  dsimp only
  rw [run_of_result rfl]
  rfl

/-! ## Settings with one chain -/

deriving instance DecidableEq for Chains, Settings

/-- A settings file with one chain and two tokens. -/
def oneChainText : String := "database_url='t.db'
liquidity_url='http://a/'
tokens=[['bsc','USDT',18,'USDT'],['bsc','WBNB',18,'USDT']]
[chains.bsc]
chain_id=56
bridge_address='0x0101010101010101010101010101010101010101'
gas_price=3000000000
gas_limit=800000
"

/-- What the file says. -/
def oneChain : Settings where
  databaseUrl := "t.db"
  logLevel := .debug
  liquidityUrl := ⟨"http://a/"⟩
  chains := oneClaimDesk.chains
  tokens := ⟨[(("bsc", "USDT"), ⟨18, "USDT"⟩), (("bsc", "WBNB"), ⟨18, "USDT"⟩)]⟩
  alerts := none

theorem ofText_oneChainText : Settings.ofText oneChainText = .ok oneChain := by decide +kernel

/-- A workflow that is about to claim. -/
def aboutToClaim : Workflow := ⟨1, .init, ⟨"ops", none⟩, "", ""⟩

/-- What comes of inserting the plan for one claim. -/
def insertOneClaim (s : Store) : Option (Except StoreError (List Int)) :=
  match plan (oneChain.desk (.ok oneClaim) .log []) 1 oneClaim with
  | .ok (some drafts) =>
    match GasAssigner.sequential.assign oneChain.chains s drafts with
    | .ok batch => some ((s.saveTasks batch).map (·.2))
    | .error _ => none
  | _ => none

theorem insertOneClaim_eq_some {s : Store} {result : Except StoreError (List Int)}
    (h : insertOneClaim s = some result) :
    ∃ drafts batch, plan (oneChain.desk (.ok oneClaim) .log []) 1 oneClaim = .ok (some drafts)
      ∧ GasAssigner.sequential.assign oneChain.chains s drafts = .ok batch
      ∧ (s.saveTasks batch).map (·.2) = result := by
  unfold insertOneClaim at h
  split at h
  · rename_i drafts hplan
    split at h
    · exact ⟨drafts, _, hplan, ‹_›, Option.some.inj h⟩
    · exact absurd h (by simp)
  · exact absurd h (by simp)

/-! ## What can still go wrong -/

/--
**Accepted settings rule out that entering the stage fails late.**

Whatever the settings file, if it is accepted; whatever the provider answers; and whatever the
store, as long as the whole numbers in its column of nonces have sixty-four bits, as the numbers of a
column have: entering the stage never ends for want of a chain. And if the drafts of a plan are
prepared and inserted while nobody else writes, then they are inserted, unless the nonces of a
sender or the numbers of the table do not suffice. No rule of the table and no other column
refuses them.
-/
theorem inserts_of_execute {text : String} {settings : Settings}
    (hsettings : Settings.ofText text = .ok settings) (liquidity : Except FetchError Snapshot)
    (notifier : Notifier) (recipients : List String) {s : Store} (hs : s.NoncesFit) (w : Workflow) :
    (∀ chain, (execute (settings.desk liquidity notifier recipients) s w).2.1 ≠
      .error (.missingChain chain))
    ∧ ∀ snapshot drafts batch, liquidity = .ok snapshot →
      plan (settings.desk liquidity notifier recipients) w.id snapshot = .ok (some drafts) →
      GasAssigner.sequential.assign settings.chains s drafts = .ok batch →
      s.Inserts batch (s.NoncesSuffice drafts) (s.saveTasks batch)
        ∧ ∀ e, s.saveTasks batch = .error e →
          execute (settings.desk liquidity notifier recipients) s w = (s, .error (.store e), [])
    := by
  have hsound := Settings.sound_of_ofText hsettings
  refine ⟨fun chain => ?_, ?_⟩
  · exact chainsFound_run hsound s (show (Phase.entering w).ChainsFound from trivial) chain
  intro snapshot drafts batch hl hplan hb
  refine ⟨Store.inserts_of_sequential hs hsound.usable hb, fun e he => ?_⟩
  refine execute_eq_error hl hplan hb ?_ he
  -- nothing is inserted for no drafts, which cannot fail
  rintro rfl
  cases hb
  exact absurd he (by simp [Store.saveTasks])

/-- In an empty store the one claim finds its chain, and its transaction is inserted. -/
theorem inserts_of_execute_oneChain :
    Settings.ofText oneChainText = .ok oneChain ∧ Store.empty.NoncesFit
      ∧ (∀ chain, (execute (oneChain.desk (.ok oneClaim) .log []) .empty aboutToClaim).2.1 ≠
        .error (.missingChain chain))
      ∧ ∃ drafts batch saved,
        plan (oneChain.desk (.ok oneClaim) .log []) 1 oneClaim = .ok (some drafts)
        ∧ GasAssigner.sequential.assign oneChain.chains .empty drafts = .ok batch
        ∧ Store.empty.saveTasks batch = .ok (saved, [1]) ∧ Store.empty.NoncesSuffice drafts := by
  have hfit : Store.empty.NoncesFit := fun _ h => absurd h List.not_mem_nil
  obtain ⟨hchain, hinsert⟩ :=
    inserts_of_execute ofText_oneChainText (.ok oneClaim) .log [] hfit aboutToClaim
  have hone : insertOneClaim .empty = some (.ok [1]) := by decide +kernel
  obtain ⟨drafts, batch, hplan, hbatch, hsave⟩ := insertOneClaim_eq_some hone
  obtain ⟨⟨saved, ids⟩, hsave, rfl⟩ := map_eq_ok.1 hsave
  have hinserts := (hinsert oneClaim drafts batch rfl hplan hbatch).1
  rw [hsave] at hinserts
  cases hinserts with
  | written _ _ hnonces => exact ⟨ofText_oneChainText, hfit, hchain, drafts, batch, saved, hplan,
      hbatch, hsave, hnonces⟩

/-- A store whose one transaction has the largest number there is. -/
def lastNumberTaken : Store :=
  { Store.empty with
    tasks := ⟨[{
      id := Table.maxId
      ownerKind := "rebalance_workflow"
      ownerId := .int 7
      type := "claim_from_vault"
      chainId := .int 56
      chainName := "bsc"
      sender := "0x0909090909090909090909090909090909090909"
      receiver := "0x0909090909090909090909090909090909090909"
      nonce := .int 0
      gasPrice := "1"
      gasLimit := .int 21000
      inputData := "0x"
      params := "null"
      state := "success"
      message := ""
      hash := none }], Table.maxId⟩ }

/-- Nonces are not all that can run out: here the table has no number left for the row. -/
theorem execute_lastNumberTaken :
    Settings.ofText oneChainText = .ok oneChain ∧ lastNumberTaken.NoncesFit
      ∧ (∃ drafts batch,
        plan (oneChain.desk (.ok oneClaim) .log []) 1 oneClaim = .ok (some drafts)
        ∧ GasAssigner.sequential.assign oneChain.chains lastNumberTaken drafts = .ok batch
        ∧ (lastNumberTaken.saveTasks batch).map (·.2) = .error (.violation .full))
      ∧ (execute (oneChain.desk (.ok oneClaim) .log []) lastNumberTaken aboutToClaim).2.1 =
        .error (.store (.violation .full)) := by
  have hfull : insertOneClaim lastNumberTaken = some (.error (.violation .full)) := by
    decide +kernel
  have hexecute : (execute (oneChain.desk (.ok oneClaim) .log []) lastNumberTaken
      aboutToClaim).2.1 = .error (.store (.violation .full)) := by decide +kernel
  refine ⟨ofText_oneChainText, ?_, insertOneClaim_eq_some hfull, hexecute⟩
  intro row hrow n hn
  rw [List.mem_singleton.mp hrow] at hn
  cases hn
  decide

end Claim

end Treasury
