import Treasury.Proofs.Store.TransferTable

/-!
# Transfer tasks take turns

Any number of transfer tasks may be open, and nothing in the table says which of them comes next. A
task is at the front if all tasks before it have settled; the first of those that are found open is
(`atFront_of_findOpenTransfers`). It cannot lose its place: new tasks are filed behind it
(`AtFront.insertTransfer`), and a settled task is not written any more, whatever copy somebody has
of it (`updateTransfer_of_isSettled`), since no state may follow its own.

So the tasks are in turn as long as only tasks at the front leave their first state
(`InTurn.updateTransfer`).
-/

namespace Treasury

/-- The row of a task that has come to its end. -/
def TransferRow.IsSettled (row : TransferRow) : Prop :=
  row.state = TransferState.success.tag ∨ row.state = TransferState.failed.tag

namespace TransferRow

/-- A task is open or has settled. -/
theorem isSettled_of_check {row : TransferRow} (h : row.check = .ok ())
    (hopen : row.isOpen = false) : row.IsSettled := by
  obtain ⟨-, state, hstate⟩ := check_eq_ok.1 h
  unfold isOpen at hopen
  rw [hstate] at hopen
  cases state with
  | init => exact absurd hopen (by decide)
  | ongoing => exact absurd hopen (by decide)
  | success => exact .inl hstate
  | failed => exact .inr hstate

/-- No copy is in a state that the state of a settled task may be followed by. -/
theorem not_isAt_of_isSettled {row : TransferRow} (h : row.IsSettled)
    {expected next : TransferState} (hmove : expected.canMoveTo next = true) (id : Int) :
    ¬row.isAt expected id = true := by
  intro hat
  have hstate : row.state = expected.tag := (of_decide_eq_true hat).2
  rcases h with h | h
  · obtain rfl := TransferState.tag_inj.1 (hstate.symm.trans h)
    exact absurd hmove (by cases next <;> decide)
  · obtain rfl := TransferState.tag_inj.1 (hstate.symm.trans h)
    exact absurd hmove (by cases next <;> decide)

theorem ne_ongoing_of_isSettled {row : TransferRow} (h : row.IsSettled) :
    row.state ≠ TransferState.ongoing.tag := by
  rcases h with h | h <;> rw [h] <;> decide

end TransferRow

namespace Store

/-! ## Settled tasks -/

theorem mem_insertTransfer {s s' : Store} {rebalanceId : Int} {type : TransferType}
    {params : TransferParams} {new : Int}
    (h : s.insertTransfer rebalanceId type params = .ok (s', new)) {row : TransferRow}
    (hrow : row ∈ s.transfers.rows) : row ∈ s'.transfers.rows := by
  obtain ⟨-, rfl⟩ := insertTransfer_eq_ok.1 h
  exact List.mem_append_left _ hrow

/-- **The row of a settled task is left as it is.** -/
theorem mem_updateTransfer {s s' : Store} {expected : TransferState} {t : TransferTask}
    (h : s.updateTransfer expected t = .ok s') {row : TransferRow}
    (hrow : row ∈ s.transfers.rows) (hsettled : row.IsSettled) : row ∈ s'.transfers.rows := by
  obtain ⟨hmove, -, rfl⟩ := updateTransfer_eq_ok.1 h
  exact List.mem_map.2 ⟨row, hrow, if_neg (TransferRow.not_isAt_of_isSettled hsettled hmove t.id)⟩

/-- **Nobody can update a settled task.** -/
theorem updateTransfer_of_isSettled {s : Store} (hs : s.TransferRules) {row : TransferRow}
    (hrow : row ∈ s.transfers.rows) (hsettled : row.IsSettled) (expected : TransferState)
    {t : TransferTask} (hid : t.id = row.id) :
    ∃ cause, s.updateTransfer expected t = .error cause := by
  cases h : s.updateTransfer expected t with
  | error cause => exact ⟨cause, rfl⟩
  | ok next =>
    obtain ⟨hmove, ⟨other, hother, hat⟩, -⟩ := updateTransfer_eq_ok.1 h
    have hnumber : other.id = row.id := (of_decide_eq_true hat).1.trans hid
    obtain rfl := List.inj_on_of_nodup_map hs.numbered.nodup hother hrow hnumber
    exact absurd hat (TransferRow.not_isAt_of_isSettled hsettled hmove t.id)

/-! ## The front -/

/-- The task has been filed, and all tasks before it have settled. -/
structure AtFront (s : Store) (id : Int) : Prop where
  filed : id ≤ s.transfers.last
  settled : ∀ row ∈ s.transfers.rows, row.id < id → row.IsSettled

namespace AtFront

theorem congr {s s' : Store} {id : Int} (hs : s.AtFront id) (h : s'.transfers = s.transfers) :
    s'.AtFront id := by
  obtain ⟨hfiled, hsettled⟩ := hs
  exact ⟨h ▸ hfiled, h ▸ hsettled⟩

theorem insertTransfer {s s' : Store} {id : Int} (hs : s.AtFront id) {rebalanceId : Int}
    {type : TransferType} {params : TransferParams} {new : Int}
    (h : s.insertTransfer rebalanceId type params = .ok (s', new)) : s'.AtFront id := by
  obtain ⟨hnext, rfl⟩ := insertTransfer_eq_ok.1 h
  have hnew := Table.nextId?_eq_some hnext
  have hfiled := hs.filed
  refine ⟨show id ≤ new by omega, fun row hrow hlt => ?_⟩
  rcases List.mem_append.mp hrow with hrow | hrow
  · exact hs.settled row hrow hlt
  · -- the new task has been filed behind it
    rw [List.mem_singleton.mp hrow] at hlt
    have hlt : new < id := hlt
    omega

theorem updateTransfer {s s' : Store} {id : Int} (hs : s.AtFront id) {expected : TransferState}
    {t : TransferTask} (h : s.updateTransfer expected t = .ok s') : s'.AtFront id := by
  obtain ⟨hmove, -, rfl⟩ := updateTransfer_eq_ok.1 h
  refine ⟨hs.filed, fun row hrow hlt => ?_⟩
  obtain ⟨old, hold, rfl⟩ := List.mem_map.mp hrow
  by_cases hat : old.isAt expected t.id = true
  · rw [if_pos hat] at hlt
    exact absurd hat (TransferRow.not_isAt_of_isSettled (hs.settled old hold hlt) hmove t.id)
  · rw [if_neg hat] at hlt ⊢
    exact hs.settled old hold hlt

end AtFront

/-- **The first task that is found open is at the front.** -/
theorem atFront_of_findOpenTransfers {s : Store} (hs : s.TransferRules) {t : TransferTask}
    {rest : List TransferTask} (h : s.findOpenTransfers = .ok (t :: rest)) : s.AtFront t.id := by
  obtain ⟨read, hread, hload⟩ := bind_eq_ok.1 h
  obtain ⟨⟨row, rebalanceId⟩, read, hloaded, -, rfl⟩ :=
    List.forall₂_cons_right_iff.1 (mapM_eq_ok.1 hload)
  obtain ⟨row', rows, hcolumns, -, hrows⟩ := List.forall₂_cons_right_iff.1 (mapM_eq_ok.1 hread)
  obtain ⟨_, -, ⟨⟩⟩ := map_eq_ok.1 hcolumns
  have hid : t.id = row.id := (TransferRow.load_eq_ok hloaded).1
  have hrow : row ∈ s.transfers.rows := List.mem_of_mem_filter (hrows ▸ List.mem_cons_self)
  have hfirst : ∀ other ∈ rows, row.id < other.id :=
    (List.pairwise_cons.1 (hrows ▸ hs.numbered.increasing.filter _)).1
  rw [hid]
  refine ⟨hs.numbered.le_last row hrow, fun other hother hlt => ?_⟩
  refine TransferRow.isSettled_of_check (hs.checked other hother) ?_
  refine Bool.eq_false_iff.2 fun hopen => ?_
  -- otherwise it would have been found first
  have hmem : other ∈ row :: rows := hrows ▸ List.mem_filter.2 ⟨hother, hopen⟩
  rcases List.mem_cons.mp hmem with rfl | hmem
  · omega
  · have := hfirst other hmem
    omega

/-! ## Taking turns -/

/-- Only tasks at the front have left their first state. -/
def InTurn (s : Store) : Prop :=
  ∀ row ∈ s.transfers.rows, row.state ≠ TransferState.init.tag → s.AtFront row.id

theorem inTurn_empty : InTurn .empty := by
  intro row h
  exact absurd h List.not_mem_nil

namespace InTurn

theorem congr {s s' : Store} (hs : s.InTurn) (h : s'.transfers = s.transfers) : s'.InTurn := by
  intro row hrow hstate
  exact (hs row (h ▸ hrow) hstate).congr h

theorem insertTransfer {s s' : Store} (hs : s.InTurn) {rebalanceId : Int} {type : TransferType}
    {params : TransferParams} {new : Int}
    (h : s.insertTransfer rebalanceId type params = .ok (s', new)) : s'.InTurn := by
  intro row hrow hstate
  suffices hold : row ∈ s.transfers.rows from (hs row hold hstate).insertTransfer h
  obtain ⟨-, rfl⟩ := insertTransfer_eq_ok.1 h
  rcases List.mem_append.mp hrow with hrow | hrow
  · exact hrow
  · rw [List.mem_singleton.mp hrow] at hstate
    exact absurd rfl hstate

/-- **An update that lets only a task at the front leave its first state keeps the turns.** -/
theorem updateTransfer {s s' : Store} (hs : s.InTurn) {expected : TransferState} {t : TransferTask}
    (h : s.updateTransfer expected t = .ok s')
    (hfront : expected = .init → t.state ≠ .init → s.AtFront t.id) : s'.InTurn := by
  intro row hrow hstate
  suffices hbefore : s.AtFront row.id from hbefore.updateTransfer h
  obtain ⟨-, -, rfl⟩ := updateTransfer_eq_ok.1 h
  obtain ⟨old, hold, rfl⟩ := List.mem_map.mp hrow
  by_cases hat : old.isAt expected t.id = true
  · rw [if_pos hat] at hstate ⊢
    obtain ⟨hid, hold_state⟩ := of_decide_eq_true hat
    show s.AtFront old.id
    by_cases hinit : expected = .init
    · rw [hid]
      exact hfront hinit fun heq => hstate (congrArg TransferState.tag heq)
    · refine hs old hold fun heq => hinit ?_
      exact TransferState.tag_inj.1 (hold_state.symm.trans heq)
  · rw [if_neg hat] at hstate ⊢
    exact hs old hold hstate

/-- One task is ongoing at most. -/
theorem length_ongoing_le_one {s : Store} (hs : s.InTurn) (hrules : s.TransferRules) :
    (s.transfers.rows.filter fun row => row.state = TransferState.ongoing.tag).length ≤ 1 := by
  have hmem : ∀ row ∈ s.transfers.rows.filter (fun row => row.state = TransferState.ongoing.tag),
      row ∈ s.transfers.rows ∧ row.state = TransferState.ongoing.tag :=
    fun row hrow => ⟨(List.mem_filter.1 hrow).1, of_decide_eq_true (List.mem_filter.1 hrow).2⟩
  have hordered := hrules.numbered.increasing.filter
    (fun row => row.state = TransferState.ongoing.tag)
  rcases hrows : s.transfers.rows.filter (fun row => row.state = TransferState.ongoing.tag) with
    _ | ⟨a, _ | ⟨b, rest⟩⟩
  · rw [hrows]
    exact Nat.zero_le 1
  · rw [hrows]
    exact Nat.le_refl 1
  · rw [hrows] at hmem hordered
    obtain ⟨ha, haongoing⟩ := hmem a List.mem_cons_self
    obtain ⟨hb, hbongoing⟩ := hmem b (List.mem_cons_of_mem _ List.mem_cons_self)
    have hlt : a.id < b.id := (List.pairwise_cons.1 hordered).1 b List.mem_cons_self
    have hfront : s.AtFront b.id := hs b hb (by rw [hbongoing]; decide)
    exact absurd haongoing (TransferRow.ne_ongoing_of_isSettled (hfront.settled a ha hlt))

end InTurn

end Store

end Treasury
