import Treasury.Transaction.Basic
import Treasury.Transfer.Basic
import Treasury.Workflow.State

/-!
# Words and what they stand for

States and kinds are stored as words. Each value has a word of its own (`WorkflowState.tag_inj` and
its like), and a word that is read stands for the value whose word it is (`findTag_eq_ok`).
-/

namespace Treasury

/-- A word that is found is the word of what it stands for. -/
theorem findTag_eq_ok {α : Type} {kind value : String} {tag : α → String} {all : List α} {a : α}
    (h : findTag kind tag all value = .ok a) : tag a = value := by
  unfold findTag at h
  split at h
  · rename_i found hfound
    cases h
    simpa using List.find?_some hfound
  · exact absurd h (by simp)

/-! ## Workflows -/

theorem WorkflowState.tag_inj {a b : WorkflowState} : a.tag = b.tag ↔ a = b := by
  cases a <;> cases b <;> decide

theorem WorkflowState.ofTag_eq_ok {value : String} {state : WorkflowState}
    (h : ofTag value = .ok state) : state.tag = value :=
  findTag_eq_ok h

/-! ## Transactions -/

theorem TransactionType.tag_inj {a b : TransactionType} : a.tag = b.tag ↔ a = b := by
  cases a <;> cases b <;> decide

theorem TransactionState.tag_inj {a b : TransactionState} : a.tag = b.tag ↔ a = b := by
  cases a <;> cases b <;> decide

theorem TransactionState.ofTag_eq_ok {value : String} {state : TransactionState}
    (h : ofTag value = .ok state) : state.tag = value :=
  findTag_eq_ok h

/-! ## Transfers -/

theorem TransferState.tag_inj {a b : TransferState} : a.tag = b.tag ↔ a = b := by
  cases a <;> cases b <;> decide

theorem TransferState.ofTag_eq_ok {value : String} {state : TransferState}
    (h : ofTag value = .ok state) : state.tag = value :=
  findTag_eq_ok h

theorem TransferType.tag_inj {a b : TransferType} : a.tag = b.tag ↔ a = b := by
  cases a <;> cases b <;> decide

theorem TransferType.ofTag_eq_ok {value : String} {type : TransferType}
    (h : ofTag value = .ok type) : type.tag = value :=
  findTag_eq_ok h

end Treasury
