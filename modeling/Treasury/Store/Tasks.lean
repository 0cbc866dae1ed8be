import Treasury.Store.Error

/-!
# Transactions in the store

A batch of prepared transactions is written as a whole or not at all. No sender uses a nonce
twice on one chain.
-/

namespace Treasury

/-- The largest whole number a column can hold. -/
def maxColumn : Nat := 0x7FFFFFFFFFFFFFFF

/-- A machine word as a column holds it. -/
def columnOfWord (column : String) (value : UInt64) : Except StoreError Int :=
  if value.toNat ≤ maxColumn then .ok value.toNat else .error (.integerOverflow column value)

/-- A column that has to hold a machine word. -/
def wordOfColumn (column : String) (value : Int) : Except StoreError UInt64 :=
  if 0 ≤ value then .ok (UInt64.ofNat value.toNat)
  else .error (.invalidColumn column (toString value))

/-- A column that has to hold text of some format. -/
def parseColumn {α : Type} (column : String) (parse : String → Option α) (value : String) :
    Except StoreError α :=
  match parse value with
  | some a => .ok a
  | none => .error (.invalidColumn column value)

/-- A document that a column holds, in its one form. -/
def parseParams (id : Int) (text : String) : Except StoreError Json :=
  match Json.parse text with
  | .ok document => .ok document.sorted
  | .error m => .error (.malformedParams .task id (m.message text))

/-- A hash that may be absent. -/
def parseHash : Option String → Except StoreError (Option TransactionHash)
  | none => .ok none
  | some text => (parseColumn "tx_hash" FixedBytes.ofText? text).map some

/-- The whole numbers of a row. -/
structure TaskNumbers where
  ownerId : Int
  chainId : Int
  nonce : Int
  gasLimit : Int

/-- The whole numbers of a row. They are refused, and so is the row, if one of its columns cannot
be read back. -/
def TaskRow.readColumns (row : TaskRow) : Except StoreError TaskNumbers :=
  StoreError.ofColumn do
    let ownerId ← row.ownerId.read (some "owner_id")
    let chainId ← row.chainId.read (some "chain_id")
    let nonce ← row.nonce.read (some "nonce")
    let gasLimit ← row.gasLimit.read (some "gas_limit")
    row.createdAt.check "created_at"
    row.updatedAt.check "updated_at"
    return ⟨ownerId, chainId, nonce, gasLimit⟩

/-- What a row says that holds these numbers. -/
def TaskRow.load (row : TaskRow) (numbers : TaskNumbers) : Except StoreError Task := do
  let params ← parseParams row.id row.params
  let gasPrice ← parseColumn "gas_price" Word256.ofText? row.gasPrice
  let hash ← parseHash row.hash
  let owner ← StoreError.ofTag (TaskOwner.ofParts row.ownerKind numbers.ownerId)
  let type ← StoreError.ofTag (TransactionType.ofTag row.type)
  let chainId ← wordOfColumn "chain_id" numbers.chainId
  let sender ← parseColumn "from_address" FixedBytes.ofText? row.sender
  let receiver ← parseColumn "to_address" FixedBytes.ofText? row.receiver
  let inputData ← parseColumn "input_data" Hex.ofText? row.inputData
  let nonce ← wordOfColumn "nonce" numbers.nonce
  let gasLimit ← wordOfColumn "gas_limit" numbers.gasLimit
  let state ← StoreError.ofTag (TransactionState.ofTag row.state)
  return ⟨row.id, ⟨owner, type, chainId, row.chainName, sender, receiver, inputData, params⟩,
    ⟨nonce, gasPrice, gasLimit⟩, state, row.message, hash⟩

/-- The rules a row of the transaction table fulfils by itself. -/
def TaskRow.check (row : TaskRow) : Except Violation Unit := do
  checkWord "owner_kind" [TaskOwner.kind (.workflow 0), TaskOwner.kind (.assetTransfer 0)]
    row.ownerKind
  checkWord "transaction_type" (TransactionType.all.map TransactionType.tag) row.type
  checkThat "nonce >= 0" ((Cell.int 0).le row.nonce)
  checkThat "gas_limit > 0" (!row.gasLimit.le (.int 0))
  checkWord "state" (TransactionState.all.map TransactionState.tag) row.state

/-- True of two rows that use one nonce of one sender. -/
def TaskRow.sameNonce (a b : TaskRow) : Bool :=
  a.chainId = b.chainId ∧ a.sender = b.sender ∧ a.nonce = b.nonce

/-- The row of a prepared transaction. -/
def Prepared.row (p : Prepared) : Except StoreError (Int → TaskRow) := do
  let chainId ← columnOfWord "chain_id" p.draft.chainId
  let nonce ← columnOfWord "nonce" p.gas.nonce
  let gasLimit ← columnOfWord "gas_limit" p.gas.gasLimit
  return fun id =>
    { id := id
      ownerKind := p.draft.owner.kind
      ownerId := .int p.draft.owner.id
      type := p.draft.type.tag
      chainId := .int chainId
      chainName := p.draft.chainName
      sender := p.draft.sender.toText
      receiver := p.draft.receiver.toText
      nonce := .int nonce
      gasPrice := p.gas.gasPrice.toText
      gasLimit := .int gasLimit
      inputData := Hex.toText p.draft.inputData
      params := p.draft.params.render
      state := TransactionState.unsigned.tag
      message := ""
      hash := none }

namespace Store

/-- Refuses a row that uses a nonce again. -/
def checkNonce (s : Store) (row : TaskRow) : Except Violation Unit :=
  if s.tasks.rows.any row.sameNonce then
    .error (.unique
      "transaction_tasks.chain_id, transaction_tasks.from_address, transaction_tasks.nonce")
  else .ok ()

/-- Writes one row under the next number. -/
def insertTask (s : Store) (row : Int → TaskRow) : Except Violation (Store × Int) := do
  let id ← s.tasks.nextNumber
  (row id).check
  s.checkNonce (row id)
  return ({ s with tasks := s.tasks.push id (row id) }, id)

/-- Writes one prepared transaction. -/
def saveTask (s : Store) (p : Prepared) : Except StoreError (Store × Int) :=
  match p.row with
  | .error e => .error e
  | .ok row => StoreError.ofViolation (s.insertTask row)

/-- Writes a batch; the numbers are in the order of the batch. -/
def saveTasks (s : Store) : List Prepared → Except StoreError (Store × List Int)
  | [] => .ok (s, [])
  | p :: rest =>
    match s.saveTask p with
    | .error e => .error e
    | .ok (next, id) =>
      match next.saveTasks rest with
      | .error e => .error e
      | .ok (last, ids) => .ok (last, id :: ids)

/-- The rows of one type that belong to `owner`. -/
def taskRows (s : Store) (owner : TaskOwner) (type : TransactionType) : List TaskRow :=
  s.tasks.rows.filter fun row =>
    row.ownerKind = owner.kind ∧ row.ownerId = .int owner.id ∧ row.type = type.tag

/-- The transactions of one type that belong to `owner`, in the order of their numbers. The
columns of all rows are read before any row is understood. -/
def findTasks (s : Store) (owner : TaskOwner) (type : TransactionType) :
    Except StoreError (List Task) := do
  let read ← (s.taskRows owner type).mapM fun row =>
    row.readColumns.map fun numbers => (row, numbers)
  read.mapM fun (row, numbers) => row.load numbers

/-- Writes what the pipeline reports of a transaction. A hash that is not given is kept. -/
def setTask (s : Store) (id : Int) (state : TransactionState) (message : String)
    (hash : Option TransactionHash) : Store :=
  let (table, _) := s.tasks.update (·.id = id) fun row =>
    { row with
      state := state.tag
      message := message
      hash := (hash.map FixedBytes.toText).orElse fun _ => row.hash
      updatedAt := .readable }
  { s with tasks := table }

/-- The nonces that a sender has used on a chain. -/
def nonces (s : Store) (chainId : Int) (sender : Address) : List Cell :=
  (s.tasks.rows.filter fun row =>
    row.chainId = .int chainId ∧ row.sender = sender.toText).map (·.nonce)

/-- The highest nonce that a sender has used on a chain. -/
def highestNonce (s : Store) (chainId : UInt64) (sender : Address) :
    Except StoreError (Option UInt64) := do
  let column ← columnOfWord "chain_id" chainId
  match Cell.max? (s.nonces column sender) with
  | none => return none
  | some cell =>
    let nonce ← StoreError.ofColumn (cell.read none)
    return some (← wordOfColumn "nonce" nonce)

end Store

end Treasury
