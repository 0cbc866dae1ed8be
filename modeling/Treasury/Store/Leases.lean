import Treasury.Store.Basic
import Treasury.Time

/-!
# Leases

A tick works under a lease, of which there is one for each kind of tick. Whoever takes a
lease leaves a token of its own with it and gives it back only while the token is still
there. A lease older than five minutes belongs to a tick that has died, and the next tick
takes it over. Times are compared as text; a number in the place of a time comes before all of
them.
-/

namespace Treasury

/-- The kinds of tick that exclude each other. -/
inductive LeaseName where
  | orchestrator
  | assetTransfer
  deriving DecidableEq, Repr

namespace LeaseName

/-- Both names. -/
def all : List LeaseName := [orchestrator, assetTransfer]

/-- The name of the row. -/
def tag : LeaseName → String
  | orchestrator => "rebalance_orchestrator"
  | assetTransfer => "asset_transfer"

end LeaseName

/-- A lease that was taken. -/
structure Lease where
  name : LeaseName
  holder : String
  deriving DecidableEq, Repr

/-- How old a lease gets before it is taken over, in seconds. -/
def leaseTimeout : Int := 5 * 60

/-- What came of asking for a lease. -/
structure Acquired where
  /-- The lease, unless somebody else holds it. -/
  lease : Option Lease
  /-- A lease that had grown too old was taken away. -/
  reclaimed : Bool
  deriving DecidableEq, Repr

namespace Store

/-- True of a lease that has grown too old. -/
def isAbandoned (now : Int) (name : String) (row : LeaseRow) : Bool :=
  row.name = name ∧ !(Cell.text ((Time.toText? (now - leaseTimeout)).getD "")).le row.lockedAt

/-- The number the next lease row gets: one more than the highest there is. -/
def nextLeaseRow (s : Store) : Int :=
  match (s.leases.map (·.row)).max? with
  | some highest => highest + 1
  | none => 1

/-- Writes a lease row; there is none of this name. -/
def insertLease (s : Store) (name holder : String) (lockedAt : Cell) :
    Except Violation (Store × Int) :=
  if s.leases.any (·.name = name) then .error (.primaryKey "orchestrator_leases.name")
  else
    let row := s.nextLeaseRow
    .ok ({ s with leases := s.leases ++ [⟨row, name, holder, lockedAt⟩] }, row)

/-- Asks for a lease at a time, with a token that nobody else uses. -/
def acquireLease (s : Store) (name : LeaseName) (holder : String) (now : Int) :
    Store × Acquired :=
  let kept := s.leases.filter fun row => !isAbandoned now name.tag row
  let reclaimed := s.leases.any (isAbandoned now name.tag)
  let cleared := { s with leases := kept }
  match cleared.insertLease name.tag holder (.text ((Time.toText? now).getD "")) with
  | .ok (next, _) => (next, ⟨some ⟨name, holder⟩, reclaimed⟩)
  | .error _ => (cleared, ⟨none, reclaimed⟩)

/-- True of the row of a lease that is still held. -/
def isHeldBy (lease : Lease) (row : LeaseRow) : Bool :=
  row.name = lease.name.tag ∧ row.holder = lease.holder

/-- Gives a lease back; false if it was taken over in the meantime. -/
def releaseLease (s : Store) (lease : Lease) : Store × Bool :=
  ({ s with leases := s.leases.filter fun row => !isHeldBy lease row },
    s.leases.any (isHeldBy lease))

/-- Makes the leases of a name as old as if they had been taken some minutes ago, and counts
them. If that is no time, a lease cannot be changed. -/
def backdateLease (s : Store) (name : String) (now minutes : Int) :
    Except Violation (Store × Nat) :=
  match s.leases.countP (·.name = name), Time.minutesAgo? now minutes with
  | 0, _ => .ok (s, 0)
  | _, none => .error (.notNull "orchestrator_leases.locked_at")
  | count, some time =>
    .ok ({ s with leases := s.leases.map fun row =>
      if row.name = name then { row with lockedAt := .text time } else row }, count)

/-- The names of the leases that are held, in order. -/
def leaseNames (s : Store) : List String :=
  (s.leases.map (·.name)).mergeSort (fun a b => a ≤ b)

end Store

end Treasury
