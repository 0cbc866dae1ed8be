import Treasury.Json.Versioned
import Treasury.Workflow.State

/-!
# Rebalance workflows

A workflow as it is loaded from the store, and the parameters it was opened with, which are
stored as a versioned record.
-/

namespace Treasury

/-- Who asked for a workflow, and why. -/
structure WorkflowParams where
  initiatedBy : String
  note : Option String
  deriving DecidableEq, Repr

namespace WorkflowParams

open Json (Reader)

/-- Reads the fields of the first version. -/
def readFields : Reader WorkflowParams := fun document => do
  let r ← Json.record "struct variant WorkflowParams::V1" ["initiated_by", "note"] document
  let initiatedBy ← r.required "initiated_by" Reader.text
  let note ← r.withDefault "note" (Reader.option Reader.text) none
  return ⟨initiatedBy, note⟩

/-- Reads the stored text. -/
def ofText : String → Except Json.ReadError WorkflowParams :=
  Json.readVersioned "WorkflowParams" "v1" readFields

/-- The versioned record; a note that is absent is left out. -/
def toJson (p : WorkflowParams) : Json :=
  .object ([("version", .text "v1"), ("initiated_by", .text p.initiatedBy)] ++
    match p.note with
    | some note => [("note", .text note)]
    | none => [])

/-- The text that is stored and shown. -/
def toText (p : WorkflowParams) : String := p.toJson.render

end WorkflowParams

/-- A workflow. -/
structure Workflow where
  id : Int
  state : WorkflowState
  params : WorkflowParams
  /-- The outcome of the last transition. -/
  message : String
  /-- How far the sub-transactions have got. -/
  progress : String
  deriving DecidableEq, Repr

end Treasury
