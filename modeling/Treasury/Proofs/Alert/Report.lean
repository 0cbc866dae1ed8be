import Mathlib.Data.List.Forall2
import Treasury.Proofs.Chain.Address
import Treasury.Proofs.Json.Canonical
import Treasury.Proofs.Store.Loading
import Treasury.Proofs.Text.Lines

/-!
# Reports that are told apart

A report is read line by line, and every line of a transaction is known by its label and its place.
The one exception is the name of a chain, which is shown as it is: it may bring line breaks, and so
lines of its own. What it can do with them is to close the transaction and to open another
(`HoldsSeam`), and then the text is that of a list with one more transaction. Short of that, a text
says which transactions it lists (`reported_of_textLines`).

What a transaction does is shown as a compact document. Two documents with one text are equal where
their numbers are in their one form. So they are in all that a stage reports, whether it has drafted
it or loaded it (`Prepared.IsReported.canonical`), and so its reports can be told apart
(`StageReport.render_eq_iff_of_isReported`).
-/

namespace Treasury

open Text

/-! ## What is reported -/

/-- **The document of a transaction that is loaded has its numbers in their one form.** -/
theorem TaskRow.canonical_of_load {row : TaskRow} {numbers : TaskNumbers} {t : Task}
    (h : row.load numbers = .ok t) : t.draft.params.Canonical := by
  unfold load at h
  obtain ⟨params, hparams, h⟩ := bind_eq_ok.1 h
  simp only [bind_eq_ok] at h
  obtain ⟨_, _, _, _, _, _, _, _, _, _, _, _, _, _, _, _, _, _, _, _, _, _, h⟩ := h
  cases h
  exact Json.canonical_of_parseParams hparams

/-- So has that of a transaction that is drafted. -/
theorem Draft.Recorded.canonical {d : Draft} (h : d.Recorded) : d.params.Canonical := by
  obtain ⟨p, hp⟩ | ⟨c, hc⟩ := h
  · rw [hp]
    exact Json.canonical_sorted _ (Json.canonical_of_plain _ p.plain_toJson)
  · rw [hc]
    exact Json.canonical_sorted _ (Json.canonical_of_plain _ c.plain_toJson)

/-- A stage reports what it has drafted, and what it has loaded. -/
inductive Prepared.IsReported : Prepared → Prop where
  | drafted {p : Prepared} : p.draft.Recorded → IsReported p
  | loaded {row : TaskRow} {numbers : TaskNumbers} {t : Task} :
    row.load numbers = .ok t → IsReported t.prepared

theorem Prepared.IsReported.canonical {p : Prepared} (h : p.IsReported) :
    p.draft.params.Canonical := by
  cases h with
  | drafted h => exact h.canonical
  | loaded h => exact TaskRow.canonical_of_load h

/-! ## The lines of a transaction -/

namespace ReportedTransaction

/-- The lines in front of the name of the chain. -/
def above (t : ReportedTransaction) : List String :=
  ["type: " ++ t.type.tag, "nonce: " ++ toString t.nonce, "gas_price: " ++ t.gasPrice,
    "gas_limit: " ++ toString t.gasLimit, "amount: " ++ t.amount,
    "chain_id: " ++ toString t.chainId]

/-- The lines behind the name of the chain. -/
def below (t : ReportedTransaction) : List String :=
  ["from: " ++ t.sender, "to: " ++ t.receiver, separator]

theorem lines_eq (t : ReportedTransaction) :
    t.lines = t.above ++ ("chain_name: " ++ t.chainName) :: t.below := rfl

theorem length_above (t : ReportedTransaction) : t.above.length = 6 := rfl

theorem length_below (t : ReportedTransaction) : t.below.length = 3 := rfl

/-- The lines show everything. -/
theorem eq_of_lines {t u : ReportedTransaction} (habove : t.above = u.above)
    (hname : t.chainName = u.chainName) (hbelow : t.below = u.below) : t = u := by
  have hword : ∀ {m n : UInt64}, toString m = toString n → m = n := fun h =>
    UInt64.toNat_inj.1 (Nat.repr_inj.1 h)
  unfold above at habove
  unfold below at hbelow
  simp only [List.cons.injEq, and_true, String.append_right_inj] at habove hbelow
  obtain ⟨htype, hnonce, hprice, hlimit, hamount, hid⟩ := habove
  obtain ⟨hsender, hreceiver⟩ := hbelow
  cases t
  cases u
  congr
  · exact TransactionType.tag_inj.1 htype
  · exact hword hnonce
  · exact hword hlimit
  · exact hword hid

theorem head?_append {label : String} {c : Char} (h : label.toList.head? = some c)
    (value : String) : (label ++ value).toList.head? = some c := by
  rw [String.toList_append, List.head?_append, h]
  rfl

/-- No line in front of the name starts like that of a sender or like a separator. -/
theorem head?_above (t : ReportedTransaction) :
    ∀ line ∈ t.above, ∃ c ∈ ['t', 'n', 'g', 'a', 'c'], line.toList.head? = some c := by
  unfold above
  simp only [List.forall_mem_cons]
  exact ⟨⟨'t', by decide, head?_append (by decide) _⟩, ⟨'n', by decide, head?_append (by decide) _⟩,
    ⟨'g', by decide, head?_append (by decide) _⟩, ⟨'g', by decide, head?_append (by decide) _⟩,
    ⟨'a', by decide, head?_append (by decide) _⟩, ⟨'c', by decide, head?_append (by decide) _⟩,
    List.forall_mem_nil _⟩

end ReportedTransaction

namespace Prepared

/-- Two transactions agree on everything that a report shows. -/
structure Alike (p q : Prepared) : Prop where
  type : p.draft.type = q.draft.type
  nonce : p.gas.nonce = q.gas.nonce
  gasPrice : p.gas.gasPrice = q.gas.gasPrice
  gasLimit : p.gas.gasLimit = q.gas.gasLimit
  params : p.draft.params = q.draft.params
  chainId : p.draft.chainId = q.draft.chainId
  chainName : p.draft.chainName = q.draft.chainName
  sender : p.draft.sender = q.draft.sender
  receiver : p.draft.receiver = q.draft.receiver

/-- **What is shown of a transaction is shown of transactions alike.** -/
theorem reported_eq_iff {p q : Prepared} (hp : p.draft.params.Canonical)
    (hq : q.draft.params.Canonical) : p.reported = q.reported ↔ p.Alike q := by
  constructor
  · intro h
    have hprice : p.gas.gasPrice.toText = q.gas.gasPrice.toText :=
      congrArg ReportedTransaction.gasPrice h
    constructor
    · exact congrArg ReportedTransaction.type h
    · exact congrArg ReportedTransaction.nonce h
    · have hread : some p.gas.gasPrice = some q.gas.gasPrice := by
        rw [← Word256.ofText?_toText, hprice, Word256.ofText?_toText]
      exact Option.some.inj hread
    · exact congrArg ReportedTransaction.gasLimit h
    · exact Json.render_injective hp hq (congrArg ReportedTransaction.amount h)
    · exact congrArg ReportedTransaction.chainId h
    · exact congrArg ReportedTransaction.chainName h
    · exact Address.checksummed_inj.1 (congrArg ReportedTransaction.sender h)
    · exact Address.checksummed_inj.1 (congrArg ReportedTransaction.receiver h)
  · intro h
    unfold reported
    rw [h.type, h.nonce, h.gasPrice, h.gasLimit, h.params, h.chainId, h.chainName, h.sender,
      h.receiver]

variable (p : Prepared)

theorem break_not_mem_above : ∀ line ∈ p.reported.above, '\n' ∉ line.toList := by
  have htag : ∀ type : TransactionType, '\n' ∉ type.tag.toList := by
    intro type
    cases type <;> decide
  have hnumber : ∀ n : ℕ, '\n' ∉ (toString n).toList := fun n => Json.break_not_mem_toString n
  unfold ReportedTransaction.above
  simp only [List.forall_mem_cons]
  exact ⟨break_not_mem_append (by decide) (htag _),
    break_not_mem_append (by decide) (hnumber _),
    break_not_mem_append (by decide) (hnumber _),
    break_not_mem_append (by decide) (hnumber _),
    break_not_mem_append (by decide) (Json.break_not_mem_render _),
    break_not_mem_append (by decide) (hnumber _), List.forall_mem_nil _⟩

theorem break_not_mem_below : ∀ line ∈ p.reported.below, '\n' ∉ line.toList := by
  unfold ReportedTransaction.below
  simp only [List.forall_mem_cons]
  exact ⟨break_not_mem_append (by decide) (Address.break_not_mem_checksummed _),
    break_not_mem_append (by decide) (Address.break_not_mem_checksummed _), by decide,
    List.forall_mem_nil _⟩

/-- The lines of a transaction, those in the name of the chain included. -/
def textLines : List String :=
  p.reported.above ++ ("chain_name: " ++ firstLine p.draft.chainName) ::
    (innerLines p.draft.chainName ++ p.reported.below)

theorem flatMap_linesOf_lines : p.reported.lines.flatMap linesOf = p.textLines := by
  have hname : linesOf ("chain_name: " ++ p.reported.chainName) =
      ("chain_name: " ++ firstLine p.draft.chainName) :: innerLines p.draft.chainName :=
    linesOf_append (by decide) _
  rw [ReportedTransaction.lines_eq, List.flatMap_append, List.flatMap_cons, hname,
    flatMap_linesOf p.break_not_mem_above, flatMap_linesOf p.break_not_mem_below]
  rfl

end Prepared

/-- The lines above the transactions. -/
def StageReport.headLines (stage : String) (w : Workflow) : List String :=
  ("stage: " ++ firstLine stage) :: innerLines stage ++
    ["workflow_id: " ++ toString w.id, "workflow_params: " ++ w.params.toText]

theorem StageReport.linesOf_render (stage : String) (w : Workflow) (ps : List Prepared) :
    linesOf (ofWorkflow stage w ps).render =
      headLines stage w ++ (ps.flatMap Prepared.textLines ++ [""]) := by
  have hhead : ["stage: " ++ stage, "workflow_id: " ++ toString w.id,
      "workflow_params: " ++ w.params.toText].flatMap linesOf = headLines stage w := by
    rw [List.flatMap_cons, linesOf_append (by decide), flatMap_linesOf]
    · rfl
    · simp only [List.forall_mem_cons]
      exact ⟨break_not_mem_append (by decide) (Json.break_not_mem_toString _),
        break_not_mem_append (by decide) (Json.break_not_mem_render _), List.forall_mem_nil _⟩
  have hbody : (ps.map Prepared.reported).flatMap (fun t => t.lines.flatMap linesOf) =
      ps.flatMap Prepared.textLines := by
    rw [List.flatMap_map]
    exact List.flatMap_congr fun p _ => p.flatMap_linesOf_lines
  have hrender : (ofWorkflow stage w ps).render = ended (ofWorkflow stage w ps).lines ++ "" :=
    String.append_empty.symm
  have hlines : (ofWorkflow stage w ps).lines =
      ["stage: " ++ stage, "workflow_id: " ++ toString w.id,
        "workflow_params: " ++ w.params.toText] ++
      (ps.map Prepared.reported).flatMap ReportedTransaction.lines := rfl
  rw [hrender, linesOf_ended, hlines, List.flatMap_append, hhead, List.flatMap_assoc, hbody,
    List.append_assoc]
  rfl

/-! ## Names that close a transaction and open another -/

/-- The name has, in lines of their own, the end of one transaction and the beginning of another, up
to where the name of its chain starts. -/
def HoldsSeam (name : String) : Prop :=
  ∃ (p q : Prepared) (a b : String), q.draft.params.Canonical ∧
    name = a ++ "\n" ++ ended (p.reported.below ++ q.reported.above) ++ "chain_name: " ++ b

/-- A name of one line has none. -/
theorem not_holdsSeam {name : String} (h : '\n' ∉ name.toList) : ¬HoldsSeam name := by
  rintro ⟨p, q, a, b, -, rfl⟩
  refine h ?_
  simp only [String.toList_append, List.mem_append]
  exact .inl (.inl (.inl (.inr (by decide))))

section

variable {α : Type} {joint rest lines after : List α} {first : α}

/-- Where a line comes that is none of the joint but its first, the joint has begun or is over. -/
theorem eq_nil_or_exists_eq_append (h : joint ++ rest = lines ++ first :: after)
    (hfirst : first ∉ joint.tail) : lines = [] ∨ ∃ others, lines = joint ++ others := by
  rcases List.append_eq_append_iff.1 h with ⟨others, hlines, -⟩ | ⟨others, hjoint, hothers⟩
  · exact .inr ⟨others, hlines⟩
  · cases others with
    | nil => exact .inr ⟨[], by rw [hjoint, List.append_nil, List.append_nil]⟩
    | cons other others =>
      rw [← (List.cons.inj hothers).1] at hjoint
      cases lines with
      | nil => exact .inl rfl
      | cons line lines =>
        rw [hjoint, List.cons_append, List.tail_cons] at hfirst
        exact absurd (List.mem_append_right _ List.mem_cons_self) hfirst

end

namespace Prepared

/-- The lines from the sender of one transaction to the chain of the next. -/
def joint (p q : Prepared) : List String :=
  p.reported.below ++ q.reported.above ++ ["chain_name: " ++ firstLine q.draft.chainName]

/-- Only the first of these lines is one of a sender. -/
theorem sender_not_mem_joint_tail (p q : Prepared) (sender : String) :
    "from: " ++ sender ∉ (joint p q).tail := by
  have hsender : ("from: " ++ sender).toList.head? = some 'f' :=
    ReportedTransaction.head?_append (by decide) _
  intro hmem
  have htail : (joint p q).tail = ("to: " ++ p.reported.receiver) :: separator ::
      (q.reported.above ++ ["chain_name: " ++ firstLine q.draft.chainName]) := rfl
  rw [htail] at hmem
  rcases List.mem_cons.1 hmem with h | hmem
  · rw [h, ReportedTransaction.head?_append (c := 't') (by decide)] at hsender
    exact absurd hsender (by decide)
  rcases List.mem_cons.1 hmem with h | hmem
  · rw [h] at hsender
    exact absurd hsender (by decide)
  rcases List.mem_append.1 hmem with h | h
  · obtain ⟨c, hc, hhead⟩ := q.reported.head?_above _ h
    rw [Option.some.inj (hhead.symm.trans hsender)] at hc
    exact absurd hc (by decide)
  · rw [List.mem_singleton.1 h, ReportedTransaction.head?_append (c := 'c') (by decide)] at hsender
    exact absurd hsender (by decide)

/-- The lines of a joint, behind other lines of a name, are a seam. -/
theorem holdsSeam_of_linesOf {p q : Prepared} {name : String} {before behind : List String}
    (hq : q.draft.params.Canonical) (h : linesOf name = before ++ (joint p q ++ behind))
    (hbefore : before ≠ []) : HoldsSeam name := by
  have hbreak : ∀ line ∈ before ++ (joint p q ++ behind), '\n' ∉ line.toList := by
    intro line hline
    rw [← h] at hline
    exact break_not_mem_of_mem_linesOf hline
  have hfirst : '\n' ∉ (firstLine q.draft.chainName).toList := by
    apply break_not_mem_of_mem_linesOf (s := q.draft.chainName)
    rw [linesOf_eq_cons]
    exact List.mem_cons_self
  obtain ⟨a, ha⟩ := exists_linesOf_eq hbefore fun line hline =>
    hbreak line (List.mem_append_left _ hline)
  obtain ⟨b, hb⟩ : ∃ b, linesOf b = firstLine q.draft.chainName :: behind := by
    refine exists_linesOf_eq nofun fun line hline => ?_
    rcases List.mem_cons.1 hline with rfl | hline
    · exact hfirst
    · exact hbreak line (List.mem_append_right _ (List.mem_append_right _ hline))
  have hlines : ∀ line ∈ p.reported.below ++ q.reported.above, '\n' ∉ line.toList := by
    intro line hline
    exact hbreak line
      (List.mem_append_right _ (List.mem_append_left _ (List.mem_append_left _ hline)))
  have hlast : linesOf ("chain_name: " ++ b) =
      ("chain_name: " ++ firstLine q.draft.chainName) :: behind := by
    rw [linesOf_append (by decide), List.cons.injEq, String.append_right_inj, ← List.cons.injEq,
      ← linesOf_eq_cons, hb]
  -- the name is put together again from its lines
  refine ⟨p, q, a, b, hq, linesOf_injective ?_⟩
  rw [h, String.append_assoc, String.append_assoc, linesOf_break, ha, linesOf_ended,
    flatMap_linesOf hlines, hlast, joint]
  simp only [List.append_assoc, List.singleton_append]

/-- **The lines in a name are followed to its end.** Where they went on in one text, what they have
there is what comes between two names in the other. -/
theorem innerLines_eq {p q : Prepared} {ps qs : List Prepared}
    (hps : ∀ r ∈ ps, r.draft.params.Canonical) (hq : ¬HoldsSeam q.draft.chainName)
    (hle : (innerLines p.draft.chainName).length ≤ (innerLines q.draft.chainName).length)
    (h : innerLines p.draft.chainName ++ (p.reported.below ++ ps.flatMap textLines) =
      innerLines q.draft.chainName ++ (q.reported.below ++ qs.flatMap textLines)) :
    innerLines p.draft.chainName = innerLines q.draft.chainName := by
  obtain ⟨more, hmore⟩ : ∃ more,
      innerLines q.draft.chainName = innerLines p.draft.chainName ++ more :=
    List.prefix_of_prefix_length_le ⟨_, h⟩ ⟨_, rfl⟩ hle |>.imp fun _ => Eq.symm
  have hrest : p.reported.below ++ ps.flatMap textLines =
      more ++ (q.reported.below ++ qs.flatMap textLines) := by
    rw [hmore, List.append_assoc] at h
    exact List.append_cancel_left h
  have hnil : more = [] := by
    cases ps with
    | nil =>
      -- what is left is too short for the end of a transaction behind further lines
      have hlength := congrArg List.length hrest
      simp only [List.length_append, List.flatMap_nil, List.length_nil,
        ReportedTransaction.length_below] at hlength
      exact List.length_eq_zero_iff.1 (by omega)
    | cons r ps =>
      have hjoint : p.reported.below ++ (r :: ps).flatMap textLines =
          joint p r ++ (innerLines r.draft.chainName ++ r.reported.below ++
            ps.flatMap textLines) := by
        rw [List.flatMap_cons, textLines, joint]
        simp only [List.append_assoc, List.cons_append, List.nil_append]
      rw [hjoint] at hrest
      -- the further lines end where a sender comes, and a joint has no sender but its first line
      rcases eq_nil_or_exists_eq_append hrest (sender_not_mem_joint_tail _ _ _) with
        hnil | ⟨others, hothers⟩
      · exact hnil
      · have hlines : linesOf q.draft.chainName =
            (firstLine q.draft.chainName :: innerLines p.draft.chainName) ++
              (joint p r ++ others) := by
          rw [linesOf_eq_cons, hmore, hothers, List.cons_append]
        exact absurd (holdsSeam_of_linesOf (hps r List.mem_cons_self) hlines nofun) hq
  rw [hmore, hnil, List.append_nil]

/-- **Two lists that are shown in the same lines show the same transactions.** -/
theorem reported_of_textLines {ps qs : List Prepared}
    (hps : ∀ p ∈ ps, p.draft.params.Canonical) (hqs : ∀ q ∈ qs, q.draft.params.Canonical)
    (hpseam : ∀ p ∈ ps, ¬HoldsSeam p.draft.chainName)
    (hqseam : ∀ q ∈ qs, ¬HoldsSeam q.draft.chainName)
    (h : ps.flatMap textLines = qs.flatMap textLines) : ps.map reported = qs.map reported := by
  induction ps generalizing qs with
  | nil =>
    cases qs with
    | nil => rfl
    | cons q qs => exact absurd h.symm (by simp [textLines])
  | cons p ps ih =>
    cases qs with
    | nil => exact absurd h (by simp [textLines])
    | cons q qs =>
      rw [List.forall_mem_cons] at hps hqs hpseam hqseam
      have hlines : ∀ (r : Prepared) (rs : List Prepared), (r :: rs).flatMap textLines =
          r.reported.above ++ ("chain_name: " ++ firstLine r.draft.chainName) ::
            (innerLines r.draft.chainName ++ (r.reported.below ++ rs.flatMap textLines)) := by
        intro r rs
        rw [List.flatMap_cons, textLines]
        simp only [List.append_assoc, List.cons_append]
      rw [hlines, hlines] at h
      obtain ⟨habove, h⟩ := List.append_inj h
        (p.reported.length_above.trans q.reported.length_above.symm)
      obtain ⟨hfirst, h⟩ := List.cons.inj h
      -- here a report can be misread: nothing says how many lines belong to a name
      have hinner : innerLines p.draft.chainName = innerLines q.draft.chainName := by
        rcases Nat.le_total (innerLines p.draft.chainName).length
          (innerLines q.draft.chainName).length with hle | hle
        · exact innerLines_eq hps.2 hqseam.1 hle h
        · exact (innerLines_eq hqs.2 hpseam.1 hle h.symm).symm
      rw [hinner] at h
      obtain ⟨hbelow, h⟩ := List.append_inj (List.append_cancel_left h)
        (p.reported.length_below.trans q.reported.length_below.symm)
      have hname : p.draft.chainName = q.draft.chainName := by
        apply linesOf_injective
        rw [linesOf_eq_cons, linesOf_eq_cons, (String.append_right_inj _).1 hfirst, hinner]
      have hreported : p.reported = q.reported :=
        ReportedTransaction.eq_of_lines habove hname hbelow
      rw [List.map_cons, List.map_cons, hreported, ih hps.2 hqs.2 hpseam.2 hqseam.2 h]

/-- The transaction under another name, between the parties of another transaction. -/
def rejoined (p q : Prepared) (name : String) : Prepared :=
  { p with draft :=
      { p.draft with chainName := name, sender := q.draft.sender, receiver := q.draft.receiver } }

/-- A transaction with a seam in its name is written like the two that the seam makes of it. -/
theorem ended_lines_of_seam {p q r : Prepared} {a b : String}
    (h : p.draft.chainName =
      a ++ "\n" ++ ended (q.reported.below ++ r.reported.above) ++ "chain_name: " ++ b) :
    ended p.reported.lines =
      ended (p.rejoined q a).reported.lines ++ ended (r.rejoined p b).reported.lines := by
  have hclosed : (p.rejoined q a).reported.lines =
      p.reported.above ++ ("chain_name: " ++ a) :: q.reported.below := rfl
  have hopened : (r.rejoined p b).reported.lines =
      r.reported.above ++ ("chain_name: " ++ b) :: p.reported.below := rfl
  have hlines : p.reported.lines =
      p.reported.above ++ ("chain_name: " ++ p.draft.chainName) :: p.reported.below := rfl
  rw [hlines, h, hclosed, hopened]
  simp only [ended_append, ended_cons, String.append_assoc]

end Prepared

namespace StageReport

variable (stage : String) (w : Workflow)

theorem render_eq (ps : List Prepared) : (ofWorkflow stage w ps).render =
    ended ["stage: " ++ stage, "workflow_id: " ++ toString w.id,
      "workflow_params: " ++ w.params.toText] ++
      ended (ps.flatMap fun p => p.reported.lines) := by
  rw [← ended_append, ← List.flatMap_map]
  rfl

/-- **A seam is read as one more transaction.** -/
theorem exists_render_eq_of_seam {ps : List Prepared}
    (hps : ∀ p ∈ ps, p.draft.params.Canonical) {p : Prepared} (hp : p ∈ ps)
    (h : HoldsSeam p.draft.chainName) :
    ∃ qs : List Prepared, (∀ q ∈ qs, q.draft.params.Canonical) ∧ qs.length = ps.length + 1 ∧
      (ofWorkflow stage w qs).render = (ofWorkflow stage w ps).render := by
  obtain ⟨q, r, a, b, hr, hname⟩ := h
  obtain ⟨before, after, rfl⟩ := List.append_of_mem hp
  rw [List.forall_mem_append, List.forall_mem_cons] at hps
  refine ⟨before ++ p.rejoined q a :: r.rejoined p b :: after, ?_, ?_, ?_⟩
  · rw [List.forall_mem_append, List.forall_mem_cons, List.forall_mem_cons]
    exact ⟨hps.1, hps.2.1, hr, hps.2.2⟩
  · simp only [List.length_append, List.length_cons]
    omega
  · rw [render_eq, render_eq]
    simp only [List.flatMap_append, List.flatMap_cons, ended_append,
      Prepared.ended_lines_of_seam hname, String.append_assoc]

end StageReport

/-! ## Separators -/

theorem append_ne_separator {label : String} {c : Char} (h : label.toList.head? = some c)
    (hc : c ≠ '-') (value : String) : label ++ value ≠ separator := by
  intro heq
  have hhead := ReportedTransaction.head?_append h value
  rw [heq] at hhead
  exact hc (Option.some.inj hhead).symm

theorem Prepared.count_separator_textLines (p : Prepared) :
    p.textLines.count separator = 1 + (innerLines p.draft.chainName).count separator := by
  have habove : p.reported.above.count separator = 0 := by
    refine List.count_eq_zero.2 fun hmem => ?_
    obtain ⟨c, hc, hhead⟩ := p.reported.head?_above _ hmem
    have hdash : c = '-' := (Option.some.inj hhead).symm
    rw [hdash] at hc
    exact absurd hc (by decide)
  have hbelow : p.reported.below.count separator = 1 := by
    unfold ReportedTransaction.below
    rw [List.count_cons_of_ne (append_ne_separator (c := 'f') (by decide) (by decide) _),
      List.count_cons_of_ne (append_ne_separator (c := 't') (by decide) (by decide) _)]
    rfl
  rw [textLines, List.count_append, habove,
    List.count_cons_of_ne (append_ne_separator (c := 'c') (by decide) (by decide) _),
    List.count_append, hbelow]
  omega

theorem StageReport.count_separator_headLines (stage : String) (w : Workflow) :
    (headLines stage w).count separator = (innerLines stage).count separator := by
  unfold headLines
  rw [List.cons_append,
    List.count_cons_of_ne (append_ne_separator (c := 's') (by decide) (by decide) _),
    List.count_append,
    List.count_cons_of_ne (append_ne_separator (c := 'w') (by decide) (by decide) _),
    List.count_cons_of_ne (append_ne_separator (c := 'w') (by decide) (by decide) _)]
  rfl

/-- **There is a separator for every transaction, and for every line in a name that looks like
one.** -/
theorem StageReport.count_separator (stage : String) (w : Workflow) (ps : List Prepared) :
    (linesOf (ofWorkflow stage w ps).render).count separator = ps.length +
      ((stage :: ps.map fun p => p.draft.chainName).flatMap innerLines).count separator := by
  have hbody : (ps.flatMap Prepared.textLines).count separator = ps.length +
      ((ps.map fun p => p.draft.chainName).flatMap innerLines).count separator := by
    induction ps with
    | nil => rfl
    | cons p ps ih =>
      rw [List.flatMap_cons, List.count_append, p.count_separator_textLines, ih, List.map_cons,
        List.flatMap_cons, List.count_append, List.length_cons]
      omega
  have hend : [""].count separator = 0 := by decide
  rw [linesOf_render, List.count_append, List.count_append, count_separator_headLines, hbody, hend,
    List.flatMap_cons, List.count_append]
  omega

/-! ## A forged transaction -/

/-- A workflow that is reported about. -/
def forgedWorkflow : Workflow := ⟨1, .init, ⟨"ops", none⟩, "", ""⟩

theorem length_uniform (b : UInt8) : (List.replicate 20 b).length = 20 := List.length_replicate

/-- The address that has one byte twenty times. -/
def uniformAddress (b : UInt8) : Address := ⟨List.replicate 20 b, length_uniform b⟩

/-- A claim on one chain. -/
def plainClaim : Prepared where
  draft :=
    { owner := .workflow 1
      type := .claimFromVault
      chainId := 56
      chainName := "bsc"
      sender := uniformAddress 0x11
      receiver := uniformAddress 0x22
      inputData := []
      params := .object [] }
  gas := ⟨0, .ofUInt64 3000000000, 800000⟩

/-- An investment behind it. -/
def plainInvestment : Prepared where
  draft :=
    { plainClaim.draft with
      type := .invest, receiver := uniformAddress 0x33 }
  gas := { plainClaim.gas with nonce := 1 }

/-- A name that closes the claim and opens the investment. -/
def forgedName : String :=
  "bsc\n" ++
  "from: 0x1111111111111111111111111111111111111111\n" ++
  "to: 0x2222222222222222222222222222222222222222\n" ++
  "--------------------\n" ++
  "type: invest\n" ++
  "nonce: 1\n" ++
  "gas_price: 3000000000\n" ++
  "gas_limit: 800000\n" ++
  "amount: \x7b\x7d\n" ++
  "chain_id: 56\n" ++
  "chain_name: bsc"

/-- One transaction that looks like both. -/
def forgedClaim : Prepared where
  draft :=
    { plainClaim.draft with
      chainName := forgedName, receiver := uniformAddress 0x33 }
  gas := plainClaim.gas

theorem forgedName_eq : forgedName =
    "bsc" ++ "\n" ++ ended (plainClaim.reported.below ++ plainInvestment.reported.above) ++
      "chain_name: " ++ "bsc" := by
  have hsender : plainClaim.reported.sender = "0x1111111111111111111111111111111111111111" :=
    (Address.checksummed_eq_toText (by decide)).trans (by decide)
  have hreceiver : plainClaim.reported.receiver = "0x2222222222222222222222222222222222222222" :=
    (Address.checksummed_eq_toText (by decide)).trans (by decide)
  rw [ReportedTransaction.below, hsender, hreceiver]
  decide +kernel

/-- **One transaction is read as two**, and has two separators. -/
theorem StageReport.render_forgedClaim :
    (ofWorkflow "claimlp_suc" forgedWorkflow [forgedClaim]).render =
        (ofWorkflow "claimlp_suc" forgedWorkflow [plainClaim, plainInvestment]).render ∧
      [forgedClaim].length ≠ [plainClaim, plainInvestment].length ∧
      (linesOf (ofWorkflow "claimlp_suc" forgedWorkflow [forgedClaim]).render).count separator =
        2 := by
  have hrender : (ofWorkflow "claimlp_suc" forgedWorkflow [forgedClaim]).render =
      (ofWorkflow "claimlp_suc" forgedWorkflow [plainClaim, plainInvestment]).render := by
    have hclosed : forgedClaim.rejoined plainClaim "bsc" = plainClaim := rfl
    have hopened : plainInvestment.rejoined forgedClaim "bsc" = plainInvestment := rfl
    have hname : forgedClaim.draft.chainName = forgedName := rfl
    have hlines := Prepared.ended_lines_of_seam (hname.trans forgedName_eq)
    rw [hclosed, hopened] at hlines
    rw [render_eq, render_eq]
    simp only [List.flatMap_cons, List.flatMap_nil, List.append_nil, ended_append, hlines]
  refine ⟨hrender, by decide, ?_⟩
  rw [hrender, count_separator]
  decide

/-! ## Reports -/

theorem forall₂_alike_iff {ps qs : List Prepared} (hps : ∀ p ∈ ps, p.draft.params.Canonical)
    (hqs : ∀ q ∈ qs, q.draft.params.Canonical) :
    List.Forall₂ Prepared.Alike ps qs ↔ ps.map Prepared.reported = qs.map Prepared.reported := by
  induction ps generalizing qs with
  | nil =>
    rw [List.forall₂_nil_left_iff, List.map_nil, eq_comm (a := []), List.map_eq_nil_iff]
  | cons p ps ih =>
    cases qs with
    | nil =>
      rw [List.forall₂_nil_right_iff, List.map_nil, List.map_eq_nil_iff]
    | cons q qs =>
      rw [List.forall_mem_cons] at hps hqs
      rw [List.forall₂_cons, List.map_cons, List.map_cons, List.cons.injEq,
        Prepared.reported_eq_iff hps.1 hqs.1, ih hps.2 hqs.2]

/-- Where no name of a chain closes a transaction and opens another, two texts under one stage name
are equal just when the lists agree in everything that is shown. -/
theorem StageReport.render_eq_iff (stage : String) (w : Workflow) {ps qs : List Prepared}
    (hps : ∀ p ∈ ps, p.draft.params.Canonical) (hqs : ∀ q ∈ qs, q.draft.params.Canonical)
    (hseam : ∀ p ∈ ps ++ qs, ¬HoldsSeam p.draft.chainName) :
    (ofWorkflow stage w ps).render = (ofWorkflow stage w qs).render ↔
      List.Forall₂ Prepared.Alike ps qs := by
  rw [List.forall_mem_append] at hseam
  rw [forall₂_alike_iff hps hqs]
  constructor
  · intro h
    have hlines := congrArg linesOf h
    rw [linesOf_render, linesOf_render] at hlines
    exact Prepared.reported_of_textLines hps hqs hseam.1 hseam.2
      (List.append_cancel_right (List.append_cancel_left hlines))
  · intro h
    unfold ofWorkflow
    rw [h]

/-- So it is with all that a stage reports, however its documents came about. -/
theorem StageReport.render_eq_iff_of_isReported (stage : String) (w : Workflow)
    {ps qs : List Prepared} (hps : ∀ p ∈ ps, p.IsReported) (hqs : ∀ q ∈ qs, q.IsReported)
    (hseam : ∀ p ∈ ps ++ qs, ¬HoldsSeam p.draft.chainName) :
    (ofWorkflow stage w ps).render = (ofWorkflow stage w qs).render ↔
      List.Forall₂ Prepared.Alike ps qs :=
  render_eq_iff stage w (fun p hp => (hps p hp).canonical) (fun q hq => (hqs q hq).canonical) hseam

/-- **Reports are told apart** where no name of a chain closes a transaction and opens another: two
texts under one stage name are equal just when the lists agree in everything that is shown. A list
with such a name has the text of another with one more transaction. A text has a separator for
every transaction and for every line behind the first of a name that looks like one. -/
theorem StageReport.render_tells_apart (stage : String) (w : Workflow) (ps qs : List Prepared)
    (hps : ∀ p ∈ ps, p.draft.params.Canonical) (hqs : ∀ q ∈ qs, q.draft.params.Canonical) :
    ((∀ p ∈ ps ++ qs, ¬HoldsSeam p.draft.chainName) →
      ((ofWorkflow stage w ps).render = (ofWorkflow stage w qs).render ↔
        List.Forall₂ Prepared.Alike ps qs)) ∧
    (∀ p ∈ ps, HoldsSeam p.draft.chainName → ∃ rs : List Prepared,
      (∀ r ∈ rs, r.draft.params.Canonical) ∧ rs.length = ps.length + 1 ∧
        (ofWorkflow stage w rs).render = (ofWorkflow stage w ps).render) ∧
    (linesOf (ofWorkflow stage w ps).render).count separator = ps.length +
      ((stage :: ps.map fun p => p.draft.chainName).flatMap innerLines).count separator := by
  exact ⟨render_eq_iff stage w hps hqs, fun p hp h => exists_render_eq_of_seam stage w hps hp h,
    count_separator stage w ps⟩

/-- The claim with one half of something in its document. -/
def sharedClaim : Prepared :=
  { plainClaim with draft :=
      { plainClaim.draft with params := .object [("share", .real ⟨false, Binary64.half, -53⟩)] } }

theorem StageReport.render_tells_apart_sharedClaim :
    (∀ p ∈ [plainClaim], p.draft.params.Canonical) ∧
      (∀ p ∈ [sharedClaim], p.draft.params.Canonical) ∧
      (∀ p ∈ [plainClaim] ++ [sharedClaim], ¬HoldsSeam p.draft.chainName) ∧
      (ofWorkflow "claimlp_suc" forgedWorkflow [plainClaim]).render ≠
        (ofWorkflow "claimlp_suc" forgedWorkflow [sharedClaim]).render ∧
      (linesOf (ofWorkflow "claimlp_suc" forgedWorkflow [plainClaim]).render).count separator =
        1 := by
  have hplain : ∀ p ∈ [plainClaim], p.draft.params.Canonical := by
    rw [List.forall_mem_singleton]
    trivial
  have hshared : ∀ p ∈ [sharedClaim], p.draft.params.Canonical := by
    rw [List.forall_mem_singleton]
    exact ⟨⟨by decide, by decide, by decide, .inr (by decide)⟩, trivial⟩
  have hseam : ∀ p ∈ [plainClaim] ++ [sharedClaim], ¬HoldsSeam p.draft.chainName := by
    rw [List.forall_mem_append, List.forall_mem_singleton, List.forall_mem_singleton]
    exact ⟨not_holdsSeam (by decide), not_holdsSeam (by decide)⟩
  obtain ⟨htell, -, hcount⟩ := render_tells_apart "claimlp_suc" forgedWorkflow [plainClaim]
    [sharedClaim] hplain hshared
  refine ⟨hplain, hshared, hseam, fun heq => ?_, ?_⟩
  · cases (htell hseam).1 heq with
    | cons halike _ => exact absurd halike.params nofun
  · rw [hcount]
    decide

end Treasury
