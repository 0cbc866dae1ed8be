import Treasury.Liquidity.Source
import Treasury.Proofs.Claim.Tally

/-!
# Where the positions of a report stand

A snapshot does not show any more what the provider has written. `reportedDocuments` finds the
positions in the answer: there is one document for each position of the snapshot, in the same
order, and the position was read from it (`reportedDocuments_of_ofExchange`). An amount that is
written as text is the amount of this text (`Position.ofText?_of_read`).
-/

namespace Treasury

namespace Json

variable {α : Type} {title name : String} {names : List String} {document : Json} {r : Record}

/-- What stands in a field of a record with these names, if it is there. -/
def field? (names : List String) (name : String) : Json → Option Json
  | .object members => members.lookup name
  | .array items => (names.zip items).lookup name
  | _ => none

/-- The items of the array that stands in a field; no items if none stands there. -/
def itemsOf (names : List String) (name : String) (document : Json) : List Json :=
  match field? names name document with
  | some (.array items) => items
  | _ => []

theorem lookup_filter_names {members : List (String × Json)} (hname : name ∈ names) :
    (members.filter fun member => names.contains member.1).lookup name = members.lookup name := by
  induction members with
  | nil => rfl
  | cons member rest ih =>
    obtain ⟨other, value⟩ := member
    rw [List.filter_cons]
    by_cases heq : name = other
    · subst heq
      rw [if_pos (List.contains_iff_mem.2 hname), List.lookup_cons_self, List.lookup_cons_self]
    · have hskip : ∀ list : List (String × Json),
          ((other, value) :: list).lookup name = list.lookup name := by
        intro list
        rw [List.lookup_cons, beq_eq_false_iff_ne.2 heq]
      rw [hskip rest, ← ih]
      split
      · exact hskip _
      · rfl

/-- **A record has in its fields what the document has in them.** -/
theorem lookup_of_record (h : record title names document = .ok r) (hname : name ∈ names) :
    r.fields.lookup name = field? names name document := by
  unfold record at h
  split at h
  · dsimp only at h
    split at h
    · exact absurd h (by simp)
    · cases h
      exact lookup_filter_names hname
  · split at h
    · exact absurd h (by simp)
    · cases h
      rfl
  · exact absurd h (by simp)

namespace Record

theorem required_eq_ok {read : Reader α} {a : α} :
    r.required name read = .ok a ↔ ∃ value, r.fields.lookup name = some value ∧ read value = .ok a
    := by
  unfold required
  cases r.fields.lookup name with
  | none => by_cases hp : r.positional <;> simp [hp]
  | some value => simp

theorem withDefault_eq_ok {read : Reader α} {default a : α} :
    r.withDefault name read default = .ok a ↔
      (∃ value, r.fields.lookup name = some value ∧ read value = .ok a)
        ∨ (r.fields.lookup name = none ∧ default = a) := by
  unfold withDefault
  cases r.fields.lookup name <;> simp

/-- What may be missing stands there or is missing. -/
theorem nullable_eq_ok {read : Reader α} {a : Option α} (h : r.nullable name read = .ok a) :
    (∃ value, r.fields.lookup name = some value ∧ Reader.option read value = .ok a)
      ∨ (r.fields.lookup name = none ∧ a = none) := by
  unfold nullable at h
  split at h
  · exact .inl (required_eq_ok.1 h)
  · exact (withDefault_eq_ok.1 h).imp_right fun ⟨hnone, ha⟩ => ⟨hnone, ha.symm⟩

end Record

namespace Reader

theorem list_eq_ok {read : Reader α} {as : List α} :
    list read document = .ok as ↔
      ∃ items, document = .array items ∧ List.Forall₂ (fun item a => read item = .ok a) items as := by
  cases document <;> simp [list, mapM_eq_ok]

/-- Nothing is read from `null` only. -/
theorem option_eq_ok {read : Reader α} {a : Option α} (h : option read document = .ok a) :
    (document = .null ∧ a = none) ∨ ∃ b, a = some b ∧ read document = .ok b := by
  unfold option at h
  split at h
  · cases h
    exact .inl ⟨rfl, rfl⟩
  · obtain ⟨b, hread, rfl⟩ := map_eq_ok.1 h
    exact .inr ⟨b, rfl, hread⟩

theorem decimal_text_eq_ok {text : String} {d : Decimal} :
    decimal (.text text) = .ok d ↔ Decimal.ofText? text = some d := by
  unfold decimal
  dsimp only
  cases Decimal.ofText? text <;> simp

end Reader

/-- **A list is read from the items that stand in its field, one by one.** -/
theorem forall₂_itemsOf {read : Reader α} {as : List α} (hr : record title names document = .ok r)
    (hname : name ∈ names) (h : r.withDefault name (Reader.list read) [] = .ok as) :
    List.Forall₂ (fun item a => read item = .ok a) (itemsOf names name document) as := by
  unfold itemsOf
  rw [← lookup_of_record hr hname]
  rcases Record.withDefault_eq_ok.1 h with ⟨value, hvalue, hlist⟩ | ⟨hnone, rfl⟩
  · obtain ⟨items, rfl, hitems⟩ := Reader.list_eq_ok.1 hlist
    rw [hvalue]
    exact hitems
  · rw [hnone]
    exact .nil

end Json

open Json (field? itemsOf)

/-! ## Positions -/

/-- The names of the fields of a position. -/
def Position.fields : List String :=
  ["lpIndex", "lpAmount", "baseTokenAddress", "quoteTokenAddress", "baseTokenSymbol",
    "quoteTokenSymbol", "baseTokenAmount", "quoteTokenAmount", "strategyAddress"]

/-- The field that an amount of a position stands in. -/
def Position.amountField : Side → String
  | .base => "baseTokenAmount"
  | .quote => "quoteTokenAmount"

/-- The text that the provider has written for an amount of a position, if it is text. -/
def Position.amountText? (side : Side) (document : Json) : Option String :=
  match field? Position.fields (amountField side) document with
  | some (.text text) => some text
  | _ => none

/-- **An amount that is written as text is the amount of the text.** -/
theorem Position.ofText?_of_read {document : Json} {p : Position} (h : read document = .ok p)
    {side : Side} {text : String} (htext : amountText? side document = some text) :
    Decimal.ofText? text = some (p.amount side) := by
  obtain ⟨r, hr, h⟩ := bind_eq_ok.1 h
  simp only [bind_eq_ok] at h
  obtain ⟨_, -, _, -, _, -, _, -, _, -, _, -, base, hbase, quote, hquote, _, -, h⟩ := h
  have hamount : ∃ value, r.fields.lookup (amountField side) = some value
      ∧ Json.Reader.decimal value = .ok (p.amount side) := by
    cases h
    cases side with
    | base => exact Json.Record.required_eq_ok.1 hbase
    | quote => exact Json.Record.required_eq_ok.1 hquote
  obtain ⟨value, hvalue, hread⟩ := hamount
  have hname : amountField side ∈ fields := by cases side <;> decide
  have hfield : r.fields.lookup (amountField side) = field? fields (amountField side) document :=
    Json.lookup_of_record hr hname
  unfold amountText? at htext
  rw [← hfield, hvalue] at htext
  split at htext
  · rename_i heq
    cases heq
    cases htext
    exact Json.Reader.decimal_text_eq_ok.1 hread
  · exact absurd htext (by simp)

/-! ## Reports -/

/-- The names of the fields of a provider. -/
def Provider.fields : List String :=
  ["chain", "chainId", "lpSymbol", "lpAmount", "lpTokenAddress", "lpPlatform", "lpInfoList"]

/-- The names of the fields of a snapshot. -/
def Snapshot.fields : List String := ["threshold", "vaultInfoList", "liquidityProviderList"]

/-- The names of the fields of an envelope. -/
def Envelope.fields : List String := ["code", "msg", "data"]

/-- The documents of the positions in an answer, in the order in which they stand. -/
def reportedDocuments (answer : Json) : List Json :=
  (field? Envelope.fields "data" answer).toList.flatMap fun snapshot =>
    (itemsOf Snapshot.fields "liquidityProviderList" snapshot).flatMap
      (itemsOf Provider.fields "lpInfoList")

theorem Provider.positions_of_read {document : Json} {p : Provider} (h : read document = .ok p) :
    List.Forall₂ (fun item position => Position.read item = .ok position)
      (itemsOf Provider.fields "lpInfoList" document) p.positions := by
  obtain ⟨r, hr, h⟩ := bind_eq_ok.1 h
  simp only [bind_eq_ok] at h
  obtain ⟨_, -, _, -, _, -, _, -, _, -, _, -, positions, hpositions, h⟩ := h
  cases h
  exact Json.forall₂_itemsOf hr (by decide) hpositions

theorem Snapshot.providers_of_read {document : Json} {s : Snapshot} (h : read document = .ok s) :
    List.Forall₂ (fun item provider => Provider.read item = .ok provider)
      (itemsOf Snapshot.fields "liquidityProviderList" document) s.providers := by
  obtain ⟨r, hr, h⟩ := bind_eq_ok.1 h
  simp only [bind_eq_ok] at h
  obtain ⟨_, -, _, -, providers, hproviders, h⟩ := h
  cases h
  exact Json.forall₂_itemsOf hr (by decide) hproviders

/-- The positions of a snapshot stand in the document of the snapshot. -/
theorem Snapshot.positions_of_read {document : Json} {s : Snapshot} (h : read document = .ok s) :
    List.Forall₂ (fun item r => Position.read item = .ok r.2)
      ((itemsOf Snapshot.fields "liquidityProviderList" document).flatMap
        (itemsOf Provider.fields "lpInfoList")) (reportedPositions s.providers) := by
  refine List.rel_flatMap (providers_of_read h) fun item provider hprovider => ?_
  exact List.forall₂_map_right_iff.2 (Provider.positions_of_read hprovider)

/-- The positions of a snapshot stand in the envelope, if that has a snapshot. -/
theorem Envelope.positions_of_read {answer : Json} {e : Envelope} (h : read answer = .ok e) :
    List.Forall₂ (fun item r => Position.read item = .ok r.2) (reportedDocuments answer)
      (reportedPositions (e.data.getD .empty).providers) := by
  obtain ⟨r, hr, h⟩ := bind_eq_ok.1 h
  simp only [bind_eq_ok] at h
  obtain ⟨_, -, _, -, data, hdata, h⟩ := h
  cases h
  have hfield : r.fields.lookup "data" = field? fields "data" answer :=
    Json.lookup_of_record hr (by decide)
  unfold reportedDocuments
  rw [← hfield]
  -- data that is absent or `null` is an empty snapshot, in which no positions stand either
  rcases Json.Record.nullable_eq_ok hdata with ⟨value, hvalue, hread⟩ | ⟨hnone, rfl⟩
  · rw [hvalue, Option.toList_some, List.flatMap_singleton]
    rcases Json.Reader.option_eq_ok hread with ⟨rfl, rfl⟩ | ⟨snapshot, rfl, hsnapshot⟩
    · exact .nil
    · exact Snapshot.positions_of_read hsnapshot
  · rw [hnone]
    exact .nil

theorem Envelope.ofText?_eq_some {body : String} {e : Envelope} :
    ofText? body = some e ↔ ∃ answer, Json.parse body = .ok answer ∧ read answer = .ok e := by
  unfold ofText?
  cases Json.parse body with
  | error fault => simp
  | ok answer => cases hread : read answer <;> simp [hread]

/-- A snapshot is what an envelope has, or an empty one. -/
theorem Snapshot.exists_of_ofExchange {status : Nat} {body : String} {snapshot : Snapshot}
    (h : ofExchange (.answered status body) = .ok snapshot) :
    ∃ envelope, Envelope.ofText? body = some envelope ∧ envelope.data.getD empty = snapshot := by
  unfold ofExchange at h
  dsimp only at h
  split at h
  · split at h
    · rename_i envelope henvelope
      unfold Envelope.snapshot at h
      split at h
      · exact ⟨envelope, henvelope, Except.ok.inj h⟩
      · exact absurd h (by simp)
    · exact absurd h (by simp)
  · exact absurd h (by simp)

/-- **Each position of a snapshot was read from the document that stands at its place.** -/
theorem reportedDocuments_of_ofExchange {status : Nat} {body : String} {snapshot : Snapshot}
    (h : Snapshot.ofExchange (.answered status body) = .ok snapshot) :
    ∃ answer, Json.parse body = .ok answer
      ∧ List.Forall₂ (fun document r => Position.read document = .ok r.2)
        (reportedDocuments answer) (reportedPositions snapshot.providers) := by
  obtain ⟨envelope, henvelope, rfl⟩ := Snapshot.exists_of_ofExchange h
  obtain ⟨answer, hparse, hread⟩ := Envelope.ofText?_eq_some.1 henvelope
  exact ⟨answer, hparse, Envelope.positions_of_read hread⟩

end Treasury
