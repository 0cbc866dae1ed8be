import Treasury.Proofs.Json.Read
import Treasury.Proofs.Json.Render
import Treasury.Proofs.Nearest
import Treasury.Store.Tasks

/-!
# Documents that are read have numbers in their one form

A number comes into a document where it is scanned, and there it has been rounded
(`canonical_of_value`). The lexer hands it on in a token and the parser puts it into a document, so
every document that is read is `Canonical` (`canonical_of_parse`), and so is what a stored
transaction says it does (`canonical_of_parseParams`).
-/

namespace Treasury.Json

theorem canonicalItems_iff {items : List Json} :
    CanonicalItems items ↔ ∀ item ∈ items, item.Canonical := by
  induction items with
  | nil => simp [CanonicalItems]
  | cons item rest ih => simp [CanonicalItems, ih]

theorem canonicalMembers_iff {members : List (String × Json)} :
    CanonicalMembers members ↔ ∀ member ∈ members, member.2.Canonical := by
  induction members with
  | nil => simp [CanonicalMembers]
  | cons member rest ih => simp [CanonicalMembers, ih]

/-! ## Numbers -/

namespace Scan

theorem canonical_of_scaleByTen {fuel : ℕ} {x y : Binary64} {power : ℤ} (hx : x.Canonical)
    (h : scaleByTen x power fuel = some y) : y.Canonical := by
  induction fuel generalizing x power with
  | zero =>
    cases h
    exact Binary64.canonical_zero _
  | succ fuel ih =>
    unfold scaleByTen at h
    split at h
    · rename_i hpower
      obtain ⟨ten, hten, h⟩ := Option.bind_eq_some_iff.1 h
      split at h
      · exact Binary64.canonical_of_mul? h
      · exact Binary64.canonical_of_div? (Binary64.significand_ne_zero_of_powerOfTen? hpower hten) h
    · split at h
      · cases h
        exact hx
      · split at h
        · exact absurd h (by simp)
        · obtain ⟨ten, hten, h⟩ := Option.bind_eq_some_iff.1 h
          obtain ⟨z, hz, h⟩ := Option.bind_eq_some_iff.1 h
          have hz' := Binary64.canonical_of_div?
            (Binary64.significand_ne_zero_of_powerOfTen? le_rfl hten) hz
          exact ih hz' h

theorem canonical_of_realValue {s : Scan} {value : Json} (h : s.realValue = .ok value) :
    value.Canonical := by
  unfold realValue at h
  split at h
  · rename_i x hx
    cases h
    obtain ⟨significand, hsignificand, hscale⟩ := Option.bind_eq_some_iff.1 hx
    exact canonical_of_scaleByTen (Binary64.canonical_of_nearest? Nat.one_pos hsignificand) hscale
  · exact absurd h (by simp)

/-- **A number that is scanned is in its one form.** -/
theorem canonical_of_value {s : Scan} {value : Json} (h : s.value = .ok value) :
    value.Canonical := by
  unfold Scan.value at h
  cases hstage : s.stage with
  | zero | whole =>
    rw [hstage] at h
    dsimp only at h
    -- a whole number, unless it does not fit a machine word
    split at h
    · cases h
      trivial
    · split at h
      · cases h
        trivial
      · exact canonical_of_realValue h
  | sign | point | mark | markSign =>
    rw [hstage] at h
    cases h
  | wholeFull | fraction | fractionFull | exponent =>
    rw [hstage] at h
    exact canonical_of_realValue h

theorem canonical_of_valueAtEnd {s : Scan} {value : Json} (h : s.valueAtEnd = .ok value) :
    value.Canonical := by
  unfold valueAtEnd at h
  split at h
  iterate 4
    · cases h
  exact canonical_of_value h

end Scan

/-! ## Tokens -/

/-- What a token brings into a document has its numbers in their one form. -/
def Token.Canonical : Token → Prop
  | scalar value => value.Canonical
  | _ => True

namespace Lexer

/-- So has the word that is being read. -/
def Mode.Canonical : Mode → Prop
  | word _ value _ => value.Canonical
  | _ => True

/-- The tokens that come out, and what is read next. -/
def Canonical (out : List Located × Mode) : Prop :=
  (∀ t ∈ out.1, t.token.Canonical) ∧ out.2.Canonical

theorem canonical_nil {mode : Mode} (h : mode.Canonical) : Canonical ([], mode) :=
  ⟨List.forall_mem_nil _, h⟩

theorem canonical_singleton {token : Token} {start stop : ℕ} (h : token.Canonical) :
    Canonical ([⟨token, start, stop⟩], .between) :=
  ⟨List.forall_mem_singleton.2 h, trivial⟩

theorem canonical_fail {start : ℕ} {fault : Fault} {offset : ℕ} :
    Canonical (fail start fault offset) :=
  ⟨List.forall_mem_singleton.2 trivial, trivial⟩

theorem canonical_start (offset : ℕ) (c : Char) : Canonical (start offset c) := by
  unfold start
  dsimp only
  split
  · exact canonical_nil trivial
  · split
    any_goals exact canonical_singleton trivial
    any_goals exact canonical_nil trivial
    -- a digit, or nothing that starts a token
    split
    · exact canonical_nil trivial
    · exact canonical_fail

theorem canonical_escaped (first : ℕ) (read : List Char) (offset : ℕ) (c : Char) :
    Canonical (escaped first read offset c) := by
  unfold escaped
  dsimp only
  split
  any_goals exact canonical_nil trivial
  exact canonical_fail

theorem canonical_unitDone (first : ℕ) (read : List Char) (lead : Option ℕ) (n stop : ℕ) :
    Canonical (unitDone first read lead n stop) := by
  unfold unitDone
  split
  · split
    · exact canonical_fail
    · split
      · exact canonical_nil trivial
      · exact canonical_nil trivial
  · split
    · exact canonical_nil trivial
    · exact canonical_fail

theorem canonical_step {mode : Mode} (h : mode.Canonical) (offset : ℕ) (c : Char) :
    Canonical (step offset c mode) := by
  cases mode with
  | between => exact canonical_start offset c
  | word first value rest =>
    dsimp only [step]
    split
    · exact canonical_fail
    · split
      · split
        · exact canonical_singleton h
        · exact canonical_nil h
      · exact canonical_fail
  | text first read =>
    dsimp only [step]
    split
    · exact canonical_singleton trivial
    · split
      · exact canonical_nil trivial
      · split
        · exact canonical_fail
        · exact canonical_nil trivial
  | escape first read => exact canonical_escaped first read offset c
  | unit first read lead digits =>
    dsimp only [step]
    split
    · exact canonical_nil trivial
    · split
      · exact canonical_unitDone _ _ _ _ _
      · exact canonical_fail
  | pairSlash first read lead =>
    dsimp only [step]
    split
    · exact canonical_nil trivial
    · exact canonical_fail
  | pairLetter first read lead =>
    dsimp only [step]
    split
    · exact canonical_nil trivial
    · exact canonical_fail
  | number first scan =>
    dsimp only [step]
    split
    · exact canonical_nil trivial
    · exact canonical_fail
    · split
      · exact canonical_fail
      · -- the number has ended, and what follows it starts
        rename_i value hvalue
        obtain ⟨htokens, hmode⟩ := canonical_start offset c
        exact ⟨List.forall_mem_cons.2 ⟨Scan.canonical_of_value hvalue, htokens⟩, hmode⟩
  | stopped => exact canonical_nil trivial

theorem canonical_finish (mode : Mode) (offset : ℕ) :
    ∀ t ∈ finish offset mode, t.token.Canonical := by
  cases mode with
  | number first scan =>
    dsimp only [finish]
    split
    · rename_i value hvalue
      exact List.forall_mem_singleton.2 (Scan.canonical_of_valueAtEnd hvalue)
    · exact List.forall_mem_singleton.2 trivial
  | between | stopped => exact List.forall_mem_nil _
  | _ => exact List.forall_mem_singleton.2 trivial

/-- **The tokens of a text have numbers in their one form.** -/
theorem canonical_run {mode : Mode} (h : mode.Canonical) (offset : ℕ) (cs : List Char) :
    ∀ t ∈ run offset mode cs, t.token.Canonical := by
  induction cs generalizing mode offset with
  | nil => exact canonical_finish mode offset
  | cons c rest ih =>
    obtain ⟨htokens, hmode⟩ := canonical_step h offset c
    rw [run]
    exact List.forall_mem_append.2 ⟨htokens, ih hmode _⟩

end Lexer

/-! ## Documents -/

/-- So have the values that are put together. -/
def Frame.Canonical : Frame → Prop
  | array items => CanonicalItems items
  | object members _ => CanonicalMembers members

namespace Parser

/-- So has all that the parser holds. -/
def Canonical : Parser → Prop
  | atValue frames | atFirstItem frames | atFirstName frames => ∀ f ∈ frames, f.Canonical
  | atItem frames items | afterItem frames items =>
    (∀ f ∈ frames, f.Canonical) ∧ CanonicalItems items
  | atName frames members | atColon frames members _ | afterMember frames members =>
    (∀ f ∈ frames, f.Canonical) ∧ CanonicalMembers members
  | done document => document.Canonical

theorem canonical_deliver {value : Json} {frames : List Frame} (hvalue : value.Canonical)
    (hframes : ∀ f ∈ frames, f.Canonical) : (deliver value frames).Canonical := by
  cases frames with
  | nil => exact hvalue
  | cons frame frames =>
    rw [List.forall_mem_cons] at hframes
    cases frame with
    | array items => exact ⟨hframes.2, hvalue, hframes.1⟩
    | object members name => exact ⟨hframes.2, hvalue, hframes.1⟩

variable {p p' : Parser} {t : Located}

theorem canonical_takeValue {frames : List Frame} (hframes : ∀ f ∈ frames, f.Canonical)
    (ht : t.token.Canonical) (h : takeValue frames t = .ok p') : p'.Canonical := by
  unfold takeValue at h
  split at h
  · rename_i htoken
    cases h
    rw [htoken] at ht
    exact canonical_deliver ht hframes
  · cases h
    exact canonical_deliver trivial hframes
  · split at h
    · cases h
      exact hframes
    · exact absurd h nofun
  · split at h
    · cases h
      exact hframes
    · exact absurd h nofun
  · exact absurd h nofun
  · exact absurd h nofun

theorem canonical_takeName {frames : List Frame} {members : List (String × Json)}
    (hframes : ∀ f ∈ frames, f.Canonical) (hmembers : CanonicalMembers members)
    (h : takeName frames members t = .ok p') : p'.Canonical := by
  unfold takeName at h
  split at h
  · cases h
    exact ⟨hframes, hmembers⟩
  · split at h
    · exact absurd h nofun
    · exact absurd h nofun
  · exact absurd h nofun

/-- **Taking a token keeps all numbers in their one form.** -/
theorem canonical_take (hp : p.Canonical) (ht : t.token.Canonical) (h : p.take t = .ok p') :
    p'.Canonical := by
  unfold take at h
  split at h
  -- what is refused does not come to a parser
  any_goals
    unfold unexpected at h
    cases h
  -- a value, and then an array up to its end
  · exact canonical_takeValue hp ht h
  · cases h
    exact canonical_deliver trivial hp
  · have hframe : (Frame.array []).Canonical := trivial
    exact canonical_takeValue (List.forall_mem_cons.2 ⟨hframe, hp⟩) ht h
  · rename_i items _
    have hframe : (Frame.array items).Canonical := hp.2
    exact canonical_takeValue (List.forall_mem_cons.2 ⟨hframe, hp.1⟩) ht h
  · cases h
    exact hp
  · cases h
    refine canonical_deliver ?_ hp.1
    exact canonicalItems_iff.2 fun item hitem =>
      canonicalItems_iff.1 hp.2 item (List.mem_reverse.1 hitem)
  -- an object up to its end
  · cases h
    exact canonical_deliver trivial hp
  · exact canonical_takeName hp (canonicalMembers_iff.2 (List.forall_mem_nil _)) h
  · exact canonical_takeName hp.1 hp.2 h
  · cases h
    exact List.forall_mem_cons.2 ⟨hp.2, hp.1⟩
  · cases h
    exact hp
  · cases h
    refine canonical_deliver ?_ hp.1
    exact canonicalMembers_iff.2 fun member hmember =>
      canonicalMembers_iff.1 hp.2 member (List.mem_reverse.1 hmember)

theorem canonical_run (hp : p.Canonical) {size : ℕ} {ts : List Located} {document : Json}
    (hts : ∀ t ∈ ts, t.token.Canonical) (h : p.run size ts = .ok document) :
    document.Canonical := by
  induction ts generalizing p with
  | nil =>
    cases p with
    | done value =>
      cases h
      exact hp
    | _ => cases h
  | cons t rest ih =>
    rw [List.forall_mem_cons] at hts
    rw [run] at h
    split at h
    · rename_i next hnext
      exact ih (canonical_take hp hts.1 hnext) hts.2 h
    · cases h

end Parser

/-- **A document that is read has its numbers in their one form.** -/
theorem canonical_of_parse {text : String} {document : Json} (h : parse text = .ok document) :
    document.Canonical := by
  have hparser : (Parser.atValue []).Canonical := List.forall_mem_nil _
  have hlexer : Lexer.Mode.between.Canonical := trivial
  exact Parser.canonical_run hparser (Lexer.canonical_run hlexer 0 text.toList) h

/-! ## Documents that are kept -/

mutual

theorem canonical_sorted (document : Json) (h : document.Canonical) :
    document.sorted.Canonical := by
  cases document with
  | null | bool | int | text => trivial
  | real => exact h
  | array items => exact canonicalItems_sorted items h
  | object members =>
    exact canonicalMembers_iff.2 fun member hmember =>
      canonicalMembers_sorted members h member (NameMap.mem_of_mem_ofList hmember)

theorem canonicalItems_sorted (items : List Json) (h : CanonicalItems items) :
    CanonicalItems (sortedItems items) := by
  cases items with
  | nil => trivial
  | cons item rest => exact ⟨canonical_sorted item h.1, canonicalItems_sorted rest h.2⟩

theorem canonicalMembers_sorted (members : List (String × Json)) (h : CanonicalMembers members) :
    ∀ member ∈ sortedMembers members, member.2.Canonical := by
  cases members with
  | nil => simp [sortedMembers]
  | cons member rest =>
    rw [sortedMembers, List.forall_mem_cons]
    exact ⟨canonical_sorted member.2 h.1, canonicalMembers_sorted rest h.2⟩

end

mutual

/-- A plain document has whole numbers only. -/
theorem canonical_of_plain (document : Json) {room : ℕ} (h : document.Plain room) :
    document.Canonical := by
  cases document with
  | null | bool | int | text => trivial
  | real => exact h.elim
  | array items =>
    cases room with
    | zero => exact h.elim
    | succ room => exact canonicalItems_of_plain items h
  | object members =>
    cases room with
    | zero => exact h.elim
    | succ room => exact canonicalMembers_of_plain members h

theorem canonicalItems_of_plain (items : List Json) {room : ℕ} (h : PlainItems room items) :
    CanonicalItems items := by
  cases items with
  | nil => trivial
  | cons item rest => exact ⟨canonical_of_plain item h.1, canonicalItems_of_plain rest h.2⟩

theorem canonicalMembers_of_plain (members : List (String × Json)) {room : ℕ}
    (h : PlainMembers room members) : CanonicalMembers members := by
  cases members with
  | nil => trivial
  | cons member rest =>
    exact ⟨canonical_of_plain member.2 h.1, canonicalMembers_of_plain rest h.2⟩

end

/-- **What a stored transaction says it does has its numbers in their one form.** -/
theorem canonical_of_parseParams {id : ℤ} {text : String} {params : Json}
    (h : parseParams id text = .ok params) : params.Canonical := by
  unfold parseParams at h
  split at h
  · rename_i document hdocument
    cases h
    exact canonical_sorted document (canonical_of_parse hdocument)
  · exact absurd h (by simp)

end Treasury.Json
