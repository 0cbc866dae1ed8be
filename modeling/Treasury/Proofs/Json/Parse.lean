import Mathlib.Tactic.IntervalCases
import Mathlib.Tactic.SplitIfs
import Treasury.Json.Parse
import Treasury.Proofs.Text.Digits

/-!
# Documents that are read back

A document that is written in the least space is read back as it was (`parse_render`), if its
numbers are whole ones that fit a machine word and it is not nested too deep.

The two machines, the one that cuts the text into tokens and the one that takes the tokens, are
followed together: `Reads m p cs d` says that from these two states the characters `cs` come to the
document `d`. Every lemma puts characters in front. Where a token stands in the text matters for
faults only, so no lemma asks for it.
-/

namespace Treasury.Json

open Nat (toDigits ofDigitChars)

/-! ## Documents of which nothing is lost -/

mutual

/-- A document nested at most `room` deep, whose numbers are whole and fit a machine word. -/
def Plain : Nat → Json → Prop
  | _, null | _, bool _ | _, text _ => True
  | _, int n => -0x8000000000000000 ≤ n ∧ n < UInt64.size
  | _, real _ => False
  | 0, array _ | 0, object _ => False
  | room + 1, array items => PlainItems room items
  | room + 1, object members => PlainMembers room members

def PlainItems : Nat → List Json → Prop
  | _, [] => True
  | room, item :: rest => Plain room item ∧ PlainItems room rest

def PlainMembers : Nat → List (String × Json) → Prop
  | _, [] => True
  | room, (_, value) :: rest => Plain room value ∧ PlainMembers room rest

end

theorem plainItems_iff {room : Nat} {items : List Json} :
    PlainItems room items ↔ ∀ item ∈ items, Plain room item := by
  induction items with
  | nil => simp [PlainItems]
  | cons item rest ih => simp [PlainItems, ih]

theorem plainMembers_iff {room : Nat} {members : List (String × Json)} :
    PlainMembers room members ↔ ∀ member ∈ members, Plain room member.2 := by
  induction members with
  | nil => simp [PlainMembers]
  | cons member rest ih => simp [PlainMembers, ih]

/-! ## Both machines at once -/

/-- From these states the characters come to the document, wherever they stand in a text. -/
def Reads (m : Lexer.Mode) (p : Parser) (cs : List Char) (d : Json) : Prop :=
  ∀ offset size, p.run size (Lexer.run offset m cs) = .ok d

/-- What may stand behind a value: nothing, a comma or the end of what holds the value. -/
def Closes (cs : List Char) : Prop :=
  cs = [] ∨ ∃ c rest, cs = c :: rest ∧ (c = ',' ∨ c = ']' ∨ c = '\x7d')

variable {p p' : Parser} {cs : List Char} {d : Json} {first : Nat} {read : List Char}

theorem run_cons_of_take {t : Located} (htake : p.take t = .ok p') (size : Nat)
    (rest : List Located) : p.run size (t :: rest) = p'.run size rest := by
  rw [Parser.run, htake]

theorem reads_single {c : Char} {token : Token}
    (hstart : ∀ offset, Lexer.start offset c = ([⟨token, offset, offset + 1⟩], .between))
    (htake : ∀ start stop, p.take ⟨token, start, stop⟩ = .ok p') (h : Reads .between p' cs d) :
    Reads .between p (c :: cs) d := by
  intro offset size
  rw [Lexer.run, Lexer.step, hstart]
  exact (run_cons_of_take (htake _ _) _ _).trans (h _ _)

/-! ### Text -/

theorem codeUnit?_control {n : Nat} (h : n < 0x20) :
    Lexer.codeUnit? ['0', '0', Hex.digit (n / 16), Hex.digit (n % 16)] = some n := by
  have hall : ∀ n < 0x20,
      Lexer.codeUnit? ['0', '0', Hex.digit (n / 16), Hex.digit (n % 16)] = some n := by decide
  exact hall n h

theorem reads_control {c : Char} (hc : c.toNat < 0x20)
    (h : Reads (.text first (c :: read)) p cs d) :
    Reads (.unit first read none ['0', '0', Hex.digit (c.toNat / 16)]) p
      (Hex.digit (c.toNat % 16) :: cs) d := by
  intro offset size
  have hunit : Lexer.codeUnit? (['0', '0', Hex.digit (c.toNat / 16)] ++
      [Hex.digit (c.toNat % 16)]) = some c.toNat := codeUnit?_control hc
  -- a control character is no half of a pair
  have hdone : Lexer.unitDone first read none c.toNat (offset + 1) =
      ([], .text first (c :: read)) := by
    unfold Lexer.unitDone
    dsimp only
    rw [if_neg (by omega), if_neg (by omega), Char.ofNat_toNat]
  rw [Lexer.run, Lexer.step]
  dsimp only
  rw [if_neg (by simp), hunit]
  dsimp only
  rw [hdone]
  exact h _ _

/-- **A character is read back from the way it stands inside quotes.** -/
theorem reads_escape {c : Char} (h : Reads (.text first (c :: read)) p cs d) :
    Reads (.text first read) p (escape c ++ cs) d := by
  unfold escape
  split_ifs with hquote hback h8 ht hn hc hr hlow
  -- seven characters have a letter of their own
  iterate 7
    · subst_vars
      exact fun _ _ => h _ _
  · -- the other control characters stand as a code unit, of which four letters are read by now
    exact fun _ _ => reads_control hlow h _ _
  · intro offset size
    rw [List.singleton_append, Lexer.run, Lexer.step, if_neg hquote, if_neg hback, if_neg hlow]
    exact h _ _

theorem reads_escapes {text : List Char} (h : Reads (.text first (text.reverse ++ read)) p cs d) :
    Reads (.text first read) p (text.flatMap escape ++ cs) d := by
  induction text generalizing read with
  | nil => exact h
  | cons c text ih =>
    rw [List.flatMap_cons, List.append_assoc]
    refine reads_escape (ih ?_)
    rwa [List.reverse_cons, List.append_assoc] at h

/-- **Text in quotes is one token.** -/
theorem reads_quote {text : String}
    (htake : ∀ start stop, p.take ⟨.text text, start, stop⟩ = .ok p')
    (h : Reads .between p' cs d) : Reads .between p (quote text ++ cs) d := by
  have hclose : ∀ first, Reads (.text first (text.toList.reverse ++ [])) p ('\"' :: cs) d := by
    intro first offset size
    rw [Lexer.run, Lexer.step, if_pos rfl, List.append_nil, List.reverse_reverse,
      String.ofList_toList]
    exact (run_cons_of_take (htake _ _) _ _).trans (h _ _)
  intro offset size
  unfold quote
  rw [List.append_assoc]
  exact reads_escapes (hclose offset) (offset + 1) size

/-! ### Numbers -/

theorem reads_digits {digits : List Char} (hdigits : ∀ c ∈ digits, IsDigit c) {negative : Bool}
    {n : Nat} (hn : ofDigitChars 10 digits n < UInt64.size)
    (h : Reads (.number first ⟨.whole, negative, ofDigitChars 10 digits n, 0, false, 0⟩) p cs d) :
    Reads (.number first ⟨.whole, negative, n, 0, false, 0⟩) p (digits ++ cs) d := by
  induction digits generalizing n with
  | nil => exact h
  | cons c digits ih =>
    rw [Nat.ofDigitChars_cons] at hn h
    -- what has been gathered fits the word because what will be does
    have hle := le_ofDigitChars digits (10 * n + (c.toNat - '0'.toNat))
    have hnext : Scan.next ⟨.whole, negative, n, 0, false, 0⟩ c =
        .more ⟨.whole, negative, 10 * n + (c.toNat - '0'.toNat), 0, false, 0⟩ := by
      unfold Scan.next
      rw [(hdigits c List.mem_cons_self).digit?]
      exact if_pos (Nat.lt_of_le_of_lt hle hn)
    intro offset size
    rw [List.cons_append, Lexer.run, Lexer.step, hnext]
    exact ih (fun c hc => hdigits c (List.mem_cons_of_mem _ hc)) hn h _ _

/-- A number ends where the value does. -/
theorem reads_numberEnd {scan : Scan} {value : Json}
    (hstage : scan.stage = .zero ∨ scan.stage = .whole) (hvalue : scan.value = .ok value)
    (hcs : Closes cs)
    (htake : ∀ start stop, p.take ⟨.scalar value, start, stop⟩ = .ok p')
    (h : Reads .between p' cs d) : Reads (.number first scan) p cs d := by
  intro offset size
  -- the text ends, or a character follows with which no number goes on
  rcases hcs with rfl | ⟨c, rest, rfl, hc⟩
  · have hend : scan.valueAtEnd = .ok value := by
      unfold Scan.valueAtEnd
      rcases hstage with hstage | hstage <;> rw [hstage] <;> exact hvalue
    rw [Lexer.run, Lexer.finish, hend]
    exact (run_cons_of_take (htake _ _) _ _).trans (h offset size)
  · have hleave : scan.leaveWhole c = .stop := by
      unfold Scan.leaveWhole
      rcases hc with rfl | rfl | rfl <;> rfl
    have hdigit : Decimal.digit? c = none := by
      rcases hc with rfl | rfl | rfl <;> rfl
    have hnext : scan.next c = .stop := by
      unfold Scan.next
      rcases hstage with hstage | hstage <;> rw [hstage, hdigit] <;> exact hleave
    rw [Lexer.run, Lexer.step, hnext, hvalue]
    exact (run_cons_of_take (htake _ _) _ _).trans (h offset size)

theorem start_digit {n : Nat} (hn : n < 10) (offset : Nat) :
    Lexer.start offset (Nat.digitChar n) = ([], .number offset (.firstDigit false n)) := by
  interval_cases n <;> rfl

/-- A number above zero, once its sign and its first digit are read. -/
theorem reads_firstDigit {n : Nat} (hpos : n ≠ 0) (hn : n < UInt64.size) {negative : Bool}
    {value : Json} (hvalue : Scan.value ⟨.whole, negative, n, 0, false, 0⟩ = .ok value)
    (hcs : Closes cs) (htake : ∀ start stop, p.take ⟨.scalar value, start, stop⟩ = .ok p')
    (h : Reads .between p' cs d) :
    ∃ m < 10, ∃ digits, toDigits 10 n = Nat.digitChar m :: digits ∧
      ∀ first, Reads (.number first (.firstDigit negative m)) p (digits ++ cs) d := by
  obtain ⟨m, digits, hm, hlt, hdigits⟩ := toDigits_eq_cons hpos
  refine ⟨m, hlt, digits, hdigits, fun first => ?_⟩
  have hmem : ∀ c ∈ digits, IsDigit c := fun c hc =>
    isDigit_of_mem_toDigits c (hdigits ▸ List.mem_cons_of_mem _ hc)
  have hgathered : ofDigitChars 10 digits m = n := by
    have hall := Nat.ofDigitChars_ten_toDigits (n := n)
    rwa [hdigits, Nat.ofDigitChars_cons, digitChar_sub hlt, Nat.mul_zero, Nat.zero_add] at hall
  unfold Scan.firstDigit
  -- a number above zero does not start with a zero, after which no digit could follow
  rw [if_neg (by omega)]
  refine reads_digits hmem (by rwa [hgathered]) ?_
  rw [hgathered]
  exact reads_numberEnd (.inr rfl) hvalue hcs htake h

/-- **A whole number that fits a machine word is one token.** -/
theorem reads_int {n : Int} (hn : -0x8000000000000000 ≤ n ∧ n < UInt64.size) (hcs : Closes cs)
    (htake : ∀ start stop, p.take ⟨.scalar (.int n), start, stop⟩ = .ok p')
    (h : Reads .between p' cs d) : Reads .between p ((toString n).toList ++ cs) d := by
  intro offset size
  have hsize : UInt64.size = 0x10000000000000000 := rfl
  rcases n with (_ | n) | n
  · have hvalue : (Scan.firstDigit false 0).value = .ok (.int 0) := rfl
    exact reads_numberEnd (.inl rfl) hvalue hcs htake h _ _
  · have hvalue : Scan.value ⟨.whole, false, n + 1, 0, false, 0⟩ = .ok (.int (n + 1)) := rfl
    have hlt : n + 1 < UInt64.size := by
      have hhigh := hn.2
      simp only [Int.ofNat_eq_natCast] at hhigh
      omega
    obtain ⟨m, hm, digits, hdigits, hread⟩ :=
      reads_firstDigit (Nat.succ_ne_zero n) hlt hvalue hcs htake h
    have htext : (toString (Int.ofNat (n + 1))).toList = Nat.digitChar m :: digits := by
      rw [← hdigits]
      exact toList_toString (n + 1)
    rw [htext, List.cons_append, Lexer.run, Lexer.step, start_digit hm]
    exact hread _ _ _
  · have hvalue : Scan.value ⟨.whole, true, n + 1, 0, false, 0⟩ = .ok (.int (.negSucc n)) := by
      unfold Scan.value
      dsimp only
      rw [if_neg (by decide), if_pos (by omega)]
      rfl
    obtain ⟨m, hm, digits, hdigits, hread⟩ :=
      reads_firstDigit (Nat.succ_ne_zero n) (by omega) hvalue hcs htake h
    have htext : (toString (Int.negSucc n)).toList = '-' :: Nat.digitChar m :: digits := by
      rw [← hdigits, ← toList_toString (n + 1)]
      exact String.toList_append
    have hnext : Scan.afterSign.next (Nat.digitChar m) = .more (.firstDigit true m) := by
      unfold Scan.next
      rw [digit?_digitChar hm]
      rfl
    rw [htext, List.cons_append, List.cons_append, Lexer.run]
    change Parser.run p size (Lexer.run _ (.number offset .afterSign) _) = _
    rw [Lexer.run, Lexer.step, hnext]
    exact hread _ _ _

/-! ## Documents -/

/-- The parser waits for a value inside `frames`. -/
def Parser.Awaits (p : Parser) (frames : List Frame) : Prop :=
  ∀ t : Located, t.token ≠ .closeArray → p.take t = takeValue frames t

/-- The parser waits for a name of an object that has `members` so far. -/
def Parser.AwaitsName (p : Parser) (frames : List Frame) (members : List (String × Json)) : Prop :=
  ∀ name start stop, p.take ⟨.text name, start, stop⟩ = .ok (.atColon frames members name)

theorem awaits_atFirstItem (frames : List Frame) :
    (Parser.atFirstItem frames).Awaits (.array [] :: frames) := by
  rintro ⟨token, _, _⟩ ht
  cases token with
  | closeArray => exact absurd rfl ht
  | _ => rfl

theorem awaits_atItem (frames : List Frame) (items : List Json) :
    (Parser.atItem frames items).Awaits (.array items :: frames) := by
  rintro ⟨token, _, _⟩ ht
  cases token with
  | closeArray => exact absurd rfl ht
  | _ => rfl

mutual

/-- **Where a value is awaited, a document is read back and put in its place.** -/
theorem reads_chars (document : Json) {p : Parser} {cs : List Char} {d : Json} {frames : List Frame}
    {room : Nat} (hp : p.Awaits frames) (hplain : document.Plain room)
    (hroom : frames.length + room ≤ Parser.maxDepth) (hcs : Closes cs)
    (h : Reads .between (Parser.deliver document frames) cs d) :
    Reads .between p (document.chars ++ cs) d := by
  -- words, numbers and texts are one token; arrays and objects are followed to their end
  have hscalar : ∀ value start stop, p.take ⟨.scalar value, start, stop⟩ =
      .ok (Parser.deliver value frames) := fun _ _ _ => hp _ nofun
  cases document with
  | null => exact fun _ _ => (run_cons_of_take (hscalar _ _ _) _ _).trans (h _ _)
  | bool b =>
    cases b with
    | false => exact fun _ _ => (run_cons_of_take (hscalar _ _ _) _ _).trans (h _ _)
    | true => exact fun _ _ => (run_cons_of_take (hscalar _ _ _) _ _).trans (h _ _)
  | int n =>
    rw [chars]
    exact reads_int hplain hcs (hscalar _) h
  | real x => exact hplain.elim
  | text s =>
    rw [chars]
    exact reads_quote (fun _ _ => hp _ nofun) h
  | array items =>
    cases room with
    | zero => exact hplain.elim
    | succ room =>
      have hopen : ∀ start stop, p.take ⟨.openArray, start, stop⟩ = .ok (.atFirstItem frames) :=
        fun start stop => (hp ⟨.openArray, start, stop⟩ nofun).trans (if_pos (by omega))
      rw [chars, List.cons_append, List.cons_append, List.append_assoc]
      refine reads_single (fun _ => rfl) hopen ?_
      cases items with
      | nil => exact reads_single (fun _ => rfl) (fun _ _ => rfl) h
      | cons item rest =>
        exact reads_itemChars (item :: rest) nofun (awaits_atFirstItem frames) hplain
          (by omega) h
  | object members =>
    cases room with
    | zero => exact hplain.elim
    | succ room =>
      have hopen : ∀ start stop, p.take ⟨.openObject, start, stop⟩ = .ok (.atFirstName frames) :=
        fun start stop => (hp ⟨.openObject, start, stop⟩ nofun).trans (if_pos (by omega))
      rw [chars, List.cons_append, List.cons_append, List.append_assoc]
      refine reads_single (fun _ => rfl) hopen ?_
      cases members with
      | nil => exact reads_single (fun _ => rfl) (fun _ _ => rfl) h
      | cons member rest =>
        exact reads_memberChars (member :: rest) nofun (fun _ _ _ => rfl) hplain (by omega) h

theorem reads_itemChars (items : List Json) {p : Parser} {cs : List Char} {d : Json}
    {frames : List Frame} {room : Nat} {before : List Json} (hitems : items ≠ [])
    (hp : p.Awaits (.array before :: frames)) (hplain : PlainItems room items)
    (hroom : frames.length + 1 + room ≤ Parser.maxDepth)
    (h : Reads .between (Parser.deliver (.array (before.reverse ++ items)) frames) cs d) :
    Reads .between p (itemChars items ++ (']' :: cs)) d := by
  cases items with
  | nil => exact absurd rfl hitems
  | cons item rest =>
    cases rest with
    | nil =>
      rw [itemChars]
      refine reads_chars item hp hplain.1 hroom (.inr ⟨_, _, rfl, .inr (.inl rfl)⟩) ?_
      refine reads_single (fun _ => rfl) (fun _ _ => rfl) ?_
      rwa [List.reverse_cons]
    | cons next rest =>
      rw [itemChars, List.append_assoc]
      · refine reads_chars item hp hplain.1 hroom (.inr ⟨_, _, rfl, .inl rfl⟩) ?_
        refine reads_single (fun _ => rfl) (fun _ _ => rfl) ?_
        refine reads_itemChars (next :: rest) nofun (awaits_atItem frames _) hplain.2 hroom ?_
        rwa [List.reverse_cons, List.append_assoc]
      · nofun

theorem reads_memberChars (members : List (String × Json)) {p : Parser} {cs : List Char} {d : Json}
    {frames : List Frame} {room : Nat} {before : List (String × Json)} (hmembers : members ≠ [])
    (hp : p.AwaitsName frames before) (hplain : PlainMembers room members)
    (hroom : frames.length + 1 + room ≤ Parser.maxDepth)
    (h : Reads .between (Parser.deliver (.object (before.reverse ++ members)) frames) cs d) :
    Reads .between p (memberChars members ++ ('\x7d' :: cs)) d := by
  cases members with
  | nil => exact absurd rfl hmembers
  | cons member rest =>
    obtain ⟨name, value⟩ := member
    have hcolon : ∀ start stop, (Parser.atColon frames before name).take ⟨.colon, start, stop⟩ =
        .ok (.atValue (.object before name :: frames)) := fun _ _ => rfl
    have hvalue : (Parser.atValue (.object before name :: frames)).Awaits
        (.object before name :: frames) := fun _ _ => rfl
    cases rest with
    | nil =>
      rw [memberChars, List.append_assoc]
      refine reads_quote (hp name) ?_
      refine reads_single (fun _ => rfl) hcolon ?_
      refine reads_chars value hvalue hplain.1 hroom (.inr ⟨_, _, rfl, .inr (.inr rfl)⟩) ?_
      refine reads_single (fun _ => rfl) (fun _ _ => rfl) ?_
      rwa [List.reverse_cons]
    | cons next rest =>
      rw [memberChars, List.append_assoc, List.append_assoc, List.cons_append]
      · refine reads_quote (hp name) ?_
        refine reads_single (fun _ => rfl) hcolon ?_
        refine reads_chars value hvalue hplain.1 hroom (.inr ⟨_, _, rfl, .inl rfl⟩) ?_
        refine reads_single (fun _ => rfl) (fun _ _ => rfl) ?_
        refine reads_memberChars (next :: rest) nofun (fun _ _ _ => rfl) hplain.2 hroom ?_
        rwa [List.reverse_cons, List.append_assoc]
      · nofun

end

/-- **A document is read back from its text.** -/
theorem parse_render {document : Json} (h : document.Plain Parser.maxDepth) :
    parse document.render = .ok document := by
  have hread : Reads .between (.atValue []) (document.chars ++ []) document :=
    reads_chars document (fun _ _ => rfl) h (by simp) (.inl rfl) fun _ _ => rfl
  unfold parse tokens render
  rw [String.toList_ofList]
  simpa using hread 0 _

end Treasury.Json
