import Mathlib.Tactic.SplitIfs
import Std.Data.String.ToInt
import Treasury.Proofs.Json.Numeral
import Treasury.Proofs.Json.Parse

/-!
# Documents are told apart by their text

No two documents are written in the same way (`render_injective`), and no text of a document breaks
the line (`break_not_mem_chars`).

The first holds because each document says itself where it ends. Quotes and brackets are closed, and
text inside quotes is read back character by character; only a number ends where something else
begins, so something else has to follow it, which is what `Closes` asks. The induction is over the
first of two documents that are written at the beginning of the same characters.
-/

namespace Treasury.Json

/-! ## Documents with numbers in their one form -/

mutual

/-- The numbers with a fraction or an exponent are in their one form. -/
def Canonical : Json → Prop
  | null | bool _ | int _ | text _ => True
  | real x => x.Canonical
  | array items => CanonicalItems items
  | object members => CanonicalMembers members

def CanonicalItems : List Json → Prop
  | [] => True
  | item :: rest => Canonical item ∧ CanonicalItems rest

def CanonicalMembers : List (String × Json) → Prop
  | [] => True
  | (_, value) :: rest => Canonical value ∧ CanonicalMembers rest

end

/-! ## Text in quotes -/

/-- What a letter behind a backslash stands for. -/
def ofLetter : Char → Char
  | 'b' => '\x08'
  | 't' => '\t'
  | 'n' => '\n'
  | 'f' => '\x0c'
  | 'r' => '\r'
  | c => c

/-- Takes the first character of text inside quotes. -/
def unescape : List Char → Option (Char × List Char)
  | '\\' :: 'u' :: a :: b :: c :: d :: rest =>
    (Lexer.codeUnit? [a, b, c, d]).map fun n => (Char.ofNat n, rest)
  | '\\' :: c :: rest => some (ofLetter c, rest)
  | c :: rest => some (c, rest)
  | [] => none

theorem unescape_escape (c : Char) (rest : List Char) :
    unescape (escape c ++ rest) = some (c, rest) := by
  unfold escape
  split_ifs with hquote hback h8 ht hn hc hr hlow
  -- seven characters have a letter of their own
  iterate 7
    · subst_vars
      rfl
  · have hread : unescape ('\\' :: 'u' :: '0' :: '0' :: Hex.digit (c.toNat / 16)
        :: Hex.digit (c.toNat % 16) :: rest) = some (Char.ofNat c.toNat, rest) := by
      rw [unescape, codeUnit?_control hlow]
      rfl
    rw [Char.ofNat_toNat] at hread
    exact hread
  · rw [List.singleton_append]
    unfold unescape
    split
    · rename_i h
      exact absurd (List.cons.inj h).1 hback
    · rename_i h
      exact absurd (List.cons.inj h).1 hback
    · rename_i h
      obtain ⟨rfl, rfl⟩ := List.cons.inj h
      rfl
    · rename_i h
      exact absurd h (by simp)

/-- Nothing inside quotes closes them. -/
theorem escape_append_ne_quote (c : Char) (rest cs : List Char) :
    escape c ++ rest ≠ '\"' :: cs := by
  intro h
  have hread := unescape_escape c rest
  rw [h] at hread
  have hc : c = '\"' := (Prod.mk.inj (Option.some.inj hread)).1.symm
  rw [hc] at h
  exact absurd (List.cons.inj h).1 (by decide)

theorem eq_of_escapes {text text' cs cs' : List Char}
    (h : text.flatMap escape ++ '\"' :: cs = text'.flatMap escape ++ '\"' :: cs') :
    text = text' ∧ cs = cs' := by
  induction text generalizing text' with
  | nil =>
    cases text' with
    | nil => exact ⟨rfl, (List.cons.inj h).2⟩
    | cons c' rest' =>
      rw [List.flatMap_cons, List.append_assoc] at h
      exact absurd h.symm (escape_append_ne_quote _ _ _)
  | cons c rest ih =>
    cases text' with
    | nil =>
      rw [List.flatMap_cons, List.append_assoc] at h
      exact absurd h (escape_append_ne_quote _ _ _)
    | cons c' rest' =>
      rw [List.flatMap_cons, List.flatMap_cons, List.append_assoc, List.append_assoc] at h
      have hread := congrArg unescape h
      rw [unescape_escape, unescape_escape] at hread
      obtain ⟨rfl, hrest⟩ := Prod.mk.inj (Option.some.inj hread)
      obtain ⟨rfl, hcs⟩ := ih hrest
      exact ⟨rfl, hcs⟩

/-- **Text in quotes is told apart, and so is what follows it.** -/
theorem eq_of_quote {s s' : String} {cs cs' : List Char} (h : quote s ++ cs = quote s' ++ cs') :
    s = s' ∧ cs = cs' := by
  unfold quote at h
  rw [List.cons_append, List.cons_append, List.append_assoc, List.append_assoc] at h
  obtain ⟨htext, hcs⟩ := eq_of_escapes (List.cons.inj h).2
  exact ⟨String.toList_inj.1 htext, hcs⟩

/-! ## Numbers -/

theorem isPart_of_closes {c : Char} {cs : List Char} (h : Closes (c :: cs)) :
    Numeral.isPart c = false := by
  rcases h with h | ⟨d, rest, heq, hd⟩
  · exact absurd h (by simp)
  · rw [(List.cons.inj heq).1]
    rcases hd with rfl | rfl | rfl <;> decide

theorem takeWhile_isPart {number cs : List Char} (h : ∀ c ∈ number, Numeral.isPart c = true)
    (hcs : Closes cs) : (number ++ cs).takeWhile Numeral.isPart = number := by
  rw [List.takeWhile_append_of_pos h]
  cases cs with
  | nil => rw [List.takeWhile_nil, List.append_nil]
  | cons c rest =>
    rw [List.takeWhile_cons_of_neg (by simpa using isPart_of_closes hcs), List.append_nil]

/-- A number ends where the value does. -/
theorem eq_of_numbers {number number' cs cs' : List Char}
    (hnumber : ∀ c ∈ number, Numeral.isPart c = true)
    (hnumber' : ∀ c ∈ number', Numeral.isPart c = true) (hcs : Closes cs) (hcs' : Closes cs')
    (h : number ++ cs = number' ++ cs') : number = number' ∧ cs = cs' := by
  have hsame : number = number' := by
    rw [← takeWhile_isPart hnumber hcs, h, takeWhile_isPart hnumber' hcs']
  rw [hsame] at h
  exact ⟨hsame, List.append_cancel_left h⟩

theorem isPart_realText (x : Binary64) : ∀ c ∈ (realText x).toList, Numeral.isPart c = true := by
  obtain ⟨n, hn, -, htext⟩ := toList_realText x
  intro c hc
  rw [htext] at hc
  rcases List.mem_append.mp hc with hc | hc
  · split at hc
    · rw [List.mem_singleton.mp hc]
      decide
    · exact absurd hc List.not_mem_nil
  · exact Numeral.isPart_chars hn c hc

theorem toString_ne_realText (e : ℤ) (x : Binary64) : toString e ≠ realText x := by
  intro h
  obtain ⟨n, hn, -, htext⟩ := toList_realText x
  have hmem : '.' ∈ (toString e).toList ∨ 'e' ∈ (toString e).toList := by
    rw [h, htext]
    exact (Numeral.exists_mem_chars hn).imp (List.mem_append_right _) (List.mem_append_right _)
  have hneither : ∀ c ∈ (toString e).toList, c ≠ '.' ∧ c ≠ 'e' := by
    intro c hc
    rcases minus_or_isDigit_of_mem hc with rfl | hdigit
    · decide
    · exact ⟨ne_of_isDigit hdigit (by decide), ne_of_isDigit hdigit (by decide)⟩
  rcases hmem with hmem | hmem
  · exact (hneither _ hmem).1 rfl
  · exact (hneither _ hmem).2 rfl

/-! ## Documents -/

/-- What a value starts with; the two words for truth values start alike, and so do numbers. -/
def opener : Json → Char
  | null => 'n'
  | bool _ => 't'
  | int _ | real _ => '0'
  | text _ => '\"'
  | array _ => '['
  | object _ => '\x7b'

/-- The kind of value that a character starts. -/
def openerOf (c : Char) : Char :=
  if Numeral.isPart c then '0' else if c = 'f' then 't' else c

theorem exists_cons_of_isPart {number : List Char} (hne : number ≠ [])
    (h : ∀ c ∈ number, Numeral.isPart c = true) :
    ∃ c rest, number = c :: rest ∧ openerOf c = '0' := by
  obtain ⟨c, rest, rfl⟩ := List.exists_cons_of_ne_nil hne
  exact ⟨c, rest, rfl, if_pos (h c List.mem_cons_self)⟩

theorem exists_chars_eq_cons (document : Json) :
    ∃ c rest, document.chars = c :: rest ∧ openerOf c = document.opener := by
  cases document with
  | null => exact ⟨'n', _, rfl, by decide⟩
  | bool b =>
    cases b with
    | false => exact ⟨'f', _, rfl, by decide⟩
    | true => exact ⟨'t', _, rfl, by decide⟩
  | int e =>
    have hne : (toString e).toList ≠ [] := by
      rw [toList_toString_int]
      simp
    exact exists_cons_of_isPart hne (Numeral.isPart_toString e)
  | real x =>
    have hne : (realText x).toList ≠ [] := by
      obtain ⟨n, hn, -, htext⟩ := toList_realText x
      obtain ⟨c, rest, -, hcons⟩ := Numeral.exists_mantissa_eq_cons hn
      rw [htext, Numeral.chars, hcons]
      simp
    exact exists_cons_of_isPart hne (isPart_realText x)
  | text s => exact ⟨'\"', _, rfl, if_neg (by decide)⟩
  | array items => exact ⟨'[', _, rfl, if_neg (by decide)⟩
  | object members => exact ⟨'\x7b', _, rfl, if_neg (by decide)⟩

/-- Documents that are written alike start alike. -/
theorem opener_of_chars {d d' : Json} {cs cs' : List Char} (h : d.chars ++ cs = d'.chars ++ cs') :
    d.opener = d'.opener := by
  obtain ⟨c, rest, hc, hopener⟩ := exists_chars_eq_cons d
  obtain ⟨c', rest', hc', hopener'⟩ := exists_chars_eq_cons d'
  rw [hc, hc'] at h
  rw [← hopener, ← hopener', (List.cons.inj h).1]

/-- No value starts with what ends an array. -/
theorem chars_append_ne (d : Json) (cs cs' : List Char) : d.chars ++ cs ≠ ']' :: cs' := by
  intro h
  obtain ⟨first, rest, hfirst, hopener⟩ := exists_chars_eq_cons d
  rw [hfirst] at h
  have hsame : first = ']' := (List.cons.inj h).1
  rw [hsame] at hopener
  cases d <;> exact absurd hopener (by simp [opener]; decide)

/-- What follows the first of some items. -/
def itemsBehind (rest : List Json) : List Char := rest.flatMap fun item => ',' :: chars item

/-- A member of an object. -/
def pairChars (member : String × Json) : List Char := quote member.1 ++ ':' :: chars member.2

/-- What follows the first of some members. -/
def membersBehind (rest : List (String × Json)) : List Char :=
  rest.flatMap fun member => ',' :: pairChars member

theorem itemChars_cons (item : Json) (rest : List Json) :
    itemChars (item :: rest) = chars item ++ itemsBehind rest := by
  induction rest generalizing item with
  | nil => exact (List.append_nil _).symm
  | cons next rest ih =>
    have hchars : itemChars (item :: next :: rest) =
      chars item ++ ',' :: itemChars (next :: rest) := rfl
    rw [hchars, ih, itemsBehind, itemsBehind, List.flatMap_cons, List.cons_append]

theorem memberChars_cons (member : String × Json) (rest : List (String × Json)) :
    memberChars (member :: rest) = pairChars member ++ membersBehind rest := by
  induction rest generalizing member with
  | nil => exact (List.append_nil _).symm
  | cons next rest ih =>
    have hchars : memberChars (member :: next :: rest) =
      pairChars member ++ ',' :: memberChars (next :: rest) := rfl
    rw [hchars, ih, membersBehind, membersBehind, List.flatMap_cons, List.cons_append]

theorem closes_itemsBehind (rest : List Json) (cs : List Char) :
    Closes (itemsBehind rest ++ ']' :: cs) := by
  cases rest with
  | nil => exact .inr ⟨']', cs, rfl, .inr (.inl rfl)⟩
  | cons item rest => exact .inr ⟨',', _, rfl, .inl rfl⟩

theorem closes_membersBehind (rest : List (String × Json)) (cs : List Char) :
    Closes (membersBehind rest ++ '\x7d' :: cs) := by
  cases rest with
  | nil => exact .inr ⟨'\x7d', cs, rfl, .inr (.inr rfl)⟩
  | cons member rest => exact .inr ⟨',', _, rfl, .inl rfl⟩

mutual

/-- **Where two documents are written at the beginning of the same characters, they are one.** -/
theorem eq_of_chars (d : Json) {d' : Json} {cs cs' : List Char} (hd : d.Canonical)
    (hd' : d'.Canonical) (hcs : Closes cs) (hcs' : Closes cs')
    (h : d.chars ++ cs = d'.chars ++ cs') : d = d' ∧ cs = cs' := by
  have hopener := opener_of_chars h
  -- documents of different kinds start differently, but for the two kinds of numbers
  cases d with
  | null =>
    cases d' with
    | null => exact ⟨rfl, List.append_cancel_left h⟩
    | _ => exact absurd hopener (by simp [opener])
  | bool b =>
    cases d' with
    | bool b' =>
      cases b <;> cases b'
      · exact ⟨rfl, List.append_cancel_left h⟩
      · exact absurd (List.cons.inj h).1 (by decide)
      · exact absurd (List.cons.inj h).1 (by decide)
      · exact ⟨rfl, List.append_cancel_left h⟩
    | _ => exact absurd hopener (by simp [opener])
  | int e =>
    cases d' with
    | int e' =>
      obtain ⟨hsame, hrest⟩ :=
        eq_of_numbers (Numeral.isPart_toString e) (Numeral.isPart_toString e') hcs hcs' h
      exact ⟨congrArg int (Int.repr_inj.1 (String.toList_inj.1 hsame)), hrest⟩
    | real x' =>
      obtain ⟨hsame, -⟩ :=
        eq_of_numbers (Numeral.isPart_toString e) (isPart_realText x') hcs hcs' h
      exact absurd (String.toList_inj.1 hsame) (toString_ne_realText e x')
    | _ => exact absurd hopener (by simp [opener])
  | real x =>
    cases d' with
    | int e' =>
      obtain ⟨hsame, -⟩ :=
        eq_of_numbers (isPart_realText x) (Numeral.isPart_toString e') hcs hcs' h
      exact absurd (String.toList_inj.1 hsame).symm (toString_ne_realText e' x)
    | real x' =>
      obtain ⟨hsame, hrest⟩ := eq_of_numbers (isPart_realText x) (isPart_realText x') hcs hcs' h
      exact ⟨congrArg real (realText_injective hd hd' (String.toList_inj.1 hsame)), hrest⟩
    | _ => exact absurd hopener (by simp [opener])
  | text s =>
    cases d' with
    | text s' =>
      obtain ⟨rfl, hrest⟩ := eq_of_quote h
      exact ⟨rfl, hrest⟩
    | _ => exact absurd hopener (by simp [opener])
  | array items =>
    cases d' with
    | array items' =>
      rw [chars, chars, List.cons_append, List.cons_append, List.append_assoc,
        List.append_assoc] at h
      obtain ⟨hitems, hrest⟩ := eq_of_itemChars items hd hd' (List.cons.inj h).2
      exact ⟨congrArg array hitems, hrest⟩
    | _ => exact absurd hopener (by simp [opener])
  | object members =>
    cases d' with
    | object members' =>
      rw [chars, chars, List.cons_append, List.cons_append, List.append_assoc,
        List.append_assoc] at h
      obtain ⟨hmembers, hrest⟩ := eq_of_memberChars members hd hd' (List.cons.inj h).2
      exact ⟨congrArg object hmembers, hrest⟩
    | _ => exact absurd hopener (by simp [opener])
termination_by structural d

theorem eq_of_itemChars (items : List Json) {items' : List Json} {cs cs' : List Char}
    (hitems : CanonicalItems items) (hitems' : CanonicalItems items')
    (h : itemChars items ++ ']' :: cs = itemChars items' ++ ']' :: cs') :
    items = items' ∧ cs = cs' := by
  cases items with
  | nil =>
    cases items' with
    | nil => exact ⟨rfl, (List.cons.inj h).2⟩
    | cons item' rest' =>
      rw [itemChars_cons, List.append_assoc] at h
      exact absurd h.symm (chars_append_ne _ _ _)
  | cons item rest =>
    cases items' with
    | nil =>
      rw [itemChars_cons, List.append_assoc] at h
      exact absurd h (chars_append_ne _ _ _)
    | cons item' rest' =>
      rw [itemChars_cons, itemChars_cons, List.append_assoc, List.append_assoc] at h
      obtain ⟨hvalues, hbehind⟩ := eq_of_chars item hitems.1 hitems'.1 (closes_itemsBehind rest cs)
        (closes_itemsBehind rest' cs') h
      obtain ⟨hrests, hcs⟩ := eq_of_itemsBehind rest hitems.2 hitems'.2 hbehind
      exact ⟨congrArg₂ _ hvalues hrests, hcs⟩
termination_by structural items

theorem eq_of_itemsBehind (rest : List Json) {rest' : List Json} {cs cs' : List Char}
    (hrest : CanonicalItems rest) (hrest' : CanonicalItems rest')
    (h : itemsBehind rest ++ ']' :: cs = itemsBehind rest' ++ ']' :: cs') :
    rest = rest' ∧ cs = cs' := by
  cases rest with
  | nil =>
    cases rest' with
    | nil => exact ⟨rfl, (List.cons.inj h).2⟩
    | cons => exact absurd (List.cons.inj h).1 (by decide)
  | cons item rest =>
    cases rest' with
    | nil => exact absurd (List.cons.inj h).1 (by decide)
    | cons item' rest' =>
      rw [itemsBehind, itemsBehind, List.flatMap_cons, List.flatMap_cons, List.append_assoc,
        List.append_assoc] at h
      obtain ⟨hvalues, hbehind⟩ := eq_of_chars item hrest.1 hrest'.1 (closes_itemsBehind rest cs)
        (closes_itemsBehind rest' cs') (List.cons.inj h).2
      obtain ⟨hrests, hcs⟩ := eq_of_itemsBehind rest hrest.2 hrest'.2 hbehind
      exact ⟨congrArg₂ _ hvalues hrests, hcs⟩
termination_by structural rest

theorem eq_of_memberChars (members : List (String × Json)) {members' : List (String × Json)}
    {cs cs' : List Char} (hmembers : CanonicalMembers members)
    (hmembers' : CanonicalMembers members')
    (h : memberChars members ++ '\x7d' :: cs = memberChars members' ++ '\x7d' :: cs') :
    members = members' ∧ cs = cs' := by
  cases members with
  | nil =>
    cases members' with
    | nil => exact ⟨rfl, (List.cons.inj h).2⟩
    | cons member' rest' =>
      rw [memberChars_cons] at h
      exact absurd (List.cons.inj h).1 (by decide)
  | cons member rest =>
    obtain ⟨name, value⟩ := member
    cases members' with
    | nil =>
      rw [memberChars_cons] at h
      exact absurd (List.cons.inj h).1 (by decide)
    | cons member' rest' =>
      obtain ⟨name', value'⟩ := member'
      rw [memberChars_cons, memberChars_cons, List.append_assoc, List.append_assoc, pairChars,
        pairChars, List.append_assoc, List.append_assoc] at h
      obtain ⟨hnames, hvalue⟩ := eq_of_quote h
      obtain ⟨hvalues, hbehind⟩ := eq_of_chars value hmembers.1 hmembers'.1
        (closes_membersBehind rest cs) (closes_membersBehind rest' cs') (List.cons.inj hvalue).2
      obtain ⟨hrests, hcs⟩ := eq_of_membersBehind rest hmembers.2 hmembers'.2 hbehind
      exact ⟨congrArg₂ _ (Prod.ext hnames hvalues) hrests, hcs⟩
termination_by structural members

theorem eq_of_membersBehind (rest : List (String × Json)) {rest' : List (String × Json)}
    {cs cs' : List Char} (hrest : CanonicalMembers rest) (hrest' : CanonicalMembers rest')
    (h : membersBehind rest ++ '\x7d' :: cs = membersBehind rest' ++ '\x7d' :: cs') :
    rest = rest' ∧ cs = cs' := by
  cases rest with
  | nil =>
    cases rest' with
    | nil => exact ⟨rfl, (List.cons.inj h).2⟩
    | cons => exact absurd (List.cons.inj h).1 (by decide)
  | cons member rest =>
    obtain ⟨name, value⟩ := member
    cases rest' with
    | nil => exact absurd (List.cons.inj h).1 (by decide)
    | cons member' rest' =>
      obtain ⟨name', value'⟩ := member'
      rw [membersBehind, membersBehind, List.flatMap_cons, List.flatMap_cons, List.append_assoc,
        List.append_assoc] at h
      have hpair := (List.cons.inj h).2
      rw [pairChars, pairChars, List.append_eq, List.append_eq, List.append_assoc,
        List.append_assoc] at hpair
      obtain ⟨hnames, hvalue⟩ := eq_of_quote hpair
      obtain ⟨hvalues, hbehind⟩ := eq_of_chars value hrest.1 hrest'.1
        (closes_membersBehind rest cs) (closes_membersBehind rest' cs') (List.cons.inj hvalue).2
      obtain ⟨hrests, hcs⟩ := eq_of_membersBehind rest hrest.2 hrest'.2 hbehind
      exact ⟨congrArg₂ _ (Prod.ext hnames hvalues) hrests, hcs⟩
termination_by structural rest

end

/-- **Documents that are written in the same way are one.** -/
theorem render_injective {d d' : Json} (hd : d.Canonical) (hd' : d'.Canonical)
    (h : d.render = d'.render) : d = d' := by
  have hchars : d.chars ++ [] = d'.chars ++ [] := by
    rw [List.append_nil, List.append_nil]
    exact String.ofList_injective h
  exact (eq_of_chars d hd hd' (.inl rfl) (.inl rfl) hchars).1

/-! ## Lines -/

theorem break_not_mem_escape (c : Char) : '\n' ∉ escape c := by
  intro h
  unfold escape at h
  split_ifs at h with hquote hback h8 ht hn hc hr hlow
  iterate 7
    · exact absurd h (by decide)
  · have hdigits : ∀ n < 0x20,
        '\n' ∉ ['\\', 'u', '0', '0', Hex.digit (n / 16), Hex.digit (n % 16)] := by
      decide
    exact hdigits _ hlow h
  · exact hn (List.mem_singleton.1 h).symm

theorem break_not_mem_quote (s : String) : '\n' ∉ quote s := by
  unfold quote
  intro h
  rcases List.mem_append.1 h with h | h
  · rcases List.mem_cons.1 h with h | h
    · exact absurd h (by decide)
    · obtain ⟨c, -, hc⟩ := List.mem_flatMap.1 h
      exact break_not_mem_escape c hc
  · exact absurd h (by decide)

theorem break_not_mem_of_isPart {number : List Char}
    (h : ∀ c ∈ number, Numeral.isPart c = true) : '\n' ∉ number := fun hmem => absurd (h _ hmem) (by decide)

mutual

/-- **A document is written in one line.** -/
theorem break_not_mem_chars (d : Json) : '\n' ∉ d.chars := by
  cases d with
  | null => decide
  | bool b =>
    cases b with
    | false => decide
    | true => decide
  | int e => exact break_not_mem_of_isPart (Numeral.isPart_toString e)
  | real x => exact break_not_mem_of_isPart (isPart_realText x)
  | text s => exact break_not_mem_quote s
  | array items =>
    rw [chars]
    have hitems := break_not_mem_itemChars items
    simpa using hitems
  | object members =>
    rw [chars]
    have hmembers := break_not_mem_memberChars members
    simpa using hmembers

theorem break_not_mem_itemChars (items : List Json) : '\n' ∉ itemChars items := by
  cases items with
  | nil => decide
  | cons item rest =>
    have hitem := break_not_mem_chars item
    have hrest := break_not_mem_itemChars rest
    cases rest with
    | nil => exact hitem
    | cons next rest =>
      have hchars : itemChars (item :: next :: rest) =
        chars item ++ ',' :: itemChars (next :: rest) := rfl
      rw [hchars]
      simpa using ⟨hitem, hrest⟩

theorem break_not_mem_memberChars (members : List (String × Json)) :
    '\n' ∉ memberChars members := by
  cases members with
  | nil => decide
  | cons member rest =>
    obtain ⟨name, value⟩ := member
    have hname := break_not_mem_quote name
    have hvalue := break_not_mem_chars value
    have hrest := break_not_mem_memberChars rest
    cases rest with
    | nil =>
      rw [memberChars]
      simpa using ⟨hname, hvalue⟩
    | cons next rest =>
      have hchars : memberChars ((name, value) :: next :: rest) =
        quote name ++ ':' :: chars value ++ ',' :: memberChars (next :: rest) := rfl
      rw [hchars]
      simpa using ⟨hname, hvalue, hrest⟩

end

theorem break_not_mem_render (d : Json) : '\n' ∉ d.render.toList := by
  unfold render
  rw [String.toList_ofList]
  exact break_not_mem_chars d

theorem break_not_mem_toString (e : ℤ) : '\n' ∉ (toString e).toList :=
  break_not_mem_of_isPart (Numeral.isPart_toString e)

end Treasury.Json
