import Treasury.Proofs.Claim.Call

/-!
# What a call carries

A claim has a call if all of its amounts can be converted, and if not, the first amount that cannot
be says why: strategies in their order, and of each the base amount before the quote amount. The
call is four arrays of one length, one right behind the other. Whoever follows the places in front
of them finds just these arrays (`read?_encodeClaim`).

That two claims with one call have the same arguments does not rest on this. It is the layout that
tells where an array ends, and it depends on nothing but the length of the call
(`encodeClaim_injective`).
-/

namespace Treasury

/-! ## Amounts that are converted -/

section

variable {tokens : TokenRegistry} {chain symbol : String} {amount : Decimal}

/-- The registry knows the decimals of a token, and an amount of it comes to these units. -/
def IsConverted (tokens : TokenRegistry) (chain symbol : String) (amount : Decimal)
    (units : Word256) : Prop :=
  ∃ decimals, tokens.decimals? chain symbol = some decimals
    ∧ toBaseUnits amount decimals = .ok units

/-- Why an amount of a token comes to no units. -/
inductive IsUnconverted (tokens : TokenRegistry) (chain symbol : String) (amount : Decimal) :
    ClaimCallError → Prop where
  | unknown : tokens.decimals? chain symbol = none →
      IsUnconverted tokens chain symbol amount (.unknownDecimals chain symbol)
  | refused {decimals : UInt8} {cause : BaseUnitsError} :
      tokens.decimals? chain symbol = some decimals → toBaseUnits amount decimals = .error cause →
      IsUnconverted tokens chain symbol amount (.amount symbol cause)

theorem ClaimLine.scaled_eq_ok {units : Word256} :
    scaled tokens chain symbol amount = .ok units ↔
      IsConverted tokens chain symbol amount units := by
  unfold scaled IsConverted
  cases tokens.decimals? chain symbol with
  | none => simp
  | some decimals =>
    dsimp only
    cases htoBase : toBaseUnits amount decimals <;> simp [htoBase]

theorem ClaimLine.scaled_eq_error {e : ClaimCallError} :
    scaled tokens chain symbol amount = .error e ↔ IsUnconverted tokens chain symbol amount e := by
  unfold scaled
  constructor
  · intro h
    split at h
    · rename_i hunknown
      cases h
      exact .unknown hunknown
    · rename_i decimals hdecimals
      split at h
      · exact absurd h (by simp)
      · rename_i cause hcause
        cases h
        exact .refused hdecimals hcause
  · rintro (hunknown | ⟨hdecimals, hcause⟩)
    · rw [hunknown]
    · rw [hdecimals]
      dsimp only
      rw [hcause]

end

/-! ## Strategies that are converted -/

section

variable {tokens : TokenRegistry} {chain : String} {s : Strategy}

/-- Both amounts of the strategy can be converted. -/
def Strategy.IsConverted (tokens : TokenRegistry) (chain : String) (s : Strategy) : Prop :=
  (∃ units, Treasury.IsConverted tokens chain s.baseSymbol s.baseAmount units)
    ∧ ∃ units, Treasury.IsConverted tokens chain s.quoteSymbol s.quoteAmount units

/-- Why the strategy cannot be claimed from; the quote amount matters only if the base amount is
converted. -/
inductive Strategy.IsUnconverted (tokens : TokenRegistry) (chain : String) (s : Strategy) :
    ClaimCallError → Prop where
  | base {e : ClaimCallError} :
      Treasury.IsUnconverted tokens chain s.baseSymbol s.baseAmount e →
      IsUnconverted tokens chain s e
  | quote {units : Word256} {e : ClaimCallError} :
      Treasury.IsConverted tokens chain s.baseSymbol s.baseAmount units →
      Treasury.IsUnconverted tokens chain s.quoteSymbol s.quoteAmount e →
      IsUnconverted tokens chain s e

theorem ClaimLine.ofStrategy_eq_ok {l : ClaimLine} :
    ofStrategy tokens chain s = .ok l ↔
      Treasury.IsConverted tokens chain s.baseSymbol s.baseAmount l.base
        ∧ Treasury.IsConverted tokens chain s.quoteSymbol s.quoteAmount l.quote
        ∧ l.strategy = s.address ∧ l.claimId = Word256.zero := by
  unfold ofStrategy
  simp only [bind_eq_ok, scaled_eq_ok]
  constructor
  · rintro ⟨base, hbase, quote, hquote, h⟩
    cases h
    exact ⟨hbase, hquote, rfl, rfl⟩
  · obtain ⟨strategy, base, quote, claimId⟩ := l
    rintro ⟨hbase, hquote, rfl, rfl⟩
    exact ⟨base, hbase, quote, hquote, rfl⟩

theorem ClaimLine.exists_ofStrategy_iff :
    (∃ l, ofStrategy tokens chain s = .ok l) ↔ s.IsConverted tokens chain := by
  simp only [ofStrategy_eq_ok]
  constructor
  · rintro ⟨l, hbase, hquote, -⟩
    exact ⟨⟨l.base, hbase⟩, l.quote, hquote⟩
  · rintro ⟨⟨base, hbase⟩, quote, hquote⟩
    exact ⟨⟨s.address, base, quote, Word256.zero⟩, hbase, hquote, rfl, rfl⟩

theorem ClaimLine.ofStrategy_eq_error {e : ClaimCallError} :
    ofStrategy tokens chain s = .error e ↔ s.IsUnconverted tokens chain e := by
  unfold ofStrategy
  simp only [bind_eq_error, scaled_eq_ok, scaled_eq_error]
  constructor
  · rintro (hbase | ⟨units, hbase, hquote | ⟨_, -, h⟩⟩)
    · exact .base hbase
    · exact .quote hbase hquote
    · exact absurd h (by simp [pure, Except.pure])
  · rintro (hbase | ⟨hbase, hquote⟩)
    · exact .inl hbase
    · exact .inr ⟨_, hbase, .inl hquote⟩

end

/-! ## The arguments of a call -/

/-- The four arrays that a call carries. -/
structure ClaimArguments where
  strategies : List Address
  bases : List Word256
  quotes : List Word256
  claimIds : List Word256
  deriving DecidableEq, Repr

namespace ClaimArguments

/-- The arrays that lines are written as. -/
def ofLines (lines : List ClaimLine) : ClaimArguments where
  strategies := lines.map (·.strategy)
  bases := lines.map (·.base)
  quotes := lines.map (·.quote)
  claimIds := lines.map (·.claimId)

/-- The slots of four arrays of one length. The first array starts right behind the four places, and
every other one right behind the one before it. -/
def slots (a : ClaimArguments) : List Abi.Slot :=
  let size := 32 * (a.strategies.length + 1)
  [128, 128 + size, 128 + 2 * size, 128 + 3 * size].map Abi.Slot.ofNat
    ++ Abi.arraySlots (a.strategies.map Abi.Slot.ofAddress)
    ++ Abi.arraySlots (a.bases.map Abi.Slot.ofWord)
    ++ Abi.arraySlots (a.quotes.map Abi.Slot.ofWord)
    ++ Abi.arraySlots (a.claimIds.map Abi.Slot.ofWord)

/-- The arguments that are read from a call. The places are followed, and nothing is taken to be
known of the lengths. -/
def read? (data : List UInt8) : Option ClaimArguments :=
  if data.take 4 = Abi.selector claimSignature then
    match Abi.decodeArrays? 4 (data.drop 4) with
    | some [strategies, bases, quotes, claimIds] => do
      return ⟨← strategies.mapM Abi.Slot.toAddress?, ← bases.mapM Abi.Slot.toWord?,
        ← quotes.mapM Abi.Slot.toWord?, ← claimIds.mapM Abi.Slot.toWord?⟩
    | _ => none
  else none

/-- The arguments are those that the claim asks for: its strategies in their order, their amounts in
base units, and zeros. -/
structure Of (tokens : TokenRegistry) (p : ClaimParam) (a : ClaimArguments) : Prop where
  strategies : a.strategies = p.strategies.map (·.address)
  bases : List.Forall₂
    (fun s units => IsConverted tokens p.chainName s.baseSymbol s.baseAmount units)
    p.strategies a.bases
  quotes : List.Forall₂
    (fun s units => IsConverted tokens p.chainName s.quoteSymbol s.quoteAmount units)
    p.strategies a.quotes
  claimIds : a.claimIds = List.replicate p.strategies.length Word256.zero

theorem of_lines {tokens : TokenRegistry} {p : ClaimParam} {lines : List ClaimLine}
    (h : claimLines tokens p = .ok lines) : (ofLines lines).Of tokens p := by
  have hlines := mapM_eq_ok.1 h
  simp only [ClaimLine.ofStrategy_eq_ok] at hlines
  refine ⟨?_, ?_, ?_, ?_⟩
  · exact (map_eq_map_of_forall₂ (hlines.imp fun _ _ hl => hl.2.2.1.symm)).symm
  · exact List.forall₂_map_right_iff.2 (hlines.imp fun _ _ hl => hl.1)
  · exact List.forall₂_map_right_iff.2 (hlines.imp fun _ _ hl => hl.2.1)
  · rw [← List.map_const']
    exact (map_eq_map_of_forall₂ (hlines.imp fun _ _ hl => hl.2.2.2.symm)).symm

/-! ## The layout -/

theorem encodedSlots_claimArrays (lines : List ClaimLine) :
    Abi.encodedSlots (claimArrays lines) = (ofLines lines).slots := by
  have hpositions : Abi.positions (32 * (claimArrays lines).length) (claimArrays lines) =
      [128, 128 + 32 * (lines.length + 1), 128 + 2 * (32 * (lines.length + 1)),
        128 + 3 * (32 * (lines.length + 1))] := by
    simp only [claimArrays, Abi.positions, List.length_cons, List.length_nil, List.length_map,
      List.cons.injEq, and_true, true_and]
    omega
  unfold Abi.encodedSlots
  rw [hpositions]
  simp only [claimArrays, slots, ofLines, List.length_map, List.flatMap_cons, List.flatMap_nil,
    List.map_map, List.append_nil, List.append_assoc, Function.comp_def]

/-- **The bytes of a call are the slots of its arguments behind the selector.** -/
theorem encodeClaim_eq_slots (lines : List ClaimLine) :
    encodeClaim lines = Abi.selector claimSignature ++ Abi.slotBytes (ofLines lines).slots := by
  rw [encodeClaim_eq, Abi.encodeArrays_eq, encodedSlots_claimArrays]

theorem length_encodeClaim (lines : List ClaimLine) :
    (encodeClaim lines).length = 4 + 32 * (8 + 4 * lines.length) := by
  rw [encodeClaim_eq, List.length_append, Abi.length_selector, length_encodeArrays_claimArrays]

/-- What each element of a list is read back as. -/
theorem mapM_map_eq_some {α β γ : Type} {f : α → β} {g : β → Option γ} (h : α → γ)
    (hread : ∀ a, g (f a) = some (h a)) (as : List α) : (as.map f).mapM g = some (as.map h) := by
  induction as with
  | nil => rfl
  | cons a as ih =>
    rw [List.map_cons, List.mapM_cons, hread, ih]
    rfl

/-- **Who follows the places finds the arguments.** -/
theorem read?_encodeClaim {lines : List ClaimLine}
    (hsize : (encodeClaim lines).length < Word256.size) :
    read? (encodeClaim lines) = some (ofLines lines) := by
  have hselector := Abi.length_selector claimSignature
  have hlength : (Abi.encodeArrays (claimArrays lines)).length < Word256.size := by
    rw [encodeClaim_eq, List.length_append] at hsize
    omega
  have harrays := Abi.decodeArrays?_encodeArrays hlength
  have hcount : (claimArrays lines).length = 4 := rfl
  rw [hcount] at harrays
  unfold read?
  rw [encodeClaim_eq, List.take_left' hselector, List.drop_left' hselector, if_pos rfl, harrays]
  dsimp only [claimArrays]
  rw [mapM_map_eq_some ClaimLine.strategy fun l => Abi.Slot.toAddress?_ofAddress l.strategy,
    mapM_map_eq_some ClaimLine.base fun l => Abi.Slot.toWord?_ofWord l.base,
    mapM_map_eq_some ClaimLine.quote fun l => Abi.Slot.toWord?_ofWord l.quote,
    mapM_map_eq_some ClaimLine.claimId fun l => Abi.Slot.toWord?_ofWord l.claimId]
  rfl

/-- **No two lists of lines have one call.** -/
theorem encodeClaim_injective {lines lines' : List ClaimLine}
    (h : encodeClaim lines = encodeClaim lines') : lines = lines' := by
  have hlength : lines.length = lines'.length := by
    have hbytes := congrArg List.length h
    rw [length_encodeClaim, length_encodeClaim] at hbytes
    omega
  rw [encodeClaim_eq, encodeClaim_eq, List.append_right_inj, Abi.encodeArrays_eq,
    Abi.encodeArrays_eq] at h
  have hslots := Abi.slotBytes_injective h
  rw [encodedSlots_claimArrays, encodedSlots_claimArrays] at hslots
  -- the parts have the lengths that the call tells, so they are cut off one by one from the end
  have harray : ∀ f : ClaimLine → Abi.Slot,
      (Abi.arraySlots (lines.map f)).length = (Abi.arraySlots (lines'.map f)).length := by
    intro f
    simp only [Abi.arraySlots, List.length_cons, List.length_map, hlength]
  unfold slots ofLines at hslots
  simp only [List.map_map, Function.comp_def] at hslots
  obtain ⟨hslots, hclaimIds⟩ := List.append_inj' hslots (harray _)
  obtain ⟨hslots, hquotes⟩ := List.append_inj' hslots (harray _)
  obtain ⟨hslots, hbases⟩ := List.append_inj' hslots (harray _)
  obtain ⟨-, hstrategies⟩ := List.append_inj' hslots (harray _)
  have hread := zipLines?_map lines
  rw [(List.cons.inj hstrategies).2, (List.cons.inj hbases).2, (List.cons.inj hquotes).2,
    (List.cons.inj hclaimIds).2, zipLines?_map] at hread
  exact (Option.some.inj hread).symm

end ClaimArguments

/-! ## Calls -/

/-- A claim has a call if each of its strategies can be claimed from. -/
theorem exists_buildClaimCall_iff {tokens : TokenRegistry} {p : ClaimParam} :
    (∃ data, buildClaimCall tokens p = .ok data) ↔
      ∀ s ∈ p.strategies, s.IsConverted tokens p.chainName := by
  simp only [← ClaimLine.exists_ofStrategy_iff]
  constructor
  · rintro ⟨data, h⟩ s hs
    obtain ⟨lines, hlines, -⟩ := map_eq_ok.1 h
    obtain ⟨l, -, hl⟩ := exists_mem_of_forall₂ (mapM_eq_ok.1 hlines).flip hs
    exact ⟨l, hl⟩
  · intro h
    cases hcall : buildClaimCall tokens p with
    | ok data => exact ⟨data, rfl⟩
    | error e =>
      obtain ⟨s, hs, he⟩ := exists_of_mapM_eq_error (map_eq_error.1 hcall)
      obtain ⟨l, hl⟩ := h s hs
      exact absurd (hl.symm.trans he) (by simp)

/--
**A call carries just what its claim asks for.**

A claim has a call if and only if the decimals of all its tokens are known on its chain and all its
amounts can be converted; otherwise it is refused for its first strategy that fails, and for the
base amount if that fails. The call is the selector and four arrays, laid out one behind the other,
which are the strategies of the claim, their base and their quote amounts in base units, and zeros.
Whoever follows the places finds these four arrays, as long as the places are words, which they are
in every call that has fewer bytes than there are words. And whatever claim has this call, by
whatever registry, asks for the same arrays.
-/
theorem buildClaimCall_faithful (tokens : TokenRegistry) (p : ClaimParam) :
    ((∃ data, buildClaimCall tokens p = .ok data) ↔
        ∀ s ∈ p.strategies, s.IsConverted tokens p.chainName)
      ∧ (∀ e, buildClaimCall tokens p = .error e ↔
        ∃ before s after, p.strategies = before ++ s :: after
          ∧ (∀ earlier ∈ before, earlier.IsConverted tokens p.chainName)
          ∧ s.IsUnconverted tokens p.chainName e)
      ∧ ∀ data, buildClaimCall tokens p = .ok data →
        ∃ a : ClaimArguments, a.Of tokens p
          ∧ data = Abi.selector claimSignature ++ Abi.slotBytes a.slots
          ∧ data.length = 4 + 32 * (8 + 4 * p.strategies.length)
          ∧ (data.length < Word256.size → ClaimArguments.read? data = some a)
          ∧ ∀ tokens' q, buildClaimCall tokens' q = .ok data → a.Of tokens' q := by
  refine ⟨exists_buildClaimCall_iff, fun e => ?_, fun data h => ?_⟩
  · unfold buildClaimCall claimLines
    rw [map_eq_error, mapM_eq_error]
    simp only [ClaimLine.exists_ofStrategy_iff, ClaimLine.ofStrategy_eq_error]
  · obtain ⟨lines, hlines, rfl⟩ := map_eq_ok.1 h
    have hlength := (mapM_eq_ok.1 hlines).length_eq
    refine ⟨.ofLines lines, ClaimArguments.of_lines hlines,
      ClaimArguments.encodeClaim_eq_slots lines, ?_, ClaimArguments.read?_encodeClaim, ?_⟩
    · rw [ClaimArguments.length_encodeClaim, hlength]
    · intro tokens' q hq
      obtain ⟨lines', hlines', hsame⟩ := map_eq_ok.1 hq
      obtain rfl := ClaimArguments.encodeClaim_injective hsame
      exact ClaimArguments.of_lines hlines'

end Treasury
