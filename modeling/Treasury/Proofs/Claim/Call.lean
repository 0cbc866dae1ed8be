import Treasury.Claim.Call
import Treasury.Proofs.BaseUnits
import Treasury.Proofs.Chain.Abi
import Treasury.Proofs.Chain.Address
import Treasury.Proofs.Except

/-!
# What a call says

A call that is read back has the lines it was made of (`decodeClaim?_encodeClaim`), and each line
has the strategy it was made for, with its amounts in base units and no claim number
(`shows_of_buildClaimCall`).
-/

namespace Treasury

theorem Abi.length_selector (signature : String) : (selector signature).length = 4 := by
  unfold selector Keccak.digestText
  rw [List.length_take, Keccak.length_digest]
  rfl

/-- The arrays of a call. -/
def claimArrays (lines : List ClaimLine) : List (List Abi.Slot) :=
  [lines.map fun l => Abi.Slot.ofAddress l.strategy, lines.map fun l => Abi.Slot.ofWord l.base,
    lines.map fun l => Abi.Slot.ofWord l.quote, lines.map fun l => Abi.Slot.ofWord l.claimId]

theorem encodeClaim_eq (lines : List ClaimLine) :
    encodeClaim lines = Abi.selector claimSignature ++ Abi.encodeArrays (claimArrays lines) := rfl

theorem length_encodeArrays_claimArrays (lines : List ClaimLine) :
    (Abi.encodeArrays (claimArrays lines)).length = 32 * (8 + 4 * lines.length) := by
  rw [Abi.encodeArrays_eq, Abi.length_slotBytes]
  unfold Abi.encodedSlots claimArrays
  rw [List.length_append, List.length_map, Abi.length_positions]
  simp only [List.flatMap_cons, List.flatMap_nil, List.length_append, Abi.arraySlots,
    List.length_cons, List.length_map, List.length_nil]
  omega

/-- Four arrays that were made of lines make these lines. -/
theorem zipLines?_map (lines : List ClaimLine) :
    zipLines? (lines.map fun l => Abi.Slot.ofAddress l.strategy)
      (lines.map fun l => Abi.Slot.ofWord l.base) (lines.map fun l => Abi.Slot.ofWord l.quote)
      (lines.map fun l => Abi.Slot.ofWord l.claimId) = some lines := by
  induction lines with
  | nil => rfl
  | cons l rest ih =>
    simp only [List.map_cons, zipLines?, ih, Abi.Slot.toAddress?_ofAddress,
      Abi.Slot.toWord?_ofWord]
    rfl

/-- **A call is read back as the lines it was made of.** -/
theorem decodeClaim?_encodeClaim {lines : List ClaimLine}
    (hsize : 32 * (8 + 4 * lines.length) < Word256.size) :
    decodeClaim? (encodeClaim lines) = some lines := by
  -- a selector has four bytes, whatever they are: the digest is not computed
  have hselector := Abi.length_selector claimSignature
  rw [← length_encodeArrays_claimArrays] at hsize
  have harrays := Abi.decodeArrays?_encodeArrays hsize
  have hcount : (claimArrays lines).length = 4 := rfl
  rw [hcount] at harrays
  unfold decodeClaim?
  rw [encodeClaim_eq, List.take_left' hselector, List.drop_left' hselector, if_pos rfl, harrays]
  exact zipLines?_map lines

/-! ## Lines -/

/-- The units are exactly those of an amount of a token on a chain. -/
def IsScaled (tokens : TokenRegistry) (chain symbol : String) (amount : Decimal)
    (units : Word256) : Prop :=
  ∃ decimals, tokens.decimals? chain symbol = some decimals
    ∧ (units.toNat : ℚ) = amount.value * 10 ^ decimals.toNat

theorem isScaled_of_scaled {tokens : TokenRegistry} {chain symbol : String} {amount : Decimal}
    {units : Word256} (h : ClaimLine.scaled tokens chain symbol amount = .ok units) :
    IsScaled tokens chain symbol amount units := by
  unfold ClaimLine.scaled at h
  split at h
  · exact absurd h (by simp)
  · rename_i decimals hdecimals
    split at h
    · rename_i value hvalue
      cases h
      exact ⟨decimals, hdecimals, value_of_toBaseUnits hvalue⟩
    · exact absurd h (by simp)

/-- The line claims what the strategy says. -/
structure ClaimLine.Shows (tokens : TokenRegistry) (chain : String) (s : Strategy)
    (l : ClaimLine) : Prop where
  strategy : l.strategy = s.address
  base : IsScaled tokens chain s.baseSymbol s.baseAmount l.base
  quote : IsScaled tokens chain s.quoteSymbol s.quoteAmount l.quote
  claimId : l.claimId = Word256.zero

theorem ClaimLine.shows_of_ofStrategy {tokens : TokenRegistry} {chain : String} {s : Strategy}
    {l : ClaimLine} (h : ofStrategy tokens chain s = .ok l) : l.Shows tokens chain s := by
  obtain ⟨base, hbase, h⟩ := bind_eq_ok.1 h
  obtain ⟨quote, hquote, h⟩ := bind_eq_ok.1 h
  cases h
  exact ⟨rfl, isScaled_of_scaled hbase, isScaled_of_scaled hquote, rfl⟩

/-- **A call has one line for each strategy of its claim, in the order of the strategies.** -/
theorem shows_of_buildClaimCall {tokens : TokenRegistry} {p : ClaimParam} {data : List UInt8}
    (h : buildClaimCall tokens p = .ok data) :
    ∃ lines, data = encodeClaim lines
      ∧ List.Forall₂ (ClaimLine.Shows tokens p.chainName) p.strategies lines := by
  obtain ⟨lines, hlines, rfl⟩ := map_eq_ok.1 h
  exact ⟨lines, rfl, (mapM_eq_ok.1 hlines).imp fun _ _ => ClaimLine.shows_of_ofStrategy⟩

end Treasury
