import Treasury.Claim.Aggregate
import Treasury.Proofs.Claim.Param

/-!
# The sign of nothing

A snapshot is plain if no zero amount in it has a minus sign. Making it so changes nothing that the
claims for it depend on: they are refused for the same cause, or made with the same amounts, of
which no zero has a minus sign any more (`aggregateClaims_plain`).
-/

namespace Treasury

/-! ## Plain snapshots -/

/-- The threshold, where a zero amount has no minus sign. -/
def Threshold.plain (t : Threshold) : Threshold := { t with amount := t.amount.plain }

/-- The position, where no zero amount has a minus sign. -/
def Position.plain (p : Position) : Position :=
  { p with
    poolAmount := p.poolAmount.map Decimal.plain
    baseAmount := p.baseAmount.plain
    quoteAmount := p.quoteAmount.plain }

/-- The provider, where no zero amount has a minus sign. -/
def Provider.plain (p : Provider) : Provider :=
  { p with
    poolAmount := p.poolAmount.map Decimal.plain
    positions := p.positions.map Position.plain }

/-- The controller, where a zero amount has no minus sign. -/
def Controller.plain (c : Controller) : Controller :=
  { c with amount := c.amount.map Decimal.plain }

/-- The vault, where no zero amount has a minus sign. -/
def Vault.plain (v : Vault) : Vault :=
  { v with controllers := v.controllers.mapValues Controller.plain }

/-- The snapshot, where no zero amount has a minus sign. -/
def Snapshot.plain (s : Snapshot) : Snapshot where
  thresholds := s.thresholds.map Threshold.plain
  vaults := s.vaults.map Vault.plain
  providers := s.providers.map Provider.plain

theorem plain_comp_plain : Decimal.plain ∘ Decimal.plain = Decimal.plain :=
  funext Decimal.plain_plain

theorem Position.plain_plain (p : Position) : p.plain.plain = p.plain := by
  unfold plain
  dsimp only
  rw [Option.map_map, plain_comp_plain]
  rfl

theorem Provider.plain_plain (p : Provider) : p.plain.plain = p.plain := by
  unfold plain
  dsimp only
  rw [Option.map_map, plain_comp_plain, List.map_map, List.map_congr_left fun p _ => p.plain_plain]

theorem Controller.plain_plain (c : Controller) : c.plain.plain = c.plain := by
  unfold plain
  dsimp only
  rw [Option.map_map, plain_comp_plain]

theorem Vault.plain_plain (v : Vault) : v.plain.plain = v.plain := by
  unfold plain
  dsimp only
  rw [NameMap.mapValues_mapValues, funext Controller.plain_plain]

theorem Snapshot.plain_plain (s : Snapshot) : s.plain.plain = s.plain := by
  have hthresholds : Threshold.plain ∘ Threshold.plain = Threshold.plain := rfl
  have hvaults : Vault.plain ∘ Vault.plain = Vault.plain := funext Vault.plain_plain
  have hproviders : Provider.plain ∘ Provider.plain = Provider.plain := funext Provider.plain_plain
  unfold plain
  dsimp only
  rw [List.map_map, List.map_map, List.map_map, hthresholds, hvaults, hproviders]

/-! ## Sums -/

namespace Decimal

theorem plain_of_isNegative {d : Decimal} (h : d.isNegative = true) : d.plain = d := by
  obtain ⟨coefficient, scale, fits, scale_le, minusZero, hzero⟩ := d
  cases minusZero with
  | false => rfl
  | true =>
    have hneg : coefficient < 0 := of_decide_eq_true h
    have := hzero rfl
    omega

theorem ofExact?_plain (coefficient : Int) (scale : Nat) :
    (ofExact? coefficient scale).map plain = ofExact? coefficient scale := by
  unfold ofExact?
  cases fitMagnitude coefficient.natAbs 0 scale with
  | none => rfl
  | some fitted =>
    rw [Option.bind_some]
    unfold ofParts?
    split <;> rfl

/-- **The sum does not depend on the sign of nothing.** -/
theorem add?_plain (a b : Decimal) : a.plain.add? b.plain = (a.add? b).map plain := by
  unfold add?
  rw [show a.plain.isZero = a.isZero from rfl, show b.plain.isZero = b.isZero from rfl]
  split
  · rfl
  · split
    · rfl
    · exact (ofExact?_plain _ _).symm

end Decimal

/-! ## Routes -/

theorem Vault.controller?_plain (v : Vault) (chain : String) :
    v.plain.controller? chain = (v.controller? chain).map Controller.plain := by
  have hfind : v.plain.controllers.find? (fun entry => Text.equalIgnoringAsciiCase entry.1 chain) =
      (v.controllers.find? fun entry => Text.equalIgnoringAsciiCase entry.1 chain).map
        fun entry => (entry.1, entry.2.plain) :=
    NameMap.find?_mapValues _ _ fun name => Text.equalIgnoringAsciiCase name chain
  have hget : v.plain.controllers.get? chain = (v.controllers.get? chain).map Controller.plain :=
    NameMap.get?_mapValues _ _ _
  unfold controller?
  rw [hget, hfind]
  cases v.controllers.get? chain with
  | some controller => rfl
  | none =>
    dsimp only [Option.map_none, Option.orElse_none]
    rw [Option.map_map, Option.map_map]
    rfl

theorem Position.route_plain (tokens : TokenRegistry) (vaults : List Vault)
    (chain symbol : String) :
    route tokens (vaults.map Vault.plain) chain symbol = route tokens vaults chain symbol := by
  unfold route
  cases tokens.currency? chain symbol with
  | none => rfl
  | some currency =>
    have hfind : (vaults.map Vault.plain).find? (fun vault => vault.currency = currency) =
        (vaults.find? fun vault => vault.currency = currency).map Vault.plain := List.find?_map
    dsimp only
    rw [hfind]
    cases vaults.find? fun vault => vault.currency = currency with
    | none => rfl
    | some vault =>
      dsimp only [Option.map_some]
      rw [vault.controller?_plain]
      cases vault.controller? chain <;> rfl

/-! ## Tallies -/

/-- The tally, where no zero amount has a minus sign. -/
def Tally.plain (t : Tally) : Tally := { t with strategy := t.strategy.plain }

theorem Position.checkSign_plain (strategy : Address) (side : Side) (amount : Decimal) :
    checkSign strategy side amount.plain = checkSign strategy side amount := by
  unfold checkSign
  rw [show amount.plain.isNegative = amount.isNegative from rfl]
  split
  · rename_i hneg
    rw [Decimal.plain_of_isNegative hneg]
  · rfl

theorem Position.addTo_plain (p : Position) (chain : String) (s : Strategy) :
    p.plain.addTo chain s.plain = (p.addTo chain s).map Strategy.plain := by
  have hbase := s.baseAmount.add?_plain p.baseAmount
  have hquote := s.quoteAmount.add?_plain p.quoteAmount
  unfold addTo Position.plain Strategy.plain
  dsimp only
  rw [hbase, hquote]
  split
  · rfl
  · cases s.baseAmount.add? p.baseAmount <;> cases s.quoteAmount.add? p.quoteAmount <;> rfl

/-- A change that goes along with a replacement of all elements. -/
theorem modifyFirst_map {α β ε : Type} {p : α → Bool} {p' : β → Bool} {f : α → Except ε α}
    {f' : β → Except ε β} {g : α → β} (hp : ∀ a, p' (g a) = p a)
    (hf : ∀ a, f' (g a) = (f a).map g) (as : List α) :
    modifyFirst p' f' (as.map g) = (modifyFirst p f as).map (List.map g) := by
  induction as with
  | nil => rfl
  | cons a rest ih =>
    rw [List.map_cons, modifyFirst, modifyFirst, hp, hf, ih]
    split
    · cases f a <;> rfl
    · cases modifyFirst p f rest <;> rfl

theorem tallyPosition_plain (tokens : TokenRegistry) (vaults : List Vault) (tallies : List Tally)
    (r : Provider × Position) :
    tallyPosition tokens (vaults.map Vault.plain) (tallies.map Tally.plain)
        (r.1.plain, r.2.plain) =
      (tallyPosition tokens vaults tallies r).map (List.map Tally.plain) := by
  obtain ⟨provider, position⟩ := r
  have hnamed : position.plain.strategyOn provider.plain.chain =
      position.strategyOn provider.chain := rfl
  unfold tallyPosition
  dsimp only
  rw [hnamed]
  cases position.strategyOn provider.chain with
  | error cause => rfl
  | ok strategy =>
    have hbase : Position.checkSign strategy .base position.plain.baseAmount =
        Position.checkSign strategy .base position.baseAmount := Position.checkSign_plain _ _ _
    have hquote : Position.checkSign strategy .quote position.plain.quoteAmount =
        Position.checkSign strategy .quote position.quoteAmount := Position.checkSign_plain _ _ _
    have hany : (tallies.map Tally.plain).any
        (Tally.isFor (Text.toLower provider.plain.chain) strategy) =
          tallies.any (Tally.isFor (Text.toLower provider.chain) strategy) := List.any_map
    have hroute : Position.route tokens (vaults.map Vault.plain) provider.plain.chain
        position.plain.baseSymbol =
          Position.route tokens vaults provider.chain position.baseSymbol :=
      Position.route_plain _ _ _ _
    have hmodify : modifyFirst (Tally.isFor (Text.toLower provider.plain.chain) strategy)
        (fun t => (position.plain.addTo provider.plain.chain t.strategy).map fun s =>
          { t with strategy := s }) (tallies.map Tally.plain) =
        (modifyFirst (Tally.isFor (Text.toLower provider.chain) strategy)
          (fun t => (position.addTo provider.chain t.strategy).map fun s =>
            { t with strategy := s }) tallies).map (List.map Tally.plain) := by
      refine modifyFirst_map (fun _ => rfl) (fun t => ?_) tallies
      have hadd : position.plain.addTo provider.plain.chain t.plain.strategy =
          (position.addTo provider.chain t.strategy).map Strategy.plain :=
        position.addTo_plain provider.chain t.strategy
      rw [hadd]
      cases position.addTo provider.chain t.strategy <;> rfl
    dsimp only [bind, Except.bind]
    rw [hbase, hquote]
    cases Position.checkSign strategy .base position.baseAmount with
    | error cause => rfl
    | ok _ =>
      cases Position.checkSign strategy .quote position.quoteAmount with
      | error cause => rfl
      | ok _ =>
        dsimp only
        rw [hany]
        split
        · exact hmodify
        · rw [hroute]
          cases Position.route tokens vaults provider.chain position.baseSymbol with
          | error cause => rfl
          | ok vault =>
            refine congrArg Except.ok ?_
            rw [List.map_append]
            rfl

/-! ## Claims -/

theorem gather_plain (t : Tally) (claims : List ClaimParam) :
    gather t.plain (claims.map ClaimParam.plain) = (gather t claims).map ClaimParam.plain := by
  induction claims with
  | nil => rfl
  | cons p rest ih =>
    rw [List.map_cons, gather, gather, ih, show p.plain.takes t.plain = p.takes t from rfl]
    split
    · rw [List.map_cons]
      unfold ClaimParam.plain Tally.plain
      rw [List.map_append]
      rfl
    · rfl

theorem gatherAll_plain (tallies : List Tally) :
    gatherAll (tallies.map Tally.plain) = (gatherAll tallies).map ClaimParam.plain := by
  have hfold : ∀ claims : List ClaimParam,
      tallies.foldl (fun claims t => gather t.plain claims) (claims.map ClaimParam.plain) =
        (tallies.foldl (fun claims t => gather t claims) claims).map ClaimParam.plain := fun _ =>
    List.foldl_hom (List.map ClaimParam.plain) fun claims t => gather_plain t claims
  unfold gatherAll
  rw [List.foldl_map]
  exact hfold []

theorem reportedPositions_plain (providers : List Provider) :
    reportedPositions (providers.map Provider.plain) =
      (reportedPositions providers).map fun r => (r.1.plain, r.2.plain) := by
  unfold reportedPositions
  rw [List.flatMap_map, List.map_flatMap]
  refine List.flatMap_congr fun provider _ => ?_
  unfold Provider.plain
  rw [List.map_map, List.map_map]
  rfl

/-- **The claims for a snapshot do not depend on the sign of nothing.** -/
theorem aggregateClaims_plain (tokens : TokenRegistry) (s : Snapshot) :
    aggregateClaims tokens s.plain.vaults s.plain.providers =
      (aggregateClaims tokens s.vaults s.providers).map (List.map ClaimParam.plain) := by
  have hfold := foldlM_map_comm (tallyPosition_plain tokens s.vaults)
    (reportedPositions s.providers) []
  rw [List.map_nil] at hfold
  unfold aggregateClaims tallyAll Snapshot.plain
  dsimp only
  rw [reportedPositions_plain, hfold]
  cases (reportedPositions s.providers).foldlM (tallyPosition tokens s.vaults) [] with
  | error cause => rfl
  | ok tallies => exact congrArg Except.ok (gatherAll_plain tallies)

end Treasury
