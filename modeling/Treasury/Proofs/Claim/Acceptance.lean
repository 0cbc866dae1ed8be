import Mathlib.Data.List.DropRight
import Treasury.Proofs.Claim.Routing

/-!
# Which reports are accepted

Whether a report is accepted does not take running through it to be said: each position names a
strategy and has no amount below zero, the positions of a key have the same tokens, the first of
them leads to a vault, and their amounts can be added up (`Acceptable`). And a report that is not
accepted has a first position that goes wrong after positions that could have been a report of their
own (`Offence`).

The tallies are what connects the two. They are made of the positions so far, so what a position is
checked against is the first position of its key and the sums of all of them
(`offence_iff`).
-/

namespace Treasury

/-! ## The name of a strategy -/

/-- What has no blanks at its ends is left as it is. -/
theorem Text.trim_trim (text : String) : trim (trim text) = trim text := by
  have hends : ∀ cs : List Char,
      ((cs.dropWhile isBlank).rdropWhile isBlank).dropWhile isBlank =
        (cs.dropWhile isBlank).rdropWhile isBlank := by
    intro cs
    refine List.dropWhile_eq_self_iff.2 fun hlength => ?_
    -- what is left begins as it began before its end was cut off
    have hbegins := List.rdropWhile_prefix isBlank (cs.dropWhile isBlank)
    rw [hbegins.getElem hlength]
    exact List.dropWhile_get_zero_not isBlank cs (hlength.trans_le hbegins.length_le)
  have hleft := hends text.toList
  have hright := List.rdropWhile_idempotent isBlank (text.toList.dropWhile isBlank)
  unfold trim
  simp only [String.toList_ofList]
  have honce : ((text.toList.dropWhile isBlank).reverse.dropWhile isBlank).reverse =
      (text.toList.dropWhile isBlank).rdropWhile isBlank := rfl
  rw [honce, hleft]
  exact congrArg String.ofList hright

namespace Position

/-- The position has the address of this strategy, blanks aside. -/
def Names (p : Position) (strategy : Address) : Prop :=
  ∃ text, p.strategyAddress = some text ∧ Text.trim text ≠ ""
    ∧ FixedBytes.ofText? (Text.trim text) = some strategy

/-- Why the position has no address of a strategy. -/
inductive Misnamed (p : Position) (chain : String) : AggregationError → Prop where
  | missing : (∀ text, p.strategyAddress = some text → Text.trim text = "") →
      Misnamed p chain (.missingStrategyAddress chain p.index)
  | unreadable {text : String} : p.strategyAddress = some text → Text.trim text ≠ "" →
      (FixedBytes.ofText? (Text.trim text) : Option Address) = none →
      Misnamed p chain (.invalidAddress .strategy (Text.trim text))

variable {p : Position} {chain : String}

theorem strategyOn_eq_ok {strategy : Address} :
    p.strategyOn chain = .ok strategy ↔ p.Names strategy := by
  unfold strategyOn Names
  cases p.strategyAddress with
  | none => simp
  | some text =>
    by_cases hblank : Text.trim text = ""
    · simp [hblank, Option.filter]
    · simp [hblank, Option.filter, parseAddress_eq_ok, Text.trim_trim]

theorem strategyOn_eq_error {e : AggregationError} :
    p.strategyOn chain = .error e ↔ p.Misnamed chain e := by
  unfold strategyOn
  constructor
  · intro h
    cases hfield : p.strategyAddress with
    | none =>
      rw [hfield] at h
      cases h
      exact .missing fun text htext => absurd (hfield.symm.trans htext) (by simp)
    | some text =>
      by_cases hblank : Text.trim text = ""
      · simp only [hfield, Option.map_some, Option.filter, hblank, ne_eq, not_true_eq_false,
          decide_false] at h
        cases h
        exact .missing fun text' htext => Option.some.inj (hfield.symm.trans htext) ▸ hblank
      · simp only [hfield, Option.map_some, Option.filter, hblank, ne_eq, not_false_eq_true,
          decide_true, if_true, parseAddress_eq_error, Text.trim_trim] at h
        obtain ⟨hread, rfl⟩ := h
        exact .unreadable hfield hblank hread
  · rintro (hmissing | ⟨hfield, hblank, hread⟩)
    · cases hfield : p.strategyAddress with
      | none => rfl
      | some text => simp [Option.filter, hmissing text hfield]
    · simp [hfield, Option.filter, hblank, parseAddress_eq_error, Text.trim_trim, hread]

/-- The positions are of the same tokens. -/
def SameTokens (p q : Position) : Prop :=
  p.baseSymbol = q.baseSymbol ∧ p.quoteSymbol = q.quoteSymbol

end Position

theorem keyOf?_of_names {r : Provider × Position} {strategy : Address} (h : r.2.Names strategy) :
    keyOf? r = some (Text.toLower r.1.chain, strategy) :=
  keyOf?_eq_some.2 ⟨strategy, Position.strategyOn_eq_ok.2 h, rfl⟩

/-! ## Acceptable reports -/

/-- The report can be claimed for. Nothing in this depends on what has been seen of it. -/
structure Acceptable (tokens : TokenRegistry) (vaults : List Vault)
    (reported : List (Provider × Position)) : Prop where
  named : ∀ r ∈ reported, ∃ strategy, r.2.Names strategy
  nonnegative : ∀ r ∈ reported, ∀ side, 0 ≤ (r.2.amount side).value
  /-- The positions of a key have the same tokens. -/
  sameTokens : ∀ key, ∀ r ∈ positionsOf key reported, ∀ q ∈ positionsOf key reported,
    r.2.SameTokens q.2
  /-- The first position of a key leads to a vault. -/
  routed : ∀ key, ∀ first ∈ (positionsOf key reported).head?,
    ∃ vault, RoutesTo tokens vaults first.1.chain first.2.baseSymbol vault
  /-- The amounts of a key can be added up. -/
  summed : ∀ key side, ∃ total, runningSum? side (positionsOf key reported) = some total

/-- What is wrong with a position after others that can be claimed for. Of several things, it is the
first in this order that counts. -/
inductive Offence (tokens : TokenRegistry) (vaults : List Vault)
    (before : List (Provider × Position)) (r : Provider × Position) : AggregationError → Prop where
  | misnamed {e : AggregationError} : r.2.Misnamed r.1.chain e → Offence tokens vaults before r e
  | negativeBase {strategy : Address} : r.2.Names strategy → r.2.baseAmount.value < 0 →
      Offence tokens vaults before r (.negativeAmount strategy .base r.2.baseAmount)
  | negativeQuote {strategy : Address} : r.2.Names strategy → 0 ≤ r.2.baseAmount.value →
      r.2.quoteAmount.value < 0 →
      Offence tokens vaults before r (.negativeAmount strategy .quote r.2.quoteAmount)
  /-- The key is known, from a position of other tokens. -/
  | otherTokens {strategy : Address} {first : Provider × Position} : r.2.Names strategy →
      (∀ side, 0 ≤ (r.2.amount side).value) →
      first ∈ (positionsOf (Text.toLower r.1.chain, strategy) before).head? →
      ¬r.2.SameTokens first.2 →
      Offence tokens vaults before r (.symbolMismatch r.1.chain strategy
        (first.2.baseSymbol, first.2.quoteSymbol) (r.2.baseSymbol, r.2.quoteSymbol))
  /-- The key is known, and the next sum on one of the sides overflows. -/
  | overflow {strategy : Address} {first : Provider × Position} {side : Side} :
      r.2.Names strategy → (∀ side, 0 ≤ (r.2.amount side).value) →
      first ∈ (positionsOf (Text.toLower r.1.chain, strategy) before).head? →
      r.2.SameTokens first.2 →
      runningSum? side (positionsOf (Text.toLower r.1.chain, strategy) before ++ [r]) = none →
      Offence tokens vaults before r (.overflow strategy)
  /-- The key is new, and the position does not lead to a vault. -/
  | misrouted {strategy : Address} {e : AggregationError} : r.2.Names strategy →
      (∀ side, 0 ≤ (r.2.amount side).value) →
      positionsOf (Text.toLower r.1.chain, strategy) before = [] →
      Misrouted tokens vaults r.1.chain r.2.baseSymbol e →
      Offence tokens vaults before r e

section

variable {tokens : TokenRegistry} {vaults : List Vault} {before : List (Provider × Position)}
  {r : Provider × Position}

/-- The positions of a key that have come first stay the first. -/
theorem isPrefix_positionsOf_concat (key : TallyKey) (before : List (Provider × Position))
    (r : Provider × Position) : positionsOf key before <+: positionsOf key (before ++ [r]) :=
  (List.prefix_append before [r]).filter _

/-- What comes last can be left out. -/
theorem Acceptable.dropLast (h : Acceptable tokens vaults (before ++ [r])) :
    Acceptable tokens vaults before where
  named := fun q hq => h.named q (List.mem_append_left _ hq)
  nonnegative := fun q hq => h.nonnegative q (List.mem_append_left _ hq)
  sameTokens := by
    intro key p hp q hq
    have hsubset := (isPrefix_positionsOf_concat key before r).subset
    exact h.sameTokens key p (hsubset hp) q (hsubset hq)
  routed := by
    intro key first hfirst
    obtain ⟨rest, hrest⟩ := isPrefix_positionsOf_concat key before r
    refine h.routed key first ?_
    rw [← hrest, List.head?_append, Option.mem_def.1 hfirst]
    rfl
  summed := by
    intro key side
    obtain ⟨total, htotal⟩ := h.summed key side
    by_cases hkey : keyOf? r = some key
    · rw [positionsOf_concat_self hkey, runningSum?_concat] at htotal
      obtain ⟨before, hbefore, -⟩ := Option.bind_eq_some_iff.1 htotal
      exact ⟨before, hbefore⟩
    · rw [positionsOf_concat_of_ne hkey] at htotal
      exact ⟨total, htotal⟩

/-- **Nothing is wrong with the last position of an acceptable report.** -/
theorem Acceptable.no_offence (h : Acceptable tokens vaults (before ++ [r]))
    (e : AggregationError) : ¬Offence tokens vaults before r e := by
  have hmem : r ∈ before ++ [r] := by simp
  have hlast : ∀ {strategy}, r.2.Names strategy →
      positionsOf (Text.toLower r.1.chain, strategy) (before ++ [r]) =
        positionsOf (Text.toLower r.1.chain, strategy) before ++ [r] :=
    fun hnames => positionsOf_concat_self (keyOf?_of_names hnames) before
  intro hoffence
  cases hoffence with
  | misnamed hmisnamed =>
    obtain ⟨strategy, hnames⟩ := h.named r hmem
    have hok : r.2.strategyOn r.1.chain = .ok strategy := Position.strategyOn_eq_ok.2 hnames
    exact absurd (hok.symm.trans (Position.strategyOn_eq_error.2 hmisnamed)) (by simp)
  | negativeBase _ hbase => exact absurd hbase (not_lt.2 (h.nonnegative r hmem .base))
  | negativeQuote _ _ hquote => exact absurd hquote (not_lt.2 (h.nonnegative r hmem .quote))
  | @otherTokens strategy first hnames _ hfirst hother =>
    have hsame := h.sameTokens (Text.toLower r.1.chain, strategy)
    rw [hlast hnames] at hsame
    exact hother (hsame r (by simp) first (List.mem_append_left _ (List.mem_of_mem_head? hfirst)))
  | @overflow strategy first side hnames _ _ _ hsum =>
    obtain ⟨total, htotal⟩ := h.summed (Text.toLower r.1.chain, strategy) side
    rw [hlast hnames, hsum] at htotal
    cases htotal
  | @misrouted strategy e hnames _ hnew hmisrouted =>
    have hrouted := h.routed (Text.toLower r.1.chain, strategy) r
    rw [hlast hnames, hnew] at hrouted
    obtain ⟨vault, hvault⟩ := hrouted rfl
    have hok := Position.route_eq_ok.2 hvault
    exact absurd (hok.symm.trans (Position.route_eq_error.2 hmisrouted)) (by simp)

/-! ## What is accepted -/

variable {reported : List (Provider × Position)} {tallies : List Tally}

theorem acceptable_of_fold (h : reported.foldlM (tallyPosition tokens vaults) [] = .ok tallies) :
    Acceptable tokens vaults reported := by
  have hof := talliesOf_fold h
  have hmade := madeOf_fold h
  have htally : ∀ {key r}, r ∈ positionsOf key reported → ∃ t ∈ tallies, t.key = key := by
    intro key r hr
    exact hof.exists_tally (mem_positionsOf.1 hr).1 (mem_positionsOf.1 hr).2
  refine
    { named := ?_
      nonnegative := fun r hr => (attributed_of_fold h r hr).2
      sameTokens := ?_
      routed := ?_
      summed := ?_ }
  · intro r hr
    obtain ⟨key, hkey⟩ := (attributed_of_fold h r hr).1
    obtain ⟨strategy, hstrategy, -⟩ := keyOf?_eq_some.1 hkey
    exact ⟨strategy, Position.strategyOn_eq_ok.1 hstrategy⟩
  · intro key r hr q hq
    obtain ⟨t, ht, rfl⟩ := htally hr
    obtain ⟨hbase, hquote⟩ := (hmade t ht).symbols r hr
    obtain ⟨hbase', hquote'⟩ := (hmade t ht).symbols q hq
    exact ⟨hbase.trans hbase'.symm, hquote.trans hquote'.symm⟩
  · intro key first hfirst
    obtain ⟨t, ht, rfl⟩ := htally (List.mem_of_mem_head? hfirst)
    obtain ⟨opener, hopener, -, -, hroute⟩ := (hmade t ht).opened
    obtain rfl := Option.mem_unique hfirst hopener
    exact ⟨t.vault, Position.route_eq_ok.1 hroute⟩
  · intro key side
    by_cases hkey : ∃ r ∈ reported, keyOf? r = some key
    · obtain ⟨r, hr, hrkey⟩ := hkey
      obtain ⟨t, ht, rfl⟩ := hof.exists_tally hr hrkey
      exact ⟨_, (hmade t ht).sums side⟩
    · have hnone : positionsOf key reported = [] :=
        positionsOf_eq_nil.2 fun r hr heq => hkey ⟨r, hr, heq⟩
      exact ⟨Decimal.zero, by rw [hnone]; rfl⟩

/-! ## What is refused -/

/-- **Where a position stops that is taken in**: at its name, at one of its signs, at the tally of
its key if there is one, or else on the way to a vault. -/
theorem tallyPosition_eq_error (hnodup : (tallies.map Tally.key).Nodup) {e : AggregationError} :
    tallyPosition tokens vaults tallies r = .error e ↔
      r.2.Misnamed r.1.chain e ∨ ∃ strategy, r.2.Names strategy
        ∧ (r.2.baseAmount.value < 0 ∧ e = .negativeAmount strategy .base r.2.baseAmount
          ∨ 0 ≤ r.2.baseAmount.value
            ∧ (r.2.quoteAmount.value < 0 ∧ e = .negativeAmount strategy .quote r.2.quoteAmount
              ∨ 0 ≤ r.2.quoteAmount.value
                ∧ ((∃ t ∈ tallies, t.key = (Text.toLower r.1.chain, strategy)
                    ∧ r.2.addTo r.1.chain t.strategy = .error e)
                  ∨ (∀ t ∈ tallies, t.key ≠ (Text.toLower r.1.chain, strategy))
                    ∧ Misrouted tokens vaults r.1.chain r.2.baseSymbol e))) := by
  obtain ⟨provider, position⟩ := r
  unfold tallyPosition
  simp only [bind_eq_error, Position.strategyOn_eq_ok, Position.strategyOn_eq_error,
    Position.checkSign_eq_ok, Position.checkSign_eq_error, ← Decimal.value_neg_iff,
    ← Decimal.value_nonneg_iff, exists_const]
  refine or_congr_right (exists_congr fun strategy => and_congr_right fun _ => or_congr_right
    (and_congr_right fun _ => or_congr_right (and_congr_right fun _ => ?_)))
  by_cases hin : tallies.any (Tally.isFor (Text.toLower provider.chain) strategy) = true
  · obtain ⟨known, hknown, hkey⟩ := any_isFor_iff.1 hin
    rw [if_pos hin, or_iff_left fun h => h.1 known hknown hkey, modifyFirst_eq_error]
    constructor
    · rintro ⟨before, t, after, rfl, -, ht, he⟩
      exact ⟨t, by simp, Tally.isFor_iff.1 ht, map_eq_error.1 he⟩
    · rintro ⟨t, ht, hkey, he⟩
      -- no tally in front of this one has its key
      obtain ⟨before, after, rfl⟩ := List.append_of_mem ht
      rw [List.map_append, List.map_cons] at hnodup
      have hbefore := (List.nodup_append.1 hnodup).2.2
      refine ⟨before, t, after, rfl, fun u hu => ?_, Tally.isFor_iff.2 hkey, map_eq_error.2 he⟩
      refine Bool.eq_false_iff.2 fun hfor => ?_
      exact hbefore u.key (List.mem_map_of_mem hu) t.key List.mem_cons_self
        ((Tally.isFor_iff.1 hfor).trans hkey.symm)
  · have hout : ∀ t ∈ tallies, t.key ≠ (Text.toLower provider.chain, strategy) :=
      fun t ht hkey => hin (any_isFor_iff.2 ⟨t, ht, hkey⟩)
    rw [if_neg hin, or_iff_right fun ⟨t, ht, hkey, _⟩ => hout t ht hkey, and_iff_right hout,
      bind_eq_error, Position.route_eq_error]
    refine or_iff_left ?_
    rintro ⟨vault, -, h⟩
    exact absurd h (by simp [pure, Except.pure])

/-- A known key has a tally, which is of the tokens of its first position. -/
theorem exists_tally_of_first (h : before.foldlM (tallyPosition tokens vaults) [] = .ok tallies)
    {key : TallyKey} {first : Provider × Position}
    (hfirst : first ∈ (positionsOf key before).head?) :
    ∃ t ∈ tallies, t.key = key ∧ first.2.baseSymbol = t.strategy.baseSymbol
      ∧ first.2.quoteSymbol = t.strategy.quoteSymbol := by
  have hmem := List.mem_of_mem_head? hfirst
  obtain ⟨hbefore, hkey⟩ := mem_positionsOf.1 hmem
  obtain ⟨t, ht, rfl⟩ := (talliesOf_fold h).exists_tally hbefore hkey
  exact ⟨t, ht, rfl, (madeOf_fold h t ht).symbols first hmem⟩

/-- **A position is not added to the tally of its key because of what has made the tally.** -/
theorem offence_of_addTo {t : Tally} {strategy : Address} {e : AggregationError}
    (h : t.MadeOf tokens vaults (positionsOf t.key before))
    (hkey : t.key = (Text.toLower r.1.chain, strategy)) (hnames : r.2.Names strategy)
    (hsigns : ∀ side, 0 ≤ (r.2.amount side).value)
    (he : r.2.addTo r.1.chain t.strategy = .error e) : Offence tokens vaults before r e := by
  have hstrategy : t.strategy.address = strategy := congrArg Prod.snd hkey
  rw [hkey] at h
  obtain ⟨first, hfirst, hbase, hquote⟩ := h.exists_first
  rcases Position.addTo_eq_error.1 he with ⟨hother, rfl⟩ | ⟨hsame, ⟨side, hsum⟩, rfl⟩
  · rw [hstrategy, ← hbase, ← hquote]
    rw [← hbase, ← hquote] at hother
    exact .otherTokens hnames hsigns hfirst fun hsame => hother ⟨hsame.1.symm, hsame.2.symm⟩
  · rw [hstrategy]
    rw [← hbase, ← hquote] at hsame
    exact .overflow hnames hsigns hfirst ⟨hsame.1.symm, hsame.2.symm⟩
      ((h.nextSum side r).trans hsum)

/-- **A position goes wrong exactly if something is wrong with it.** -/
theorem offence_iff (h : before.foldlM (tallyPosition tokens vaults) [] = .ok tallies)
    {e : AggregationError} :
    tallyPosition tokens vaults tallies r = .error e ↔ Offence tokens vaults before r e := by
  have hof := talliesOf_fold h
  have hmade := madeOf_fold h
  rw [tallyPosition_eq_error hof.nodup]
  constructor
  · rintro (hmisnamed | ⟨strategy, hnames, ⟨hbase, rfl⟩ | ⟨hbase, ⟨hquote, rfl⟩ |
      ⟨hquote, ⟨t, ht, hkey, hadd⟩ | ⟨hout, hmisrouted⟩⟩⟩⟩)
    · exact .misnamed hmisnamed
    · exact .negativeBase hnames hbase
    · exact .negativeQuote hnames hbase hquote
    · exact offence_of_addTo (hmade t ht) hkey hnames (Side.forall_iff.2 ⟨hbase, hquote⟩) hadd
    · refine .misrouted hnames (Side.forall_iff.2 ⟨hbase, hquote⟩) ?_ hmisrouted
      refine positionsOf_eq_nil.2 fun q hq hqkey => ?_
      obtain ⟨t, ht, htkey⟩ := hof.exists_tally hq hqkey
      exact hout t ht htkey
  · intro hoffence
    cases hoffence with
    | misnamed hmisnamed => exact .inl hmisnamed
    | negativeBase hnames hbase => exact .inr ⟨_, hnames, .inl ⟨hbase, rfl⟩⟩
    | negativeQuote hnames hbase hquote =>
      exact .inr ⟨_, hnames, .inr ⟨hbase, .inl ⟨hquote, rfl⟩⟩⟩
    | otherTokens hnames hsigns hfirst hother =>
      obtain ⟨t, ht, hkey, hbase, hquote⟩ := exists_tally_of_first h hfirst
      obtain rfl := congrArg Prod.snd hkey
      refine .inr ⟨_, hnames, .inr ⟨hsigns .base, .inr ⟨hsigns .quote, .inl ⟨t, ht, hkey, ?_⟩⟩⟩⟩
      rw [hbase, hquote]
      refine Position.addTo_eq_error.2 (.inl ⟨fun hsame => hother ?_, rfl⟩)
      exact ⟨hsame.1.symm.trans hbase.symm, hsame.2.symm.trans hquote.symm⟩
    | @overflow _ _ side hnames hsigns hfirst hsame hsum =>
      obtain ⟨t, ht, hkey, hbase, hquote⟩ := exists_tally_of_first h hfirst
      obtain rfl := congrArg Prod.snd hkey
      refine .inr ⟨_, hnames, .inr ⟨hsigns .base, .inr ⟨hsigns .quote, .inl ⟨t, ht, hkey, ?_⟩⟩⟩⟩
      refine Position.addTo_eq_error.2 (.inr ⟨⟨?_, ?_⟩, ⟨side, ?_⟩, rfl⟩)
      · exact (hsame.1.trans hbase).symm
      · exact (hsame.2.trans hquote).symm
      · rw [← (hmade t ht).nextSum side r, hkey]
        exact hsum
    | misrouted hnames hsigns hnew hmisrouted =>
      refine .inr ⟨_, hnames, .inr ⟨hsigns .base, .inr ⟨hsigns .quote, .inr ⟨?_, hmisrouted⟩⟩⟩⟩
      intro t ht hkey
      obtain ⟨q, hq, hqkey⟩ := hof.exists_position ht
      exact positionsOf_eq_nil.1 hnew q hq (hqkey.trans (congrArg some hkey))

/-- **A report that is acceptable is accepted.** -/
theorem exists_fold_of_acceptable (h : Acceptable tokens vaults reported) :
    ∃ tallies, reported.foldlM (tallyPosition tokens vaults) [] = .ok tallies := by
  induction reported using List.reverseRecOn with
  | nil => exact ⟨[], rfl⟩
  | append_singleton before r ih =>
    obtain ⟨tallies, htallies⟩ := ih h.dropLast
    cases hr : tallyPosition tokens vaults tallies r with
    | ok tallies' => exact ⟨tallies', foldlM_concat_eq_ok.2 ⟨tallies, htallies, hr⟩⟩
    | error e => exact absurd ((offence_iff htallies).1 hr) (h.no_offence e)

theorem fold_eq_error {e : AggregationError} :
    reported.foldlM (tallyPosition tokens vaults) [] = .error e ↔
      ∃ before r after, reported = before ++ r :: after ∧ Acceptable tokens vaults before
        ∧ Offence tokens vaults before r e := by
  rw [foldlM_eq_error]
  constructor
  · rintro ⟨before, r, after, tallies, hsplit, htallies, he⟩
    exact ⟨before, r, after, hsplit, acceptable_of_fold htallies, (offence_iff htallies).1 he⟩
  · rintro ⟨before, r, after, hsplit, hbefore, hoffence⟩
    obtain ⟨tallies, htallies⟩ := exists_fold_of_acceptable hbefore
    exact ⟨before, r, after, tallies, hsplit, htallies, (offence_iff htallies).2 hoffence⟩

end

/--
**A report is accepted exactly if it can be claimed for, and otherwise refused for its first
position that cannot.**

What makes a report acceptable is said of its positions alone. A report that is refused begins with
positions that would have been accepted on their own, and the error says what is wrong with the
next: its address, its base amount, its quote amount, and then what it adds to, or where it leads if
there is nothing yet. Whatever comes later, the error is the same.
-/
theorem accepted_iff_acceptable (tokens : TokenRegistry) (vaults : List Vault)
    (providers : List Provider) :
    ((∃ claims, aggregateClaims tokens vaults providers = .ok claims) ↔
        Acceptable tokens vaults (reportedPositions providers))
      ∧ (∀ e, aggregateClaims tokens vaults providers = .error e ↔
        ∃ before r after, reportedPositions providers = before ++ r :: after
          ∧ Acceptable tokens vaults before ∧ Offence tokens vaults before r e)
      ∧ ∀ e, aggregateClaims tokens vaults providers = .error e →
        ∃ before r, before ++ [r] <+: reportedPositions providers
          ∧ ∀ providers', before ++ [r] <+: reportedPositions providers' →
            aggregateClaims tokens vaults providers' = .error e := by
  have hrefused : ∀ (providers : List Provider) (e : AggregationError),
      aggregateClaims tokens vaults providers = .error e ↔
        ∃ before r after, reportedPositions providers = before ++ r :: after
          ∧ Acceptable tokens vaults before ∧ Offence tokens vaults before r e :=
    fun providers e => map_eq_error.trans fold_eq_error
  refine ⟨⟨?_, fun h => ?_⟩, hrefused providers, fun e he => ?_⟩
  · rintro ⟨claims, h⟩
    obtain ⟨tallies, htallies, -⟩ := map_eq_ok.1 h
    exact acceptable_of_fold htallies
  · obtain ⟨tallies, htallies⟩ := exists_fold_of_acceptable h
    exact ⟨gatherAll tallies, map_eq_ok.2 ⟨tallies, htallies, rfl⟩⟩
  · obtain ⟨before, r, after, hsplit, hbefore, hoffence⟩ := (hrefused providers e).1 he
    refine ⟨before, r, ⟨after, by rw [hsplit, List.append_assoc, List.singleton_append]⟩, ?_⟩
    rintro providers' ⟨after', hsplit'⟩
    rw [List.append_assoc, List.singleton_append] at hsplit'
    exact (hrefused providers' e).2 ⟨before, r, after', hsplit'.symm, hbefore, hoffence⟩

end Treasury
