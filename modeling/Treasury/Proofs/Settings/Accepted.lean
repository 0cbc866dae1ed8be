import Treasury.Proofs.Except
import Treasury.Proofs.Settings.Toml
import Treasury.Proofs.Text.NameMap
import Treasury.Settings.Basic
import Treasury.Store.Tasks

/-!
# What accepted settings have

A number of the settings file is not larger than what a column of the store holds, and the file is
refused if a chain has no gas or if a token is on a chain that it does not name. So whoever works by
settings that were accepted finds a chain wherever a token is known (`Settings.Sound.chain`),
and can store what the chain table says (`Settings.Sound.usable`).
-/

namespace Treasury

/-! ## Reading -/

namespace SettingsDocument

theorem toNat_le_of_word {v : Toml} {w : UInt64} (hv : v.InRange) (h : word v = some w) :
    w.toNat ≤ maxColumn := by
  obtain ⟨n, hn, rfl⟩ := Option.map_eq_some_iff.1 h
  unfold natural at hn
  split at hn
  · rename_i m
    have hlt := hv.integer_lt
    split at hn
    · cases hn
      have hmod := Nat.mod_le m.toNat (2 ^ 64)
      rw [UInt64.toNat_ofNat']
      unfold maxColumn
      omega
    · exact absurd hn (by simp)
  · exact absurd hn (by simp)

theorem inRange_fields {names : List String} {v : Toml} {entries : Toml.Entries} (hv : v.InRange)
    (h : fields names v = some entries) : Toml.EntriesInRange entries := by
  unfold fields at h
  split at h
  · split at h
    · cases h
      exact hv.entries
    · exact absurd h (by simp)
  · cases h
    exact fun entry hentry => hv.items _ (List.of_mem_zip hentry).2
  · exact absurd h (by simp)

theorem toNat_le_of_required {entries : Toml.Entries} {name : String} {w : UInt64}
    (hentries : Toml.EntriesInRange entries) (h : required entries name word = some w) :
    w.toNat ≤ maxColumn := by
  obtain ⟨v, hv, hw⟩ := Option.bind_eq_some_iff.1 h
  exact toNat_le_of_word (Toml.inRange_of_lookup hentries hv) hw

end SettingsDocument

/-- The numbers of a chain that are stored with each transaction fit their columns. -/
structure ChainInfo.Fits (c : ChainInfo) : Prop where
  chainId : c.chainId.toNat ≤ maxColumn
  gasLimit : c.gasLimit.toNat ≤ maxColumn

namespace SettingsDocument

theorem fits_of_chain {v : Toml} {c : ChainInfo} (hv : v.InRange) (h : chain v = some c) :
    c.Fits := by
  obtain ⟨entries, hentries, h⟩ := Option.bind_eq_some_iff.1 h
  obtain ⟨chainId, hid, h⟩ := Option.bind_eq_some_iff.1 h
  obtain ⟨bridge, -, h⟩ := Option.bind_eq_some_iff.1 h
  obtain ⟨gasPrice, -, h⟩ := Option.bind_eq_some_iff.1 h
  obtain ⟨gasLimit, hgas, h⟩ := Option.bind_eq_some_iff.1 h
  cases h
  have hentries := inRange_fields hv hentries
  exact ⟨toNat_le_of_required hentries hid, toNat_le_of_required hentries hgas⟩

/-- Every chain of a table has been read from one entry. -/
theorem fits_of_chainEntries {entries : Toml.Entries} {chains : List (String × ChainInfo)}
    (hentries : Toml.EntriesInRange entries)
    (h : (entries.mapM fun entry => (chain entry.2).map fun c => (entry.1, c)) = some chains) :
    ∀ entry ∈ chains, entry.2.Fits := by
  induction entries generalizing chains with
  | nil =>
    cases h
    exact fun _ h => absurd h List.not_mem_nil
  | cons first rest ih =>
    rw [List.mapM_cons] at h
    obtain ⟨entry, hentry, h⟩ := Option.bind_eq_some_iff.1 h
    obtain ⟨others, hothers, h⟩ := Option.bind_eq_some_iff.1 h
    cases h
    obtain ⟨c, hc, rfl⟩ := Option.map_eq_some_iff.1 hentry
    have hrest := ih (fun e he => hentries e (List.mem_cons_of_mem _ he)) hothers
    exact List.forall_mem_cons.2 ⟨fits_of_chain (hentries first List.mem_cons_self) hc, hrest⟩

theorem fits_of_chainTable {v : Toml} {chains : NameMap ChainInfo} (hv : v.InRange)
    (h : chainTable v = some chains) : ∀ entry ∈ chains.entries, entry.2.Fits := by
  unfold chainTable at h
  split at h
  · obtain ⟨list, hlist, rfl⟩ := Option.map_eq_some_iff.1 h
    -- of two chains of one name the map has the later one, which was read like the other
    exact fun entry hentry =>
      fits_of_chainEntries hv.entries hlist entry (NameMap.mem_of_mem_ofList hentry)
  · exact absurd h (by simp)

theorem fits_of_read {v : Toml} {d : SettingsDocument} (hv : v.InRange) (h : read v = some d) :
    ∀ entry ∈ d.chains.entries, entry.2.Fits := by
  obtain ⟨entries, hentries, h⟩ := Option.bind_eq_some_iff.1 h
  obtain ⟨databaseUrl, -, h⟩ := Option.bind_eq_some_iff.1 h
  obtain ⟨logLevel, -, h⟩ := Option.bind_eq_some_iff.1 h
  obtain ⟨liquidityUrl, -, h⟩ := Option.bind_eq_some_iff.1 h
  obtain ⟨chains, hchains, h⟩ := Option.bind_eq_some_iff.1 h
  obtain ⟨tokens, -, h⟩ := Option.bind_eq_some_iff.1 h
  obtain ⟨alerts, -, h⟩ := Option.bind_eq_some_iff.1 h
  cases h
  have hentries := inRange_fields hv hentries
  unfold optional at hchains
  split at hchains
  · rename_i table htable
    obtain ⟨read, hread, rfl⟩ := Option.map_eq_some_iff.1 hchains
    exact fits_of_chainTable (Toml.inRange_of_lookup hentries htable) hread
  · cases hchains
    exact fun _ h => absurd h List.not_mem_nil

/-- **The chains of a settings file have numbers that fit.** -/
theorem fits_of_ofText? {text : String} {d : SettingsDocument} (h : ofText? text = some d) :
    ∀ entry ∈ d.chains.entries, entry.2.Fits := by
  obtain ⟨entries, hentries, h⟩ := Option.bind_eq_some_iff.1 h
  exact fits_of_read (.table _ (Toml.inRange_of_parse? hentries)) h

end SettingsDocument

/-! ## Checking -/

/-- A chain whose numbers fit, and which has gas. -/
structure ChainInfo.Usable (c : ChainInfo) : Prop extends c.Fits where
  gas : c.gasLimit ≠ 0

theorem Chains.usable_of_ofConfigured {configured : NameMap ChainInfo} {chains : Chains}
    (hfits : ∀ entry ∈ configured.entries, entry.2.Fits)
    (h : ofConfigured configured = .ok chains) :
    ∀ entry ∈ chains.byName.entries, entry.2.Usable := by
  refine foldlM_keeps (P := fun chains => ∀ entry ∈ chains.byName.entries, entry.2.Usable)
    (fun before entry hentry after hbefore hadd => ?_) (fun _ h => absurd h List.not_mem_nil) h
  unfold add at hadd
  split at hadd
  · exact absurd hadd (by simp)
  · rename_i hgas
    dsimp only at hadd
    split at hadd
    · exact absurd hadd (by simp)
    · cases hadd
      intro e he
      rcases NameMap.mem_of_mem_insertEntry he with rfl | he
      · exact ⟨hfits entry hentry, hgas⟩
      · exact hbefore e he

/-- Whatever key is known is that of a token in the list. -/
theorem Tokens.exists_of_ofList {entries : List TokenEntry} {tokens : Tokens}
    (h : ofList entries = .ok tokens) :
    ∀ known ∈ tokens.entries, ∃ entry ∈ entries, known.1 = key entry.chain entry.symbol := by
  refine foldlM_keeps (P := fun tokens : Tokens => ∀ known ∈ tokens.entries, ∃ entry ∈ entries,
      known.1 = key entry.chain entry.symbol)
    (fun before entry hentry after hbefore hadd => ?_) (fun _ h => absurd h List.not_mem_nil) h
  unfold add at hadd
  dsimp only at hadd
  split at hadd
  · exact absurd hadd (by simp)
  · cases hadd
    intro known hknown
    rcases List.mem_append.mp hknown with hknown | hknown
    · exact hbefore known hknown
    · rw [List.mem_singleton.mp hknown]
      exact ⟨entry, hentry, rfl⟩

/-- What the parts of accepted settings have to do with each other and with the store. -/
structure Settings.Sound (settings : Settings) : Prop where
  /-- The store takes what the chain table says. -/
  usable : ∀ entry ∈ settings.chains.byName.entries, entry.2.Usable
  /-- A known token is on a known chain. -/
  chain : ∀ chain symbol, (settings.tokens.find? chain symbol).isSome →
    (settings.chains.get? chain).isSome

/-- What it takes to accept a document, and what is then made of it. -/
theorem Settings.accept_eq_ok {d : SettingsDocument} {settings : Settings} :
    accept d = .ok settings ↔ ∃ chains tokens, Chains.ofConfigured d.chains = .ok chains
      ∧ strayToken? chains d.tokens = none ∧ Tokens.ofList d.tokens = .ok tokens
      ∧ settings =
        ⟨d.databaseUrl, d.logLevel.getD .debug, d.liquidityUrl, chains, tokens, d.alerts⟩ := by
  unfold accept
  cases Chains.ofConfigured d.chains with
  | error cause => simp
  | ok chains =>
    dsimp only
    cases hstray : strayToken? chains d.tokens with
    | some token => simp [hstray]
    | none => cases Tokens.ofList d.tokens <;> simp [hstray, eq_comm]

theorem Settings.sound_of_accept {d : SettingsDocument} {settings : Settings}
    (hfits : ∀ entry ∈ d.chains.entries, entry.2.Fits) (h : accept d = .ok settings) :
    settings.Sound := by
  obtain ⟨chains, tokens, hchains, hstray, htokens, rfl⟩ := accept_eq_ok.1 h
  refine ⟨Chains.usable_of_ofConfigured hfits hchains, fun chain symbol hknown => ?_⟩
  obtain ⟨info, hinfo⟩ := Option.isSome_iff_exists.1 hknown
  obtain ⟨before, after, hentries, -⟩ := List.lookup_eq_some_iff.1 hinfo
  obtain ⟨entry, hentry, hkey⟩ := Tokens.exists_of_ofList htokens
    (Tokens.key chain symbol, info) (by rw [hentries]; simp)
  -- the names of both chains are the same in lower case, by which chains are looked up
  have hname : Text.toLower chain = Text.toLower entry.chain := congrArg Prod.fst hkey
  have hnone := List.find?_eq_none.1 hstray entry hentry
  show (chains.byName.get? (Text.toLower chain)).isSome
  rw [hname]
  simpa [Chains.get?, Option.isSome_iff_ne_none] using hnone

/-- **Accepted settings are sound.** -/
theorem Settings.sound_of_ofText {text : String} {settings : Settings}
    (h : ofText text = .ok settings) : settings.Sound := by
  unfold ofText at h
  split at h
  · exact absurd h (by simp)
  · exact sound_of_accept (SettingsDocument.fits_of_ofText? ‹_›) h

end Treasury
