import Treasury.Proofs.Registry
import Treasury.Proofs.Settings.Accepted

/-!
# Which settings are accepted

A document that can be read is refused for one of four reasons only: a chain without gas, two chains
of one name, a token on no chain of the document, two tokens of one symbol on one chain
(`SettingsDocument.Consistent`). Names of chains count in lower case here. As they are kept and
looked up in lower case too, the tables that are made of an accepted document say of every name,
however it is spelled, what the document says (`Settings.Answers`): none of its entries is lost
behind another, and none was added.
-/

namespace Treasury

/-- The chains and tokens of a document fit together. -/
structure SettingsDocument.Consistent (d : SettingsDocument) : Prop where
  gas : ∀ entry ∈ d.chains.entries, 0 < entry.2.gasLimit
  /-- No two chains have one name in lower case. -/
  names : d.chains.entries.Pairwise fun a b => Text.toLower a.1 ≠ Text.toLower b.1
  /-- Every token is on a chain of the document. -/
  known : ∀ token ∈ d.tokens, ∃ entry ∈ d.chains.entries,
    Text.toLower entry.1 = Text.toLower token.chain
  /-- No two tokens of one symbol are on one chain. -/
  symbols : d.tokens.Pairwise fun a b =>
    (Text.toLower a.chain, a.symbol) ≠ (Text.toLower b.chain, b.symbol)

namespace Settings

/-- The tables say what the document says. -/
structure Answers (settings : Settings) (d : SettingsDocument) : Prop where
  /-- Every chain is found under its name, in whatever case. -/
  chain : ∀ entry ∈ d.chains.entries, ∀ name, Text.toLower name = Text.toLower entry.1 →
    settings.chains.get? name = some entry.2
  /-- Under other names nothing is found. -/
  noChain : ∀ name, (∀ entry ∈ d.chains.entries, Text.toLower entry.1 ≠ Text.toLower name) →
    settings.chains.get? name = none
  /-- What is found by its number is found under the name that comes with it. -/
  numbered : ∀ id name info, settings.chains.findById? id = some (name, info) →
    settings.chains.get? name = some info
  /-- Every token is found under its symbol and the name of its chain, in whatever case. -/
  token : ∀ entry ∈ d.tokens, ∀ chain, Text.toLower chain = Text.toLower entry.chain →
    settings.tokens.decimals? chain entry.symbol = some entry.decimals
      ∧ settings.tokens.currency? chain entry.symbol = some entry.currency
  /-- Under other symbols and on other chains nothing is found. -/
  noToken : ∀ chain symbol,
    (∀ entry ∈ d.tokens, (Text.toLower entry.chain, entry.symbol) ≠ (Text.toLower chain, symbol)) →
    settings.tokens.decimals? chain symbol = none ∧ settings.tokens.currency? chain symbol = none

variable {d : SettingsDocument} {settings : Settings}

/-- No token is astray if all are on chains that are configured. -/
theorem strayToken?_eq_none {configured : NameMap ChainInfo} {chains : Chains}
    (h : Chains.ofConfigured configured = .ok chains) {tokens : List TokenEntry} :
    strayToken? chains tokens = none ↔ ∀ token ∈ tokens, ∃ entry ∈ configured.entries,
      Text.toLower entry.1 = Text.toLower token.chain := by
  refine List.find?_eq_none.trans (forall₂_congr fun token _ => ?_)
  rw [Option.isNone_iff_eq_none, ← ne_eq, Option.ne_none_iff_exists']
  constructor
  · rintro ⟨info, hinfo⟩
    obtain ⟨entry, hentry, hname, -⟩ := (Chains.get?_ofConfigured h _ _).1 hinfo
    exact ⟨entry, hentry, hname⟩
  · rintro ⟨entry, hentry, hname⟩
    exact ⟨entry.2, (Chains.get?_ofConfigured h _ _).2 ⟨entry, hentry, hname, rfl⟩⟩

/-- **A document is accepted if it is consistent.** -/
theorem exists_accept : (∃ settings, accept d = .ok settings) ↔ d.Consistent := by
  simp only [accept_eq_ok]
  constructor
  · rintro ⟨_, chains, tokens, hchains, hstray, htokens, -⟩
    obtain ⟨hgas, hnames⟩ := Chains.exists_ofConfigured.1 ⟨chains, hchains⟩
    exact ⟨hgas, hnames, (strayToken?_eq_none hchains).1 hstray,
      Tokens.exists_ofList.1 ⟨tokens, htokens⟩⟩
  · intro h
    obtain ⟨chains, hchains⟩ := Chains.exists_ofConfigured.2 ⟨h.gas, h.names⟩
    obtain ⟨tokens, htokens⟩ := Tokens.exists_ofList.2 h.symbols
    exact ⟨_, chains, tokens, hchains, (strayToken?_eq_none hchains).2 h.known, htokens, rfl⟩

/-- **Its tables say what it says.** -/
theorem answers_of_accept (h : accept d = .ok settings) : settings.Answers d := by
  obtain ⟨chains, tokens, hchains, -, htokens, rfl⟩ := accept_eq_ok.1 h
  have hget := Chains.get?_ofConfigured hchains
  have hfind := Tokens.find?_ofList htokens
  refine ⟨fun entry hentry name hname => ?_, fun name hnone => ?_, fun id name info hfound => ?_,
    fun entry hentry chain hchain => ?_, fun chain symbol hnone => ?_⟩
  · exact (hget name entry.2).2 ⟨entry, hentry, hname.symm, rfl⟩
  · refine Option.eq_none_iff_forall_ne_some.2 fun info hinfo => ?_
    obtain ⟨entry, hentry, hname, -⟩ := (hget name info).1 hinfo
    exact hnone entry hentry hname
  · exact Chains.get?_of_findById? hchains hfound
  · have hkey : Tokens.key entry.chain entry.symbol = Tokens.key chain entry.symbol :=
      congrArg (·, entry.symbol) hchain.symm
    have htoken := (hfind chain entry.symbol _).2 ⟨entry, hentry, hkey, rfl⟩
    exact ⟨congrArg (Option.map TokenInfo.decimals) htoken,
      congrArg (Option.map TokenInfo.currency) htoken⟩
  · have htoken : tokens.find? chain symbol = none := by
      refine Option.eq_none_iff_forall_ne_some.2 fun info hinfo => ?_
      obtain ⟨entry, hentry, hkey, -⟩ := (hfind chain symbol info).1 hinfo
      exact hnone entry hentry hkey
    exact ⟨congrArg (Option.map TokenInfo.decimals) htoken,
      congrArg (Option.map TokenInfo.currency) htoken⟩

/--
**Which settings are accepted, and what they answer.**

A text that can be read as settings is accepted just if what it says is consistent. The tables of
chains and tokens then find every entry under every spelling that has the same lower case, and
nothing else; and a chain that is found by its number is the one that its name leads to.
-/
theorem accepted_iff_consistent {text : String} (h : SettingsDocument.ofText? text = some d) :
    ((∃ settings, ofText text = .ok settings) ↔ d.Consistent)
      ∧ ∀ settings, ofText text = .ok settings → settings.Answers d := by
  unfold ofText
  rw [h]
  exact ⟨exists_accept, fun _ => answers_of_accept⟩

/-- A settings file in which a chain is called by different spellings of one name. Its last letter
has another form in lower case where it ends the word. -/
def streetText : String := "database_url='t'
liquidity_url='http://a/'
tokens=[['Οδος','USDT',18,'USD']]
chains.'ΟΔΟΣ'=[56,'0x0101010101010101010101010101010101010101',1,21000]
"

theorem accepted_iff_consistent_street : ∃ d settings,
    SettingsDocument.ofText? streetText = some d ∧ d.Consistent
      ∧ ofText streetText = .ok settings ∧ settings.Answers d
      ∧ (settings.chains.get? "οδος").map (·.chainId) = some 56
      ∧ settings.chains.get? "οδοσ" = none
      ∧ settings.tokens.decimals? "ΟΔΟΣ" "USDT" = some 18 := by
  have hmade : (match ofText streetText with
    | .ok settings => decide ((settings.chains.get? "οδος").map (·.chainId) = some 56
        ∧ settings.chains.get? "οδοσ" = none
        ∧ settings.tokens.decimals? "ΟΔΟΣ" "USDT" = some 18)
    | .error _ => false) = true := by decide +kernel
  cases hsettings : ofText streetText with
  | error e =>
    rw [hsettings] at hmade
    exact absurd hmade (by simp)
  | ok settings =>
    rw [hsettings] at hmade
    cases hd : SettingsDocument.ofText? streetText with
    | none =>
      unfold ofText at hsettings
      rw [hd] at hsettings
      exact absurd hsettings (by simp)
    | some d =>
      obtain ⟨hiff, hanswers⟩ := accepted_iff_consistent hd
      exact ⟨d, settings, rfl, hiff.1 ⟨settings, hsettings⟩, rfl, hanswers settings hsettings,
        of_decide_eq_true hmade⟩

end Settings

end Treasury
