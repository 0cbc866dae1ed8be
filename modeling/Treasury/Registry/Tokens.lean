import Treasury.Text.Lowercase

/-!
# Token registry

What has to be known of a token on a chain: how many decimals it has and in which currency
it is accounted. Chain names are compared by their lower-case form, symbols exactly.
-/

namespace Treasury

/-- A way to know of tokens. -/
structure TokenRegistry where
  /-- The decimals of a symbol on a chain. -/
  decimals? : String → String → Option UInt8
  /-- The currency in which a symbol is accounted on a chain. -/
  currency? : String → String → Option String

/-- One token as it is configured. -/
structure TokenEntry where
  chain : String
  symbol : String
  decimals : UInt8
  currency : String
  deriving DecidableEq, Repr

/-- What is known of a token. -/
structure TokenInfo where
  decimals : UInt8
  currency : String
  deriving DecidableEq, Repr

/-- A token is configured twice; the chain is given in lower case. -/
structure DuplicateToken where
  chain : String
  symbol : String
  deriving DecidableEq, Repr

/-- The sentence shown for an error. -/
def DuplicateToken.message (e : DuplicateToken) : String :=
  s!"token {e.symbol} on chain {e.chain} is configured more than once"

/-- The tokens by lower-case chain name and symbol, in the order of their entries. -/
structure Tokens where
  entries : List ((String × String) × TokenInfo)
  deriving DecidableEq, Repr

namespace Tokens

/-- The key an entry is found under. -/
def key (chain symbol : String) : String × String := (Text.toLower chain, symbol)

/-- Adds one entry; a key that is taken is refused. -/
def add (tokens : Tokens) (entry : TokenEntry) : Except DuplicateToken Tokens :=
  let k := key entry.chain entry.symbol
  if (tokens.entries.lookup k).isSome then .error ⟨k.1, k.2⟩
  else .ok ⟨tokens.entries ++ [(k, ⟨entry.decimals, entry.currency⟩)]⟩

/-- The registry of a list of entries. -/
def ofList (entries : List TokenEntry) : Except DuplicateToken Tokens :=
  entries.foldlM add ⟨[]⟩

/-- What is known of `symbol` on `chain`. -/
def find? (tokens : Tokens) (chain symbol : String) : Option TokenInfo :=
  tokens.entries.lookup (key chain symbol)

/-- The decimals of `symbol` on `chain`. -/
def decimals? (tokens : Tokens) (chain symbol : String) : Option UInt8 :=
  (tokens.find? chain symbol).map (·.decimals)

/-- The currency of `symbol` on `chain`. -/
def currency? (tokens : Tokens) (chain symbol : String) : Option String :=
  (tokens.find? chain symbol).map (·.currency)

/-- What the configured tokens say. -/
def registry (tokens : Tokens) : TokenRegistry := ⟨tokens.decimals?, tokens.currency?⟩

instance : Coe Tokens TokenRegistry := ⟨registry⟩

end Tokens

end Treasury
