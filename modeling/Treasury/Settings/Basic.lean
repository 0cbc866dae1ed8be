import Treasury.Log
import Treasury.Registry.Chains
import Treasury.Registry.Tokens
import Treasury.Settings.Toml.Parse
import Treasury.Settings.Url

/-!
# Settings

What the treasury is told in its settings file: where its data is, the chains and tokens it
deals with, and whom to tell. `SettingsDocument.ofText?` reads the file; a key it does not
know refuses the file. `Settings.accept` then checks that the parts fit together.
-/

namespace Treasury

/-- Where reports are posted, and whom alerts call upon. -/
structure AlertSettings where
  webhook : Url
  recipients : List String
  deriving DecidableEq, Repr

/-- The settings as they are written. -/
structure SettingsDocument where
  databaseUrl : String
  logLevel : Option LogLevel
  liquidityUrl : Url
  chains : NameMap ChainInfo
  tokens : List TokenEntry
  alerts : Option AlertSettings

namespace SettingsDocument

/-! ## Readers -/

/-- A way to read a value; there is only one way to fail. -/
abbrev Reader (α : Type) := Toml → Option α

/-- Text. -/
def text : Reader String
  | .text s => some s
  | _ => none

/-- A whole number from zero up to below `high`. -/
def natural (high : Nat) : Reader Nat
  | .integer n => if 0 ≤ n ∧ n < high then some n.toNat else none
  | _ => none

/-- A machine word. -/
def word : Reader UInt64 := fun v => (natural UInt64.size v).map UInt64.ofNat

/-- A byte. -/
def byte : Reader UInt8 := fun v => (natural UInt8.size v).map UInt8.ofNat

/-- The values of an array. -/
def list {α : Type} (read : Reader α) : Reader (List α)
  | .array _ items => items.mapM read
  | _ => none

/-- An address, as text or as its bytes. Behind the bytes anything may follow, if it starts with
something that is no byte; it is passed over. -/
def address : Reader Address
  | .text s => FixedBytes.ofText? s
  | .array _ items =>
    if ((items.drop 20).head?.bind byte).isSome then none
    else ((items.take 20).mapM byte).bind FixedBytes.ofBytes?
  | _ => none

/-- An address on the net. -/
def url : Reader Url
  | .text s => Url.ofText? s
  | _ => none

/-- A level, by its name alone or as the key of an empty table. -/
def level : Reader LogLevel
  | .text s => LogLevel.all.find? (·.tag = s)
  | .table _ [(name, .table _ [])] => LogLevel.all.find? (·.tag = name)
  | .table _ [(name, .array _ [])] => LogLevel.all.find? (·.tag = name)
  | _ => none

/-- The fields `names` of a record, written as a table without other keys or as an array
with the fields in order. -/
def fields (names : List String) : Reader (List (String × Toml))
  | .table _ entries =>
    if entries.all fun entry => names.contains entry.1 then some entries else none
  | .array _ items => some (names.zip items)
  | _ => none

/-- A field that has to be there. -/
def required {α : Type} (entries : List (String × Toml)) (name : String) (read : Reader α) :
    Option α :=
  (entries.lookup name).bind read

/-- A field that may be missing. -/
def optional {α : Type} (entries : List (String × Toml)) (name : String) (read : Reader α) :
    Option (Option α) :=
  match entries.lookup name with
  | some v => (read v).map some
  | none => some none

/-! ## The document -/

/-- Reads a chain. -/
def chain : Reader ChainInfo := fun v => do
  let entries ← fields ["chain_id", "bridge_address", "gas_price", "gas_limit"] v
  return ⟨← required entries "chain_id" word, ← required entries "bridge_address" address,
    ← required entries "gas_price" word, ← required entries "gas_limit" word⟩

/-- Reads the table of chains by their names. -/
def chainTable : Reader (NameMap ChainInfo)
  | .table _ entries =>
    (entries.mapM fun entry => (chain entry.2).map fun c => (entry.1, c)).map NameMap.ofList
  | _ => none

/-- Reads a token. -/
def token : Reader TokenEntry := fun v => do
  let entries ← fields ["chain", "symbol", "decimals", "currency"] v
  return ⟨← required entries "chain" text, ← required entries "symbol" text,
    ← required entries "decimals" byte, ← required entries "currency" text⟩

/-- Reads where reports go. -/
def alertSettings : Reader AlertSettings := fun v => do
  let entries ← fields ["webhook_url", "recipients"] v
  let webhook ← required entries "webhook_url" url
  let recipients ← optional entries "recipients" (list text)
  return ⟨webhook, recipients.getD []⟩

/-- Reads the whole document. -/
def read : Reader SettingsDocument := fun v => do
  let entries ← fields
    ["database_url", "log_level", "liquidity_url", "chains", "tokens", "alerts"] v
  let databaseUrl ← required entries "database_url" text
  let logLevel ← optional entries "log_level" level
  let liquidityUrl ← required entries "liquidity_url" url
  let chains ← optional entries "chains" chainTable
  let tokens ← optional entries "tokens" (list token)
  let alerts ← optional entries "alerts" alertSettings
  return ⟨databaseUrl, logLevel, liquidityUrl, chains.getD NameMap.empty, tokens.getD [], alerts⟩

/-- Reads the text of a settings file. -/
def ofText? (text : String) : Option SettingsDocument :=
  (Toml.parse? text).bind fun entries => read (.table .header entries)

end SettingsDocument

/-! ## Accepted settings -/

/-- Why settings are refused. -/
inductive SettingsError where
  | unreadable
  | malformed
  | invalidChain (cause : InvalidChain)
  | tokenOnUnknownChain (chain symbol : String)
  | duplicateToken (cause : DuplicateToken)
  deriving DecidableEq, Repr

/-- The sentence shown for an error. -/
def SettingsError.message : SettingsError → String
  | unreadable => "failed to read config file"
  | malformed => "failed to parse TOML"
  | invalidChain cause => cause.message
  | tokenOnUnknownChain chain symbol => s!"token {symbol} references unconfigured chain {chain}"
  | duplicateToken cause => cause.message

/-- Settings whose parts fit together. -/
structure Settings where
  databaseUrl : String
  logLevel : LogLevel
  liquidityUrl : Url
  chains : Chains
  tokens : Tokens
  alerts : Option AlertSettings

namespace Settings

/-- The first token on a chain that is not in the table. -/
def strayToken? (chains : Chains) (tokens : List TokenEntry) : Option TokenEntry :=
  tokens.find? fun token => (chains.get? token.chain).isNone

/-- Checks the chains, then the chains of the tokens, then that no token comes twice. -/
def accept (d : SettingsDocument) : Except SettingsError Settings :=
  match Chains.ofConfigured d.chains with
  | .error cause => .error (.invalidChain cause)
  | .ok chains =>
    match strayToken? chains d.tokens with
    | some token => .error (.tokenOnUnknownChain token.chain token.symbol)
    | none =>
      match Tokens.ofList d.tokens with
      | .error cause => .error (.duplicateToken cause)
      | .ok tokens =>
        .ok ⟨d.databaseUrl, d.logLevel.getD .debug, d.liquidityUrl, chains, tokens, d.alerts⟩

/-- The settings that the text of a file makes. -/
def ofText (text : String) : Except SettingsError Settings :=
  match SettingsDocument.ofText? text with
  | none => .error .malformed
  | some d => accept d

/-- The settings of a file, of which the text is known if it could be read. -/
def ofFile : Option String → Except SettingsError Settings
  | some text => ofText text
  | none => .error .unreadable

end Settings

end Treasury
