import Treasury.Chain.Abi
import Treasury.Claim.Error
import Treasury.Claim.Param
import Treasury.Registry.Tokens

/-!
# From claims to calls

A claim becomes one call of its vault with four arrays of one length: the strategies, the
amounts of the two tokens in base units, and a claim number for each strategy, which is zero
because a vault claims everything a strategy holds.
-/

namespace Treasury

/-- One strategy as a call carries it. -/
structure ClaimLine where
  strategy : Address
  base : Word256
  quote : Word256
  claimId : Word256
  deriving DecidableEq, Repr

namespace ClaimLine

/-- An amount of `symbol` on `chain` in base units. -/
def scaled (tokens : TokenRegistry) (chain symbol : String) (amount : Decimal) :
    Except ClaimCallError Word256 :=
  match tokens.decimals? chain symbol with
  | none => .error (.unknownDecimals chain symbol)
  | some decimals =>
    match toBaseUnits amount decimals with
    | .ok value => .ok value
    | .error cause => .error (.amount symbol cause)

/-- The line of a strategy; the base amount is looked at first. -/
def ofStrategy (tokens : TokenRegistry) (chain : String) (s : Strategy) :
    Except ClaimCallError ClaimLine := do
  let base ← scaled tokens chain s.baseSymbol s.baseAmount
  let quote ← scaled tokens chain s.quoteSymbol s.quoteAmount
  return ⟨s.address, base, quote, Word256.zero⟩

end ClaimLine

/-- The signature of the function that is called. -/
def claimSignature : String := "claimAll(address[],uint256[],uint256[],uint256[])"

/-- The bytes of a call with these lines. -/
def encodeClaim (lines : List ClaimLine) : List UInt8 :=
  Abi.selector claimSignature ++ Abi.encodeArrays
    [lines.map fun l => Abi.Slot.ofAddress l.strategy, lines.map fun l => Abi.Slot.ofWord l.base,
      lines.map fun l => Abi.Slot.ofWord l.quote, lines.map fun l => Abi.Slot.ofWord l.claimId]

/-- The lines of a claim. -/
def claimLines (tokens : TokenRegistry) (p : ClaimParam) : Except ClaimCallError (List ClaimLine) :=
  p.strategies.mapM (ClaimLine.ofStrategy tokens p.chainName)

/-- The call of a claim; the first strategy whose amounts cannot be converted refuses it. -/
def buildClaimCall (tokens : TokenRegistry) (p : ClaimParam) : Except ClaimCallError (List UInt8) :=
  (claimLines tokens p).map encodeClaim

/-! ## Reading a call back -/

/-- The lines that four arrays of slots make. -/
def zipLines? : List Abi.Slot → List Abi.Slot → List Abi.Slot → List Abi.Slot →
    Option (List ClaimLine)
  | [], [], [], [] => some []
  | strategy :: strategies, base :: bases, quote :: quotes, claimId :: claimIds => do
    let line : ClaimLine := ⟨← strategy.toAddress?, ← base.toWord?, ← quote.toWord?,
      ← claimId.toWord?⟩
    return line :: (← zipLines? strategies bases quotes claimIds)
  | _, _, _, _ => none

/-- The lines of a call, if the bytes are one. -/
def decodeClaim? (data : List UInt8) : Option (List ClaimLine) :=
  if data.take 4 = Abi.selector claimSignature then
    match Abi.decodeArrays? 4 (data.drop 4) with
    | some [strategies, bases, quotes, claimIds] => zipLines? strategies bases quotes claimIds
    | _ => none
  else none

end Treasury
