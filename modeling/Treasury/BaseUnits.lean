import Treasury.Word256

/-!
# Base units

A contract counts a token in its smallest unit: with six decimals, `1.5` tokens are
`1500000` units. `toBaseUnits` and `fromBaseUnits` convert between the two without ever
rounding: an amount finer than the unit is refused, and so is a number of units that no
amount can show.
-/

namespace Treasury

/-- Why an amount and a number of units have no counterpart. -/
inductive BaseUnitsError where
  | negative (amount : Decimal)
  | nonIntegral (amount : Decimal) (decimals : UInt8)
  | overflow (amount : Decimal) (decimals : UInt8)
  | unrepresentable (value : Word256) (decimals : UInt8)
  deriving DecidableEq, Repr

namespace BaseUnitsError

/-- The sentence shown for an error. -/
def message : BaseUnitsError → String
  | negative amount => s!"Amount cannot be negative: {amount}"
  | nonIntegral amount decimals =>
    s!"Amount {amount} is not representable with {decimals} decimals"
  | overflow amount decimals => s!"Amount {amount} scaled by 10^{decimals} overflows U256"
  | unrepresentable value decimals =>
    s!"Base-unit value {value} with {decimals} decimals does not fit a Decimal"

end BaseUnitsError

/-- The number of base units in `amount` of a token with `decimals` decimals. -/
def toBaseUnits (amount : Decimal) (decimals : UInt8) : Except BaseUnitsError Word256 :=
  if amount.isNegative then .error (.negative amount)
  else
    let least := amount.normalize
    if decimals.toNat < least.scale then .error (.nonIntegral amount decimals)
    else
      let factor := Nat.pow 10 (decimals.toNat - least.scale)
      if factor < Word256.size then
        match Word256.ofNat? (least.coefficient.natAbs * factor) with
        | some value => .ok value
        | none => .error (.overflow amount decimals)
      else .error (.overflow amount decimals)

/-- The amount that `value` base units are, in the fewest places. -/
def fromBaseUnits (value : Word256) (decimals : UInt8) : Except BaseUnitsError Decimal :=
  if value.toNat = 0 then .ok Decimal.zero
  else
    let least := Decimal.stripZeros value.toNat decimals.toNat
    match Decimal.ofParts? least.1 least.2 with
    | some amount => .ok amount
    | none => .error (.unrepresentable value decimals)

end Treasury
