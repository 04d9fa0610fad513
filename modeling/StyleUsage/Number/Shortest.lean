/-! # Shortest decimals

A finite float is a dyadic number. The decimal that stands for it is the one with the fewest
digits among those that are nearer to it than to any other float, and of these the nearest. -/

namespace StyleUsage.Number

/-- The size of a finite float, `mantissa * 2 ^ exponent`. At the least mantissa of a binade the
next smaller float is only half as far away as the next larger one. -/
structure Dyadic where
  mantissa : Nat
  exponent : Int
  narrowBelow : Bool
  deriving Repr, DecidableEq

/-- A decimal `digits * 10 ^ exponent`. -/
structure Decimal where
  digits : Nat
  exponent : Int
  deriving Repr, DecidableEq

/-- The size of a finite float, from its bits. -/
def Dyadic.ofBits (bits : UInt64) : Dyadic :=
  let fraction : Nat := bits.toNat % (1 <<< 52)
  let scale : Nat := (bits.toNat >>> 52) % (1 <<< 11)
  if scale = 0 then ⟨fraction, -1074, false⟩
  else ⟨fraction + (1 <<< 52), (scale : Int) - 1075, fraction = 0 && scale ≠ 1⟩

def isNegative (bits : UInt64) : Bool :=
  (bits.toNat >>> 63) = 1

/-- The numerator and denominator of `n * 2 ^ exponent`. -/
def twoPowerTimes (n : Nat) (exponent : Int) : Nat × Nat :=
  (n <<< exponent.toNat, 1 <<< (-exponent).toNat)

/-- The largest whole number that is not larger in size. -/
def Dyadic.floor (x : Dyadic) : Nat :=
  let (num, den) := twoPowerTimes x.mantissa x.exponent
  num / den

/-- The exponent `k` with `10 ^ (k - 1) ≤ x < 10 ^ k`, for `x` not zero. -/
def Dyadic.decimalExponent (x : Dyadic) : Int :=
  let (num, den) := twoPowerTimes x.mantissa x.exponent
  if den ≤ num then ((Nat.toDigits 10 (num / den)).length : Int)
  else
    match (List.range 330).find? fun j => den ≤ num * Nat.pow 10 j with
    | some j => 1 - (j : Int)
    | none => 0

/-- A decimal of `count` digits that stands for the float, if there is one. Sizes are counted in
quarters of the float's last place; the ends of the interval belong to an even mantissa. -/
def Dyadic.decimalOf? (x : Dyadic) (count : Nat) : Option Decimal :=
  let place := x.decimalExponent - count
  let (unit, den) := twoPowerTimes 1 (x.exponent - 2)
  let scale := unit * Nat.pow 10 (-place).toNat
  let step := den * Nat.pow 10 place.toNat
  let value := 4 * x.mantissa * scale
  let low := value - (if x.narrowBelow then 1 else 2) * scale
  let high := value + 2 * scale
  let stands (n : Nat) : Bool :=
    if x.mantissa % 2 = 0 then low ≤ n * step && n * step ≤ high
    else low < n * step && n * step < high
  let below := value / step
  let above := below + 1
  match stands below, stands above with
  | true, false => some ⟨below, place⟩
  | false, true => some ⟨above, place⟩
  | false, false => none
  | true, true =>
      let deficit := value - below * step
      let excess := above * step - value
      if deficit < excess ∨ (deficit = excess ∧ below % 2 = 0) then some ⟨below, place⟩
      else some ⟨above, place⟩

/-- The decimal that stands for a float. Seventeen digits always suffice. -/
def Dyadic.shortest (x : Dyadic) : Decimal :=
  if x.mantissa = 0 then ⟨0, 0⟩
  else ((List.range 17).findSome? fun n => x.decimalOf? (n + 1)).getD ⟨0, 0⟩

/-- A decimal without zeros at the end of its digits. -/
def Decimal.significant (d : Decimal) : List Char × Int :=
  let digits := Nat.toDigits 10 d.digits
  let kept := (digits.reverse.dropWhile (· = '0')).reverse
  (kept, d.exponent + (digits.length - kept.length : Nat))

/-- A positive decimal in positional notation from `0.0001` up to sixteen digits before the point,
and with an exponent of at least two digits outside of that. -/
def Decimal.text (d : Decimal) : String :=
  let (digits, exponent) := d.significant
  let point := digits.length + exponent
  let chars :=
    if -4 < point ∧ point ≤ 16 then
      if point ≤ 0 then '0' :: '.' :: List.replicate (-point).toNat '0' ++ digits
      else if digits.length ≤ point then
        digits ++ List.replicate exponent.toNat '0' ++ ['.', '0']
      else digits.take point.toNat ++ '.' :: digits.drop point.toNat
    else
      let magnitude := Nat.toDigits 10 (point - 1).natAbs
      let fraction := if digits.length ≤ 1 then [] else '.' :: digits.drop 1
      digits.take 1 ++ fraction ++ 'e' :: (if point < 1 then '-' else '+') ::
        List.replicate (2 - magnitude.length) '0' ++ magnitude
  String.ofList chars

/-- The text of a float: the shortest decimal that stands for it. -/
def floatText (x : Float) : String :=
  if x.isNaN then "nan"
  else
    let sign := if isNegative x.toBits then "-" else ""
    if x.isInf then sign ++ "inf"
    else
      let size := Dyadic.ofBits x.toBits
      if size.mantissa = 0 then sign ++ "0.0" else sign ++ size.shortest.text

/-- The whole part of a finite float. -/
def truncate (x : Float) : Int :=
  let size := (Dyadic.ofBits x.toBits).floor
  if isNegative x.toBits then -size else size

end StyleUsage.Number
