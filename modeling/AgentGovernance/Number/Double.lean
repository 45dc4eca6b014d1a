-- SUMMARY: Double-precision numbers as exact values: reading a decimal and rounding to integers.
import AgentGovernance.Number.Digits

/-!
# Double-precision numbers

A finite double is `mantissa · 2^exponent`. A decimal is read as the double nearest to it, a tie
going to the even mantissa; one that is too large becomes infinite. All arithmetic is exact, on
natural numbers.
-/

namespace AgentGovernance

/-- A double-precision number. -/
inductive Double where
  | finite (negative : Bool) (mantissa : Nat) (exponent : Int)
  | infinite (negative : Bool)
  | nan
  deriving DecidableEq, Repr

namespace Double

/-! ## Rounding a quotient -/

/-- The natural number nearest to `num / den`; a tie goes to the even one. -/
def nearestEven (num den : Nat) : Nat :=
  let q := num / den
  let r := num % den
  if 2 * r < den then q
  else if den < 2 * r then q + 1
  else if q % 2 == 0 then q else q + 1

/-- The natural number nearest to `num / den`; a tie goes up. -/
def nearestUp (num den : Nat) : Nat := (2 * num + den) / (2 * den)

/-- `num / den` divided by `2^exponent`, again as a quotient. -/
def scaled (num den : Nat) (exponent : Int) : Nat × Nat :=
  if 0 ≤ exponent then (num, den * Nat.pow 2 exponent.toNat)
  else (num * Nat.pow 2 (-exponent).toNat, den)

/-- The least exponent of a double. -/
def minExponent : Int := -1074

/-- The greatest exponent of a double. -/
def maxExponent : Int := 971

/-- The exponent at which `num / den` has 53 binary digits, or the least one. -/
def exponentFor (num den : Nat) : Int :=
  let guess : Int := (num.log2 : Int) - (den.log2 : Int) - 52
  let (n, d) := scaled num den guess
  max minExponent (if n / d < Nat.pow 2 52 then guess - 1 else guess)

/-- The double nearest to `num / den`. -/
def ofQuotient (negative : Bool) (num den : Nat) : Double :=
  if num == 0 || den == 0 then .finite negative 0 minExponent
  else
    let e := exponentFor num den
    let (n, d) := scaled num den e
    let m := nearestEven n d
    let (m, e) := if m == Nat.pow 2 53 then (Nat.pow 2 52, e + 1) else (m, e)
    if maxExponent < e then .infinite negative else .finite negative m e

/-- The number of decimal digits of a natural number. -/
def digitCount (n : Nat) : Nat := (Nat.toDigits 10 n).length

/-- The double nearest to `digits · 10^exponent`. Decimals far outside the range of doubles are told
by the position of their first digit. -/
def ofDecimal (negative : Bool) (digits : Nat) (exponent : Int) : Double :=
  if digits == 0 then .finite negative 0 minExponent
  else
    let first := exponent + digitCount digits
    if first < -330 then .finite negative 0 minExponent
    else if 320 < first then .infinite negative
    else if 0 ≤ exponent then ofQuotient negative (digits * Nat.pow 10 exponent.toNat) 1
    else ofQuotient negative digits (Nat.pow 10 (-exponent).toNat)

/-! ## Reading -/

/-- The exponent at the end of a decimal, `0` if there is none. -/
def exponentPart? : List Char → Option Int
  | [] => some 0
  | c :: rest =>
    if c == 'e' || c == 'E' then
      let (minus, rest) := leadingSign rest
      let (ds, rest) := spanDigits rest
      if ds.isEmpty || !rest.isEmpty then none
      else
        let n : Int := digitsValue ds
        some (if minus then -n else n)
    else none

/-- Reads a decimal with an optional point and exponent, or one of the words `inf`, `infinity` and
`nan` in any letter case. -/
def read? (text : String) : Option Double :=
  let (minus, body) := leadingSign text.toList
  let word := String.ofList (body.map Char.toLower)
  if word == "inf" || word == "infinity" then some (.infinite minus)
  else if word == "nan" then some .nan
  else
    let (whole, rest) := spanDigits body
    let (fraction, rest) := match rest with
      | '.' :: rest => spanDigits rest
      | rest => ([], rest)
    if whole.isEmpty && fraction.isEmpty then none
    else do
      let exponent ← exponentPart? rest
      return ofDecimal minus (digitsValue (whole ++ fraction)) (exponent - fraction.length)

/-! ## Integers -/

/-- The nearest natural number below `bound`, a tie going away from zero. A number outside the range
gives the end of the range that is nearer, and `nan` gives zero. -/
def toNatBelow (bound : Nat) : Double → Nat
  | .nan => 0
  | .infinite true => 0
  | .infinite false => bound - 1
  | .finite true _ _ => 0
  | .finite false m e =>
    let n := if 0 ≤ e then m * Nat.pow 2 e.toNat else nearestUp m (Nat.pow 2 (-e).toNat)
    min n (bound - 1)

/-- Whether a number is zero. -/
def isZero : Double → Bool
  | .finite _ m _ => m == 0
  | _ => false

end Double

end AgentGovernance
