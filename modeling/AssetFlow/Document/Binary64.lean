/-!
# Binary floating point numbers of 64 bits

A number is a sign, a significand below `2 ^ 53` and a power of two, so that arithmetic is exact
arithmetic of integers followed by one rounding to the nearest number, ties to even.

## Main definitions

- `Binary64`: the numbers, the infinities and the undefined one.
- `Binary64.ofRatio`: the number nearest to a ratio.
- `Binary64.ofDecimal`: the number nearest to a decimal.
- `Binary64.shortest`: the shortest digits that read back as a number.
- `Binary64.spell`, `Binary64.spellPlain`: the spellings with and without exponents.

## Design notes

A finite number has either `significand ≥ 2 ^ 52` or `exponent = -1074`, so equal numbers have
equal representations. There are two zeros.
-/

namespace AssetFlow.Document

/-- A binary floating point number of 64 bits. -/
inductive Binary64
  /-- The number `± significand * 2 ^ exponent`. -/
  | finite (negative : Bool) (significand : Nat) (exponent : Int)
  | infinite (negative : Bool)
  | undefined
  deriving DecidableEq, Repr, Inhabited

namespace Binary64

/-- The zero of a sign. -/
def zero (negative : Bool) : Binary64 :=
  .finite negative 0 (-1074)

/-- Whether the number is one. -/
def isFinite : Binary64 → Bool
  | .finite .. => true
  | _ => false

/-- Whether the number has the negative sign. -/
def isNegative : Binary64 → Bool
  | .finite n _ _ => n
  | .infinite n => n
  | .undefined => false

/-- The quotient of `num` by `den`, rounded to the nearest integer, ties to even. -/
def roundQuotient (num den : Nat) : Nat :=
  let q := num / den
  let twice := 2 * (num % den)
  if twice > den || (twice == den && q % 2 == 1) then q + 1 else q

/-- The greatest `k` with `2 ^ k ≤ num / den`. -/
def binaryOrder (num den : Nat) : Int :=
  let k : Int := Int.ofNat num.log2 - Int.ofNat den.log2
  let reached := if k ≥ 0 then den <<< k.toNat ≤ num else den ≤ num <<< (-k).toNat
  if reached then k else k - 1

/-- The number nearest to `± num / den`. -/
def ofRatio (negative : Bool) (num den : Nat) : Binary64 :=
  if num == 0 || den == 0 then zero negative
  else
    let exponent := max (binaryOrder num den - 52) (-1074)
    let significand :=
      if exponent ≥ 0 then roundQuotient num (den <<< exponent.toNat)
      else roundQuotient (num <<< (-exponent).toNat) den
    let carried := significand == Nat.pow 2 53
    let significand := if carried then Nat.pow 2 52 else significand
    let exponent := if carried then exponent + 1 else exponent
    if exponent > 971 then .infinite negative else .finite negative significand exponent

/-- A natural number as a ratio with a power of two. -/
def scaled (significand : Nat) (exponent : Int) : Nat × Nat :=
  if exponent ≥ 0 then (significand <<< exponent.toNat, 1)
  else (significand, 1 <<< (-exponent).toNat)

/-- The number nearest to `± digits * 10 ^ power`. -/
def ofDecimal (negative : Bool) (digits : Nat) (power : Int) : Binary64 :=
  if digits == 0 then zero negative
  else
    let length : Int := (toString digits).length
    if length + power > 310 then .infinite negative
    else if length + power < -330 then zero negative
    else if power ≥ 0 then ofRatio negative (digits * Nat.pow 10 power.toNat) 1
    else ofRatio negative digits (Nat.pow 10 (-power).toNat)

/-- The number nearest to an integer. -/
def ofInt (n : Int) : Binary64 :=
  ofRatio (decide (n < 0)) n.natAbs 1

/-- The number with the other sign. -/
def neg : Binary64 → Binary64
  | .finite n s e => .finite (!n) s e
  | .infinite n => .infinite (!n)
  | .undefined => .undefined

/-- The product, rounded once. -/
def mul : Binary64 → Binary64 → Binary64
  | .finite n s e, .finite m t f =>
    let (num, den) := scaled (s * t) (e + f)
    ofRatio (n != m) num den
  | .undefined, _ | _, .undefined => .undefined
  | .infinite n, y => if y == zero false || y == zero true then .undefined
    else .infinite (n != y.isNegative)
  | x, .infinite m => if x == zero false || x == zero true then .undefined
    else .infinite (x.isNegative != m)

/-- The quotient of finite numbers by a finite number other than zero, rounded once. -/
def div : Binary64 → Binary64 → Binary64
  | .finite n s e, .finite m t f =>
    if t == 0 then (if s == 0 then .undefined else .infinite (n != m))
    else
      let (num, den) := scaled s (e - f)
      ofRatio (n != m) num (den * t)
  | .infinite n, .finite m _ _ => .infinite (n != m)
  | .finite n _ _, .infinite m => zero (n != m)
  | _, _ => .undefined

/-- The signed significand at a lower exponent. -/
def aligned (x : Bool × Nat × Int) (exponent : Int) : Int :=
  let magnitude := Int.ofNat (x.2.1 <<< (x.2.2 - exponent).toNat)
  if x.1 then -magnitude else magnitude

/-- The sum, rounded once. -/
def add : Binary64 → Binary64 → Binary64
  | .finite n s e, .finite m t f =>
    let exponent := min e f
    let sum := aligned (n, s, e) exponent + aligned (m, t, f) exponent
    if sum == 0 then zero (n && m)
    else
      let (num, den) := scaled sum.natAbs exponent
      ofRatio (decide (sum < 0)) num den
  | .undefined, _ | _, .undefined => .undefined
  | .infinite n, .infinite m => if n == m then .infinite n else .undefined
  | .infinite n, _ => .infinite n
  | _, .infinite m => .infinite m

/-- Whether the first number is less than the second; nothing is less than an undefined number. -/
def less : Binary64 → Binary64 → Bool
  | .finite n s e, .finite m t f =>
    let exponent := min e f
    decide (aligned (n, s, e) exponent < aligned (m, t, f) exponent)
  | .infinite true, .infinite m => !m
  | .infinite true, .finite .. => true
  | .finite .., .infinite m => !m
  | _, _ => false

/-- The lesser number; an undefined number counts for nothing. -/
def least (x y : Binary64) : Binary64 :=
  if x == .undefined then y
  else if y == .undefined then x
  else if y.less x then y else x

/-- The integer nearest to `x * factor`, ties to even, for a finite number. -/
def scaledToInt (x : Binary64) (factor : Nat) : Int :=
  match x with
  | .finite n s e =>
    let (num, den) := scaled (s * factor) e
    let magnitude := Int.ofNat (roundQuotient num den)
    if n then -magnitude else magnitude
  | _ => 0

/-! ### Shortest decimal -/

/-- The greatest `k` with `10 ^ k ≤ num / den`, found by correcting an estimate. -/
def decimalOrder (num den : Nat) : Int :=
  let estimate : Int := Int.ofNat (toString num).length - Int.ofNat (toString den).length
  let reached := if estimate ≥ 0 then den * Nat.pow 10 estimate.toNat ≤ num
    else den ≤ num * Nat.pow 10 (-estimate).toNat
  if reached then estimate else estimate - 1

/-- The candidates for a decimal of `places` digits next to `num / den`, nearest first, with
their common power of ten. -/
def decimalsNear (num den places : Nat) : List Nat × Int :=
  let power := decimalOrder num den - (Int.ofNat places - 1)
  let (num, den) := if power ≥ 0 then (num, den * Nat.pow 10 power.toNat)
    else (num * Nat.pow 10 (-power).toNat, den)
  let nearest := roundQuotient num den
  let other := if nearest == num / den then nearest + 1 else nearest - 1
  ([nearest, other], power)

/-- The first decimal of at most `places + fuel` digits that reads back as the number. -/
def firstExact (significand : Nat) (exponent : Int) (num den : Nat) :
    Nat → Nat → Nat × Int
  | 0, places => let (ds, power) := decimalsNear num den places; (ds.headD 0, power)
  | fuel + 1, places =>
    let (ds, power) := decimalsNear num den places
    match ds.find? fun d => ofDecimal false d power == .finite false significand exponent with
    | some d => (d, power)
    | none => firstExact significand exponent num den fuel (places + 1)

/-- A decimal without zeros at its end. -/
def withoutTrailingZeros : Nat → Nat → Int → Nat × Int
  | 0, d, power => (d, power)
  | fuel + 1, d, power =>
    if d != 0 && d % 10 == 0 then withoutTrailingZeros fuel (d / 10) (power + 1) else (d, power)

/-- The shortest digits and the power of ten that read back as the magnitude of the number. -/
def shortest : Binary64 → Nat × Int
  | .finite _ significand exponent =>
    if significand == 0 then (0, 0)
    else
      let (num, den) := scaled significand exponent
      let (d, power) := firstExact significand exponent num den 17 1
      withoutTrailingZeros 20 d power
  | _ => (0, 0)

/-- Zeros in a row. -/
def zeros (n : Int) : String :=
  String.ofList (List.replicate n.toNat '0')

/-- Digits with the point after the first `place` of them. -/
def pointed (digits : String) (place : Int) : String :=
  let cs := digits.toList
  s!"{String.ofList (cs.take place.toNat)}.{String.ofList (cs.drop place.toNat)}"

/-- The spelling with at least one digit after the point, or with an exponent if the number is
large or small. -/
def spell (x : Binary64) : String :=
  match x with
  | .finite negative significand _ =>
    let sign := if negative then "-" else ""
    if significand == 0 then sign ++ "0.0"
    else
      let (d, power) := x.shortest
      let digits := toString d
      let length : Int := digits.length
      let point := length + power
      sign ++
        if 0 ≤ power && point ≤ 16 then digits ++ zeros power ++ ".0"
        else if 0 < point && point ≤ 16 then pointed digits point
        else if -5 < point && point ≤ 0 then "0." ++ zeros (-point) ++ digits
        else if length == 1 then s!"{digits}e{point - 1}"
        else s!"{pointed digits 1}e{point - 1}"
  | .infinite true => "-inf"
  | .infinite false => "inf"
  | .undefined => "NaN"

/-- The spelling without an exponent and without a point behind which nothing stands. -/
def spellPlain (x : Binary64) : String :=
  match x with
  | .finite negative significand _ =>
    let sign := if negative then "-" else ""
    if significand == 0 then sign ++ "0"
    else
      let (d, power) := x.shortest
      let digits := toString d
      let point := Int.ofNat digits.length + power
      sign ++
        if 0 ≤ power then digits ++ zeros power
        else if 0 < point then pointed digits point
        else "0." ++ zeros (-point) ++ digits
  | .infinite true => "-inf"
  | .infinite false => "inf"
  | .undefined => "NaN"

end Binary64

end AssetFlow.Document
