import AssetFlow.Document.Binary64

/-!
# Spelled decimals

The numbers that digits spell, with a point and an exponent or without.

## Main definitions

- `natIn?`: the number that digits of a base spell.
- `decimal?`: the floating point number nearest to a decimal.
-/

namespace AssetFlow.Document

/-- The value of a digit of a base. -/
def digitIn? (base : Nat) (c : Char) : Option Nat := do
  let v ← if c.isDigit then some (c.toNat - '0'.toNat)
    else if 'a' ≤ c && c ≤ 'z' then some (c.toNat - 'a'.toNat + 10)
    else if 'A' ≤ c && c ≤ 'Z' then some (c.toNat - 'A'.toNat + 10)
    else none
  if v < base then some v else none

/-- The number that digits of a base spell. -/
def natIn? (base : Nat) (cs : List Char) : Option Nat :=
  if cs.isEmpty then none
  else cs.foldlM (fun n c => (digitIn? base c).map (n * base + ·)) 0

/-- The exponent of a decimal. -/
def exponent? (cs : List Char) : Option Int :=
  match cs with
  | [] => some 0
  | c :: rest =>
    if c == 'e' || c == 'E' then
      match rest with
      | '-' :: ds => (natIn? 10 ds).map fun n => -(Int.ofNat n)
      | '+' :: ds => (natIn? 10 ds).map Int.ofNat
      | ds => (natIn? 10 ds).map Int.ofNat
    else none

/-- The number that a decimal without a sign denotes, with the sign given. -/
def unsignedDecimal? (negative : Bool) (cs : List Char) : Option Binary64 := do
  let (whole, rest) := cs.span Char.isDigit
  let (fraction, rest) := match rest with
    | '.' :: rest => rest.span Char.isDigit
    | rest => ([], rest)
  if whole.isEmpty && fraction.isEmpty then none
  let e ← exponent? rest
  let digits ← natIn? 10 (whole ++ fraction)
  return .ofDecimal negative digits (e - Int.ofNat fraction.length)

/-- The number that a decimal denotes, if it is not out of range. -/
def decimal? (s : String) : Option Binary64 := do
  let x ← match s.toList with
    | '+' :: rest => unsignedDecimal? false rest
    | '-' :: rest => unsignedDecimal? true rest
    | cs => unsignedDecimal? false cs
  if x.isFinite then some x else none

end AssetFlow.Document
