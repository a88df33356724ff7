import ImportScan.Number.Binary64
import ImportScan.Text.Basic

/-! # Shortest decimals

    The text of a double-precision number: the fewest decimal digits that read back as the
    same number, the nearest such digits when there are several, written positionally for
    exponents from `10 ^ -4` up to `10 ^ 16` and with an exponent mark beyond.
-/

namespace ImportScan

namespace Binary64

/-- The least `p` with `num / den < 10 ^ p`, found upward or downward from an estimate. -/
def decimalPoint (num den : Nat) : Int :=
  let estimate : Int := ((Nat.log2 num : Int) - Nat.log2 den) * 30103 / 100000 - 1
  let below (p : Int) : Bool :=
    if 0 ≤ p then num < den * Nat.pow 10 p.toNat else num * Nat.pow 10 (-p).toNat < den
  if below estimate then estimate
  else if below (estimate + 1) then estimate + 1
  else if below (estimate + 2) then estimate + 2
  else estimate + 3

/-- The neighbour of the number on the grid of `count`-digit decimals that reads back as the
    number, the nearer one when both do. -/
def onGrid? (m : Nat) (e : Int) (count : Nat) : Option (Nat × Int) :=
  let (num, den) := ratio m e
  let unit := decimalPoint num den - count
  let (n, d) := if 0 ≤ unit then (num, den * Nat.pow 10 unit.toNat) else (num * Nat.pow 10 (-unit).toNat, den)
  let low := n / d
  let reads (k : Nat) : Bool := ofDecimal false k unit == .finite false m e
  let lowFirst : Bool := 2 * (n % d) ≤ d
  let first := if lowFirst then low else low + 1
  let second := if lowFirst then low + 1 else low
  if reads first then some (first, unit) else if reads second then some (second, unit) else none

/-- The shortest digits of a nonzero number, with the power of ten of the last of them. -/
def shortest (m : Nat) (e : Int) : Nat × Int :=
  ((List.range 17).firstM fun i => onGrid? m e (i + 1)).getD (0, 0)

/-- Digits without the zeros at their end, and how many there were. -/
def dropZeros (fuel n : Nat) (unit : Int) : Nat × Int :=
  match fuel with
  | 0 => (n, unit)
  | fuel + 1 => if n ≠ 0 ∧ n % 10 = 0 then dropZeros fuel (n / 10) (unit + 1) else (n, unit)

/-- The text of a number. -/
def text : Binary64 → Text
  | .nan => Text.ofString "nan"
  | .inf negative => Text.ofString (if negative then "-inf" else "inf")
  | .finite negative m e =>
    let sign := if negative then Text.ofString "-" else []
    let zeros (n : Nat) : Text := List.replicate n (CodePoint.ofChar '0')
    if m = 0 then sign ++ Text.ofString "0.0"
    else
      let (n, unit) := shortest m e
      let (n, unit) := dropZeros 20 n unit
      let digits := Text.ofNat n
      let point : Int := digits.length + unit
      let body : Text :=
        if -4 < point ∧ point ≤ 16 then
          if point ≤ 0 then Text.ofString "0." ++ zeros (-point).toNat ++ digits
          else if unit < 0 then
            digits.take point.toNat ++ Text.ofString "." ++ digits.drop point.toNat
          else digits ++ zeros unit.toNat ++ Text.ofString ".0"
        else
          let exponent := point - 1
          let magnitude := Text.ofNat exponent.natAbs
          let fraction :=
            if digits.length ≤ 1 then [] else Text.ofString "." ++ digits.drop 1
          digits.take 1 ++ fraction ++ Text.ofString (if exponent < 0 then "e-" else "e+")
            ++ zeros (2 - magnitude.length) ++ magnitude
      sign ++ body

end Binary64

end ImportScan
