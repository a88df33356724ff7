/-! # Binary64

    Double-precision numbers, computed exactly: a finite number is `± m · 2 ^ e`, and every
    operation rounds the exact rational result to the nearest representable number, an
    exact half going to the even neighbour.  Modification times, debounce periods and the
    settings of a configuration file are such numbers.
-/

namespace ImportScan

/-- A double-precision number. -/
inductive Binary64 where
  /-- Not a number. -/
  | nan
  /-- An infinity. -/
  | inf (negative : Bool)
  /-- `± mantissa · 2 ^ exponent`; zero has the least exponent. -/
  | finite (negative : Bool) (mantissa : Nat) (exponent : Int)
deriving Repr, DecidableEq

namespace Binary64

/-- The least exponent of a finite number. -/
def minExponent : Int := -1074

/-- The greatest exponent of a finite number. -/
def maxExponent : Int := 971

/-- Positive zero. -/
def zero : Binary64 := .finite false 0 minExponent

instance : Inhabited Binary64 := ⟨zero⟩

/-- A quotient rounded to the nearest natural number, a half to the even neighbour. -/
def roundHalfEven (num den : Nat) : Nat :=
  let q := num / den
  let r := num % den
  if 2 * r < den then q
  else if den < 2 * r then q + 1
  else if q % 2 = 0 then q else q + 1

/-- The quotient `num / den` divided by `2 ^ e`, again as a quotient. -/
def scaled (num den : Nat) (e : Int) : Nat × Nat :=
  if 0 ≤ e then (num, den * Nat.pow 2 e.toNat) else (num * Nat.pow 2 (-e).toNat, den)

/-- The number nearest to `± num / den`. -/
def ofRatio (negative : Bool) (num den : Nat) : Binary64 :=
  if num = 0 then .finite negative 0 minExponent
  else
    let guess : Int := (Nat.log2 num : Int) - Nat.log2 den - 52
    let (n, d) := scaled num den guess
    let e := max (if n < Nat.pow 2 52 * d then guess - 1 else guess) minExponent
    let (n, d) := scaled num den e
    let m := roundHalfEven n d
    let (m, e) := if m = Nat.pow 2 53 then (Nat.pow 2 52, e + 1) else (m, e)
    if maxExponent < e then .inf negative else .finite negative m e

/-- The number nearest to an integer. -/
def ofInt (n : Int) : Binary64 := ofRatio (decide (n < 0)) n.natAbs 1

/-- The number nearest to `± digits · 10 ^ exponent`. -/
def ofDecimal (negative : Bool) (digits : Nat) (exponent : Int) : Binary64 :=
  if 0 ≤ exponent then ofRatio negative (digits * Nat.pow 10 exponent.toNat) 1
  else ofRatio negative digits (Nat.pow 10 (-exponent).toNat)

/-- The absolute value of a finite number as a quotient. -/
def ratio (m : Nat) (e : Int) : Nat × Nat :=
  if 0 ≤ e then (m * Nat.pow 2 e.toNat, 1) else (m, Nat.pow 2 (-e).toNat)

/-- The integer part of a finite number, toward zero. -/
def truncate? : Binary64 → Option Int
  | .finite negative m e =>
    let (n, d) := ratio m e
    some (if negative then -((n / d : Nat) : Int) else ((n / d : Nat) : Int))
  | _ => none

/-- A signed multiple of `2 ^ minExponent`, which every finite number is. -/
def quanta (negative : Bool) (m : Nat) (e : Int) : Int :=
  let n : Int := (m * Nat.pow 2 (e - minExponent).toNat : Nat)
  if negative then -n else n

/-- Addition, rounded to nearest. -/
def add : Binary64 → Binary64 → Binary64
  | .nan, _ => .nan
  | _, .nan => .nan
  | .inf a, .inf b => if a = b then .inf a else .nan
  | .inf a, _ => .inf a
  | _, .inf b => .inf b
  | .finite a m e, .finite b n f =>
    let sum := quanta a m e + quanta b n f
    if sum = 0 then .finite (a && b) 0 minExponent
    else ofRatio (decide (sum < 0)) sum.natAbs (Nat.pow 2 (-minExponent).toNat)

instance : Add Binary64 := ⟨add⟩

/-- The number with the other sign. -/
def negate : Binary64 → Binary64
  | .nan => .nan
  | .inf s => .inf !s
  | .finite s m e => .finite (!s) m e

/-- The product with a natural number other than zero, rounded to nearest. -/
def scale (n : Nat) : Binary64 → Binary64
  | .finite s m e =>
    let (num, den) := ratio m e
    ofRatio s (num * n) den
  | x => x

/-- Numeric order; nothing is comparable with a NaN. -/
def le : Binary64 → Binary64 → Bool
  | .nan, _ => false
  | _, .nan => false
  | .inf true, _ => true
  | _, .inf false => true
  | .inf false, _ => false
  | _, .inf true => false
  | .finite a m e, .finite b n f => quanta a m e ≤ quanta b n f

instance : LE Binary64 := ⟨fun a b => le a b = true⟩

instance (a b : Binary64) : Decidable (a ≤ b) := inferInstanceAs (Decidable (le a b = true))

/-- Numeric equality: the two zeros are equal, a NaN differs from itself. -/
def equal (a b : Binary64) : Bool := le a b && le b a

/-- Numeric equality with an integer. -/
def equalInt (a : Binary64) (n : Int) : Bool :=
  match a with
  | .finite s m e => quanta s m e == n * (Nat.pow 2 (-minExponent).toNat : Nat)
  | _ => false

/-- Whether the number is a zero. -/
def isZero : Binary64 → Bool
  | .finite _ m _ => m == 0
  | _ => false

end Binary64

end ImportScan
