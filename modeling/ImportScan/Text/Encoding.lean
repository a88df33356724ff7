import ImportScan.Text.Basic

/-! # Encodings

    UTF-8 and UTF-16 forms of a text.

    * `Text.utf8?`        : the UTF-8 form, which a text with a surrogate does not have.
    * `Text.ofUtf8?`      : strict decoding.
    * `Text.ofUtf8Lossy`  : decoding in which every ill-formed part becomes one U+FFFD.
    * `Text.units`        : the UTF-16 code units, a surrogate standing for itself.
    * `Text.ofUnits`      : the text with given units; two units that form a pair are joined.
-/

namespace ImportScan

/-- Octets of a file or of an encoded text. -/
abbrev Bytes := List UInt8

namespace CodePoint

/-- The UTF-8 form of a code point (of a surrogate: the three octets its number would have). -/
def utf8 (c : CodePoint) : Bytes :=
  let n := c.val
  if n < 0x80 then [n.toUInt8]
  else if n < 0x800 then [(0xC0 + n / 64).toUInt8, (0x80 + n % 64).toUInt8]
  else if n < 0x10000 then
    [(0xE0 + n / 4096).toUInt8, (0x80 + n / 64 % 64).toUInt8, (0x80 + n % 64).toUInt8]
  else
    [(0xF0 + n / 262144).toUInt8, (0x80 + n / 4096 % 64).toUInt8,
     (0x80 + n / 64 % 64).toUInt8, (0x80 + n % 64).toUInt8]

/-- The number of octets of the UTF-8 form. -/
def utf8Size (c : CodePoint) : Nat :=
  if c.val < 0x80 then 1 else if c.val < 0x800 then 2 else if c.val < 0x10000 then 3 else 4

/-- The UTF-16 code units of a code point. -/
def units (c : CodePoint) : List Nat :=
  if c.val < 0x10000 then [c.val]
  else [0xD800 + (c.val - 0x10000) / 0x400, 0xDC00 + (c.val - 0x10000) % 0x400]

end CodePoint

namespace Utf8

/-- What a lead octet announces: how many octets follow it, the bounds of the first of them,
    and the bits that the lead itself contributes. -/
def lead? (b : Nat) : Option (Nat × Nat × Nat × Nat) :=
  if 0xC2 ≤ b ∧ b ≤ 0xDF then some (1, 0x80, 0xBF, b - 0xC0)
  else if b = 0xE0 then some (2, 0xA0, 0xBF, 0)
  else if b = 0xED then some (2, 0x80, 0x9F, 0xD)
  else if 0xE1 ≤ b ∧ b ≤ 0xEF then some (2, 0x80, 0xBF, b - 0xE0)
  else if b = 0xF0 then some (3, 0x90, 0xBF, 0)
  else if b = 0xF4 then some (3, 0x80, 0x8F, 4)
  else if 0xF1 ≤ b ∧ b ≤ 0xF3 then some (3, 0x80, 0xBF, b - 0xF0)
  else none

/-- Where a decoder stands: between characters, or inside one with `owed` octets to come, of
    which the next lies between `low` and `high`. -/
inductive State where
  /-- Between characters. -/
  | start
  /-- Inside a character whose octets so far have the value `value`. -/
  | within (owed low high value : Nat)
deriving Repr, DecidableEq

/-- What one octet does: it emits code points (`none` for an ill-formed part) and moves on. -/
def enter (b : Nat) : List (Option CodePoint) × State :=
  if b < 0x80 then ([some (CodePoint.ofNat b)], .start)
  else
    match lead? b with
    | some (owed, low, high, value) => ([], .within owed low high value)
    | none => ([none], .start)

/-- One step of the decoder. -/
def step (s : State) (b : Nat) : List (Option CodePoint) × State :=
  match s with
  | .start => enter b
  | .within owed low high value =>
    if low ≤ b ∧ b ≤ high then
      let value := value * 64 + (b - 0x80)
      if owed ≤ 1 then ([some (CodePoint.ofNat value)], .start)
      else ([], .within (owed - 1) 0x80 0xBF value)
    else
      let (out, s) := enter b
      (none :: out, s)

/-- The decoded code points from a state on, `none` marking each ill-formed part. -/
def decodeFrom (s : State) : Bytes → List (Option CodePoint)
  | [] =>
    match s with
    | .start => []
    | .within .. => [none]
  | b :: rest =>
    let (out, s) := step s b.toNat
    out ++ decodeFrom s rest

/-- The code points that octets stand for, `none` marking each ill-formed part. -/
def decode (bytes : Bytes) : List (Option CodePoint) := decodeFrom .start bytes

end Utf8

namespace Text

/-- The UTF-8 octets of the text, surrogates encoded like other code points. -/
def utf8 (t : Text) : Bytes := t.flatMap CodePoint.utf8

/-- The UTF-8 form, which exists when the text holds no surrogate. -/
def utf8? (t : Text) : Option Bytes :=
  if t.any CodePoint.isSurrogate then none else some t.utf8

/-- Strict UTF-8 decoding. -/
def ofUtf8? (bytes : Bytes) : Option Text := (Utf8.decode bytes).mapM id

/-- UTF-8 decoding in which each ill-formed part becomes U+FFFD. -/
def ofUtf8Lossy (bytes : Bytes) : Text :=
  (Utf8.decode bytes).map fun c => c.getD (CodePoint.ofNat 0xFFFD)

/-- The UTF-16 code units of the text. -/
def units (t : Text) : List Nat := t.flatMap CodePoint.units

/-- The text whose UTF-16 form is the given units: a high surrogate and a low one right after
    it make one code point, and a surrogate on its own stands for itself. -/
def ofUnits : List Nat → Text
  | [] => []
  | [u] => [CodePoint.ofNat u]
  | u :: v :: rest =>
    if 0xD800 ≤ u ∧ u < 0xDC00 ∧ 0xDC00 ≤ v ∧ v < 0xE000 then
      CodePoint.ofNat (0x10000 + (u - 0xD800) * 0x400 + (v - 0xDC00)) :: ofUnits rest
    else CodePoint.ofNat u :: ofUnits (v :: rest)

end Text

end ImportScan
