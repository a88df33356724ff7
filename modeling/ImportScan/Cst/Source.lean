import ImportScan.Escape

/-! # Source octets

    Slices of a source.  Offsets may fall outside: an offset beyond the end means the end, and
    one below zero counts back from the end.
-/

namespace ImportScan.Cst

/-- The position that an offset means in a sequence of a given length. -/
def clampOffset (length : Nat) (i : Int) : Nat :=
  if 0 ≤ i then min i.toNat length else (i + length).toNat

/-- The octets from one offset to another. -/
def slice (bytes : Bytes) (start stop : Int) : Bytes :=
  let a := clampOffset bytes.length start
  let b := clampOffset bytes.length stop
  (bytes.drop a).take (b - a)

/-- The text between two offsets, which must not cut a character. -/
def textBetween (bytes : Bytes) (start stop : Int) : Except Fault Text :=
  match Text.ofUtf8? (slice bytes start stop) with
  | some t => .ok t
  | none => .error .undecodable

/-- The value of the raw text between two offsets. -/
def cookedBetween (bytes : Bytes) (start stop : Int) : Except Fault Text := do
  Escape.cook (← textBetween bytes start stop)

/-- The row of an offset and the octet of that row it stands at, both from zero. -/
def position (bytes : Bytes) (offset : Nat) : Nat × Nat :=
  let before := bytes.take offset
  (before.count 10, (before.reverse.takeWhile (· != 10)).length)

end ImportScan.Cst
