import ImportScan.Text.Encoding

/-! # Files that are read as text

    A text file is read in portions of 4096 code points, and decoded no further than a portion
    needs: octets are taken from the file in chunks, a character that a chunk cuts waits for the
    next one, and so does a carriage return at its end, behind which a line feed may come.  So
    octets that are no UTF-8 are noticed only when a portion is asked for that reaches them.

    * `TextFile.next`     : another chunk of the text.
    * `TextFile.portions` : the portions that a file has to give.
-/

namespace ImportScan

/-- The code points that octets complete, and where the decoder stands behind them; nothing when
    a part is ill-formed. -/
def Utf8.advance (s : State) : Bytes → Option (Text × State)
  | [] => some ([], s)
  | b :: rest => do
    let (out, s) := step s b.toNat
    let t ← out.mapM id
    let (more, s) ← advance s rest
    return (t ++ more, s)

namespace Text

/-- A part of a text with uniform line ends, and whether a carriage return at its end is held
    back, which the last part does not do.  One may be held back from the part before. -/
def normalizePart (returned isLast : Bool) (t : Text) : Text × Bool :=
  let t := if returned then CodePoint.ofChar '\r' :: t else t
  if !isLast && t.getLast?.any (·.is '\r') then (normalizeNewlines t.dropLast, true)
  else (normalizeNewlines t, false)

end Text

/-- A file that is read as text. -/
structure TextFile where
  /-- The octets that are still to be taken. -/
  octets : Bytes
  /-- Where the decoder stands. -/
  state : Utf8.State := .start
  /-- Whether a carriage return is held back. -/
  returned : Bool := false
  /-- How many octets were taken last. -/
  taken : Nat := 0
  /-- How many code points came of them. -/
  given : Nat := 0
deriving Repr

namespace TextFile

/-- The number of code points in a portion. -/
def portionSize : Nat := 4096

/-- How many octets are taken when some code points are still wanted: 8192, or more if that
    many code points took more the last time. -/
def chunkSize (f : TextFile) (wanted : Nat) : Nat := max 8192 (f.taken * wanted / f.given)

/-- Another chunk of the text, and the file behind it; nothing when there is an ill-formed part,
    or when the file ends inside a character. -/
def next (f : TextFile) (wanted : Nat) : Option (Text × TextFile) := do
  let size := f.chunkSize wanted
  let (t, state) ← Utf8.advance f.state (f.octets.take size)
  let isLast := f.octets.isEmpty
  if isLast && state != .start then none
  else
    let (t, returned) := t.normalizePart f.returned isLast
    return (t, { octets := f.octets.drop size, state, returned,
                 taken := (f.octets.take size).length, given := t.length })

/-- The portions that a text completes which comes behind some code points, and the code points
    left over. -/
def cut (before : Text) : Text → List Text × Text
  | [] => ([], before)
  | c :: rest =>
    if before.length + 1 < portionSize then cut (before ++ [c]) rest
    else
      let (more, left) := cut [] rest
      ((before ++ [c]) :: more, left)

/-- The last portions of a file: what is left over, and an empty one. -/
def ending (left : Text) : List Text := if left.isEmpty then [[]] else [left, []]

/-- The portions that come behind some code points, as far as they can be decoded. -/
def portionsFrom (before : Text) : Nat → TextFile → List Text
  | 0, _ => []
  | n + 1, f =>
    match f.next (portionSize - before.length) with
    | none => []
    | some (t, g) =>
      let (whole, left) := cut before t
      whole ++ if f.octets.isEmpty then ending left else portionsFrom left n g

/-- The portions that a file has to give: all of its text and an empty one, or those before the
    portion that cannot be decoded. -/
def portions (content : Bytes) : List Text :=
  portionsFrom [] (content.length + 1) { octets := content }

/-- The portions of a text. -/
def portionsOf (t : Text) : List Text :=
  let (whole, left) := cut [] t
  whole ++ ending left

end TextFile

end ImportScan
