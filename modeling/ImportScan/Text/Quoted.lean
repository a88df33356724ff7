import ImportScan.Text.Unicode.Classes

/-! # Quoted text

    How a text is shown inside a message: between apostrophes, or between quotation marks
    when it holds an apostrophe and no quotation mark.  The quote in use, the backslash and
    the common control characters are escaped by name, every other code point that cannot be
    shown by its number.
-/

namespace ImportScan

namespace Text

/-- Lower-case hexadecimal digits of a number, padded with zeros to a width. -/
def hex (width n : Nat) : Text :=
  let digits := ofString (String.ofList (Nat.toDigits 16 n))
  List.replicate (width - digits.length) (CodePoint.ofChar '0') ++ digits

/-- One code point inside a quoted text. -/
def quoteOne (quote : CodePoint) (c : CodePoint) : Text :=
  if c = quote ∨ c.is '\\' then [CodePoint.ofChar '\\', c]
  else if c.is '\n' then ofString "\\n"
  else if c.is '\r' then ofString "\\r"
  else if c.is '\t' then ofString "\\t"
  else if Unicode.printable.contains c then [c]
  else if c.val < 0x100 then ofString "\\x" ++ hex 2 c.val
  else if c.val < 0x10000 then ofString "\\u" ++ hex 4 c.val
  else ofString "\\U" ++ hex 8 c.val

/-- The text between quotes, as a message shows it. -/
def quoted (t : Text) : Text :=
  let quote := CodePoint.ofChar (if t.any (·.is '\x27') && !t.any (·.is '"') then '"' else '\x27')
  quote :: (t.flatMap (quoteOne quote) ++ [quote])

end Text

end ImportScan
