import Harvest.Text.Printable
import Harvest.Text.Utf8

/-!
# Quoted text

Messages show text between quotes, so that its ends and its invisible characters can be seen.
The quote is single unless the text itself holds a single and no double quote; the quote, the
backslash and the characters that are not printable are escaped.  `text` quotes characters and
`bytes` quotes bytes.
-/

namespace Harvest.Text.Quoted

/-- The quote that a text is put between. -/
def quoteFor (cs : List Char) : Char :=
  if cs.contains '\'' && !cs.contains '"' then '"' else '\''

/-- The escape of a character that is not printable. -/
def hidden (c : Char) : String :=
  let n := c.toNat
  if n < 0x100 then "\\x" ++ hexText 2 n
  else if n < 0x10000 then "\\u" ++ hexText 4 n
  else "\\U" ++ hexText 8 n

/-- A character as it stands between quotes. -/
def escape (quote c : Char) : String :=
  if c = quote || c = '\\' then String.ofList ['\\', c]
  else if c = '\n' then "\\n"
  else if c = '\r' then "\\r"
  else if c = '\t' then "\\t"
  else if isPrintable c then c.toString
  else hidden c

/-- Characters between quotes. -/
def chars (cs : List Char) : String :=
  let quote := quoteFor cs
  quote.toString ++ String.join (cs.map (escape quote)) ++ quote.toString

/-- A text between quotes. -/
def text (s : String) : String :=
  chars s.toList

/-- A byte as it stands between quotes: a character when it is printable ASCII. -/
def escapeByte (quote : Char) (b : UInt8) : String :=
  if b.toNat < 0x80 then escape quote (Char.ofNat b.toNat) else "\\x" ++ hexText 2 b.toNat

/-- Bytes between quotes, marked with a leading `b`. -/
def bytes (bs : List UInt8) : String :=
  let quote := quoteFor (bs.map fun b => Char.ofNat b.toNat)
  "b" ++ quote.toString ++ String.join (bs.map (escapeByte quote)) ++ quote.toString

end Harvest.Text.Quoted
