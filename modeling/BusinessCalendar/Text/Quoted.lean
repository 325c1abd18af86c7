import BusinessCalendar.Text.Digits
import BusinessCalendar.Text.Printable

/-!
# Quoted literals

How a text or a run of bytes is shown in a report: between quotes, on one line, with every
character that cannot be seen written as an escape.

* `quoteMark` — single quotes, unless the text has a single quote and no double quote.
* `quoted` — a text; escapes the backslash, line ends, the tab, the quote, and code points in hexadecimal.
* `quotedBytes` — bytes; the same with a leading `b`, and a byte beyond ASCII is always escaped.
-/

namespace BusinessCalendar.Text

/-- The mark that encloses a literal: a double quote only where it saves escaping. -/
def quoteMark (cs : List Char) : Char :=
  if cs.contains '\'' && !cs.contains '"' then '"' else '\''

/-- The escapes that quoting always makes, whichever characters are printable. -/
def escape? (mark c : Char) : Option String :=
  if c = '\\' || c = mark then some (String.ofList ['\\', c])
  else if c = '\n' then some "\\n"
  else if c = '\r' then some "\\r"
  else if c = '\t' then some "\\t"
  else none

/-- A code point in the shortest of the widths two, four and eight. -/
def escapeCode (code : Nat) : String :=
  if code < 0x100 then "\\x" ++ hexPadded 2 code
  else if code < 0x10000 then "\\u" ++ hexPadded 4 code
  else "\\U" ++ hexPadded 8 code

def quotedChar (mark c : Char) : String :=
  match escape? mark c with
  | some e => e
  | none => if isPrintable c then c.toString else escapeCode c.toNat

def quoted (s : String) : String :=
  let mark := quoteMark s.toList
  mark.toString ++ String.join (s.toList.map (quotedChar mark)) ++ mark.toString

/-- One byte of a quoted run of bytes. -/
def quotedByte (mark : Char) (byte : UInt8) : String :=
  match escape? mark (Char.ofNat byte.toNat) with
  | some e => e
  | none =>
    if 0x20 ≤ byte && byte < 0x7f then (Char.ofNat byte.toNat).toString
    else escapeCode byte.toNat

/-- A run of bytes as a quoted literal. -/
def quotedBytes (bytes : List UInt8) : String :=
  let mark := quoteMark (bytes.map fun byte => Char.ofNat byte.toNat)
  "b" ++ mark.toString ++ String.join (bytes.map (quotedByte mark)) ++ mark.toString

end BusinessCalendar.Text
