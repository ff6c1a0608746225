import TrafficPolicy.Text.CaseTable
import TrafficPolicy.Text.HiddenTable

/-!
# Quoted text

`Text.quote` shows a text between quotation marks so that every character of it can be told: marks
and backslashes are escaped, the common control characters have letters, and other characters
without a glyph of their own appear by number.
-/

namespace TrafficPolicy.Text

/-- A character inside quotation marks. -/
def quoteChar (c : Char) : List Char :=
  if c = '\t' then ['\\', 't']
  else if c = '\n' then ['\\', 'n']
  else if c = '\r' then ['\\', 'r']
  else if c = Char.ofNat 0 then ['\\', '0']
  else if c = '\\' then ['\\', '\\']
  else if c = '"' then ['\\', '"']
  else if inRanges hiddenRanges c.toNat then
    "\\u\x7b".toList ++ Nat.toDigits 16 c.toNat ++ "\x7d".toList
  else [c]

/-- A text between quotation marks. -/
def quote (text : String) : String :=
  String.ofList ('"' :: text.toList.flatMap quoteChar ++ ['"'])

end TrafficPolicy.Text
