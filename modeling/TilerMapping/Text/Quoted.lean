/-
Module: TilerMapping.Text.Quoted
Purpose: Texts in quotation marks, with escapes for what cannot stand there.
Main exports: Text.escape, Text.quote
-/
import TilerMapping.Text.Unprintable

namespace TilerMapping.Text

/-- A character as it stands between quotation marks. -/
def escape (c : Char) : List Char :=
  if c = '\x00' then ['\\', '0']
  else if c = '\t' then ['\\', 't']
  else if c = '\r' then ['\\', 'r']
  else if c = '\n' then ['\\', 'n']
  else if c = '"' ∨ c = '\\' then ['\\', c]
  else if isUnprintable c then
    ['\\', 'u', '\x7b'] ++ Nat.toDigits 16 c.toNat ++ ['\x7d']
  else [c]

/-- A text in quotation marks. -/
def quote (text : String) : String :=
  "\"" ++ String.ofList (text.toList.flatMap escape) ++ "\""

end TilerMapping.Text
