import Promotion.Text.Digit
import Promotion.Text.Printable
import Promotion.Text.Unit

/-! Texts as they stand in messages. Between quotes, these are single quotes unless the text has one
and no double quote, and escapes stand for what would not be seen. -/
namespace Promotion.Text

/-- The quote a text is put between. -/
def quoteFor (cs : List Char) : Char :=
  if cs.contains '\'' && !cs.contains '"' then '"' else '\''

/-- One character between quotes: named escapes first, then itself if it is printable, else the
shortest of the three numeric escapes. -/
def quotedChar (quote c : Char) : List Char :=
  if c = quote ∨ c = '\\' then ['\\', c]
  else if c = '\n' then ['\\', 'n']
  else if c = '\r' then ['\\', 'r']
  else if c = '\t' then ['\\', 't']
  else if isPrintable c then [c]
  else if c.toNat < 0x100 then '\\' :: 'x' :: hexDigits true 2 c.toNat
  else if c.toNat < 0x10000 then '\\' :: 'u' :: hexDigits true 4 c.toNat
  else
    match half? c with
    | some half => '\\' :: 'u' :: hexDigits true 4 half
    | none => '\\' :: 'U' :: hexDigits true 8 c.toNat

/-- A text between quotes. -/
def quoted (s : String) : String :=
  let quote := quoteFor s.toList
  String.ofList (quote :: (s.toList.flatMap (quotedChar quote) ++ [quote]))

/-- A text with escapes for halves of pairs on their own, which have no bytes. -/
def showHalves (s : String) : String :=
  String.ofList (s.toList.flatMap fun c =>
    match half? c with
    | some half => '\\' :: 'u' :: hexDigits true 4 half
    | none => [c])

end Promotion.Text
