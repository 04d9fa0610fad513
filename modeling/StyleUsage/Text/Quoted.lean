import StyleUsage.Text.Printable

/-! # Quoted texts

A text is shown between single quotes, or between double quotes if it holds a single quote and
no double one. The backslash, the surrounding quote and the characters that are not printable
are written as escapes. -/

namespace StyleUsage.Text

/-- The last `width` digits of a number in base sixteen, in lowercase. -/
def hexDigits (width n : Nat) : List Char :=
  (List.range width).reverse.map fun place => Nat.digitChar ((n >>> (4 * place)) % 16)

/-- The quote that surrounds a text. -/
def quoteFor (s : List Char) : Char :=
  if s.contains '\'' && !s.contains '"' then '"' else '\''

/-- One character between quotes of the given kind. -/
def quoteChar (quote c : Char) : List Char :=
  if c = quote ∨ c = '\\' then ['\\', c]
  else if c = '\n' then ['\\', 'n']
  else if c = '\r' then ['\\', 'r']
  else if c = '\t' then ['\\', 't']
  else if isPrintable c then [c]
  else if c.toNat < 0x100 then '\\' :: 'x' :: hexDigits 2 c.toNat
  else if c.toNat < 0x10000 then '\\' :: 'u' :: hexDigits 4 c.toNat
  else '\\' :: 'U' :: hexDigits 8 c.toNat

/-- A text between quotes. -/
def quoted (s : List Char) : List Char :=
  let quote := quoteFor s
  quote :: s.flatMap (quoteChar quote) ++ [quote]

/-- A text between quotes. -/
def quotedText (s : String) : String :=
  String.ofList (quoted s.toList)

example : quotedText "it's" = "\"it's\"" ∧ quotedText "a\"'b" = "'a\"\\'b'" ∧
    quotedText "\t\u00a0\u200b" = "'\\t\\xa0\\u200b'" := by decide +kernel

end StyleUsage.Text
