import FieldKernel.Text.Printable

/-!
# Quoted text

A text is quoted with single quotes, or with double quotes if that saves escaping: when it holds a
single quote and no double quote. A backslash stands before the quote, before a backslash and in
the escapes of characters that cannot be shown.
-/

namespace FieldKernel.Text

/-- The last `count` hexadecimal digits of a number. -/
def hexDigits (count number : Nat) : List Char :=
  let digits := (Nat.toDigits 16 number).reverse ++ List.replicate count '0'
  (digits.take count).reverse

/-- A character inside quotes. -/
def quotedChar (quote character : Char) : List Char :=
  if character = quote ∨ character = '\\' then ['\\', character]
  else if character = '\n' then ['\\', 'n']
  else if character = '\t' then ['\\', 't']
  else if character = '\r' then ['\\', 'r']
  else if isPrintable character then [character]
  else if character.toNat < 0x100 then '\\' :: 'x' :: hexDigits 2 character.toNat
  else if character.toNat < 0x10000 then '\\' :: 'u' :: hexDigits 4 character.toNat
  else '\\' :: 'U' :: hexDigits 8 character.toNat

/-- The quote that is used around a text. -/
def quoteFor (text : List Char) : Char :=
  if text.contains '\'' ∧ !text.contains '"' then '"' else '\''

def quoted (text : String) : String :=
  let characters := text.toList
  let quote := quoteFor characters
  String.ofList (quote :: characters.flatMap (quotedChar quote) ++ [quote])

end FieldKernel.Text
