import SelfBuild.Text.CharClass

/-!
# Quoted texts

A message shows a text between quotes, on one line and with printable characters only.  Single
quotes are used, unless the text has a single quote and no double quote.  A backslash escapes
itself and the quote in use; line feed, carriage return and tab have letters; other characters that
are not printable are given by their code points.
-/

namespace SelfBuild

namespace Text

def singleQuote : Char := '\''

def quoteFor (s : List Char) : Char :=
  if s.contains singleQuote && !s.contains '"' then '"' else singleQuote

/-- A number in lower-case hexadecimal digits, with leading zeros up to a width. -/
def hexDigits (width n : Nat) : List Char :=
  let digits := Nat.toDigits 16 n
  List.replicate (width - digits.length) '0' ++ digits

/-- A character given by its code point, in the shortest of three forms. -/
def codePointEscape (c : Char) : List Char :=
  if c.toNat < 0x100 then '\\' :: 'x' :: hexDigits 2 c.toNat
  else if c.toNat < 0x10000 then '\\' :: 'u' :: hexDigits 4 c.toNat
  else '\\' :: 'U' :: hexDigits 8 c.toNat

def quotedChar (quote c : Char) : List Char :=
  if c = quote || c = '\\' then ['\\', c]
  else if c = '\n' then ['\\', 'n']
  else if c = '\r' then ['\\', 'r']
  else if c = '\t' then ['\\', 't']
  else if isPrintable c then [c]
  else codePointEscape c

/-- A text between quotes, as characters. -/
def quotedChars (s : List Char) : List Char :=
  quoteFor s :: s.flatMap (quotedChar (quoteFor s)) ++ [quoteFor s]

def quoted (s : String) : String :=
  String.ofList (quotedChars s.toList)

end Text

end SelfBuild
