import Turnstile.Text.Unseen

namespace Turnstile.Text

/-!
# Quoted text

How a text is shown inside a message: between quotes, with the quote, the backslash and the
characters that leave no mark written as escapes.

* `escapeCode` — the numbered escape of a character;
* `quoted` — a text between quotes.
-/

/-- A number in hexadecimal, padded with zeros to a width. -/
def hex (width n : Nat) : List CodePoint :=
  let digits := Text.digits 16 n
  List.replicate (width - digits.length) (.char '0') ++ digits

/-- The numbered escape of a character: two, four or eight hexadecimal digits, as few as hold its
    code point. -/
def escapeCode (c : CodePoint) : List CodePoint :=
  let n := c.toNat
  if n ≤ 0xFF then .char '\\' :: .char 'x' :: hex 2 n
  else if n ≤ 0xFFFF then .char '\\' :: .char 'u' :: hex 4 n
  else .char '\\' :: .char 'U' :: hex 8 n

/-- One character between the given quotes. -/
def quotedChar (quote c : CodePoint) : List CodePoint :=
  if c = quote || c = '\\' then ['\\', c]
  else if c = '\n' then ['\\', 'n']
  else if c = '\r' then ['\\', 'r']
  else if c = '\t' then ['\\', 't']
  else if isUnseen c then escapeCode c
  else [c]

/-- Single quotes, unless the text holds one of them and no double quote. -/
def quoteFor (cs : List CodePoint) : CodePoint :=
  if cs.contains '\'' && !cs.contains '"' then .char '"' else .char '\''

/-- A text between quotes. -/
def quoted (s : Text) : Text :=
  let cs := s.toList
  let quote := quoteFor cs
  Text.ofList (quote :: cs.flatMap (quotedChar quote) ++ [quote])

end Turnstile.Text
