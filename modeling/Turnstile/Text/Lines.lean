import Turnstile.Text.Cut

namespace Turnstile.Text

/-!
# Lines of a text

* `isLineEnd` — the characters at which a line ends;
* `splitLines` — the lines of a text, without their ends;
* `unifyLineEnds` — a file's text with each carriage return written as a line feed.
-/

/-- The characters at which a line ends: line feed, vertical tab, form feed, carriage return, the
    information separators `U+001C` to `U+001E`, next line, and the two Unicode separators. -/
def isLineEnd (c : CodePoint) : Bool :=
  let n := c.toNat
  (0x0A ≤ n && n ≤ 0x0D) || (0x1C ≤ n && n ≤ 0x1E) || n == 0x85 || n == 0x2028 || n == 0x2029

/-- The lines of a text, without their ends.  A carriage return and a line feed next to each other
    are one end, and an end at the very end of the text opens no further line. -/
def splitLines : List CodePoint → List (List CodePoint)
  | [] => []
  | .char '\r' :: .char '\n' :: cs => [] :: splitLines cs
  | c :: cs => if isLineEnd c then [] :: splitLines cs else extendFirst c (splitLines cs)

/-- Writes each carriage return, alone or together with a line feed after it, as a line feed. -/
def unifyLineEnds : List CodePoint → List CodePoint
  | [] => []
  | .char '\r' :: .char '\n' :: cs => .char '\n' :: unifyLineEnds cs
  | c :: cs => (if c = '\r' then .char '\n' else c) :: unifyLineEnds cs

end Turnstile.Text
