import Turnstile.Text.Ranges

namespace Turnstile.Text

/-!
# Blank characters

What counts as white space in a header, in a user-map line and around a number, and how it is
dropped.

* `isBlank` — membership in the blank characters of Unicode, information separators included;
* `trim` — a text without the blanks at its two ends;
* `firstWord?` — the first word of a text together with what follows it.
-/

/-- The blank characters, as ranges of code points: the white space of Unicode together with the
    four information separators `U+001C` to `U+001F`. -/
def blankRanges : List (Nat × Nat) :=
  [(0x09, 0x0D), (0x1C, 0x20), (0x85, 0x85), (0xA0, 0xA0), (0x1680, 0x1680), (0x2000, 0x200A),
   (0x2028, 0x2029), (0x202F, 0x202F), (0x205F, 0x205F), (0x3000, 0x3000)]

/-- A character is blank when its code point lies in one of `blankRanges`. -/
def isBlank (c : CodePoint) : Bool :=
  inRanges blankRanges c

/-- A text without its leading blanks. -/
def trimLeft (cs : List CodePoint) : List CodePoint :=
  cs.dropWhile isBlank

/-- A text without its trailing blanks. -/
def trimRight (cs : List CodePoint) : List CodePoint :=
  (cs.reverse.dropWhile isBlank).reverse

/-- A text without the blanks at its two ends. -/
def trim (cs : List CodePoint) : List CodePoint :=
  trimRight (trimLeft cs)

/-- The first word of a text and what follows it, with the blanks between the two dropped; `none`
    when there is no word or nothing but blanks follows it. -/
def firstWord? (cs : List CodePoint) : Option (List CodePoint × List CodePoint) :=
  let start := trimLeft cs
  let word := start.takeWhile fun c => !isBlank c
  let rest := trimLeft (start.dropWhile fun c => !isBlank c)
  if word.isEmpty || rest.isEmpty then none else some (word, rest)

end Turnstile.Text
