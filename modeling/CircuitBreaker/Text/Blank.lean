/-
White space: the characters with the Unicode property of that name.
-/

namespace CircuitBreaker.Text

/-- Whether a character is white space in the sense of Unicode: the space, the controls from the
tab to the carriage return, next line, and the space, line and paragraph separators. -/
def isBlank (c : Char) : Bool :=
  c = ' ' || ('\t' ≤ c && c ≤ '\r') || c = '\u0085' || c = '\u00a0' || c = '\u1680' ||
    ('\u2000' ≤ c && c ≤ '\u200a') || c = '\u2028' || c = '\u2029' || c = '\u202f' ||
    c = '\u205f' || c = '\u3000'

/-- The text without the white space it starts with. -/
def trimStart (s : List Char) : List Char :=
  s.dropWhile isBlank

end CircuitBreaker.Text
