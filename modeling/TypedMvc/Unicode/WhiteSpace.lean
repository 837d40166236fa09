/-!
# White space

The property White_Space, and trimming by it.
-/

namespace TypedMvc.Unicode

/-- The property White_Space. -/
def isWhiteSpace (c : Char) : Bool :=
  ('\t' ≤ c && c ≤ '\r') || c == ' ' || c == '\u0085' || c == '\u00a0' || c == '\u1680' ||
    ('\u2000' ≤ c && c ≤ '\u200a') || c == '\u2028' || c == '\u2029' || c == '\u202f' ||
    c == '\u205f' || c == '\u3000'

/-- The text without the white space at its two ends. -/
def trimChars (text : List Char) : List Char :=
  ((text.dropWhile isWhiteSpace).reverse.dropWhile isWhiteSpace).reverse

/-- The text without the white space at its two ends. -/
def trim (s : String) : String := String.ofList (trimChars s.toList)

end TypedMvc.Unicode
