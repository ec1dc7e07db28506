/-!
# Blank characters

White space as the Unicode property `White_Space` has it, and texts cut back to what stands between
their outermost blanks. `Char.isWhitespace` does not serve here, as it knows only four of the
twenty-five characters.
-/

namespace StartOrder.Text

/-- The characters that have the Unicode property `White_Space`. -/
def isBlank (c : Char) : Bool :=
  let n := c.toNat
  (0x9 ≤ n && n ≤ 0xD) || n == 0x20 || n == 0x85 || n == 0xA0 || n == 0x1680 ||
    (0x2000 ≤ n && n ≤ 0x200A) || n == 0x2028 || n == 0x2029 || n == 0x202F || n == 0x205F ||
    n == 0x3000

/-- A list of characters without the blanks at its front. -/
def trimFront (cs : List Char) : List Char := cs.dropWhile isBlank

/-- A list of characters without the blanks at its two ends. -/
def trimChars (cs : List Char) : List Char := (trimFront (trimFront cs).reverse).reverse

/-- Whether a text has no character but blanks. -/
def allBlank (s : String) : Bool := s.toList.all isBlank

end StartOrder.Text
