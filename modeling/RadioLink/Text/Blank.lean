/-! Blank characters: the Unicode White_Space property (25 code points), which is the class
that trimming and blank-removal use throughout the library. -/
namespace RadioLink
namespace Text

/-- The Unicode White_Space code points. -/
def isBlank (c : Char) : Bool :=
  let n := c.toNat
  (9 ≤ n && n ≤ 13) || n == 32 || n == 0x85 || n == 0xA0 || n == 0x1680 ||
    (0x2000 ≤ n && n ≤ 0x200A) || n == 0x2028 || n == 0x2029 || n == 0x202F ||
    n == 0x205F || n == 0x3000

theorem isBlank_of_isWhitespace (c : Char) (h : c.isWhitespace = true) : isBlank c = true := by
  simp only [Char.isWhitespace, Bool.or_eq_true, decide_eq_true_eq] at h
  simp only [isBlank, Bool.or_eq_true, Bool.and_eq_true, beq_iff_eq, decide_eq_true_eq]
  rcases h with ((h | h) | h) | h <;> subst h <;> decide

def trimChars (cs : List Char) : List Char :=
  ((cs.dropWhile isBlank).reverse.dropWhile isBlank).reverse

/-- `s` with blanks at both ends removed. -/
def trim (s : String) : String := String.ofList (trimChars s.toList)

def dropBlanks (s : String) : String := String.ofList (s.toList.filter fun c => !isBlank c)

end Text
end RadioLink
