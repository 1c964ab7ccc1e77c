/-!
# Blank characters

A blank is a character with the Unicode property White_Space: the ASCII tab, line feed, vertical
tab, form feed, carriage return and space, the next-line control, the no-break space, the Ogham
space mark, the eleven spaces from en quad to hair space, the line and paragraph separators, the
narrow no-break space, the medium mathematical space and the ideographic space.

Trimming drops the blanks at both ends of a text and keeps those inside.
-/

namespace WaitGate.Text

/-- Whether a character is a blank (property White_Space). -/
def blank (c : Char) : Bool :=
  let n := c.toNat
  (0x9 ≤ n && n ≤ 0xD) || n == 0x20 || n == 0x85 || n == 0xA0 || n == 0x1680 ||
    (0x2000 ≤ n && n ≤ 0x200A) || n == 0x2028 || n == 0x2029 || n == 0x202F ||
    n == 0x205F || n == 0x3000

/-- Every ASCII blank of core is a blank here too. -/
theorem blank_of_isWhitespace (c : Char) (h : c.isWhitespace = true) : blank c = true := by
  simp only [Char.isWhitespace, Bool.or_eq_true, decide_eq_true_eq] at h
  simp only [blank, Bool.or_eq_true, Bool.and_eq_true, decide_eq_true_eq, beq_iff_eq]
  rcases h with ((h | h) | h) | h <;> simp [h]

/-- The characters of a text without the blanks at either end. -/
def trimBlanks (cs : List Char) : List Char :=
  ((cs.dropWhile blank).reverse.dropWhile blank).reverse

/-- A text without the blanks at either end. -/
def trim (s : String) : String := String.ofList (trimBlanks s.toList)

example : trim "　 7\t " = "7" := by decide +kernel

end WaitGate.Text
