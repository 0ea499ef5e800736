/-! # White space

The white space of Unicode, and trimming by it. Characters are judged one at a time, so the
trimming functions are suffix and prefix operations on lists of characters.
-/

namespace RequestChain.Text

/-- The characters with the property `White_Space`. -/
def isBlank (c : Char) : Bool :=
  let code := c.toNat
  (0x09 ≤ code && code ≤ 0x0d) || code == 0x20 || code == 0x85 || code == 0xa0 || code == 0x1680 ||
    (0x2000 ≤ code && code ≤ 0x200a) || code == 0x2028 || code == 0x2029 || code == 0x202f ||
    code == 0x205f || code == 0x3000

/-- The text from its first character outside `skipped` on. -/
def trimLeft (skipped : Char → Bool) (text : List Char) : List Char :=
  text.dropWhile skipped

/-- The text up to its last character outside `skipped`. -/
def trimRight (skipped : Char → Bool) (text : List Char) : List Char :=
  (text.reverse.dropWhile skipped).reverse

theorem trimLeft_eq_self {skipped : Char → Bool} {text : List Char}
    (kept : ∀ c, text.head? = some c → skipped c = false) : trimLeft skipped text = text := by
  cases text with
  | nil => rfl
  | cons c rest => simp [trimLeft, kept c rfl]

theorem trimRight_eq_self {skipped : Char → Bool} {text : List Char}
    (kept : ∀ c, text.getLast? = some c → skipped c = false) : trimRight skipped text = text := by
  have reversed : trimLeft skipped text.reverse = text.reverse :=
    trimLeft_eq_self (by simpa using kept)
  rw [trimRight, ← trimLeft, reversed, List.reverse_reverse]

/-- Blank characters are dropped at the start. -/
def trimStart (text : List Char) : List Char :=
  trimLeft isBlank text

/-- Blank characters are dropped at the end. -/
def trimEnd (text : List Char) : List Char :=
  trimRight isBlank text

/-- Blank characters are dropped at both ends. -/
def trim (text : List Char) : List Char :=
  trimStart (trimEnd text)

/-- A text without blanks at its ends stays. -/
theorem trim_eq_self {text : List Char} (start : ∀ c, text.head? = some c → isBlank c = false)
    (stop : ∀ c, text.getLast? = some c → isBlank c = false) : trim text = text := by
  rw [trim, trimEnd, trimRight_eq_self stop, trimStart, trimLeft_eq_self start]

/-- Blank characters are dropped at both ends of a string. -/
def trimmed (text : String) : String :=
  String.ofList (trim text.toList)

/-- Nothing but blank characters. -/
def isBlankText (text : String) : Bool :=
  text.toList.all isBlank

end RequestChain.Text
