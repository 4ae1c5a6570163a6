import SiyadahOrchestrator.Foundations.PyValue
import SiyadahOrchestrator.Foundations.Regex

/-!
# The patterns of `re`

The classes and literals of which Python's patterns are made, over code points, with and without
`re.IGNORECASE`.
-/

namespace Siyadah

open Regex

/-- A letter or a digit of ASCII. -/
def isAsciiAlnum (c : ℕ) : Bool := (48 ≤ c ∧ c ≤ 57) ∨ (65 ≤ c ∧ c ≤ 90) ∨ (97 ≤ c ∧ c ≤ 122)

/-- A character of a word, as `\b` has it; `isAlnum` tells the characters that `str.isalnum`
accepts beyond ASCII. -/
def isWordChar (isAlnum : ℕ → Bool) (c : ℕ) : Bool :=
  if c < 128 then isAsciiAlnum c || c = 95 else isAlnum c

/-- The ASCII letter that a character is taken for when case is ignored, in lower case: `i` is
also the dotless one and the dotted capital, `s` the long one, `k` the Kelvin sign. -/
def foldCase (c : ℕ) : ℕ :=
  if 65 ≤ c ∧ c ≤ 90 then c + 32
  else if c = 304 ∨ c = 305 then 105
  else if c = 383 then 115
  else if c = 8490 then 107
  else c

/-- `re.IGNORECASE` for a class that has its letters in both cases. -/
def ignoringCase (p : ℕ → Bool) (c : ℕ) : Bool := p (foldCase c)

/-- The characters of a text. -/
def literal (s : String) : Regex ℕ := chars (s.toList.map fun c n ↦ n = c.toNat)

/-- The characters of a text in upper or lower case. -/
def literalIgnoringCase (s : String) : Regex ℕ :=
  chars (s.toList.map fun c n ↦ foldCase n = foldCase c.toNat)

/-- A character of the text. -/
def oneOfChars (s : String) (c : ℕ) : Bool := s.toList.any fun d ↦ c = d.toNat

end Siyadah
