import Mathlib.Data.List.Infix
import SiyadahOrchestrator.Foundations.PyValue

/-!
# Values in writing

`repr()` and `str()` of what `json.loads` returns. A string is written between quotes: in double
ones if it holds a single quote and no double one, else in single ones. The quote and the backslash
are escaped, and so is what is not printable.

Whatever is printed as it stands can be looked for in the writing of a whole value
(`infix_reprStr`, `infix_reprOf_item`, `infix_reprOf_entry`).
-/

namespace Siyadah

/-- What the writing of values depends on. -/
structure ReprTables where
  /-- The characters that `str.isprintable` accepts, beyond ASCII. -/
  isPrintable : ℕ → Bool
  /-- `repr` of a float. -/
  float : PyFloat → PyStr

/-- A number in hexadecimal digits, filled up with zeros. -/
def hexDigits (width n : ℕ) : PyStr :=
  let ds := (Nat.toDigits 16 n).map Char.toNat
  List.replicate (width - ds.length) 48 ++ ds

section Strings

variable (T : ReprTables)

/-- The quote that a string is written in. -/
def quoteOf (s : PyStr) : ℕ := if 39 ∈ s ∧ 34 ∉ s then 34 else 39

/-- A character between quotes. -/
def reprChar (quote c : ℕ) : PyStr :=
  if c = quote ∨ c = 92 then [92, c]
  else if c = 9 then [92, 116]
  else if c = 10 then [92, 110]
  else if c = 13 then [92, 114]
  else if c < 32 ∨ c = 127 then [92, 120] ++ hexDigits 2 c
  else if c < 127 then [c]
  else if T.isPrintable c then [c]
  else if c ≤ 255 then [92, 120] ++ hexDigits 2 c
  else if c ≤ 65535 then [92, 117] ++ hexDigits 4 c
  else [92, 85] ++ hexDigits 8 c

/-- `repr(s)`. -/
def reprStr (s : PyStr) : PyStr := quoteOf s :: s.flatMap (reprChar T (quoteOf s)) ++ [quoteOf s]

/-- The characters that are never escaped. -/
def IsVerbatim (c : ℕ) : Prop :=
  c ≠ 34 ∧ c ≠ 39 ∧ c ≠ 92 ∧ (32 ≤ c ∧ c < 127 ∨ 127 < c ∧ T.isPrintable c = true)

variable {T}

theorem reprChar_of_isVerbatim {quote c : ℕ} (hquote : quote = 34 ∨ quote = 39)
    (h : IsVerbatim T c) : reprChar T quote c = [c] := by
  obtain ⟨h34, h39, h92, hprint⟩ := h
  rw [reprChar, if_neg (by omega), if_neg (by omega), if_neg (by omega), if_neg (by omega),
    if_neg (by omega)]
  rcases hprint with hascii | ⟨hbig, hprint⟩
  · exact if_pos hascii.2
  · rw [if_neg (by omega)]
    exact if_pos hprint

theorem quoteOf_cases (s : PyStr) : quoteOf s = 34 ∨ quoteOf s = 39 := by
  rw [quoteOf]
  split
  · exact .inl rfl
  · exact .inr rfl

/-- **What is printed as it stands** is found in the writing of every string that holds it. -/
theorem infix_reprStr {w s : PyStr} (hw : ∀ c ∈ w, IsVerbatim T c) (h : w <:+: s) :
    w <:+: reprStr T s := by
  obtain ⟨l₁, l₂, rfl⟩ := h
  have hsame : w.flatMap (reprChar T (quoteOf (l₁ ++ w ++ l₂))) = w := by
    have hsingle : ∀ c ∈ w, reprChar T (quoteOf (l₁ ++ w ++ l₂)) c = [c] := fun c hc ↦
      reprChar_of_isVerbatim (quoteOf_cases _) (hw c hc)
    rw [List.flatMap_congr hsingle]
    exact List.flatMap_singleton' w
  rw [reprStr, List.flatMap_append, List.flatMap_append, hsame]
  generalize quoteOf (l₁ ++ w ++ l₂) = quote
  refine ⟨quote :: l₁.flatMap (reprChar T quote), l₂.flatMap (reprChar T quote) ++ [quote], ?_⟩
  simp only [List.cons_append, List.append_assoc]

end Strings

/-! ### Values -/

section Values

variable (T : ReprTables)

mutual

/-- `repr(v)`. -/
def reprOf : PyValue → PyStr
  | .null => PyStr.ofString "None"
  | .bool b => PyStr.ofString (if b then "True" else "False")
  | .int n => PyStr.ofString (toString n)
  | .float x => T.float x
  | .str s => reprStr T s
  | .list vs => 91 :: reprItems vs ++ [93]
  | .dict fs => 123 :: reprFields fs ++ [125]

/-- The items of a list. -/
def reprItems : List PyValue → PyStr
  | [] => []
  | v :: vs => reprOf v ++ (if vs.isEmpty then [] else PyStr.ofString ", ") ++ reprItems vs

/-- The items of a dictionary. -/
def reprFields : List (PyStr × PyValue) → PyStr
  | [] => []
  | f :: fs => reprStr T f.1 ++ PyStr.ofString ": " ++ reprOf f.2 ++
      (if fs.isEmpty then [] else PyStr.ofString ", ") ++ reprFields fs

end

/-- `str(v)`. -/
def pyStr : PyValue → PyStr
  | .str s => s
  | v => reprOf T v

variable {T}

theorem reprOf_infix_reprItems {v : PyValue} {vs : List PyValue} (h : v ∈ vs) :
    reprOf T v <:+: reprItems T vs := by
  induction vs with
  | nil => exact absurd h List.not_mem_nil
  | cons w vs ih =>
    rw [reprItems]
    rcases List.mem_cons.1 h with rfl | hmem
    · exact ((List.prefix_append _ _).trans (List.prefix_append _ _)).isInfix
    · exact (ih hmem).trans (List.suffix_append _ _).isInfix

theorem reprOf_infix_reprFields {f : PyStr × PyValue} {fs : List (PyStr × PyValue)} (h : f ∈ fs) :
    reprOf T f.2 <:+: reprFields T fs := by
  induction fs with
  | nil => exact absurd h List.not_mem_nil
  | cons g fs ih =>
    rw [reprFields]
    rcases List.mem_cons.1 h with rfl | hmem
    · refine (List.suffix_append (reprStr T f.1 ++ PyStr.ofString ": ") _).isInfix.trans ?_
      exact ((List.prefix_append _ _).trans (List.prefix_append _ _)).isInfix
    · exact (ih hmem).trans (List.suffix_append _ _).isInfix

/-- The writing of a list holds that of its items, the writing of a dictionary that of its
values. -/
theorem infix_reprOf_item {v : PyValue} {vs : List PyValue} (h : v ∈ vs) :
    reprOf T v <:+: reprOf T (.list vs) := by
  rw [reprOf.eq_def T (.list vs)]
  exact (reprOf_infix_reprItems h).trans
    ((List.suffix_cons _ _).isInfix.trans (List.prefix_append _ _).isInfix)

theorem infix_reprOf_entry {f : PyStr × PyValue} {fs : List (PyStr × PyValue)} (h : f ∈ fs) :
    reprOf T f.2 <:+: reprOf T (.dict fs) := by
  rw [reprOf.eq_def T (.dict fs)]
  exact (reprOf_infix_reprFields h).trans
    ((List.suffix_cons _ _).isInfix.trans (List.prefix_append _ _).isInfix)

end Values

end Siyadah
