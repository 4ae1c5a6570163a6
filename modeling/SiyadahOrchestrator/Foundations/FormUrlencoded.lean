import Mathlib.Data.List.SplitOn
import Mathlib.Data.List.TakeWhile

/-!
# Forms in URLs

The format `application/x-www-form-urlencoded`, over bytes. `urlencode` writes a list of parameters
as Python's `urllib.parse.urlencode` does: a letter, a digit and one of `_.-~` stand for themselves,
a blank becomes `+`, any other byte its code in hexadecimal behind `%`. `parse` is the reader of the
URL standard, which every server applies to a query.

The reader gives back exactly what was written, whatever the bytes are (`parse_urlencode`), so a
value cannot be written that is read as another parameter. `location` and `query` take a URL apart
as a browser does.
-/

namespace Siyadah

namespace FormUrlencoded

/-! ### Writing -/

/-- Bytes that stand for themselves. -/
def isUnreserved (b : UInt8) : Bool :=
  (48 ≤ b ∧ b ≤ 57) ∨ (65 ≤ b ∧ b ≤ 90) ∨ (97 ≤ b ∧ b ≤ 122) ∨ b = 45 ∨ b = 46 ∨ b = 95 ∨ b = 126

/-- One digit in hexadecimal. -/
def hexDigit (v : ℕ) : UInt8 := if v < 10 then UInt8.ofNat (v + 48) else UInt8.ofNat (v + 55)

/-- One byte of a component. -/
def quoteByte (b : UInt8) : List UInt8 :=
  if b = 32 then [43]
  else if isUnreserved b then [b]
  else [37, hexDigit (b.toNat / 16), hexDigit (b.toNat % 16)]

/-- `quote_plus`. -/
def quotePlus (s : List UInt8) : List UInt8 := s.flatMap quoteByte

/-- `key=value`. -/
def parameter (p : List UInt8 × List UInt8) : List UInt8 := quotePlus p.1 ++ 61 :: quotePlus p.2

/-- `urlencode`. -/
def urlencode (params : List (List UInt8 × List UInt8)) : List UInt8 :=
  List.intercalate [38] (params.map parameter)

/-! ### Reading -/

/-- The value of a digit in hexadecimal. -/
def hexValue? (c : UInt8) : Option ℕ :=
  if 48 ≤ c ∧ c ≤ 57 then some (c.toNat - 48)
  else if 65 ≤ c ∧ c ≤ 70 then some (c.toNat - 55)
  else if 97 ≤ c ∧ c ≤ 102 then some (c.toNat - 87)
  else none

/-- The byte that three characters stand for, if they are an escape. -/
def escape? (c a b : UInt8) : Option UInt8 :=
  if c = 37 then
    match hexValue? a, hexValue? b with
    | some x, some y => some (UInt8.ofNat (x * 16 + y))
    | _, _ => none
  else none

/-- Escapes are resolved; a `%` that begins none stands for itself. -/
def percentDecode : List UInt8 → List UInt8
  | c :: a :: b :: rest =>
    match escape? c a b with
    | some d => d :: percentDecode rest
    | none => c :: percentDecode (a :: b :: rest)
  | c :: rest => c :: percentDecode rest
  | [] => []

/-- One component. -/
def component (s : List UInt8) : List UInt8 :=
  percentDecode (s.map fun b ↦ if b = 43 then 32 else b)

/-- A parameter is split at the first `=`. -/
def readParameter (s : List UInt8) : List UInt8 × List UInt8 :=
  (component (s.takeWhile (· ≠ 61)), component ((s.dropWhile (· ≠ 61)).drop 1))

/-- The parameters of a query. -/
def parse (q : List UInt8) : List (List UInt8 × List UInt8) :=
  ((q.splitOn 38).filter (· ≠ [])).map readParameter

/-- The part of a URL in front of the query and the fragment. -/
def location (url : List UInt8) : List UInt8 := url.takeWhile fun b ↦ b ≠ 63 ∧ b ≠ 35

/-- The query of a URL: what follows the first `?`, up to the fragment. -/
def query (url : List UInt8) : List UInt8 :=
  ((url.takeWhile (· ≠ 35)).dropWhile (· ≠ 63)).drop 1

/-! ### One component -/

theorem hexValue?_hexDigit {v : ℕ} (h : v < 16) : hexValue? (hexDigit v) = some v := by
  have hall : ∀ v < 16, hexValue? (hexDigit v) = some v := by decide
  exact hall v h

theorem hexDigit_ne_plus {v : ℕ} (h : v < 16) : hexDigit v ≠ 43 := by
  have hall : ∀ v < 16, hexDigit v ≠ 43 := by decide
  exact hall v h

/-- Both digits of a byte. -/
theorem escape?_hexDigit (b : UInt8) :
    escape? 37 (hexDigit (b.toNat / 16)) (hexDigit (b.toNat % 16)) = some b := by
  have hb := b.toNat_lt
  have hdigits : b.toNat / 16 * 16 + b.toNat % 16 = b.toNat := by omega
  rw [escape?, if_pos rfl, hexValue?_hexDigit (by omega), hexValue?_hexDigit (by omega)]
  show some (UInt8.ofNat (b.toNat / 16 * 16 + b.toNat % 16)) = some b
  rw [hdigits, UInt8.ofNat_toNat]

/-- A character that is no `%` is read as it stands. -/
theorem percentDecode_cons {c : UInt8} (h : c ≠ 37) (rest : List UInt8) :
    percentDecode (c :: rest) = c :: percentDecode rest := by
  match rest with
  | [] => rfl
  | [_] => rfl
  | a :: b :: rest =>
    have hescape : escape? c a b = none := if_neg h
    rw [percentDecode, hescape]

/-- One byte that was written is read, whatever follows. -/
theorem component_quoteByte_append (b : UInt8) (rest : List UInt8) :
    component (quoteByte b ++ rest) = b :: component rest := by
  have hb := b.toNat_lt
  rw [quoteByte]
  split
  · -- A blank was written as `+`, and the `+` becomes a blank before escapes are looked for.
    rename_i hblank
    rw [hblank]
    exact percentDecode_cons (by decide) _
  · split
    · rename_i hunreserved
      have hplus : b ≠ 43 := fun heq ↦ by
        rw [heq] at hunreserved
        exact absurd hunreserved (by decide)
      have hpercent : b ≠ 37 := fun heq ↦ by
        rw [heq] at hunreserved
        exact absurd hunreserved (by decide)
      rw [component, List.singleton_append, List.map_cons, if_neg hplus,
        percentDecode_cons hpercent]
      rfl
    · have h₁ : hexDigit (b.toNat / 16) ≠ 43 := hexDigit_ne_plus (by omega)
      have h₂ : hexDigit (b.toNat % 16) ≠ 43 := hexDigit_ne_plus (by omega)
      rw [component, List.cons_append, List.cons_append, List.cons_append, List.map_cons,
        List.map_cons, List.map_cons, if_neg (by decide), if_neg h₁, if_neg h₂, percentDecode,
        escape?_hexDigit]
      rfl

/-- **A component that was written is read.** -/
theorem component_quotePlus (s : List UInt8) : component (quotePlus s) = s := by
  induction s with
  | nil => rfl
  | cons b s ih =>
    rw [quotePlus, List.flatMap_cons, component_quoteByte_append]
    exact congrArg (b :: ·) ih

/-! ### The characters of a query -/

/-- What a component is written with. -/
def isWritten (c : UInt8) : Bool := isUnreserved c ∨ c = 37 ∨ c = 43

theorem isWritten_hexDigit {v : ℕ} (h : v < 16) : isWritten (hexDigit v) := by
  have hall : ∀ v < 16, isWritten (hexDigit v) := by decide
  exact hall v h

theorem isWritten_of_mem_quotePlus {s : List UInt8} {c : UInt8} (h : c ∈ quotePlus s) :
    isWritten c := by
  obtain ⟨b, -, hc⟩ := List.mem_flatMap.1 h
  have hb := b.toNat_lt
  rw [quoteByte] at hc
  split at hc
  · rw [List.mem_singleton.1 hc]
    decide
  · split at hc
    · rename_i hunreserved
      rw [List.mem_singleton.1 hc, isWritten, hunreserved]
      rfl
    · rcases List.mem_cons.1 hc with rfl | hc
      · decide
      · rcases List.mem_cons.1 hc with rfl | hc
        · exact isWritten_hexDigit (by omega)
        · rw [List.mem_singleton.1 hc]
          exact isWritten_hexDigit (by omega)

/-- A separator is in no component. -/
theorem notMem_quotePlus {s : List UInt8} {c : UInt8} (h : ¬ isWritten c) : c ∉ quotePlus s :=
  fun hmem ↦ h (isWritten_of_mem_quotePlus hmem)

/-- Neither a `?` nor a `#` nor a `&` is in a parameter. -/
theorem notMem_parameter {p : List UInt8 × List UInt8} {c : UInt8} (h : ¬ isWritten c)
    (hne : c ≠ 61) : c ∉ parameter p := fun hmem ↦ by
  rcases List.mem_append.1 hmem with hmem | hmem
  · exact notMem_quotePlus h hmem
  · rcases List.mem_cons.1 hmem with heq | hmem
    · exact hne heq
    · exact notMem_quotePlus h hmem

theorem parameter_ne_nil (p : List UInt8 × List UInt8) : parameter p ≠ [] :=
  List.append_ne_nil_of_right_ne_nil _ (List.cons_ne_nil _ _)

/-- A query has no fragment. -/
theorem notMem_urlencode {params : List (List UInt8 × List UInt8)} {c : UInt8}
    (h : ¬ isWritten c) (heq : c ≠ 61) (hamp : c ≠ 38) : c ∉ urlencode params := by
  induction params with
  | nil => exact List.not_mem_nil
  | cons p params ih =>
    rcases params with - | ⟨p', params⟩
    · show c ∉ List.intercalate [38] [parameter p]
      rw [List.intercalate_singleton]
      exact notMem_parameter h heq
    · show c ∉ List.intercalate [38] (parameter p :: (p' :: params).map parameter)
      rw [List.intercalate_cons_of_ne_nil (by simp)]
      intro hmem
      rcases List.mem_append.1 hmem with hmem | hmem
      · rcases List.mem_append.1 hmem with hmem | hmem
        · exact notMem_parameter h heq hmem
        · exact hamp (List.mem_singleton.1 hmem)
      · exact ih hmem

/-! ### The round trip -/

theorem readParameter_parameter (p : List UInt8 × List UInt8) :
    readParameter (parameter p) = p := by
  have hkey : ∀ c ∈ quotePlus p.1, decide (c ≠ 61) = true := fun c hc ↦
    decide_eq_true fun heq ↦ notMem_quotePlus (by decide) (heq ▸ hc)
  have htake : (parameter p).takeWhile (· ≠ 61) = quotePlus p.1 := by
    rw [parameter, List.takeWhile_append_of_pos hkey, List.takeWhile_cons_of_neg (by decide),
      List.append_nil]
  have hdrop : (parameter p).dropWhile (· ≠ 61) = 61 :: quotePlus p.2 := by
    rw [parameter, List.dropWhile_append_of_pos hkey, List.dropWhile_cons_of_neg (by decide)]
  rw [readParameter, htake, hdrop, List.drop_one, List.tail_cons, component_quotePlus,
    component_quotePlus]

/-- **The round trip**: whatever the parameters are, the reader gives back the list that was
written, with the order and the multiplicity of the keys. -/
theorem parse_urlencode (params : List (List UInt8 × List UInt8)) :
    parse (urlencode params) = params := by
  rcases params with - | ⟨p, params⟩
  · rfl
  · have hamp : ∀ s ∈ (p :: params).map parameter, (38 : UInt8) ∉ s := by
      intro s hs
      obtain ⟨p', -, rfl⟩ := List.mem_map.1 hs
      exact notMem_parameter (by decide) (by decide)
    have hfilter : ((p :: params).map parameter).filter (· ≠ []) = (p :: params).map parameter := by
      rw [List.filter_eq_self]
      intro s hs
      obtain ⟨p', -, rfl⟩ := List.mem_map.1 hs
      exact decide_eq_true (parameter_ne_nil p')
    have hsplit : (urlencode (p :: params)).splitOn 38 = (p :: params).map parameter :=
      List.splitOn_intercalate 38 hamp (by simp)
    rw [parse, hsplit, hfilter, List.map_map]
    refine (List.map_congr_left fun p' _ ↦ ?_).trans (List.map_id _)
    exact readParameter_parameter p'

section Urls

variable {base : List UInt8}

/-- A browser goes where the base says. -/
theorem location_append (hbase : ∀ b ∈ base, b ≠ 63 ∧ b ≠ 35) (q : List UInt8) :
    location (base ++ 63 :: q) = base := by
  rw [location, List.takeWhile_append_of_pos fun b hb ↦ decide_eq_true (hbase b hb),
    List.takeWhile_cons_of_neg (by decide), List.append_nil]

/-- The server sees the parameters as the query. -/
theorem query_append (hbase : ∀ b ∈ base, b ≠ 63 ∧ b ≠ 35)
    (params : List (List UInt8 × List UInt8)) :
    query (base ++ 63 :: urlencode params) = urlencode params := by
  have hfragment : ∀ b ∈ base ++ 63 :: urlencode params, decide (b ≠ 35) = true := by
    intro b hb
    refine decide_eq_true fun heq ↦ ?_
    rcases List.mem_append.1 hb with hb | hb
    · exact (hbase b hb).2 heq
    · rcases List.mem_cons.1 hb with rfl | hb
      · exact absurd heq (by decide)
      · exact notMem_urlencode (by decide) (by decide) (by decide) (heq ▸ hb)
  rw [query, List.takeWhile_eq_self_iff.2 hfragment,
    List.dropWhile_append_of_pos fun b hb ↦ decide_eq_true (hbase b hb).1,
    List.dropWhile_cons_of_neg (by decide), List.drop_one, List.tail_cons]

end Urls

end FormUrlencoded

end Siyadah
