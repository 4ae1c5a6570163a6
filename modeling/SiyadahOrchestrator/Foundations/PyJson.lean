import SiyadahOrchestrator.Foundations.PyRepr
import SiyadahOrchestrator.Foundations.Regex

/-!
# Values as JSON

`json.dumps` with its defaults: characters beyond ASCII are escaped, items are separated by a comma
and a blank. A JSON text is made of tokens (the strings, between their quotes, and the numbers and
constants) and of punctuation. If a pattern avoids the punctuation, what it finds in the text it
finds in a token (`search_jsonOf`).
-/

namespace Siyadah

open Regex

/-! ### Writing -/

/-- A character in a JSON string. -/
def jsonChar (c : ℕ) : PyStr :=
  if c = 34 ∨ c = 92 then [92, c]
  else if c = 8 then [92, 98]
  else if c = 9 then [92, 116]
  else if c = 10 then [92, 110]
  else if c = 12 then [92, 102]
  else if c = 13 then [92, 114]
  else if 32 ≤ c ∧ c < 127 then [c]
  else if c < 65536 then [92, 117] ++ hexDigits 4 c
  else [92, 117] ++ hexDigits 4 (55296 + (c - 65536) / 1024) ++
    ([92, 117] ++ hexDigits 4 (56320 + (c - 65536) % 1024))

/-- A string, without its quotes. -/
def jsonBody (s : PyStr) : PyStr := s.flatMap jsonChar

/-- A string. -/
def jsonStr (s : PyStr) : PyStr := 34 :: (jsonBody s ++ [34])

section Values

variable (T : ReprTables)

/-- A float. -/
def jsonFloat : PyFloat → PyStr
  | .finite q => T.float (.finite q)
  | .infinity negative => PyStr.ofString (if negative then "-Infinity" else "Infinity")
  | .nan => PyStr.ofString "NaN"

mutual

/-- `json.dumps(v)`. -/
def jsonOf : PyValue → PyStr
  | .null => PyStr.ofString "null"
  | .bool b => PyStr.ofString (if b then "true" else "false")
  | .int n => PyStr.ofString (toString n)
  | .float x => jsonFloat T x
  | .str s => jsonStr s
  | .list vs => 91 :: (jsonItems vs ++ [93])
  | .dict fs => 123 :: (jsonFields fs ++ [125])

/-- The items of a list. -/
def jsonItems : List PyValue → PyStr
  | [] => []
  | v :: vs => jsonOf v ++ (if vs.isEmpty then [] else 44 :: 32 :: jsonItems vs)

/-- The items of a dictionary. -/
def jsonFields : List (PyStr × PyValue) → PyStr
  | [] => []
  | f :: fs => jsonStr f.1 ++ 58 :: 32 :: jsonOf f.2 ++
      (if fs.isEmpty then [] else 44 :: 32 :: jsonFields fs)

end

mutual

/-- What is written between the punctuation. -/
def jsonTokens : PyValue → List PyStr
  | .null => [jsonOf T .null]
  | .bool b => [jsonOf T (.bool b)]
  | .int n => [jsonOf T (.int n)]
  | .float x => [jsonOf T (.float x)]
  | .str s => [jsonBody s]
  | .list vs => itemTokens vs
  | .dict fs => fieldTokens fs

/-- The tokens of the items of a list. -/
def itemTokens : List PyValue → List PyStr
  | [] => []
  | v :: vs => jsonTokens v ++ itemTokens vs

/-- The tokens of the items of a dictionary. -/
def fieldTokens : List (PyStr × PyValue) → List PyStr
  | [] => []
  | f :: fs => jsonBody f.1 :: jsonTokens f.2 ++ fieldTokens fs

end

end Values

/-! ### Finding -/

/-- The pattern takes no punctuation of JSON; a blank and a colon it does not take first. -/
structure AvoidsJson (isWord : ℕ → Bool) (r : Regex ℕ) : Prop where
  separates : ∀ d ∈ [34, 44, 91, 93, 123, 125], Separates isWord r d
  noStart : ∀ d ∈ [32, 58], isWord d = false ∧ r.startsOtherwise d = true

section Finding

variable {isWord : ℕ → Bool} {r : Regex ℕ} {T : ReprTables} {d : ℕ} {s t : PyStr}

theorem AvoidsJson.search_nil (h : AvoidsJson isWord r) : r.search isWord false [] = false :=
  (h.separates 34 (by decide)).search_nil

/-- Nothing is found in the punctuation itself. -/
theorem AvoidsJson.search_cons (h : AvoidsJson isWord r) (hd : d ∈ [34, 44, 91, 93, 123, 125]) :
    r.search isWord false (d :: t) = r.search isWord false t := by
  have hsplit := (h.separates d hd).search_append (b := false) (s := []) (t := t)
  rwa [List.nil_append, h.search_nil, Bool.false_or] at hsplit

theorem AvoidsJson.search_blank (h : AvoidsJson isWord r) (hd : d ∈ [32, 58]) :
    r.search isWord false (d :: t) = r.search isWord false t :=
  search_cons_of_startsOtherwise (h.noStart d hd).2 (h.noStart d hd).1

/-- What is found in a string and behind it. -/
theorem AvoidsJson.search_jsonStr (h : AvoidsJson isWord r) :
    r.search isWord false (jsonStr s ++ t) =
      (r.search isWord false (jsonBody s) || r.search isWord false t) := by
  rw [jsonStr, List.cons_append, h.search_cons (by decide), List.append_assoc,
    List.singleton_append, (h.separates 34 (by decide)).search_append]

/-- Scalars stand between separators. -/
theorem AvoidsJson.search_scalar (h : AvoidsJson isWord r) (hd : d ∈ [34, 44, 91, 93, 123, 125])
    (s t : PyStr) : r.search isWord false (s ++ d :: t) =
      ([s].any (r.search isWord false) || r.search isWord false t) := by
  rw [(h.separates d hd).search_append, List.any_cons, List.any_nil, Bool.or_false]

mutual

/-- **What is found in a JSON text** is found in one of its tokens, or behind it. -/
theorem search_jsonOf {d : ℕ} (h : AvoidsJson isWord r)
    (hd : d ∈ [34, 44, 91, 93, 123, 125]) (t : PyStr) (v : PyValue) :
    r.search isWord false (jsonOf T v ++ d :: t) =
      ((jsonTokens T v).any (r.search isWord false) || r.search isWord false t) := by
  cases v with
  | null => exact h.search_scalar hd _ t
  | bool b => exact h.search_scalar hd _ t
  | int n => exact h.search_scalar hd _ t
  | float x => exact h.search_scalar hd _ t
  | str s =>
    rw [jsonOf, h.search_jsonStr, h.search_cons hd, jsonTokens, List.any_cons, List.any_nil,
      Bool.or_false]
  | list vs =>
    rw [jsonOf, List.cons_append, h.search_cons (by decide), List.append_assoc,
      List.singleton_append, search_jsonItems h (by decide) (d :: t) vs, h.search_cons hd,
      jsonTokens]
  | dict fs =>
    rw [jsonOf, List.cons_append, h.search_cons (by decide), List.append_assoc,
      List.singleton_append, search_jsonFields h (by decide) (d :: t) fs, h.search_cons hd,
      jsonTokens]

theorem search_jsonItems {d : ℕ} (h : AvoidsJson isWord r)
    (hd : d ∈ [34, 44, 91, 93, 123, 125]) (t : PyStr) (vs : List PyValue) :
    r.search isWord false (jsonItems T vs ++ d :: t) =
      ((itemTokens T vs).any (r.search isWord false) || r.search isWord false t) := by
  cases vs with
  | nil =>
    rw [jsonItems, List.nil_append, h.search_cons hd]
    rfl
  | cons v vs =>
    rw [jsonItems, itemTokens, List.any_append]
    cases vs with
    | nil =>
      rw [List.isEmpty_nil, if_pos rfl, List.append_nil, search_jsonOf h hd t v, itemTokens,
        List.any_nil, Bool.or_false]
    | cons w vs =>
      rw [List.isEmpty_cons, if_neg Bool.false_ne_true, List.append_assoc, List.cons_append,
        List.cons_append, search_jsonOf h (by decide) _ v, h.search_blank (by decide),
        search_jsonItems h hd t (w :: vs), Bool.or_assoc]

theorem search_jsonFields {d : ℕ} (h : AvoidsJson isWord r)
    (hd : d ∈ [34, 44, 91, 93, 123, 125]) (t : PyStr) (fs : List (PyStr × PyValue)) :
    r.search isWord false (jsonFields T fs ++ d :: t) =
      ((fieldTokens T fs).any (r.search isWord false) || r.search isWord false t) := by
  cases fs with
  | nil =>
    rw [jsonFields, List.nil_append, h.search_cons hd]
    rfl
  | cons f fs =>
    rw [jsonFields, fieldTokens, List.cons_append, List.any_cons, List.any_append]
    cases fs with
    | nil =>
      rw [List.isEmpty_nil, if_pos rfl, List.append_nil, List.append_assoc, h.search_jsonStr,
        List.cons_append, List.cons_append, h.search_blank (by decide), h.search_blank (by decide),
        search_jsonOf h hd t f.2, fieldTokens, List.any_nil, Bool.or_false, Bool.or_assoc]
    | cons g fs =>
      rw [List.isEmpty_cons, if_neg Bool.false_ne_true, List.append_assoc, List.append_assoc,
        h.search_jsonStr, List.cons_append, List.cons_append, List.cons_append, List.cons_append,
        h.search_blank (by decide), h.search_blank (by decide), search_jsonOf h (by decide) _ f.2,
        h.search_blank (by decide), search_jsonFields h hd t (g :: fs), Bool.or_assoc,
        Bool.or_assoc]

end

end Finding

end Siyadah
