import Mathlib.Data.List.Basic
import Mathlib.Data.List.Forall2
import Mathlib.Data.List.Infix
import Mathlib.Data.Rat.Defs

/-!
# Values of Python

What `json.loads` returns, with the operations that untyped code performs on it: truth, `get` with
and without a default, `or`, `==`, `in`, subscripts and iteration. An operation that the value does
not support raises, so the operations are fallible and name the class of the exception.

A walker over such a value recurses into what it finds under a key or among the items.
`PyValue.child` and `PyValue.items` return these together with the proof that they are smaller, so
that the recursion of the walker is justified by the type of its argument; the measure is the number
of dictionaries in the value.

Strings are sequences of code points (`PyStr`), since a decoded JSON string may hold a lone
surrogate that no UTF-8 encoder accepts.
-/

namespace Siyadah

/-! ### Strings -/

/-- Python's `str`: any sequence of code points. -/
abbrev PyStr := List ℕ

namespace PyStr

instance : LawfulBEq PyStr := inferInstance

/-- A well-formed string as Python holds it. -/
def ofString (s : String) : PyStr := s.toList.map Char.toNat

/-- The string as an encoder accepts it; `none` when it holds a lone surrogate. -/
def toString? (s : PyStr) : Option String :=
  (s.mapM fun n : ℕ ↦ if h : n.isValidChar then some (Char.ofNatAux n h) else none).map
    String.ofList

theorem toString?_ofString (s : String) : (ofString s).toString? = some s := by
  have h : ∀ l : List Char, (l.map Char.toNat).mapM
      (fun n : ℕ ↦ if h : n.isValidChar then some (Char.ofNatAux n h) else none) = some l := by
    intro l
    induction l with
    | nil => rfl
    | cons c l ih =>
      have hc : c.toNat.isValidChar := c.valid
      rw [List.map_cons, List.mapM_cons, ih, dif_pos hc]
      rfl
  rw [toString?, ofString, h, Option.map_some, String.ofList_toList]

theorem ofString_injective : Function.Injective ofString := by
  intro s t h
  have hs := toString?_ofString s
  rw [h, toString?_ofString t] at hs
  exact (Option.some.inj hs).symm

/-- `needle in s`. -/
def contains (s needle : PyStr) : Bool := decide (needle <:+: s)

/-- `s <= t`. -/
def le : PyStr → PyStr → Bool
  | [], _ => true
  | _ :: _, [] => false
  | c :: s, d :: t => c < d || c = d && le s t

/-- The characters that `str.isspace` accepts. -/
def isSpace (c : ℕ) : Bool :=
  (9 ≤ c ∧ c ≤ 13) ∨ (28 ≤ c ∧ c ≤ 32) ∨ c = 133 ∨ c = 160 ∨ c = 5760 ∨ (8192 ≤ c ∧ c ≤ 8202) ∨
    c = 8232 ∨ c = 8233 ∨ c = 8239 ∨ c = 8287 ∨ c = 12288

/-- `s.strip()`. -/
def strip (s : PyStr) : PyStr := ((s.dropWhile isSpace).reverse.dropWhile isSpace).reverse

/-- `s.replace(old, "")`, for an `old` that is not empty: occurrences are removed from left to
right. `skip` counts the characters of an occurrence that are still to be passed over. -/
def removeAll (old : PyStr) (skip : ℕ) : PyStr → PyStr
  | [] => []
  | c :: s =>
    match skip with
    | k + 1 => removeAll old k s
    | 0 => if old.isPrefixOf (c :: s) then removeAll old (old.length - 1) s
      else c :: removeAll old 0 s

end PyStr

/-! ### Dictionaries

A dictionary under construction is the list of its items in insertion order. -/

/-- `d[key] = value`: a key that is there keeps its place. -/
def upsert {κ υ : Type*} [DecidableEq κ] (d : List (κ × υ)) (key : κ) (value : υ) : List (κ × υ) :=
  if key ∈ d.map Prod.fst then d.map fun e ↦ if e.1 = key then (key, value) else e
  else d ++ [(key, value)]

theorem mem_upsert {κ υ : Type*} [DecidableEq κ] {d : List (κ × υ)} {key : κ} {value : υ}
    {e : κ × υ} (h : e ∈ upsert d key value) : e ∈ d ∨ e = (key, value) := by
  rw [upsert] at h
  split at h
  · obtain ⟨e', he', rfl⟩ := List.mem_map.1 h
    split
    · exact .inr rfl
    · exact .inl he'
  · simpa using h

theorem lookup_upsert {κ υ : Type*} [BEq κ] [LawfulBEq κ] [DecidableEq κ] {d : List (κ × υ)}
    {key key' : κ} {v : υ} :
    (upsert d key v).lookup key' = if key' = key then some v else d.lookup key' := by
  rw [upsert]
  by_cases hkey : key' = key
  · rw [if_pos hkey, hkey]
    split
    · rename_i hmem
      induction d with
      | nil => exact absurd hmem List.not_mem_nil
      | cons f d ih =>
        rw [List.map_cons, List.lookup_cons]
        by_cases hf : f.1 = key
        · rw [if_pos hf, beq_self_eq_true]
        · rw [if_neg hf, beq_false_of_ne (Ne.symm hf)]
          exact ih (by simpa [Ne.symm hf] using hmem)
    · rename_i hmem
      have hnone : d.lookup key = none := List.lookup_eq_none_iff.2 fun p hp ↦
        bne_iff_ne.2 fun heq ↦ hmem (List.mem_map.2 ⟨p, hp, heq.symm⟩)
      rw [List.lookup_append, hnone, List.lookup_cons, beq_self_eq_true]
      rfl
  · rw [if_neg hkey]
    split
    · clear * - hkey
      induction d with
      | nil => rfl
      | cons f d ih =>
        rw [List.map_cons, List.lookup_cons, List.lookup_cons, ih]
        by_cases hf : f.1 = key
        · rw [if_pos hf, hf, beq_false_of_ne hkey]
        · rw [if_neg hf]
    · rw [List.lookup_append, List.lookup_cons, beq_false_of_ne hkey]
      exact Option.or_none

/-! ### Values -/

/-- Python's `float`. -/
inductive PyFloat where
  | finite (q : ℚ)
  | infinity (negative : Bool)
  | nan
deriving DecidableEq

/-- A value that `json.loads` returns. A dictionary lists its items in insertion order. -/
inductive PyValue where
  | null
  | bool (b : Bool)
  | int (n : ℤ)
  | float (x : PyFloat)
  | str (s : PyStr)
  | list (items : List PyValue)
  | dict (fields : List (PyStr × PyValue))

instance : Inhabited PyValue := ⟨.null⟩

/-- A string literal. -/
def py (s : String) : PyValue := .str (PyStr.ofString s)

section Items

variable {d : List (PyStr × PyValue)} {key key' : PyStr} {v : PyValue}

theorem lookup_upsert_self : (upsert d key v).lookup key = some v := by
  rw [lookup_upsert, if_pos rfl]

theorem lookup_upsert_of_ne (h : key' ≠ key) :
    (upsert d key v).lookup key' = d.lookup key' := by
  rw [lookup_upsert, if_neg h]

theorem mem_keys_iff : key ∈ d.map Prod.fst ↔ ∃ v, d.lookup key = some v := by
  rw [← Option.isSome_iff_exists, ← not_iff_not, Bool.not_eq_true, Option.isSome_eq_false_iff,
    Option.isNone_iff_eq_none, List.lookup_eq_none_iff]
  constructor
  · intro h p hp
    exact bne_iff_ne.2 fun heq ↦ h (List.mem_map.2 ⟨p, hp, heq.symm⟩)
  · intro h hmem
    obtain ⟨p, hp, rfl⟩ := List.mem_map.1 hmem
    exact absurd (h p hp) (by simp)

theorem map_fst_upsert :
    (upsert d key v).map Prod.fst =
      if key ∈ d.map Prod.fst then d.map Prod.fst else d.map Prod.fst ++ [key] := by
  rw [upsert]
  split
  · rw [List.map_map]
    refine List.map_congr_left fun e _ ↦ ?_
    show (if e.1 = key then (key, v) else e).1 = e.1
    split
    · rename_i heq
      exact heq.symm
    · rfl
  · rw [List.map_append]
    rfl

theorem nodup_keys_upsert (h : (d.map Prod.fst).Nodup) :
    ((upsert d key v).map Prod.fst).Nodup := by
  rw [map_fst_upsert]
  split
  · exact h
  · rename_i hnot
    exact List.nodup_append.2 ⟨h, by simp, fun a ha b hb ↦ by
      obtain rfl := List.mem_singleton.1 hb
      exact fun heq ↦ hnot (heq ▸ ha)⟩

/-- With distinct keys, an item is what is found under its key. -/
theorem lookup_eq_some_iff_mem (h : (d.map Prod.fst).Nodup) :
    d.lookup key = some v ↔ (key, v) ∈ d := by
  induction d with
  | nil => exact iff_of_false (by simp) List.not_mem_nil
  | cons f d ih =>
    obtain ⟨hnot, hnodup⟩ := List.nodup_cons.1 h
    rw [List.lookup_cons, List.mem_cons, ← ih hnodup]
    by_cases hf : key = f.1
    · have hnone : d.lookup key ≠ some v := fun hv ↦ hnot (hf ▸ mem_keys_iff.2 ⟨v, hv⟩)
      rw [beq_iff_eq.2 hf, or_iff_left hnone]
      exact ⟨fun hv ↦ Prod.ext hf (Option.some.inj hv).symm, fun hv ↦ by rw [← hv]⟩
    · rw [beq_false_of_ne hf, or_iff_right fun hv ↦ hf (congrArg Prod.fst hv)]

/-- Writing what is there changes nothing. -/
theorem upsert_eq_self (h : (d.map Prod.fst).Nodup) (hv : d.lookup key = some v) :
    upsert d key v = d := by
  rw [upsert, if_pos (mem_keys_iff.2 ⟨v, hv⟩)]
  refine (List.map_congr_left fun e he ↦ ?_).trans (List.map_id _)
  split
  · rename_i heq
    have hlookup := (lookup_eq_some_iff_mem h).2 he
    rw [heq, hv] at hlookup
    exact Prod.ext heq.symm (Option.some.inj hlookup)
  · rfl

/-! A dictionary that is filled in a loop. -/

variable {α : Type} {l : List α} {keyOf : α → PyStr} {valueOf : α → PyValue}

theorem nodup_keys_foldl_upsert (h : (d.map Prod.fst).Nodup) :
    ((l.foldl (fun d a ↦ upsert d (keyOf a) (valueOf a)) d).map Prod.fst).Nodup := by
  induction l generalizing d with
  | nil => exact h
  | cons a l ih => exact ih (nodup_keys_upsert h)

/-- **What a loop leaves under a key**, where it writes no key twice. -/
theorem lookup_foldl_upsert_iff (hl : (l.map keyOf).Nodup) :
    (l.foldl (fun d a ↦ upsert d (keyOf a) (valueOf a)) d).lookup key = some v ↔
      (∃ a ∈ l, keyOf a = key ∧ valueOf a = v) ∨ key ∉ l.map keyOf ∧ d.lookup key = some v := by
  induction l generalizing d with
  | nil => simp
  | cons a l ih =>
    obtain ⟨hnot, hnodup⟩ := List.nodup_cons.1 hl
    rw [List.foldl_cons, ih hnodup, List.map_cons, List.mem_cons]
    by_cases ha : keyOf a = key
    · subst ha
      rw [lookup_upsert_self, Option.some.injEq]
      constructor
      · rintro (⟨b, hb, h⟩ | ⟨-, h⟩)
        · exact .inl ⟨b, List.mem_cons_of_mem _ hb, h⟩
        · exact .inl ⟨a, List.mem_cons_self, rfl, h⟩
      · rintro (⟨b, hb, hkey, hv⟩ | ⟨hne, -⟩)
        · rcases List.mem_cons.1 hb with rfl | hb
          · exact .inr ⟨hnot, hv⟩
          · exact .inl ⟨b, hb, hkey, hv⟩
        · exact absurd (.inl rfl) hne
    · rw [lookup_upsert_of_ne (Ne.symm ha)]
      constructor
      · rintro (⟨b, hb, h⟩ | ⟨hne, h⟩)
        · exact .inl ⟨b, List.mem_cons_of_mem _ hb, h⟩
        · exact .inr ⟨not_or.2 ⟨Ne.symm ha, hne⟩, h⟩
      · rintro (⟨b, hb, hkey, hv⟩ | ⟨hne, h⟩)
        · rcases List.mem_cons.1 hb with rfl | hb
          · exact absurd hkey ha
          · exact .inl ⟨b, hb, hkey, hv⟩
        · exact .inr ⟨(not_or.1 hne).2, h⟩

/-- A loop that writes what is there changes nothing. -/
theorem foldl_upsert_eq_self (h : (d.map Prod.fst).Nodup)
    (hl : ∀ a ∈ l, d.lookup (keyOf a) = some (valueOf a)) :
    l.foldl (fun d a ↦ upsert d (keyOf a) (valueOf a)) d = d := by
  induction l with
  | nil => rfl
  | cons a l ih =>
    obtain ⟨ha, hl⟩ := List.forall_mem_cons.1 hl
    rw [List.foldl_cons, upsert_eq_self h ha, ih hl]

end Items

/-- The class of an exception that an operation on values raises. -/
inductive PyError where
  | attributeError
  | typeError
  | keyError
  | valueError
  | runtimeError
  /-- A parameter that the database driver refuses. -/
  | dbapiError
deriving DecidableEq

/-- A fallible sequence returns when both of its parts do. -/
theorem bind_eq_ok_iff {ε α β : Type} {x : Except ε α} {f : α → Except ε β} {b : β} :
    x >>= f = .ok b ↔ ∃ a, x = .ok a ∧ f a = .ok b := by
  cases x with
  | ok a => exact ⟨fun h ↦ ⟨a, rfl, h⟩, fun ⟨a', ha, h⟩ ↦ Except.ok.inj ha ▸ h⟩
  | error e => exact ⟨fun h ↦ absurd h (by simp [bind, Except.bind]), fun ⟨_, ha, _⟩ ↦
      absurd ha (by simp)⟩

theorem ok_bind {ε α β : Type} (a : α) (f : α → Except ε β) : (Except.ok a >>= f) = f a := rfl

theorem map_bind_except {ε α β γ : Type} (g : β → γ) (x : Except ε α) (f : α → Except ε β) :
    (x >>= f).map g = x >>= fun a ↦ (f a).map g := by
  cases x <;> rfl

/-- A conversion of the exceptions changes no value. -/
theorem mapError_eq_ok_iff {ε ε' α : Type} {f : ε → ε'} {x : Except ε α} {a : α} :
    x.mapError f = .ok a ↔ x = .ok a := by
  cases x with
  | ok b => exact ⟨fun h ↦ congrArg Except.ok (Except.ok.inj h), fun h ↦ congrArg _ h⟩
  | error e => exact iff_of_false (by simp [Except.mapError]) (by simp)

/-- Two computations that begin alike. -/
theorem exists_of_bind_eq_ok {ε α β γ : Type} {x : Except ε α} {f : α → Except ε β}
    {g : α → Except ε γ} {b : β} {c : γ} (h : (x >>= f) = .ok b) (h' : (x >>= g) = .ok c) :
    ∃ a, x = .ok a ∧ f a = .ok b ∧ g a = .ok c := by
  obtain ⟨a, ha, hb⟩ := bind_eq_ok_iff.1 h
  rw [ha] at h'
  exact ⟨a, ha, hb, h'⟩

theorem exists_bind_eq_ok_iff {ε α β : Type} {x : Except ε α} {f : α → Except ε β} :
    (∃ b, x >>= f = .ok b) ↔ ∃ a, x = .ok a ∧ ∃ b, f a = .ok b := by
  constructor
  · rintro ⟨b, h⟩
    obtain ⟨a, ha, hb⟩ := bind_eq_ok_iff.1 h
    exact ⟨a, ha, b, hb⟩
  · rintro ⟨a, ha, b, hb⟩
    exact ⟨b, bind_eq_ok_iff.2 ⟨a, ha, hb⟩⟩

/-- A pass over a list returns when it returns for each item. -/
theorem mapM_eq_ok_iff {ε α β : Type} {f : α → Except ε β} {l : List α} {r : List β} :
    l.mapM f = .ok r ↔ List.Forall₂ (fun a b ↦ f a = .ok b) l r := by
  induction l generalizing r with
  | nil =>
    rw [List.mapM_nil, List.forall₂_nil_left_iff]
    exact ⟨fun h ↦ (Except.ok.inj h).symm, fun h ↦ h ▸ rfl⟩
  | cons a l ih =>
    rw [List.mapM_cons, bind_eq_ok_iff, List.forall₂_cons_left_iff]
    constructor
    · rintro ⟨b, hb, h⟩
      obtain ⟨bs, hbs, h⟩ := bind_eq_ok_iff.1 h
      exact ⟨b, bs, hb, ih.1 hbs, (Except.ok.inj h).symm⟩
    · rintro ⟨b, bs, hb, hbs, rfl⟩
      exact ⟨b, hb, bind_eq_ok_iff.2 ⟨bs, ih.2 hbs, rfl⟩⟩

/-- A pass that returns nothing returns when it returns for each item. -/
theorem forM_eq_ok_iff {ε α : Type} {f : α → Except ε Unit} {l : List α} :
    l.forM f = .ok () ↔ ∀ a ∈ l, f a = .ok () := by
  induction l with
  | nil => exact iff_of_true rfl fun _ h ↦ absurd h List.not_mem_nil
  | cons a l ih =>
    rw [List.forall_mem_cons, ← ih]
    exact bind_eq_ok_iff.trans ⟨fun ⟨_, ha, hl⟩ ↦ ⟨ha, hl⟩, fun ⟨ha, hl⟩ ↦ ⟨(), ha, hl⟩⟩

/-- A fallible sequence raises when one of its parts does. -/
theorem bind_eq_error_iff {ε α β : Type} {x : Except ε α} {f : α → Except ε β} {e : ε} :
    x >>= f = .error e ↔ x = .error e ∨ ∃ a, x = .ok a ∧ f a = .error e := by
  cases x with
  | ok a =>
    constructor
    · exact fun h ↦ .inr ⟨a, rfl, h⟩
    · rintro (h | ⟨a', ha, h⟩)
      · exact absurd h (by simp)
      · exact Except.ok.inj ha ▸ h
  | error e' =>
    constructor
    · exact fun h ↦ .inl (congrArg Except.error (Except.error.inj h))
    · rintro (h | ⟨a', ha, -⟩)
      · exact congrArg Except.error (Except.error.inj h)
      · exact absurd ha (by simp)

/-- A pass over a list returns when it returns for each item, with results that are as said. -/
theorem exists_mapM_eq_ok {ε α β : Type} {f : α → Except ε β} {P : α → β → Prop} {l : List α}
    (h : ∀ a ∈ l, ∃ b, f a = .ok b ∧ P a b) : ∃ r, l.mapM f = .ok r ∧ List.Forall₂ P l r := by
  induction l with
  | nil => exact ⟨[], rfl, .nil⟩
  | cons a l ih =>
    obtain ⟨⟨b, hb, hP⟩, hl⟩ := List.forall_mem_cons.1 h
    obtain ⟨r, hr, hPs⟩ := ih hl
    refine ⟨b :: r, ?_, .cons hP hPs⟩
    rw [List.mapM_cons, hb, hr]
    rfl

theorem exists_of_mapM_eq_ok {ε α β : Type} {f : α → Except ε β} {l : List α} {r : List β}
    (h : l.mapM f = .ok r) {a : α} (ha : a ∈ l) : ∃ b ∈ r, f a = .ok b := by
  have hall := mapM_eq_ok_iff.1 h
  clear h
  induction hall with
  | nil => exact absurd ha List.not_mem_nil
  | cons hfirst hrest ih =>
    rcases List.mem_cons.1 ha with rfl | ha
    · exact ⟨_, List.mem_cons_self, hfirst⟩
    · obtain ⟨b, hb, hf⟩ := ih ha
      exact ⟨b, List.mem_cons_of_mem _ hb, hf⟩

theorem exists_of_mem_mapM {ε α β : Type} {f : α → Except ε β} {l : List α} {r : List β}
    (h : l.mapM f = .ok r) {b : β} (hb : b ∈ r) : ∃ a ∈ l, f a = .ok b := by
  have hall := mapM_eq_ok_iff.1 h
  clear h
  induction hall with
  | nil => exact absurd hb List.not_mem_nil
  | cons hfirst hrest ih =>
    rcases List.mem_cons.1 hb with rfl | hb
    · exact ⟨_, List.mem_cons_self, hfirst⟩
    · obtain ⟨a, ha, hf⟩ := ih hb
      exact ⟨a, List.mem_cons_of_mem _ ha, hf⟩

/-- A pass over a list that returns what a function gives. -/
theorem mapM_eq_ok_map {ε α β : Type} {f : α → Except ε β} {g : α → β} {l : List α}
    (h : ∀ a ∈ l, f a = .ok (g a)) : l.mapM f = .ok (l.map g) := by
  rw [mapM_eq_ok_iff, List.forall₂_map_right_iff, List.forall₂_same]
  exact h

namespace PyValue

/-- `bool(v)`. -/
def truthy : PyValue → Bool
  | .null => false
  | .bool b => b
  | .int n => n ≠ 0
  | .float x => x ≠ .finite 0
  | .str s => !s.isEmpty
  | .list items => !items.isEmpty
  | .dict fields => !fields.isEmpty

/-- `a or b`. -/
def orElse (a b : PyValue) : PyValue := if a.truthy then a else b

/-- `isinstance(v, dict)`. -/
def isDict : PyValue → Bool
  | .dict _ => true
  | _ => false

/-- `v == s` for a string `s`. -/
def isStr (v : PyValue) (s : PyStr) : Bool :=
  match v with
  | .str t => t = s
  | _ => false

theorem eq_str_of_isStr {v : PyValue} {s : PyStr} (h : v.isStr s = true) : v = .str s := by
  cases v with
  | str t => exact congrArg str (of_decide_eq_true h)
  | _ => exact absurd h (by simp [isStr])

/-- `v is False`. -/
def isFalse : PyValue → Bool
  | .bool false => true
  | _ => false

/-- `v in (None, "", [], {})`. -/
def isBlank : PyValue → Bool
  | .null => true
  | .str s => s.isEmpty
  | .list items => items.isEmpty
  | .dict fields => fields.isEmpty
  | _ => false

/-- The number that takes part in a comparison; booleans are integers. -/
def number? : PyValue → Option PyFloat
  | .bool b => some (.finite (if b then 1 else 0))
  | .int n => some (.finite n)
  | .float x => some x
  | _ => none

/-! ### Comparison -/

mutual

/-- `v == w`. -/
def eq : PyValue → PyValue → Bool
  | .null, .null => true
  | .str s, .str t => s = t
  | .list vs, .list ws => eqItems vs ws
  | .dict fs, .dict gs => fs.length = gs.length && subDict fs gs
  | v, w =>
    match v.number?, w.number? with
    | some x, some y => x = y && x ≠ .nan
    | _, _ => false

/-- Lists are compared item by item. -/
def eqItems : List PyValue → List PyValue → Bool
  | [], [] => true
  | v :: vs, w :: ws => eq v w && eqItems vs ws
  | _, _ => false

/-- Every item of the first dictionary is in the second one. -/
def subDict : List (PyStr × PyValue) → List (PyStr × PyValue) → Bool
  | [], _ => true
  | f :: fs, gs => (gs.lookup f.1).elim false (fun w ↦ eq f.2 w) && subDict fs gs

end

theorem eqItems_iff {vs ws : List PyValue} :
    eqItems vs ws = true ↔ List.Forall₂ (fun v w ↦ v.eq w = true) vs ws := by
  induction vs generalizing ws with
  | nil => cases ws <;> simp [eqItems]
  | cons v vs ih =>
    cases ws with
    | nil => simp [eqItems]
    | cons w ws => rw [eqItems, Bool.and_eq_true, ih, List.forall₂_cons]

theorem subDict_iff {fs gs : List (PyStr × PyValue)} :
    subDict fs gs = true ↔ ∀ f ∈ fs, ∃ w, gs.lookup f.1 = some w ∧ f.2.eq w = true := by
  induction fs with
  | nil => exact iff_of_true (by rw [subDict]) fun _ h ↦ absurd h List.not_mem_nil
  | cons f fs ih =>
    rw [subDict, Bool.and_eq_true, ih, List.forall_mem_cons]
    refine and_congr_left fun _ ↦ ?_
    cases gs.lookup f.1 with
    | none => simp
    | some w => simp

/-- A list equals itself when its items do. -/
theorem eq_self_list_iff {vs : List PyValue} :
    (list vs).eq (list vs) = true ↔ ∀ v ∈ vs, v.eq v = true := by
  rw [eq, eqItems_iff, List.forall₂_same]

/-- A dictionary equals itself when its values do. -/
theorem eq_self_dict {fs : List (PyStr × PyValue)}
    (h : ∀ f ∈ fs, fs.lookup f.1 = some f.2 ∧ f.2.eq f.2 = true) :
    (dict fs).eq (dict fs) = true := by
  rw [eq, decide_eq_true rfl, Bool.true_and]
  exact subDict_iff.2 fun f hf ↦ ⟨f.2, h f hf⟩

theorem eq_self_of_lookup {fs : List (PyStr × PyValue)} {key : PyStr} {w : PyValue}
    (h : (dict fs).eq (dict fs) = true) (hw : fs.lookup key = some w) : w.eq w = true := by
  rw [eq, Bool.and_eq_true] at h
  obtain ⟨l₁, l₂, rfl, -⟩ := List.lookup_eq_some_iff.1 hw
  obtain ⟨w', hw', heq⟩ := subDict_iff.1 h.2 (key, w)
    (List.mem_append_right _ List.mem_cons_self)
  obtain rfl := Option.some.inj (hw.symm.trans hw')
  exact heq

/-! ### Access -/

/-- `v.get(key, default)`. -/
def getD (v : PyValue) (key : String) (default : PyValue) : Except PyError PyValue :=
  match v with
  | .dict fields => .ok ((fields.lookup (PyStr.ofString key)).getD default)
  | _ => .error .attributeError

/-- `v.get(key)`. -/
def get (v : PyValue) (key : String) : Except PyError PyValue := v.getD key .null

/-- `a or v.get(key)`. -/
def orGet (a v : PyValue) (key : String) : Except PyError PyValue :=
  if a.truthy then .ok a else v.get key

/-- `v[key]` for a string `key`. -/
def getItem (v : PyValue) (key : PyStr) : Except PyError PyValue :=
  match v with
  | .dict fields => (fields.lookup key).elim (.error .keyError) .ok
  | _ => .error .typeError

/-- `key in v` for a string `key`. -/
def hasItem (v : PyValue) (key : PyStr) : Except PyError Bool :=
  match v with
  | .dict fields => .ok (fields.lookup key).isSome
  | .list items => .ok (items.any (isStr · key))
  | .str s => .ok (s.contains key)
  | _ => .error .typeError

/-- `len(v)`. -/
def len (v : PyValue) : Except PyError ℕ :=
  match v with
  | .dict fields => .ok fields.length
  | .list items => .ok items.length
  | .str s => .ok s.length
  | _ => .error .typeError

@[simp] theorem getD_dict (fields : List (PyStr × PyValue)) (key : String) (d : PyValue) :
    (dict fields).getD key d = .ok ((fields.lookup (PyStr.ofString key)).getD d) := rfl

/-- A key that is there is found by `get` too. -/
theorem get_of_getItem {v w : PyValue} {key : String}
    (h : v.getItem (PyStr.ofString key) = .ok w) : v.isDict = true ∧ v.get key = .ok w := by
  cases v with
  | dict fields =>
    refine ⟨rfl, ?_⟩
    cases hlookup : fields.lookup (PyStr.ofString key) with
    | some x =>
      rw [getItem, hlookup] at h
      rw [get, getD_dict, hlookup]
      exact h
    | none =>
      rw [getItem, hlookup] at h
      exact absurd h (by simp)
  | _ => exact absurd h (by simp [getItem])

/-! ### Entries -/

/-- What a dictionary has under the key. -/
def entry (v : PyValue) (key : String) : Option PyValue :=
  match v with
  | .dict fields => fields.lookup (PyStr.ofString key)
  | _ => none

/-- What a dictionary has under the key, or `None`. -/
def entryD (v : PyValue) (key : String) : PyValue := (v.entry key).getD .null

/-- The value without the entry. -/
def without (v : PyValue) (key : String) : PyValue :=
  match v with
  | .dict fields => .dict (fields.eraseP fun f ↦ f.1 = PyStr.ofString key)
  | v => v

section Entries

variable {v w d : PyValue} {key : String} {s : PyStr}

/-- `get` answers for a dictionary. -/
theorem getD_eq_ok_iff : v.getD key d = .ok w ↔ v.isDict = true ∧ w = (v.entry key).getD d := by
  cases v with
  | dict fields =>
    rw [getD_dict, Except.ok.injEq, entry]
    exact ⟨fun h ↦ ⟨rfl, h.symm⟩, fun h ↦ h.2.symm⟩
  | _ => exact iff_of_false (by simp [getD]) (by simp [isDict])

theorem getD_of_isDict (h : v.isDict = true) (key : String) (d : PyValue) :
    v.getD key d = .ok ((v.entry key).getD d) := getD_eq_ok_iff.2 ⟨h, rfl⟩

theorem get_of_isDict (h : v.isDict = true) (key : String) : v.get key = .ok (v.entryD key) :=
  getD_of_isDict h key .null

/-- `or {}` changes no entry. -/
@[simp] theorem entry_orElse_nil : (v.orElse (.dict [])).entry key = v.entry key := by
  rw [orElse]
  split
  · rfl
  · rename_i hfalsy
    cases v with
    | dict fields =>
      cases fields with
      | nil => rfl
      | cons f fields => exact absurd rfl hfalsy
    | _ => rfl

theorem isDict_orElse_nil :
    (v.orElse (.dict [])).isDict = true ↔ (v.truthy = true → v.isDict = true) := by
  rw [orElse]
  split
  · rename_i htruthy
    rw [htruthy]
    simp
  · rename_i hfalsy
    exact iff_of_true rfl fun h ↦ absurd h hfalsy

/-- A value with an entry is a dictionary. -/
theorem isDict_of_entry (h : v.entry key = some w) : v.isDict = true := by
  cases v with
  | dict fields => rfl
  | _ => exact absurd h (by simp [entry])

/-- A value with an entry is not empty. -/
theorem truthy_of_entry (h : v.entry key = some w) : v.truthy = true := by
  cases v with
  | dict fields =>
    cases fields with
    | nil => exact absurd h (by simp [entry])
    | cons f fields => rfl
  | _ => exact absurd h (by simp [entry])

end Entries

/-! ### Parts of a value -/

mutual

/-- The number of dictionaries in a value. -/
def weight : PyValue → ℕ
  | .list vs => weightItems vs
  | .dict fs => weightFields fs + 1
  | _ => 0

/-- The number of dictionaries in the items of a list. -/
def weightItems : List PyValue → ℕ
  | [] => 0
  | v :: vs => weight v + weightItems vs

/-- The number of dictionaries in the values of a dictionary. -/
def weightFields : List (PyStr × PyValue) → ℕ
  | [] => 0
  | f :: fs => weight f.2 + weightFields fs

end

theorem weight_le_weightItems {v : PyValue} {vs : List PyValue} (h : v ∈ vs) :
    v.weight ≤ weightItems vs := by
  induction vs with
  | nil => exact absurd h List.not_mem_nil
  | cons w vs ih =>
    rw [weightItems]
    rcases List.mem_cons.1 h with rfl | hv
    · omega
    · have := ih hv
      omega

theorem weight_lookup_le {fields : List (PyStr × PyValue)} {key : PyStr} {w : PyValue}
    (h : fields.lookup key = some w) : w.weight ≤ weightFields fields := by
  induction fields with
  | nil => exact absurd h (by simp)
  | cons f fields ih =>
    rw [List.lookup_cons] at h
    rw [weightFields]
    split at h
    · obtain rfl := Option.some.inj h
      omega
    · have := ih h
      omega

/-- A part of a dictionary `v`, which a walker may recurse into. -/
abbrev Part (v : PyValue) := { w : PyValue // w.weight < v.weight }

/-- A default for a missing part: `None` or `[]`. -/
abbrev Leaf := { w : PyValue // w.weight = 0 }

/-- `None`. -/
def Leaf.null : Leaf := ⟨.null, rfl⟩

/-- `[]`. -/
def Leaf.nil : Leaf := ⟨.list [], rfl⟩

theorem weight_lookup_getD_lt (fields : List (PyStr × PyValue)) (key : PyStr) (d : Leaf) :
    ((fields.lookup key).getD d.1).weight < (dict fields).weight := by
  rw [weight]
  cases h : fields.lookup key with
  | none =>
    have := d.2
    rw [Option.getD_none]
    omega
  | some w =>
    have := weight_lookup_le h
    rw [Option.getD_some]
    omega

/-- `v.get(key, d)`, as a part of `v`. -/
def child : (v : PyValue) → String → Leaf → Except PyError v.Part
  | .dict fields, key, d =>
    .ok ⟨(fields.lookup (PyStr.ofString key)).getD d.1, weight_lookup_getD_lt fields _ d⟩
  | _, _, _ => .error .attributeError

theorem child_val (v : PyValue) (key : String) (d : Leaf) :
    (v.child key d).map Subtype.val = v.getD key d.1 := by
  cases v <;> rfl

/-- `w or []`, for a part `w`. -/
def Part.orNil {v : PyValue} (w : v.Part) : v.Part :=
  if w.1.truthy then w else ⟨.list [], Nat.lt_of_le_of_lt (Nat.zero_le _) w.2⟩

theorem Part.orNil_val {v : PyValue} (w : v.Part) : w.orNil.1 = w.1.orElse (.list []) := by
  rw [orNil, orElse]
  split <;> rfl

/-- An item of `w or []`, for a part `w`, is smaller than the whole. -/
theorem Part.lt_of_item {v : PyValue} (w : v.Part)
    (c : { c : PyValue // c.weight ≤ w.orNil.1.weight }) : c.1.weight < v.weight :=
  Nat.lt_of_le_of_lt c.2 w.orNil.2

/-- `for w in v`: the items of a list, the keys of a dictionary, the characters of a string. -/
def items : (v : PyValue) → Except PyError (List { w : PyValue // w.weight ≤ v.weight })
  | .list vs => .ok (vs.attach.map fun w ↦ ⟨w.1, weight_le_weightItems w.2⟩)
  | .dict fs => .ok (fs.map fun f ↦ ⟨.str f.1, Nat.zero_le _⟩)
  | .str s => .ok (s.map fun c ↦ ⟨.str [c], Nat.le_refl 0⟩)
  | _ => .error .typeError

@[simp] theorem items_list_val (vs : List PyValue) :
    (items (.list vs)).map (List.map Subtype.val) = .ok vs := by
  show Except.ok ((vs.attach.map _).map Subtype.val) = _
  rw [List.map_map]
  exact congrArg Except.ok (List.attach_map_subtype_val vs)

/-- What a loop over the value goes through; nothing, where there is nothing to iterate over. -/
def iterated : PyValue → List PyValue
  | .list vs => vs
  | .dict fs => fs.map fun f ↦ .str f.1
  | .str s => s.map fun c ↦ .str [c]
  | _ => []

/-- The items of a list; of anything else, none. -/
def listItems : PyValue → List PyValue
  | .list vs => vs
  | _ => []

theorem map_val_of_items {v : PyValue} {ws : List { w : PyValue // w.weight ≤ v.weight }}
    (h : v.items = .ok ws) : ws.map Subtype.val = v.iterated := by
  cases v with
  | list vs =>
    have hvs := items_list_val vs
    rw [h] at hvs
    exact Except.ok.inj hvs
  | dict fs =>
    rw [← Except.ok.inj h, List.map_map]
    rfl
  | str s =>
    rw [← Except.ok.inj h, List.map_map]
    rfl
  | _ => exact absurd h (by simp [items])

/-- What is iterated over is a list, or nothing but strings. -/
theorem iterated_cases (v : PyValue) :
    v.iterated = v.listItems ∨ ∀ w ∈ v.iterated, w.isDict = false := by
  cases v with
  | dict fs =>
    refine .inr fun w hw ↦ ?_
    obtain ⟨f, -, rfl⟩ := List.mem_map.1 hw
    rfl
  | str s =>
    refine .inr fun w hw ↦ ?_
    obtain ⟨c, -, rfl⟩ := List.mem_map.1 hw
    rfl
  | _ => exact .inl rfl

/-- What is not empty is true. -/
theorem truthy_of_mem_iterated {v w : PyValue} (h : w ∈ v.iterated) : v.truthy = true := by
  cases v with
  | list vs =>
    cases vs with
    | nil => exact absurd h List.not_mem_nil
    | cons _ _ => rfl
  | dict fs =>
    cases fs with
    | nil => exact absurd h List.not_mem_nil
    | cons _ _ => rfl
  | str s =>
    cases s with
    | nil => exact absurd h List.not_mem_nil
    | cons _ _ => rfl
  | _ => exact absurd h List.not_mem_nil

theorem listItems_eq_nil {v : PyValue} (h : v.truthy = false) : v.listItems = [] := by
  cases v with
  | list vs =>
    cases vs with
    | nil => rfl
    | cons w vs => exact absurd h (by simp [truthy])
  | _ => rfl

theorem child_eq_ok {v : PyValue} {key : String} {d : Leaf} {w : v.Part}
    (h : v.child key d = .ok w) : v.isDict = true ∧ w.1 = (v.entry key).getD d.1 := by
  refine getD_eq_ok_iff.1 ?_
  rw [← child_val, h]
  rfl

theorem child_of_isDict {v : PyValue} (h : v.isDict = true) (key : String) (d : Leaf) :
    ∃ w, v.child key d = .ok w ∧ w.1 = (v.entry key).getD d.1 := by
  cases v with
  | dict fields => exact ⟨_, rfl, rfl⟩
  | _ => exact absurd h (by simp [isDict])

theorem weight_le_of_mem_iterated {v w : PyValue} (h : w ∈ v.iterated) : w.weight ≤ v.weight := by
  cases v with
  | list vs => exact weight_le_weightItems h
  | dict fs =>
    obtain ⟨f, -, rfl⟩ := List.mem_map.1 h
    exact Nat.zero_le _
  | str s =>
    obtain ⟨c, -, rfl⟩ := List.mem_map.1 h
    exact Nat.zero_le _
  | _ => exact absurd h List.not_mem_nil

end PyValue

end Siyadah
