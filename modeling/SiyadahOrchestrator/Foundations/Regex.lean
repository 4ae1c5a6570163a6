import Mathlib.Data.List.Basic

/-!
# Regular expressions of a backtracking matcher

Patterns with classes of characters, greedy repetitions of a class, alternatives and word
boundaries. A matcher stands at a place in a text; it sees the rest of the text, and whether the
character before the place is one of a word. `ends` lists the places where a match from there may
end, in the order in which the matcher tries them, so the first one is the match.

* `search` — the pattern matches somewhere;
* `cut` — the parts of the text that the leftmost matches leave, `sub` — these parts with another
  text in place of the matches.

A character that is in no class of the pattern and in no word separates the text: a match lies on
one side of it (`search_append`), and replacing can be done on each side (`sub_append`).
-/

/-- A pattern. -/
inductive Regex (α : Type*) where
  /-- Nothing. -/
  | empty
  /-- A character of the class. -/
  | one (p : α → Bool)
  /-- As many characters of the class as there are: at least `lo` and, if it is given, at most
  `hi`. -/
  | many (p : α → Bool) (lo : ℕ) (hi : Option ℕ)
  /-- A place between a word and no word. -/
  | boundary
  | seq (r r' : Regex α)
  | alt (r r' : Regex α)

namespace Regex

variable {α : Type*}

/-- One character of each class. -/
def chars (ps : List (α → Bool)) : Regex α := ps.foldr (fun p r ↦ seq (one p) r) empty

/-! ### Matching -/

section Matching

variable (isWord : α → Bool)

/-- There is a character of a word at the place. -/
def wordAhead (s : List α) : Bool := s.head?.any isWord

/-- The ends of a repetition: the longest comes first. -/
def manyEnds (p : α → Bool) : ℕ → Option ℕ → Bool → List α → List (Bool × List α)
  | lo, _, b, [] => if lo = 0 then [(b, [])] else []
  | lo, hi, b, c :: s =>
    (if p c ∧ hi ≠ some 0 then manyEnds p (lo - 1) (hi.map (· - 1)) (isWord c) s else []) ++
      if lo = 0 then [(b, c :: s)] else []

/-- Where a match may end that starts at a place; `b` says whether a character of a word stands
before the place, and `s` is the rest of the text. -/
def ends : Regex α → Bool → List α → List (Bool × List α)
  | empty, b, s => [(b, s)]
  | one _, _, [] => []
  | one p, _, c :: s => if p c then [(isWord c, s)] else []
  | many p lo hi, b, s => manyEnds isWord p lo hi b s
  | boundary, b, s => if b ≠ wordAhead isWord s then [(b, s)] else []
  | seq r r', b, s => (ends r b s).flatMap fun e ↦ ends r' e.1 e.2
  | alt r r', b, s => ends r b s ++ ends r' b s

/-- The pattern matches somewhere. -/
def search (r : Regex α) : Bool → List α → Bool
  | b, [] => !(r.ends isWord b []).isEmpty
  | b, c :: s => !(r.ends isWord b (c :: s)).isEmpty || search r (isWord c) s

/-- The parts of the text between the leftmost matches, for a pattern that does not match nothing;
`skip` counts the characters of a match that are still to be passed over. -/
def cut (r : Regex α) : ℕ → Bool → List α → List (List α)
  | _, _, [] => [[]]
  | skip + 1, _, c :: s => cut r skip (isWord c) s
  | 0, b, c :: s =>
    match (r.ends isWord b (c :: s)).head? with
    | some e => [] :: cut r (s.length - e.2.length) (isWord c) s
    | none => (cut r 0 (isWord c) s).modifyHead (c :: ·)

/-- The text with another one in place of the leftmost matches. -/
def sub (r : Regex α) (repl s : List α) : List α := repl.intercalate (r.cut isWord 0 false s)

end Matching

/-! ### Characters that a pattern avoids -/

/-- The character is in no class of the pattern. -/
def avoids (d : α) : Regex α → Bool
  | empty => true
  | one p => !p d
  | many p _ _ => !p d
  | boundary => true
  | seq r r' => avoids d r && avoids d r'
  | alt r r' => avoids d r && avoids d r'

/-- The pattern takes no character. -/
def isAssertion : Regex α → Bool
  | empty => true
  | boundary => true
  | _ => false

/-- The pattern takes a character, and not this one first. -/
def startsOtherwise (d : α) : Regex α → Bool
  | empty => false
  | one p => !p d
  | many p lo _ => !p d && 0 < lo
  | boundary => false
  | seq r r' => startsOtherwise d r || r.isAssertion && startsOtherwise d r'
  | alt r r' => startsOtherwise d r && startsOtherwise d r'

section Lemmas

variable {isWord : α → Bool} {r : Regex α} {b : Bool} {d : α} {s t repl : List α}

theorem wordAhead_append (hd : isWord d = false) :
    wordAhead isWord (s ++ d :: t) = wordAhead isWord s := by
  cases s with
  | nil => exact hd
  | cons c s => rfl

theorem manyEnds_append {p : α → Bool} (hp : p d = false) (lo : ℕ) (hi : Option ℕ) :
    manyEnds isWord p lo hi b (s ++ d :: t) =
      (manyEnds isWord p lo hi b s).map fun e ↦ (e.1, e.2 ++ d :: t) := by
  induction s generalizing lo hi b with
  | nil =>
    rw [List.nil_append, manyEnds, manyEnds, if_neg fun h ↦ Bool.false_ne_true (hp.symm.trans h.1)]
    split <;> rfl
  | cons c s ih =>
    rw [List.cons_append, manyEnds, manyEnds, List.map_append]
    congr 1
    · split
      · exact ih _ _
      · rfl
    · split <;> rfl

/-- **A match ends before a character that the pattern avoids**, and does not see what follows. -/
theorem ends_append (hr : r.avoids d = true) (hd : isWord d = false) :
    r.ends isWord b (s ++ d :: t) =
      (r.ends isWord b s).map fun e ↦ (e.1, e.2 ++ d :: t) := by
  induction r generalizing b s with
  | empty => rfl
  | one p =>
    have hp : p d = false := by simpa [avoids] using hr
    cases s with
    | nil =>
      show (if p d then [(isWord d, t)] else []) = []
      rw [hp, if_neg Bool.false_ne_true]
    | cons c s =>
      rw [List.cons_append, ends, ends]
      split <;> rfl
  | many p lo hi => exact manyEnds_append (by simpa [avoids] using hr) lo hi
  | boundary =>
    rw [ends, ends, wordAhead_append hd]
    split <;> rfl
  | seq r r' ih ih' =>
    obtain ⟨h, h'⟩ := Bool.and_eq_true_iff.1 hr
    rw [ends, ends, ih h, List.flatMap_map, List.map_flatMap]
    exact List.flatMap_congr fun e _ ↦ ih' h'
  | alt r r' ih ih' =>
    obtain ⟨h, h'⟩ := Bool.and_eq_true_iff.1 hr
    rw [ends, ends, ih h, ih' h', List.map_append]

/-- **A match lies on one side** of a character that the pattern avoids. -/
theorem search_append (hr : r.avoids d = true) (hd : isWord d = false) :
    r.search isWord b (s ++ d :: t) = (r.search isWord b s || r.search isWord false t) := by
  induction s generalizing b with
  | nil =>
    have hends := ends_append (s := []) (t := t) (b := b) hr hd
    rw [List.nil_append] at hends ⊢
    rw [search, search, hends, List.isEmpty_map, hd]
  | cons c s ih =>
    have hends := ends_append (s := c :: s) (t := t) (b := b) hr hd
    rw [List.cons_append] at hends ⊢
    rw [search, search, hends, List.isEmpty_map, ih, Bool.or_assoc]

theorem mem_ends_of_isAssertion (hr : r.isAssertion = true) {e : Bool × List α}
    (he : e ∈ r.ends isWord b s) : e = (b, s) := by
  cases r with
  | empty => exact List.mem_singleton.1 he
  | boundary =>
    rw [ends] at he
    split at he
    · exact List.mem_singleton.1 he
    · cases he
  | one p => cases hr
  | many p lo hi => cases hr
  | seq r r' => cases hr
  | alt r r' => cases hr

/-- No match starts with a character that the pattern does not start with. -/
theorem ends_cons_of_startsOtherwise (hr : r.startsOtherwise d = true) :
    r.ends isWord b (d :: s) = [] := by
  induction r generalizing b with
  | empty => cases hr
  | boundary => cases hr
  | one p =>
    have hp : p d = false := by simpa [startsOtherwise] using hr
    rw [ends, hp, if_neg Bool.false_ne_true]
  | many p lo hi =>
    obtain ⟨hp, hlo⟩ : p d = false ∧ 0 < lo := by simpa [startsOtherwise] using hr
    rw [ends, manyEnds, if_neg fun h ↦ Bool.false_ne_true (hp.symm.trans h.1),
      if_neg (Nat.ne_of_gt hlo)]
    rfl
  | seq r r' ih ih' =>
    rw [ends]
    rcases Bool.or_eq_true_iff.1 hr with h | h
    · rw [ih h]
      rfl
    · obtain ⟨hassert, h'⟩ := Bool.and_eq_true_iff.1 h
      rw [List.flatMap_eq_nil_iff]
      intro e he
      rw [mem_ends_of_isAssertion hassert he]
      exact ih' h'
  | alt r r' ih ih' =>
    obtain ⟨h, h'⟩ := Bool.and_eq_true_iff.1 hr
    rw [ends, ih h, ih' h']
    rfl

theorem search_cons_of_startsOtherwise (hr : r.startsOtherwise d = true) (hd : isWord d = false) :
    r.search isWord b (d :: s) = r.search isWord false s := by
  rw [search, ends_cons_of_startsOtherwise hr, hd]
  rfl

/-! ### Separators -/

/-- A character on whose sides matching goes on apart. -/
structure Separates (isWord : α → Bool) (r : Regex α) (d : α) : Prop where
  noWord : isWord d = false
  avoided : r.avoids d = true
  noStart : r.startsOtherwise d = true

instance : Decidable (Separates isWord r d) :=
  decidable_of_iff (isWord d = false ∧ r.avoids d = true ∧ r.startsOtherwise d = true)
    ⟨fun h ↦ ⟨h.1, h.2.1, h.2.2⟩, fun h ↦ ⟨h.noWord, h.avoided, h.noStart⟩⟩

theorem Separates.search_append (h : Separates isWord r d) :
    r.search isWord b (s ++ d :: t) = (r.search isWord b s || r.search isWord false t) :=
  Regex.search_append h.avoided h.noWord

theorem cut_ne_nil (r : Regex α) (skip : ℕ) (b : Bool) (s : List α) :
    r.cut isWord skip b s ≠ [] := by
  induction s generalizing skip b with
  | nil => cases skip <;> exact List.cons_ne_nil _ _
  | cons c s ih =>
    cases skip with
    | succ skip => exact ih skip _
    | zero =>
      rw [cut]
      split
      · exact List.cons_ne_nil _ _
      · exact fun h ↦ ih 0 _ (List.modifyHead_eq_nil_iff.1 h)

theorem intercalate_modifyHead {l : List (List α)} (hl : l ≠ []) (c : α) :
    repl.intercalate (l.modifyHead (c :: ·)) = c :: repl.intercalate l := by
  obtain ⟨p, ps, rfl⟩ := List.exists_cons_of_ne_nil hl
  rw [List.modifyHead_cons, List.intercalate_cons_cons_left]

theorem intercalate_cut_append (h : Separates isWord r d) {skip : ℕ} (hskip : skip ≤ s.length) :
    repl.intercalate (r.cut isWord skip b (s ++ d :: t)) =
      repl.intercalate (r.cut isWord skip b s) ++ d :: r.sub isWord repl t := by
  induction s generalizing skip b with
  | nil =>
    obtain rfl := Nat.le_zero.1 hskip
    rw [List.nil_append, cut, cut, ends_cons_of_startsOtherwise h.noStart, h.noWord]
    exact intercalate_modifyHead (cut_ne_nil _ _ _ _) d
  | cons c s ih =>
    rw [List.cons_append]
    cases skip with
    | succ skip => exact ih (Nat.le_of_succ_le_succ hskip)
    | zero =>
      have hends := ends_append (s := c :: s) (t := t) (b := b) h.avoided h.noWord
      rw [List.cons_append] at hends
      rw [cut, cut, hends, List.head?_map]
      cases (r.ends isWord b (c :: s)).head? with
      | none =>
        show repl.intercalate (List.modifyHead _ _) = repl.intercalate (List.modifyHead _ _) ++ _
        rw [intercalate_modifyHead (cut_ne_nil _ _ _ _),
          intercalate_modifyHead (cut_ne_nil _ _ _ _), ih (Nat.zero_le _)]
        rfl
      | some e =>
        have hlength : (s ++ d :: t).length - (e.2 ++ d :: t).length = s.length - e.2.length := by
          rw [List.length_append, List.length_append, Nat.add_sub_add_right]
        show repl.intercalate ([] :: cut isWord r _ _ _) = repl.intercalate ([] :: _) ++ _
        rw [List.intercalate_cons_of_ne_nil (cut_ne_nil _ _ _ _),
          List.intercalate_cons_of_ne_nil (cut_ne_nil _ _ _ _), hlength,
          ih (Nat.sub_le _ _), List.nil_append, List.append_assoc]

/-- **Replacing can be done on each side** of a separator. -/
theorem Separates.sub_append (h : Separates isWord r d) :
    r.sub isWord repl (s ++ d :: t) = r.sub isWord repl s ++ d :: r.sub isWord repl t :=
  intercalate_cut_append h (Nat.zero_le _)

theorem cut_of_search_false (h : r.search isWord b s = false) : r.cut isWord 0 b s = [s] := by
  induction s generalizing b with
  | nil => rfl
  | cons c s ih =>
    rw [search, Bool.or_eq_false_iff, Bool.not_eq_false', List.isEmpty_iff] at h
    rw [cut, h.1, List.head?_nil]
    show List.modifyHead _ (cut isWord r 0 (isWord c) s) = _
    rw [ih h.2]
    rfl

/-- A text without a match stays as it is. -/
theorem sub_of_search_false (h : r.search isWord false s = false) : r.sub isWord repl s = s := by
  rw [sub, cut_of_search_false h, List.intercalate_singleton]

/-! ### Marks -/

theorem ends_nil_of_startsOtherwise (hr : r.startsOtherwise d = true) :
    r.ends isWord b [] = [] := by
  induction r generalizing b with
  | empty => cases hr
  | boundary => cases hr
  | one p => rfl
  | many p lo hi =>
    obtain ⟨-, hlo⟩ : p d = false ∧ 0 < lo := by simpa [startsOtherwise] using hr
    rw [ends, manyEnds, if_neg (Nat.ne_of_gt hlo)]
  | seq r r' ih ih' =>
    rw [ends]
    rcases Bool.or_eq_true_iff.1 hr with h | h
    · rw [ih h]
      rfl
    · obtain ⟨hassert, h'⟩ := Bool.and_eq_true_iff.1 h
      rw [List.flatMap_eq_nil_iff]
      intro e he
      rw [mem_ends_of_isAssertion hassert he]
      exact ih' h'
  | alt r r' ih ih' =>
    obtain ⟨h, h'⟩ := Bool.and_eq_true_iff.1 hr
    rw [ends, ih h, ih' h']
    rfl

theorem Separates.search_nil (h : Separates isWord r d) : r.search isWord b [] = false := by
  rw [search, ends_nil_of_startsOtherwise h.noStart]
  rfl

/-- A text between two separators, without a match inside. -/
inductive IsMark (isWord : α → Bool) (r : Regex α) : List α → Prop
  | intro {d d' : α} {w : List α} (hd : Separates isWord r d) (hd' : Separates isWord r d')
      (hw : r.search isWord false w = false) : IsMark isWord r (d :: (w ++ [d']))

variable {mark : List α} {ps : List (List α)}

/-- **A match lies on one side** of a mark. -/
theorem IsMark.search_append (h : IsMark isWord r mark) :
    r.search isWord b (s ++ mark ++ t) = (r.search isWord b s || r.search isWord false t) := by
  obtain ⟨hd, hd', hw⟩ := h
  rw [List.append_assoc, List.cons_append, List.append_assoc, hd.search_append,
    List.singleton_append, hd'.search_append, hw, Bool.false_or]

/-- **Replacing can be done on each side** of a mark, which stays as it is. -/
theorem IsMark.sub_append (h : IsMark isWord r mark) :
    r.sub isWord repl (s ++ mark ++ t) = r.sub isWord repl s ++ mark ++ r.sub isWord repl t := by
  obtain ⟨hd, hd', hw⟩ := h
  rw [List.append_assoc, List.cons_append, List.append_assoc, hd.sub_append,
    List.singleton_append, hd'.sub_append, sub_of_search_false hw]
  simp only [List.append_assoc, List.cons_append, List.nil_append]

theorem IsMark.search_intercalate (h : IsMark isWord r mark) (ps : List (List α)) :
    r.search isWord false (mark.intercalate ps) = ps.any (r.search isWord false) := by
  induction ps with
  | nil =>
    obtain ⟨hd, -, -⟩ := h
    exact hd.search_nil
  | cons p ps ih =>
    cases ps with
    | nil => rw [List.intercalate_singleton, List.any_cons, List.any_nil, Bool.or_false]
    | cons q ps =>
      rw [List.intercalate_cons_cons, h.search_append, ih]
      rfl

theorem intercalate_append (hps : ps ≠ []) {qs : List (List α)} (hqs : qs ≠ []) :
    mark.intercalate (ps ++ qs) = mark.intercalate ps ++ mark ++ mark.intercalate qs := by
  induction ps with
  | nil => exact absurd rfl hps
  | cons p ps ih =>
    cases ps with
    | nil =>
      rw [List.singleton_append, List.intercalate_cons_of_ne_nil hqs, List.intercalate_singleton]
    | cons p' ps =>
      have hrest := ih (List.cons_ne_nil _ _)
      rw [List.cons_append] at hrest
      rw [List.cons_append, List.cons_append, List.intercalate_cons_cons, hrest,
        List.intercalate_cons_cons]
      simp only [List.append_assoc]

/-- What is cut up already is cut up further. -/
theorem IsMark.sub_intercalate (h : IsMark isWord r mark) (ps : List (List α)) :
    r.sub isWord mark (mark.intercalate ps) =
      mark.intercalate (ps.flatMap (r.cut isWord 0 false)) := by
  induction ps with
  | nil => rfl
  | cons p ps ih =>
    cases ps with
    | nil => rw [List.intercalate_singleton, List.flatMap_singleton, sub]
    | cons q ps =>
      have hrest : (q :: ps).flatMap (r.cut isWord 0 false) ≠ [] := fun hnil ↦
        cut_ne_nil r 0 false q (List.flatMap_eq_nil_iff.1 hnil q List.mem_cons_self)
      calc r.sub isWord mark (mark.intercalate (p :: q :: ps))
          = r.sub isWord mark p ++ mark ++
              mark.intercalate ((q :: ps).flatMap (r.cut isWord 0 false)) := by
            rw [List.intercalate_cons_cons, h.sub_append, ih]
        _ = mark.intercalate ((p :: q :: ps).flatMap (r.cut isWord 0 false)) :=
            (intercalate_append (cut_ne_nil _ _ _ _) hrest).symm

end Lemmas

/-! ### One pattern after another -/

section Several

variable (isWord : α → Bool)

/-- The text with the matches of the patterns replaced, one pattern after another. -/
def subAll (rs : List (Regex α)) (repl s : List α) : List α :=
  rs.foldl (fun s r ↦ r.sub isWord repl s) s

/-- The parts that the matches of the patterns leave: the text is cut at the matches of the first
pattern, the parts at those of the second one, and so on. -/
def cutAll (rs : List (Regex α)) (s : List α) : List (List α) :=
  rs.foldl (fun ps r ↦ ps.flatMap (r.cut isWord 0 false)) [s]

variable {isWord}

theorem subAll_append (rs rs' : List (Regex α)) (repl s : List α) :
    subAll isWord (rs ++ rs') repl s = subAll isWord rs' repl (subAll isWord rs repl s) :=
  List.foldl_append

/-- **Replacing by a mark** cuts a text into parts and puts the mark between them. -/
theorem subAll_eq_intercalate {rs : List (Regex α)} {mark : List α}
    (hmark : ∀ r ∈ rs, IsMark isWord r mark) (s : List α) :
    subAll isWord rs mark s = mark.intercalate (cutAll isWord rs s) := by
  have hall : ∀ ps : List (List α), subAll isWord rs mark (mark.intercalate ps) =
      mark.intercalate (rs.foldl (fun ps r ↦ ps.flatMap (r.cut isWord 0 false)) ps) := by
    induction rs with
    | nil => exact fun _ ↦ rfl
    | cons r rs ih =>
      intro ps
      have hrest := ih (fun r' hr' ↦ hmark r' (List.mem_cons_of_mem r hr'))
        (ps.flatMap (r.cut isWord 0 false))
      rw [← (hmark r List.mem_cons_self).sub_intercalate ps] at hrest
      exact hrest
  rw [cutAll, ← hall [s], List.intercalate_singleton]

end Several

end Regex
