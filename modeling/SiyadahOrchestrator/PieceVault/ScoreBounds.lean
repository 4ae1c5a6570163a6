import Mathlib.Analysis.Real.Sqrt
import Mathlib.Analysis.SpecialFunctions.Log.Base
import SiyadahOrchestrator.PieceVault.ScoreArithmetic

/-!
# The bounds of the scores

The scoring over the real numbers, where a division by zero, a root and a logarithm that are not
defined are errors. None of them occurs: what a row has that cannot be read is the only reason for
which it has no scores, every component is a number between zero and one, and the scores are between
zero and a hundred (`scores_within`).
-/

namespace Siyadah

open PyValue

noncomputable section

/-! ### The real numbers -/

/-- `round(x)`, to the nearest integer, and to the even one of two that are as near. -/
def roundReal (x : ℝ) : ℤ :=
  if Int.fract x < 1 / 2 then ⌊x⌋
  else if 1 / 2 < Int.fract x then ⌊x⌋ + 1
  else if Even ⌊x⌋ then ⌊x⌋
  else ⌊x⌋ + 1

/-- Exact arithmetic. A number of a schema that is infinite, or no number, is no real number. -/
def realArithmetic : Arithmetic ℝ where
  ofRat q := q
  add x y := x + y
  sub x y := x - y
  mul x y := x * y
  div x y := open Classical in if y = 0 then .error .zeroDivision else .ok (x / y)
  divInt n m := if m = 0 then .error .zeroDivision else .ok (n / m)
  sum l := l.foldr (· + ·) 0
  neg x := -x
  square x := x ^ 2
  sqrt x := open Classical in if x < 0 then .error .mathDomain else .ok (Real.sqrt x)
  log2 x := open Classical in if x ≤ 0 then .error .mathDomain else .ok (Real.logb 2 x)
  log10Succ
    | .finite q => if 1 + q ≤ 0 then .error .mathDomain else .ok (Real.logb 10 (1 + q))
    | _ => .error (.data .valueError)
  isZero x := open Classical in decide (x = 0)
  atMostOne x := min x 1
  round x := .ok (roundReal x)

section Round

variable {x : ℝ} {n : ℤ}

theorem le_roundReal (h : n ≤ x) : n ≤ roundReal x := by
  have hfloor : n ≤ ⌊x⌋ := Int.le_floor.2 h
  rw [roundReal]
  split_ifs
  all_goals omega

theorem roundReal_le (h : x ≤ n) : roundReal x ≤ n := by
  have hfloor : ⌊x⌋ ≤ n := Int.floor_le_iff.2 (lt_of_le_of_lt h (by exact_mod_cast Int.lt_succ n))
  have hsucc : 1 / 2 ≤ Int.fract x → ⌊x⌋ + 1 ≤ n := by
    intro hfract
    have hlt : (⌊x⌋ : ℝ) < n := by
      have := Int.self_sub_floor x
      have hx : (⌊x⌋ : ℝ) + 1 / 2 ≤ x := by linarith
      linarith
    exact_mod_cast hlt
  rw [roundReal]
  split_ifs with h₁ h₂ h₃
  · exact hfloor
  · exact hsucc h₂.le
  · exact hfloor
  · exact hsucc (not_lt.1 h₁)

end Round

section Operations

variable {x y : ℝ} {n m : ℤ}

theorem real_div (h : y ≠ 0) : realArithmetic.div x y = .ok (x / y) := if_neg h

theorem real_div_ofRat {q : ℚ} (h : q ≠ 0) :
    realArithmetic.div x (realArithmetic.ofRat q) = .ok (x / q : ℝ) :=
  real_div (Rat.cast_ne_zero.2 h)

theorem real_divInt (h : m ≠ 0) : realArithmetic.divInt n m = .ok (n / m : ℝ) := if_neg h

theorem real_sqrt (h : 0 ≤ x) : realArithmetic.sqrt x = .ok (Real.sqrt x) := if_neg (not_lt.2 h)

theorem real_log2 (h : 0 < x) : realArithmetic.log2 x = .ok (Real.logb 2 x) := if_neg (not_le.2 h)

end Operations

/-! ### Outcomes -/

section Outcomes

variable {α β : Type} {D : Prop} {P : α → Prop} {Q : β → Prop}

/-- There is a value of the kind `P`, or what `D` says can be read cannot be. -/
def Safe (D : Prop) (P : α → Prop) (x : Except ScoreError α) : Prop :=
  (∃ a, x = .ok a ∧ P a) ∨ (¬ D ∧ ∃ e, x = .error (.data e))

theorem safe_ok {a : α} (h : P a) : Safe D P (.ok a) := .inl ⟨a, rfl, h⟩

theorem Safe.bind {x : Except ScoreError α} {f : α → Except ScoreError β} (hx : Safe D P x)
    (hf : ∀ a, P a → Safe D Q (f a)) : Safe D Q (x >>= f) := by
  rcases hx with ⟨a, rfl, ha⟩ | ⟨hD, e, rfl⟩
  · exact hf a ha
  · exact .inr ⟨hD, e, rfl⟩

theorem safe_readData {x : Except PyError α} (h : D → ∃ a, x = .ok a) :
    Safe D (fun a ↦ x = .ok a) (readData x) := by
  rcases x with e | a
  · refine .inr ⟨fun hD ↦ ?_, e, rfl⟩
    obtain ⟨a, ha⟩ := h hD
    cases ha
  · exact safe_ok rfl

end Outcomes

/-! ### Components -/

/-- Between zero and one. -/
def InUnit (x : ℝ) : Prop := 0 ≤ x ∧ x ≤ 1

theorem inUnit_min {x : ℝ} (h : 0 ≤ x) : InUnit (min x 1) :=
  ⟨le_min h zero_le_one, min_le_right _ _⟩

theorem inUnit_zero : InUnit (realArithmetic.ofRat 0) := by
  show 0 ≤ ((0 : ℚ) : ℝ) ∧ ((0 : ℚ) : ℝ) ≤ 1
  norm_num

theorem inUnit_share {n m : ℕ} (h : n ≤ m) : InUnit ((n : ℤ) / (m : ℤ) : ℝ) := by
  have hle : ((n : ℤ) : ℝ) ≤ ((m : ℤ) : ℝ) := by exact_mod_cast h
  have hn : (0 : ℝ) ≤ ((n : ℤ) : ℝ) := by positivity
  exact ⟨div_nonneg hn (hn.trans hle), div_le_one_of_le₀ hle (hn.trans hle)⟩

section Components

variable {M : ScoreMath} {D : Prop} {actions : Bucket}

/-- A ratio that is not negative, capped at one. -/
theorem safe_capped {x : ℝ} {q : ℚ} (hx : 0 ≤ x) (hq : 0 < q) :
    Safe D InUnit (realArithmetic.div x (realArithmetic.ofRat q) >>= fun r ↦
      pure (realArithmetic.atMostOne r)) := by
  rw [real_div_ofRat hq.ne']
  exact safe_ok (inUnit_min (div_nonneg hx (by exact_mod_cast hq.le)))

/-- A share of a list. -/
theorem safe_share {n m : ℕ} (h : n ≤ m) (hm : m ≠ 0) :
    Safe D InUnit (realArithmetic.divInt n m) := by
  rw [real_divInt (by exact_mod_cast hm)]
  exact safe_ok (inUnit_share h)

theorem safe_breadth : Safe D InUnit (breadthOver M realArithmetic actions) := by
  rw [breadthOver]
  split
  · exact safe_ok inUnit_zero
  · refine safe_capped ?_ (by norm_num)
    show (0 : ℝ) ≤ (((_ : ℕ) : ℚ) : ℝ)
    positivity

theorem safe_compression : Safe D InUnit (compressionOver M realArithmetic actions) := by
  rw [compressionOver]
  split
  · exact safe_ok inUnit_zero
  · rename_i hne
    exact safe_share List.countP_le_length fun h ↦ hne (List.length_eq_zero_iff.1 h)

theorem inUnit_symmetry (triggers : PyValue) :
    InUnit (symmetryOver realArithmetic actions triggers) := by
  have hof : ∀ q : ℚ, 0 ≤ q → q ≤ 1 → InUnit (realArithmetic.ofRat q) := by
    intro q h₀ h₁
    show (0 : ℝ) ≤ (q : ℝ) ∧ (q : ℝ) ≤ 1
    exact ⟨by exact_mod_cast h₀, by exact_mod_cast h₁⟩
  rw [symmetryOver]
  split_ifs
  · exact hof 1 zero_le_one le_rfl
  · exact hof (1 / 2) (by norm_num) (by norm_num)
  · exact inUnit_zero

theorem requiredCount_nonneg {action : PyValue} {n : ℤ} (h : requiredCount action = .ok n) :
    0 ≤ n := by
  obtain ⟨props, -, h⟩ := bind_eq_ok_iff.1 h
  obtain ⟨len, -, h⟩ := bind_eq_ok_iff.1 h
  obtain rfl := Except.ok.inj h
  exact Int.natCast_nonneg len

/-- The counts of the required fields are not negative. -/
theorem counts_nonneg {counts : List ℤ}
    (h : actions.mapM (fun f ↦ requiredCount f.2) = .ok counts) :
    ∀ c ∈ counts, 0 ≤ c := by
  intro c hc
  obtain ⟨f, -, hf⟩ := exists_of_mem_mapM h hc
  exact requiredCount_nonneg hf

theorem safe_counts (hD : D → ∀ f ∈ actions, ∃ n, requiredCount f.2 = .ok n) :
    Safe D (fun counts ↦ actions.mapM (fun f ↦ requiredCount f.2) = .ok counts)
      (readData (actions.mapM fun f ↦ requiredCount f.2)) := by
  refine safe_readData fun h ↦ ?_
  obtain ⟨counts, hcounts, -⟩ : ∃ r, actions.mapM (fun f ↦ requiredCount f.2) = .ok r ∧
      List.Forall₂ (fun _ _ ↦ True) actions r :=
    exists_mapM_eq_ok fun f hf ↦ (hD h f hf).imp fun n hn ↦ ⟨hn, trivial⟩
  exact ⟨counts, hcounts⟩

theorem safe_richness (hD : D → ∀ f ∈ actions, ∃ n, requiredCount f.2 = .ok n) :
    Safe D InUnit (richnessOver realArithmetic actions) := by
  refine (safe_counts hD).bind fun counts hcounts ↦ ?_
  split
  · exact safe_ok inUnit_zero
  · rename_i hne
    have hlength : (counts.length : ℤ) ≠ 0 := by
      exact_mod_cast fun h ↦ hne (List.length_eq_zero_iff.1 h)
    rw [real_divInt hlength]
    refine safe_capped (div_nonneg ?_ (by positivity)) (by norm_num)
    exact_mod_cast List.sum_nonneg (counts_nonneg hcounts)

theorem safe_adoption {schema : PyValue} (hD : D → schema.truthy = true → ∃ pu,
      schema.get "projectUsage" = .ok pu ∧
        (pu.truthy = true → ∃ n : ℤ, pu.number? = some (.finite n))) :
    Safe D InUnit (adoptionOver realArithmetic schema) := by
  have hread : Safe D
      (fun pu ↦ (if schema.truthy then schema.get "projectUsage" else pure .null) = Except.ok pu)
      (readData (if schema.truthy then schema.get "projectUsage" else pure .null)) := by
    refine safe_readData fun h ↦ ?_
    split
    · rename_i htruthy
      obtain ⟨pu, hpu, -⟩ := hD h htruthy
      exact ⟨pu, hpu⟩
    · exact ⟨.null, rfl⟩
  refine hread.bind fun pu hpu ↦ ?_
  split
  · exact safe_ok inUnit_zero
  rename_i htruthy
  -- a count that is read is an integer
  have hinteger : D → ∃ n : ℤ, pu.number? = some (.finite n) := by
    intro h
    split at hpu
    · rename_i hschema
      obtain ⟨pu', hpu', hnumber⟩ := hD h hschema
      obtain rfl := Except.ok.inj (hpu.symm.trans hpu')
      exact hnumber (by simpa using htruthy)
    · obtain rfl := Except.ok.inj hpu
      exact absurd rfl htruthy
  rcases hnumber : pu.number? with _ | x
  · refine .inr ⟨fun h ↦ ?_, .typeError, rfl⟩
    obtain ⟨n, hn⟩ := hinteger h
    cases hnumber.symm.trans hn
  show Safe D InUnit (if _ then _ else _)
  split
  · exact safe_ok inUnit_zero
  rename_i hpositive
  cases x with
  | finite q =>
    have hq : 0 < q := by
      rw [Bool.or_eq_true, not_or] at hpositive
      have hlt : ¬ q < 0 := by simpa [floatLt] using hpositive.1
      have hne : q ≠ 0 := by simpa using hpositive.2
      exact lt_of_le_of_ne (not_lt.1 hlt) hne.symm
    have hlog : realArithmetic.log10Succ (.finite q) = .ok (Real.logb 10 (1 + q)) :=
      if_neg (by linarith)
    rw [hlog]
    refine safe_capped (Real.logb_nonneg (by norm_num) ?_) (by norm_num)
    have hcast : (0 : ℝ) ≤ (q : ℝ) := by exact_mod_cast hq.le
    linarith
  | infinity negative =>
    refine .inr ⟨fun h ↦ ?_, .valueError, rfl⟩
    obtain ⟨n, hn⟩ := hinteger h
    cases hnumber.symm.trans hn
  | nan =>
    refine .inr ⟨fun h ↦ ?_, .valueError, rfl⟩
    obtain ⟨n, hn⟩ := hinteger h
    cases hnumber.symm.trans hn

theorem safe_emptyPropsRatio
    (hD : D → ∀ f ∈ actions, ∃ v, (f.2.orElse (.dict [])).get "prop_types" = .ok v) :
    Safe D InUnit (emptyPropsRatioOver realArithmetic actions) := by
  have hread : Safe D (fun types ↦ actions.mapM (fun f ↦
      (f.2.orElse (.dict [])).get "prop_types") = .ok types) (readData (actions.mapM fun f ↦
        (f.2.orElse (.dict [])).get "prop_types")) := by
    refine safe_readData fun h ↦ ?_
    obtain ⟨types, htypes, -⟩ : ∃ r, actions.mapM (fun f ↦
        (f.2.orElse (.dict [])).get "prop_types") = .ok r ∧
          List.Forall₂ (fun _ _ ↦ True) actions r :=
      exists_mapM_eq_ok fun f hf ↦ (hD h f hf).imp fun v hv ↦ ⟨hv, trivial⟩
    exact ⟨types, htypes⟩
  refine hread.bind fun types htypes ↦ ?_
  split
  · exact safe_ok inUnit_zero
  · rename_i hne
    have hlength : actions.length = types.length := (mapM_eq_ok_iff.1 htypes).length_eq
    refine safe_share ?_ fun h ↦ hne (List.length_eq_zero_iff.1 h)
    rw [hlength]
    exact List.countP_le_length

theorem foldr_add_nonneg {l : List ℝ} (h : ∀ x ∈ l, 0 ≤ x) : 0 ≤ l.foldr (· + ·) 0 := by
  induction l with
  | nil => exact le_rfl
  | cons x l ih =>
    obtain ⟨hx, hl⟩ := List.forall_mem_cons.1 h
    exact add_nonneg hx (ih hl)

theorem foldr_add_nonpos {l : List ℝ} (h : ∀ x ∈ l, x ≤ 0) : l.foldr (· + ·) 0 ≤ 0 := by
  induction l with
  | nil => exact le_rfl
  | cons x l ih =>
    obtain ⟨hx, hl⟩ := List.forall_mem_cons.1 h
    exact add_nonpos hx (ih hl)

theorem tokenCounts_bounds {tokens : List PyStr} {c : ℕ} (h : c ∈ tokenCounts tokens) :
    1 ≤ c ∧ c ≤ tokens.length := by
  obtain ⟨t, ht, rfl⟩ := List.mem_map.1 h
  have hmem : t ∈ tokens := by simpa using ht
  exact ⟨List.one_le_count_iff.2 hmem, List.count_le_length⟩

theorem entropyTerm_nonpos {total c : ℕ} (hc : 1 ≤ c) (hle : c ≤ total) :
    ∃ x, entropyTerm realArithmetic total c = .ok x ∧ x ≤ 0 := by
  have htotal : (0 : ℝ) < ((total : ℤ) : ℝ) := by
    exact_mod_cast Nat.lt_of_lt_of_le hc hle
  have hpos : (0 : ℝ) < ((c : ℤ) : ℝ) / ((total : ℤ) : ℝ) :=
    div_pos (by exact_mod_cast hc) htotal
  have hone : ((c : ℤ) : ℝ) / ((total : ℤ) : ℝ) ≤ 1 :=
    div_le_one_of_le₀ (by exact_mod_cast hle) htotal.le
  refine ⟨((c : ℤ) : ℝ) / ((total : ℤ) : ℝ) * Real.logb 2 (((c : ℤ) : ℝ) / ((total : ℤ) : ℝ)), ?_,
    mul_nonpos_of_nonneg_of_nonpos hpos.le (Real.logb_nonpos one_lt_two hpos.le hone)⟩
  rw [entropyTerm, real_divInt (by exact_mod_cast htotal.ne')]
  show (realArithmetic.log2 _ >>= _) = _
  rw [real_log2 hpos]
  rfl

theorem safe_nameEntropy (names : List PyStr) :
    Safe D (fun x ↦ 0 ≤ x) (nameEntropyOver M realArithmetic names) := by
  rw [nameEntropyOver]
  split
  · exact safe_ok inUnit_zero.1
  · obtain ⟨terms, hterms, -⟩ : ∃ r, (tokenCounts (names.flatMap (tokenize M))).mapM
        (entropyTerm realArithmetic (names.flatMap (tokenize M)).length) = .ok r ∧
          List.Forall₂ (fun _ x ↦ x ≤ 0) (tokenCounts (names.flatMap (tokenize M))) r :=
      exists_mapM_eq_ok fun c hc ↦
        entropyTerm_nonpos (tokenCounts_bounds hc).1 (tokenCounts_bounds hc).2
    rw [hterms]
    refine safe_ok (neg_nonneg.2 ?_)
    refine foldr_add_nonpos fun x hx ↦ ?_
    obtain ⟨c, hc, hterm⟩ := exists_of_mem_mapM hterms hx
    obtain ⟨x', hx', hnonpos⟩ :=
      entropyTerm_nonpos (tokenCounts_bounds hc).1 (tokenCounts_bounds hc).2
    obtain rfl := Except.ok.inj (hterm.symm.trans hx')
    exact hnonpos

theorem safe_richnessVariance (hD : D → ∀ f ∈ actions, ∃ n, requiredCount f.2 = .ok n) :
    Safe D InUnit (richnessVarianceOver realArithmetic actions) := by
  rw [richnessVarianceOver]
  split
  · exact safe_ok inUnit_zero
  rename_i hmany
  refine (safe_counts hD).bind fun counts hcounts ↦ ?_
  have hlength : actions.length = counts.length := (mapM_eq_ok_iff.1 hcounts).length_eq
  have hne : (counts.length : ℤ) ≠ 0 := by omega
  rw [real_divInt hne]
  have hmean : (0 : ℝ) ≤ (counts.sum : ℝ) / ((counts.length : ℤ) : ℝ) :=
    div_nonneg (by exact_mod_cast List.sum_nonneg (counts_nonneg hcounts)) (by positivity)
  show Safe D InUnit (if realArithmetic.isZero (counts.sum / ((counts.length : ℤ) : ℝ)) then _
    else _)
  split
  · exact safe_ok inUnit_zero
  rename_i hzero
  have hmean_ne : (counts.sum : ℝ) / ((counts.length : ℤ) : ℝ) ≠ 0 := by
    simpa [realArithmetic] using hzero
  have hcount : ((counts.length : ℕ) : ℚ) ≠ 0 := by exact_mod_cast hne
  have hvar : (0 : ℝ) ≤ realArithmetic.sum (counts.map fun c : ℤ ↦ realArithmetic.square
      (realArithmetic.sub (realArithmetic.ofRat c) (counts.sum / ((counts.length : ℤ) : ℝ)))) /
        (((counts.length : ℕ) : ℚ) : ℝ) := by
    refine div_nonneg (foldr_add_nonneg fun x hx ↦ ?_) (by positivity)
    obtain ⟨c, -, rfl⟩ := List.mem_map.1 hx
    exact sq_nonneg _
  rw [real_div_ofRat hcount]
  show Safe D InUnit (realArithmetic.sqrt _ >>= _)
  rw [real_sqrt hvar]
  show Safe D InUnit (realArithmetic.div _ _ >>= _)
  rw [real_div hmean_ne]
  exact safe_ok (inUnit_min (div_nonneg (Real.sqrt_nonneg _) hmean))

end Components

/-! ### Scores -/

/-- Between zero and a hundred. -/
def InPercent (n : ℤ) : Prop := 0 ≤ n ∧ n ≤ 100

/-- Every component is between zero and one, every score between zero and a hundred, and laziness
makes no piece more useful. -/
structure Computed.Within (c : Computed ℝ) : Prop where
  breadth : InUnit c.breadth
  richness : InUnit c.richness
  compression : InUnit c.compression
  symmetry : InUnit c.symmetry
  adoption : InUnit c.adoption
  emptyRatio : InUnit c.emptyRatio
  normEntropy : InUnit c.normEntropy
  var : InUnit c.var
  dahaeScore : InPercent c.dahaeScore
  lazinessScore : InPercent c.lazinessScore
  effectiveDahae : InPercent c.effectiveDahae
  effective_le : c.effectiveDahae ≤ c.dahaeScore

/-- What the scoring reads of a row can be read: the actions and the triggers have items, the fields
of each action can be counted, and what projects use it is an integer. -/
structure ReadableRow (row : HarvestRow) : Prop where
  actions : ∃ actions, bucketItems (row.actionsIndex.orElse (.dict [])) = .ok actions ∧
    (∀ f ∈ actions, ∃ n, requiredCount f.2 = .ok n) ∧
    ∀ f ∈ actions, ∃ v, (f.2.orElse (.dict [])).get "prop_types" = .ok v
  usage : (row.fullSchema.orElse (.dict [])).truthy = true → ∃ pu,
    (row.fullSchema.orElse (.dict [])).get "projectUsage" = .ok pu ∧
      (pu.truthy = true → ∃ n : ℤ, pu.number? = some (.finite n))
  triggers : ∃ n, (row.triggersIndex.orElse (.dict [])).len = .ok n

section Scores

variable {M : ScoreMath}

theorem dahaeRaw_real (b r c s a : ℝ) : dahaeRaw realArithmetic b r c s a =
    30 / 100 * b + 25 / 100 * r + 20 / 100 * c + 15 / 100 * s + 10 / 100 * a := by
  simp only [dahaeRaw, weighOver, realArithmetic]
  push_cast
  ring

theorem lazinessRaw_real (e n v : ℝ) : lazinessRaw realArithmetic e n v =
    40 / 100 * e + 35 / 100 * (1 - n) + 25 / 100 * (1 - v) := by
  simp only [lazinessRaw, weighOver, realArithmetic]
  push_cast
  ring

/-- The weights add up to one. -/
theorem inUnit_dahaeRaw {b r c s a : ℝ} (hb : InUnit b) (hr : InUnit r) (hc : InUnit c)
    (hs : InUnit s) (ha : InUnit a) : InUnit (dahaeRaw realArithmetic b r c s a) := by
  rw [dahaeRaw_real]
  obtain ⟨hb₀, hb₁⟩ := hb
  obtain ⟨hr₀, hr₁⟩ := hr
  obtain ⟨hc₀, hc₁⟩ := hc
  obtain ⟨hs₀, hs₁⟩ := hs
  obtain ⟨ha₀, ha₁⟩ := ha
  constructor
  · linarith
  · linarith

theorem inUnit_lazinessRaw {e n v : ℝ} (he : InUnit e) (hn : InUnit n) (hv : InUnit v) :
    InUnit (lazinessRaw realArithmetic e n v) := by
  rw [lazinessRaw_real]
  obtain ⟨he₀, he₁⟩ := he
  obtain ⟨hn₀, hn₁⟩ := hn
  obtain ⟨hv₀, hv₁⟩ := hv
  constructor
  · linarith
  · linarith

/-- A number between zero and one, as a score. -/
theorem inPercent_round {x : ℝ} (h : InUnit x) :
    InPercent (roundReal (realArithmetic.mul x (realArithmetic.ofRat 100))) := by
  obtain ⟨h₀, h₁⟩ := h
  have hmul : realArithmetic.mul x (realArithmetic.ofRat 100) = x * 100 := by
    show x * ((100 : ℚ) : ℝ) = x * 100
    norm_num
  rw [hmul]
  constructor
  · refine le_roundReal ?_
    push_cast
    linarith
  · refine roundReal_le ?_
    push_cast
    linarith

/-- `dahae_score * (1.0 - laziness_score / 100.0)`, rounded. -/
theorem effective_bounds {d l : ℤ} (hd : InPercent d) (hl : InPercent l) :
    InPercent (roundReal ((d : ℝ) * (1 - (l : ℝ) / 100))) ∧
      roundReal ((d : ℝ) * (1 - (l : ℝ) / 100)) ≤ d := by
  have hd₀ : (0 : ℝ) ≤ d := by exact_mod_cast hd.1
  have hl₀ : (0 : ℝ) ≤ l := by exact_mod_cast hl.1
  have hl₁ : (l : ℝ) ≤ 100 := by exact_mod_cast hl.2
  have hshare : 0 ≤ 1 - (l : ℝ) / 100 := by linarith
  have hshare' : 1 - (l : ℝ) / 100 ≤ 1 := by linarith
  have hle : roundReal ((d : ℝ) * (1 - (l : ℝ) / 100)) ≤ d :=
    roundReal_le (mul_le_of_le_one_right hd₀ hshare')
  refine ⟨⟨le_roundReal ?_, hle.trans hd.2⟩, hle⟩
  rw [Int.cast_zero]
  exact mul_nonneg hd₀ hshare

/-- **The bounds of the scores.** Over the real numbers, every row that can be read has scores; they
and their components are within their bounds. A row without scores is one that cannot be read: no
division by zero occurs, and no logarithm or root that is not defined. -/
theorem scores_within (M : ScoreMath) (row : HarvestRow) :
    (∃ c, computeAllOver M realArithmetic row = .ok c ∧ c.Within) ∨
      (¬ ReadableRow row ∧ ∃ e, computeAllOver M realArithmetic row = .error (.data e)) := by
  have hactions : Safe (ReadableRow row)
      (fun actions ↦ bucketItems (row.actionsIndex.orElse (.dict [])) = .ok actions)
      (readData (bucketItems (row.actionsIndex.orElse (.dict [])))) :=
    safe_readData fun h ↦ h.actions.imp fun actions h ↦ h.1
  refine hactions.bind fun actions hitems ↦ ?_
  have hrequired : ReadableRow row → ∀ f ∈ actions, ∃ n, requiredCount f.2 = .ok n := by
    intro h
    obtain ⟨actions', hitems', hrequired, -⟩ := h.actions
    obtain rfl := Except.ok.inj (hitems.symm.trans hitems')
    exact hrequired
  have htypes : ReadableRow row →
      ∀ f ∈ actions, ∃ v, (f.2.orElse (.dict [])).get "prop_types" = .ok v := by
    intro h
    obtain ⟨actions', hitems', -, htypes⟩ := h.actions
    obtain rfl := Except.ok.inj (hitems.symm.trans hitems')
    exact htypes
  refine safe_breadth.bind fun breadth hbreadth ↦ ?_
  refine (safe_richness hrequired).bind fun richness hrichness ↦ ?_
  refine safe_compression.bind fun compression hcompression ↦ ?_
  refine (safe_adoption fun h ↦ h.usage).bind fun adoption hadoption ↦ ?_
  have hsymmetry : InUnit (symmetryOver realArithmetic actions
      (row.triggersIndex.orElse (.dict []))) := inUnit_symmetry _
  have hdahae := inPercent_round
    (inUnit_dahaeRaw hbreadth hrichness hcompression hsymmetry hadoption)
  refine (safe_ok hdahae).bind fun dahaeScore hdahae ↦ ?_
  refine (safe_emptyPropsRatio htypes).bind fun emptyRatio hempty ↦ ?_
  refine (safe_nameEntropy (actions.map Prod.fst)).bind fun entropy hentropy ↦ ?_
  have hfifth : Safe (ReadableRow row) (fun x : ℝ ↦ 0 ≤ x)
      (realArithmetic.div entropy (realArithmetic.ofRat 5)) := by
    rw [real_div_ofRat (show (5 : ℚ) ≠ 0 by norm_num)]
    exact safe_ok (div_nonneg hentropy (by norm_num))
  refine hfifth.bind fun fifth hfifth ↦ ?_
  have hnorm : InUnit (realArithmetic.atMostOne fifth) := inUnit_min hfifth
  refine (safe_richnessVariance hrequired).bind fun var hvar ↦ ?_
  -- what is left, for whatever laziness score there is
  have hlast : ∀ lazinessScore : ℤ, InPercent lazinessScore →
      Safe (ReadableRow row) Computed.Within (do
        let share ← realArithmetic.div (realArithmetic.ofRat lazinessScore)
          (realArithmetic.ofRat 100)
        let effectiveDahae ← realArithmetic.round (realArithmetic.mul
          (realArithmetic.ofRat dahaeScore) (realArithmetic.sub (realArithmetic.ofRat 1) share))
        let nTriggers ← readData (row.triggersIndex.orElse (.dict [])).len
        pure {
          breadth, richness, compression, adoption, emptyRatio, entropy, var, dahaeScore
          lazinessScore, effectiveDahae, nTriggers
          symmetry := symmetryOver realArithmetic actions (row.triggersIndex.orElse (.dict []))
          normEntropy := realArithmetic.atMostOne fifth
          nActions := actions.length }) := by
    intro lazinessScore hlaziness
    rw [real_div_ofRat (show (100 : ℚ) ≠ 0 by norm_num), ok_bind]
    obtain ⟨heffective, hle⟩ := effective_bounds hdahae hlaziness
    have hround : realArithmetic.round (realArithmetic.mul (realArithmetic.ofRat dahaeScore)
        (realArithmetic.sub (realArithmetic.ofRat 1)
          (realArithmetic.ofRat lazinessScore / ((100 : ℚ) : ℝ)))) =
        .ok (roundReal ((dahaeScore : ℝ) * (1 - (lazinessScore : ℝ) / 100))) := by
      simp only [realArithmetic]
      push_cast
      rfl
    rw [hround, ok_bind]
    refine (safe_readData fun h ↦ h.triggers).bind fun nTriggers _ ↦ ?_
    exact safe_ok ⟨hbreadth, hrichness, hcompression, hsymmetry, hadoption, hempty, hnorm, hvar,
      hdahae, hlaziness, heffective, hle⟩
  split
  · exact hlast 50 ⟨by norm_num, by norm_num⟩
  · exact hlast _ (inPercent_round (inUnit_lazinessRaw hempty hnorm hvar))

end Scores

end

end Siyadah
