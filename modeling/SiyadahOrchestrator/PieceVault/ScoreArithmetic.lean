import SiyadahOrchestrator.PieceVault.Scoring

/-!
# Scores over any arithmetic

The scoring of a piece, over any numbers that it may compute with: the floats of a run, or the real
numbers that they stand for. Whatever may fail is told apart: the data of the row that cannot be
read, a division by zero, and a root or a logarithm that is not defined.

Over the floats, whose operations are total here, this is `computeAll` (`computeAll_eq`).
-/

namespace Siyadah

open PyValue

/-- Why there are no scores. -/
inductive ScoreError where
  /-- The data of the row cannot be read. -/
  | data (e : PyError)
  /-- `ZeroDivisionError`. -/
  | zeroDivision
  /-- `ValueError: math domain error`. -/
  | mathDomain

/-- Data of the row. -/
def readData {α : Type} (x : Except PyError α) : Except ScoreError α := x.mapError .data

/-- What a scoring run computes with. -/
structure Arithmetic (F : Type) where
  /-- A literal, or an integer. -/
  ofRat : ℚ → F
  add : F → F → F
  sub : F → F → F
  mul : F → F → F
  div : F → F → Except ScoreError F
  /-- `n / m` for integers. -/
  divInt : ℤ → ℤ → Except ScoreError F
  sum : List F → F
  neg : F → F
  /-- `x ** 2`. -/
  square : F → F
  sqrt : F → Except ScoreError F
  log2 : F → Except ScoreError F
  /-- `math.log10(1 + x)`, for a number of the schema. -/
  log10Succ : PyFloat → Except ScoreError F
  /-- `x == 0`. -/
  isZero : F → Bool
  /-- `min(x, 1.0)`. -/
  atMostOne : F → F
  round : F → Except ScoreError ℤ

/-- What `compute_all` has computed. -/
structure Computed (F : Type) where
  breadth : F
  richness : F
  compression : F
  symmetry : F
  adoption : F
  emptyRatio : F
  entropy : F
  normEntropy : F
  var : F
  dahaeScore : ℤ
  lazinessScore : ℤ
  effectiveDahae : ℤ
  nActions : ℕ
  nTriggers : ℕ

section Scores

variable {F : Type} (M : ScoreMath) (A : Arithmetic F)

/-- `compute_breadth`. -/
def breadthOver (actions : Bucket) : Except ScoreError F :=
  if actions = [] then .ok (A.ofRat 0)
  else do
    let breadth ← A.div (A.ofRat (actions.filterMap fun f ↦ extractVerb M f.1).dedup.length)
      (A.ofRat 8)
    pure (A.atMostOne breadth)

/-- `compute_richness`. -/
def richnessOver (actions : Bucket) : Except ScoreError F := do
  let counts ← readData (actions.mapM fun f ↦ requiredCount f.2)
  if counts = [] then pure (A.ofRat 0)
  else
    let avg ← A.divInt counts.sum counts.length
    let richness ← A.div avg (A.ofRat 6)
    pure (A.atMostOne richness)

/-- `compute_compression`. -/
def compressionOver (actions : Bucket) : Except ScoreError F :=
  if actions = [] then .ok (A.ofRat 0)
  else A.divInt (actions.countP fun f ↦ isCompound M f.1) actions.length

/-- `compute_symmetry`. -/
def symmetryOver (actions : Bucket) (triggers : PyValue) : F :=
  if actions ≠ [] ∧ triggers.truthy then A.ofRat 1
  else if actions ≠ [] ∨ triggers.truthy then A.ofRat (1 / 2)
  else A.ofRat 0

/-- `compute_adoption`. -/
def adoptionOver (fullSchema : PyValue) : Except ScoreError F := do
  let pu ← readData (if fullSchema.truthy then fullSchema.get "projectUsage" else pure .null)
  if !pu.truthy then pure (A.ofRat 0)
  else match pu.number? with
    | none => throw (.data .typeError)
    | some x =>
      if floatLt x (.finite 0) || x = .finite 0 then pure (A.ofRat 0)
      else do
        let log ← A.log10Succ x
        let adoption ← A.div log (A.ofRat 4)
        pure (A.atMostOne adoption)

/-- `compute_empty_props_ratio`. -/
def emptyPropsRatioOver (actions : Bucket) : Except ScoreError F := do
  let types ← readData (actions.mapM fun f ↦ (f.2.orElse (.dict [])).get "prop_types")
  if actions = [] then pure (A.ofRat 0)
  else A.divInt (types.countP fun v ↦ !v.truthy) actions.length

/-- A term of the entropy. -/
def entropyTerm (total count : ℕ) : Except ScoreError F := do
  let share ← A.divInt count total
  let log ← A.log2 share
  pure (A.mul share log)

/-- `compute_name_entropy`. -/
def nameEntropyOver (names : List PyStr) : Except ScoreError F :=
  let tokens := names.flatMap (tokenize M)
  if tokens = [] then .ok (A.ofRat 0)
  else do
    let terms ← (tokenCounts tokens).mapM (entropyTerm A tokens.length)
    pure (A.neg (A.sum terms))

/-- `compute_richness_variance`. -/
def richnessVarianceOver (actions : Bucket) : Except ScoreError F := do
  if actions.length < 2 then pure (A.ofRat 0)
  else
    let counts ← readData (actions.mapM fun f ↦ requiredCount f.2)
    let m ← A.divInt counts.sum counts.length
    if A.isZero m then pure (A.ofRat 0)
    else
      let squares := counts.map fun c : ℤ ↦ A.square (A.sub (A.ofRat (c : ℚ)) m)
      let var ← A.div (A.sum squares) (A.ofRat counts.length)
      let sd ← A.sqrt var
      let cv ← A.div sd m
      pure (A.atMostOne cv)

/-- A component under its weight. -/
def weighOver (weight : ℚ) (x : F) : F := A.mul (A.ofRat weight) x

/-- `dahae_raw`. -/
def dahaeRaw (breadth richness compression symmetry adoption : F) : F :=
  A.add (A.add (A.add (A.add (weighOver A (30 / 100) breadth) (weighOver A (25 / 100) richness))
    (weighOver A (20 / 100) compression)) (weighOver A (15 / 100) symmetry))
    (weighOver A (10 / 100) adoption)

/-- `laziness_raw`. -/
def lazinessRaw (emptyRatio normEntropy var : F) : F :=
  A.add (A.add (weighOver A (40 / 100) emptyRatio)
    (weighOver A (35 / 100) (A.sub (A.ofRat 1) normEntropy)))
    (weighOver A (25 / 100) (A.sub (A.ofRat 1) var))

/-- `compute_all`. -/
def computeAllOver (row : HarvestRow) : Except ScoreError (Computed F) := do
  let actions ← readData (bucketItems (row.actionsIndex.orElse (.dict [])))
  let triggers := row.triggersIndex.orElse (.dict [])
  let fullSchema := row.fullSchema.orElse (.dict [])
  let breadth ← breadthOver M A actions
  let richness ← richnessOver A actions
  let compression ← compressionOver M A actions
  let symmetry := symmetryOver A actions triggers
  let adoption ← adoptionOver A fullSchema
  let dahaeScore ← A.round
    (A.mul (dahaeRaw A breadth richness compression symmetry adoption) (A.ofRat 100))
  let emptyRatio ← emptyPropsRatioOver A actions
  let entropy ← nameEntropyOver M A (actions.map Prod.fst)
  let fifth ← A.div entropy (A.ofRat 5)
  let normEntropy := A.atMostOne fifth
  let var ← richnessVarianceOver A actions
  let lazinessScore ← if actions = [] then pure 50
    else A.round (A.mul (lazinessRaw A emptyRatio normEntropy var) (A.ofRat 100))
  let share ← A.div (A.ofRat lazinessScore) (A.ofRat 100)
  let effectiveDahae ← A.round (A.mul (A.ofRat dahaeScore) (A.sub (A.ofRat 1) share))
  let nTriggers ← readData triggers.len
  pure {
    breadth, richness, compression, symmetry, adoption, emptyRatio, entropy, normEntropy, var
    dahaeScore, lazinessScore, effectiveDahae, nTriggers
    nActions := actions.length }

end Scores

/-! ### Floats -/

section Floats

variable (M : ScoreMath)

/-- The arithmetic of a scoring run. -/
def ScoreMath.arithmetic : Arithmetic PyFloat where
  ofRat := M.ofRat
  add := M.add
  sub := M.sub
  mul := M.mul
  div x y := .ok (M.div x y)
  divInt n m := .ok (M.divInt n m)
  sum := M.sum
  neg := M.neg
  square := M.square
  sqrt x := .ok (M.sqrt x)
  log2 x := .ok (M.log2 x)
  log10Succ x := .ok (M.log10Succ x)
  isZero x := x = .finite 0
  atMostOne := atMostOne
  round x := readData (M.round x)

/-- What `compute_all` returns. -/
def Computed.scores (c : Computed PyFloat) : PieceScores where
  dahaeScore := c.dahaeScore
  lazinessScore := c.lazinessScore
  effectiveDahae := c.effectiveDahae
  breakdown := pyDict [
    ("breadth", .float (M.round3 c.breadth)), ("richness", .float (M.round3 c.richness)),
    ("compression", .float (M.round3 c.compression)), ("symmetry", .float c.symmetry),
    ("adoption", .float (M.round3 c.adoption)),
    ("empty_props_ratio", .float (M.round3 c.emptyRatio)),
    ("name_entropy", .float (M.round3 c.entropy)),
    ("richness_variance", .float (M.round3 c.var)),
    ("n_actions", .int c.nActions), ("n_triggers", .int c.nTriggers)]

variable {M} {actions : Bucket}

@[simp] theorem readData_ok {α : Type} (a : α) : readData (.ok a) = .ok a := rfl

theorem readData_bind {α β : Type} (x : Except PyError α) (f : α → Except PyError β) :
    readData (x >>= f) = readData x >>= fun a ↦ readData (f a) := by
  cases x <;> rfl

theorem bind_pure_eq_map {α β : Type} (l : List α) (f : α → β) :
    (l >>= fun a ↦ pure (f a)) = l.map f := List.flatMap_pure_eq_map f l

theorem breadthOver_floats :
    breadthOver M M.arithmetic actions = .ok (computeBreadth M actions) := by
  rw [breadthOver, computeBreadth]
  split
  · rfl
  · rfl

theorem richnessOver_floats :
    richnessOver M.arithmetic actions = readData (computeRichness M actions) := by
  rw [richnessOver, computeRichness, readData_bind]
  refine bind_congr fun counts ↦ ?_
  split
  · rfl
  · rfl

theorem compressionOver_floats :
    compressionOver M M.arithmetic actions = .ok (computeCompression M actions) := by
  rw [compressionOver, computeCompression]
  split
  · rfl
  · rfl

theorem adoptionOver_floats (fullSchema : PyValue) :
    adoptionOver M.arithmetic fullSchema = readData (computeAdoption M fullSchema) := by
  rw [adoptionOver, computeAdoption]
  rcases fullSchema.truthy with _ | _
  · rfl
  simp only [if_true]
  rw [readData_bind]
  refine bind_congr fun pu ↦ ?_
  split
  · rfl
  · rcases pu.number? with _ | x
    · rfl
    · show (if _ then _ else _) = readData (if _ then _ else _)
      split
      · rfl
      · rfl

theorem emptyPropsRatioOver_floats :
    emptyPropsRatioOver M.arithmetic actions = readData (computeEmptyPropsRatio M actions) := by
  rw [emptyPropsRatioOver, computeEmptyPropsRatio, readData_bind]
  refine bind_congr fun types ↦ ?_
  split
  · rfl
  · rfl

theorem nameEntropyOver_floats (names : List PyStr) :
    nameEntropyOver M M.arithmetic names = .ok (computeNameEntropy M names) := by
  rw [nameEntropyOver, computeNameEntropy]
  split
  · rfl
  · have hterm : ∀ c ∈ tokenCounts (names.flatMap (tokenize M)),
        entropyTerm M.arithmetic (names.flatMap (tokenize M)).length c =
          .ok (M.mul (M.divInt c (names.flatMap (tokenize M)).length)
            (M.log2 (M.divInt c (names.flatMap (tokenize M)).length))) := fun c _ ↦ rfl
    rw [mapM_eq_ok_map hterm, bind_pure_eq_map, List.map_map]
    rfl

theorem richnessVarianceOver_floats :
    richnessVarianceOver M.arithmetic actions = readData (computeRichnessVariance M actions) := by
  rw [richnessVarianceOver, computeRichnessVariance]
  split
  · rfl
  · rw [readData_bind]
    refine bind_congr fun counts ↦ ?_
    show (if M.arithmetic.isZero (M.divInt counts.sum counts.length) then _ else _) =
      readData (if M.divInt counts.sum counts.length = .finite 0 then _ else _)
    by_cases hm : M.divInt counts.sum counts.length = .finite 0
    · have hzero : M.arithmetic.isZero (M.divInt counts.sum counts.length) = true :=
        decide_eq_true hm
      rw [if_pos hm, if_pos hzero]
      rfl
    · have hzero : ¬ M.arithmetic.isZero (M.divInt counts.sum counts.length) = true := by
        simpa [ScoreMath.arithmetic] using hm
      rw [if_neg hm, if_neg hzero, bind_pure_eq_map, List.map_map]
      rfl

/-- **Over the floats** this is the scoring of a run. -/
theorem computeAll_eq (row : HarvestRow) : readData (computeAll M row) =
    (computeAllOver M M.arithmetic row).map (Computed.scores M) := by
  rw [computeAll, computeAllOver]
  rcases bucketItems (row.actionsIndex.orElse (.dict [])) with e | actions
  · rfl
  simp only [readData_ok, ok_bind, breadthOver_floats, richnessOver_floats, compressionOver_floats,
    adoptionOver_floats, emptyPropsRatioOver_floats, nameEntropyOver_floats,
    richnessVarianceOver_floats]
  rw [readData_bind, map_bind_except]
  refine bind_congr fun richness ↦ ?_
  rw [readData_bind, map_bind_except]
  refine bind_congr fun adoption ↦ ?_
  rw [readData_bind, map_bind_except]
  refine bind_congr fun dahaeScore ↦ ?_
  rw [readData_bind, map_bind_except]
  refine bind_congr fun emptyRatio ↦ ?_
  show readData (computeRichnessVariance M actions >>= _) =
    (readData (computeRichnessVariance M actions) >>= _).map _
  rw [readData_bind, map_bind_except]
  refine bind_congr fun var ↦ ?_
  split
  · show readData (M.round _ >>= _) = (readData (M.round _) >>= _).map _
    rw [readData_bind, map_bind_except]
    refine bind_congr fun effectiveDahae ↦ ?_
    rw [readData_bind, map_bind_except]
    exact bind_congr fun nTriggers ↦ rfl
  · rw [readData_bind, map_bind_except]
    refine bind_congr fun lazinessScore ↦ ?_
    show readData (M.round _ >>= _) = (readData (M.round _) >>= _).map _
    rw [readData_bind, map_bind_except]
    refine bind_congr fun effectiveDahae ↦ ?_
    rw [readData_bind, map_bind_except]
    exact bind_congr fun nTriggers ↦ rfl

end Floats

end Siyadah
