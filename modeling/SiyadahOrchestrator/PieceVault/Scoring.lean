import SiyadahOrchestrator.Build.Catalog
import SiyadahOrchestrator.Foundations.PyRegex
import SiyadahOrchestrator.PieceVault.PieceTable

/-!
# The scores of a piece

`compute_dahae_scores` computes, from the actions, the triggers and the schema of a row, how useful
a piece is and how lazy its author was. The computation is on floats; the arithmetic of floats is a
parameter.
-/

namespace Siyadah

open PyValue Regex

/-! ### Floats -/

/-- What a scoring run computes with. -/
structure ScoreMath where
  /-- A literal, or an integer as a float. -/
  ofRat : ℚ → PyFloat
  add : PyFloat → PyFloat → PyFloat
  sub : PyFloat → PyFloat → PyFloat
  mul : PyFloat → PyFloat → PyFloat
  div : PyFloat → PyFloat → PyFloat
  /-- `n / m` for integers. -/
  divInt : ℤ → ℤ → PyFloat
  /-- `sum` of a list of floats. -/
  sum : List PyFloat → PyFloat
  neg : PyFloat → PyFloat
  /-- `x ** 2`. -/
  square : PyFloat → PyFloat
  sqrt : PyFloat → PyFloat
  log2 : PyFloat → PyFloat
  /-- `math.log10(1 + x)`. -/
  log10Succ : PyFloat → PyFloat
  /-- `round(x)`, which raises for what is no number. -/
  round : PyFloat → Except PyError ℤ
  /-- `round(x, 3)`. -/
  round3 : PyFloat → PyFloat
  /-- `str.lower`. -/
  lower : PyStr → PyStr
  /-- The characters that `str.isalnum` accepts, beyond ASCII. -/
  isAlnum : ℕ → Bool

/-- `x < y`. -/
def floatLt : PyFloat → PyFloat → Bool
  | .finite p, .finite q => p < q
  | .infinity true, .finite _ => true
  | .finite _, .infinity false => true
  | .infinity true, .infinity false => true
  | _, _ => false

/-- `min(x, 1.0)`. -/
def atMostOne (x : PyFloat) : PyFloat := if floatLt (.finite 1) x then .finite 1 else x

/-! ### Names -/

/-- `KNOWN_VERBS`. -/
def knownVerbs : List PyStr :=
  ["create", "add", "new", "insert", "make", "read", "get", "fetch", "retrieve", "update", "patch",
    "edit", "modify", "set", "delete", "remove", "destroy", "find", "search", "lookup", "query",
    "list", "enumerate", "index", "send", "post", "publish", "share", "sync", "merge", "upsert",
    "enrich", "analyze", "classify", "extract", "generate", "summarize", "translate", "transcribe",
    "embed", "subscribe", "unsubscribe", "follow", "unfollow", "approve", "reject", "review",
    "submit", "export", "import", "upload", "download", "archive", "restore", "schedule", "trigger",
    "invoke", "run", "execute", "custom", "call"].map PyStr.ofString

/-- The words of `COMPOUND_PATTERN`, in its order. -/
def compoundWords : List String :=
  ["with", "or", "then", "after", "before", "bulk", "batch", "many", "multiple", "all", "each",
    "every", "upsert", "sync", "merge", "find_or_create", "create_or_update", "associate", "attach",
    "link", "connect"]

/-- `COMPOUND_PATTERN`. -/
def compoundPattern : Regex ℕ :=
  seq boundary <| seq ((compoundWords.map literalIgnoringCase).foldl alt
    (literalIgnoringCase "and")) boundary

section Scores

variable (M : ScoreMath)

/-- `tokenize`. -/
def tokenize (name : PyStr) : List PyStr :=
  ((M.lower (underscored name)).splitOn 95).filter (· ≠ [])

/-- `extract_verb`. -/
def extractVerb (name : PyStr) : Option PyStr := (tokenize M name).find? (· ∈ knownVerbs)

/-- `is_compound`. -/
def isCompound (name : PyStr) : Bool :=
  compoundPattern.search (isWordChar M.isAlnum) false (underscored name)

/-! ### Components -/

/-- The actions or triggers of a row, which the computation goes through. -/
abbrev Bucket := List (PyStr × PyValue)

/-- `compute_breadth`. -/
def computeBreadth (actions : Bucket) : PyFloat :=
  if actions = [] then M.ofRat 0
  else atMostOne (M.div (M.ofRat (actions.filterMap fun f ↦ extractVerb M f.1).dedup.length)
    (M.ofRat 8))

/-- `len((a or {}).get("required_props") or [])`. -/
def requiredCount (action : PyValue) : Except PyError ℤ := do
  let props ← (action.orElse (.dict [])).get "required_props"
  let n ← (props.orElse (.list [])).len
  pure n

/-- `compute_richness`. -/
def computeRichness (actions : Bucket) : Except PyError PyFloat := do
  let counts ← actions.mapM fun f ↦ requiredCount f.2
  if counts = [] then pure (M.ofRat 0)
  else pure (atMostOne (M.div (M.divInt counts.sum counts.length) (M.ofRat 6)))

/-- `compute_compression`. -/
def computeCompression (actions : Bucket) : PyFloat :=
  if actions = [] then M.ofRat 0
  else M.divInt (actions.countP fun f ↦ isCompound M f.1) actions.length

/-- `compute_symmetry`. -/
def computeSymmetry (actions : Bucket) (triggers : PyValue) : PyFloat :=
  if actions ≠ [] ∧ triggers.truthy then M.ofRat 1
  else if actions ≠ [] ∨ triggers.truthy then M.ofRat (1 / 2)
  else M.ofRat 0

/-- `compute_adoption`. -/
def computeAdoption (fullSchema : PyValue) : Except PyError PyFloat := do
  let pu ← if fullSchema.truthy then fullSchema.get "projectUsage" else pure .null
  if !pu.truthy then pure (M.ofRat 0)
  else match pu.number? with
    | none => throw .typeError
    | some x =>
      if floatLt x (.finite 0) || x = .finite 0 then pure (M.ofRat 0)
      else pure (atMostOne (M.div (M.log10Succ x) (M.ofRat 4)))

/-- `compute_empty_props_ratio`. -/
def computeEmptyPropsRatio (actions : Bucket) : Except PyError PyFloat := do
  let types ← actions.mapM fun f ↦ (f.2.orElse (.dict [])).get "prop_types"
  if actions = [] then pure (M.ofRat 0)
  else pure (M.divInt (types.countP fun v ↦ !v.truthy) actions.length)

/-- `collections.Counter(tokens).values()`. -/
def tokenCounts (tokens : List PyStr) : List ℕ :=
  tokens.reverse.dedup.reverse.map fun t ↦ tokens.count t

/-- `compute_name_entropy`. -/
def computeNameEntropy (names : List PyStr) : PyFloat :=
  let tokens := names.flatMap (tokenize M)
  if tokens = [] then M.ofRat 0
  else M.neg (M.sum ((tokenCounts tokens).map fun c ↦
    M.mul (M.divInt c tokens.length) (M.log2 (M.divInt c tokens.length))))

/-- `compute_richness_variance`. -/
def computeRichnessVariance (actions : Bucket) : Except PyError PyFloat := do
  if actions.length < 2 then pure (M.ofRat 0)
  else
    let counts ← actions.mapM fun f ↦ requiredCount f.2
    let m := M.divInt counts.sum counts.length
    if m = .finite 0 then pure (M.ofRat 0)
    else
      let squares := counts.map fun c ↦ M.square (M.sub (M.ofRat c) m)
      let var := M.div (M.sum squares) (M.ofRat counts.length)
      pure (atMostOne (M.div (M.sqrt var) m))

/-- The items of what the computation takes for a dictionary. -/
def bucketItems : PyValue → Except PyError Bucket
  | .dict fields => .ok fields
  | .str _ => .error .attributeError
  | .list _ => .error .attributeError
  | _ => .error .typeError

/-- `compute_all`. -/
def computeAll (row : HarvestRow) : Except PyError PieceScores := do
  let actions ← bucketItems (row.actionsIndex.orElse (.dict []))
  let triggers := row.triggersIndex.orElse (.dict [])
  let fullSchema := row.fullSchema.orElse (.dict [])
  let breadth := computeBreadth M actions
  let richness ← computeRichness M actions
  let compression := computeCompression M actions
  let symmetry := computeSymmetry M actions triggers
  let adoption ← computeAdoption M fullSchema
  let weigh (weight : ℚ) (x : PyFloat) := M.mul (M.ofRat weight) x
  let dahaeRaw := M.add (M.add (M.add (M.add (weigh (30 / 100) breadth)
    (weigh (25 / 100) richness)) (weigh (20 / 100) compression)) (weigh (15 / 100) symmetry))
    (weigh (10 / 100) adoption)
  let dahaeScore ← M.round (M.mul dahaeRaw (M.ofRat 100))
  let emptyRatio ← computeEmptyPropsRatio M actions
  let entropy := computeNameEntropy M (actions.map Prod.fst)
  let normEntropy := atMostOne (M.div entropy (M.ofRat 5))
  let var ← computeRichnessVariance M actions
  let lazinessRaw := M.add (M.add (weigh (40 / 100) emptyRatio)
    (weigh (35 / 100) (M.sub (M.ofRat 1) normEntropy))) (weigh (25 / 100) (M.sub (M.ofRat 1) var))
  let lazinessScore ← if actions = [] then pure 50 else M.round (M.mul lazinessRaw (M.ofRat 100))
  let effectiveDahae ← M.round (M.mul (M.ofRat dahaeScore)
    (M.sub (M.ofRat 1) (M.div (M.ofRat lazinessScore) (M.ofRat 100))))
  let nTriggers ← triggers.len
  pure {
    dahaeScore, lazinessScore, effectiveDahae
    breakdown := pyDict [
      ("breadth", .float (M.round3 breadth)), ("richness", .float (M.round3 richness)),
      ("compression", .float (M.round3 compression)), ("symmetry", .float symmetry),
      ("adoption", .float (M.round3 adoption)),
      ("empty_props_ratio", .float (M.round3 emptyRatio)),
      ("name_entropy", .float (M.round3 entropy)),
      ("richness_variance", .float (M.round3 var)),
      ("n_actions", .int actions.length), ("n_triggers", .int nTriggers)] }

end Scores

end Siyadah
