import SiyadahOrchestrator.Flows.GoldenBuild

/-!
# Pieces and their schemas

The builders look pieces up in ActivePieces: by name, by a handful of similar names, and in the list
of all pieces (`autoResolvePiece`). A schema decides the version of a step and how its input is
rewritten (`generatePropertySettings`).

The answers come from a cache or from ActivePieces, and nothing is assumed about them: two fetches
of one name may be answered differently, or fail. A failed fetch yields the empty schema.
-/

namespace Siyadah

open Dialogue PyValue

/-! ### The standard library -/

/-- `c.lower()` for an ASCII character. -/
def lowerAscii (c : ℕ) : ℕ := if 65 ≤ c ∧ c ≤ 90 then c + 32 else c

/-- The decimal digits of a number. -/
def digits (n : ℕ) : PyStr := text (toString n)

/-- What the builders compute with the standard library. -/
structure PyRuntime extends PyText where
  lower : PyStr → PyStr
  /-- On ASCII strings, `lower` changes the capital letters only. -/
  lower_ascii : ∀ s : PyStr, (∀ c ∈ s, c < 128) → lower s = s.map lowerAscii
  /-- `json.loads`; `none` where it raises. -/
  loads : PyStr → Option PyValue
  /-- `int`; `none` where it raises. -/
  toInt : PyValue → Option ℤ
  /-- `int` reads a number that `str` has written. -/
  toInt_digits : ∀ n : ℕ, toInt (.str (digits n)) = some n
  /-- `float`; `none` where it raises. -/
  toFloat : PyValue → Option PyFloat
  /-- `f"{type(ex).__name__}: {ex}"`. -/
  describe : EngineError → PyStr
  /-- `str(ex)`. -/
  message : EngineError → PyStr

/-- The number that a string of ASCII digits denotes. -/
def readDigits (s : PyStr) : Option ℤ :=
  if s ≠ [] ∧ ∀ c ∈ s, 48 ≤ c ∧ c ≤ 57 then some (s.foldl (fun n c ↦ 10 * n + (c - 48)) 0 : ℕ)
  else none

theorem readDigits_digits (n : ℕ) : readDigits (digits n) = some n := by
  have hlist : digits n = (Nat.toDigits 10 n).map Char.toNat := by
    show (toString n).toList.map Char.toNat = _
    rw [Nat.toString_eq_ofList_toDigits, String.toList_ofList]
  have hdigit : ∀ c ∈ digits n, 48 ≤ c ∧ c ≤ 57 := by
    intro c hc
    obtain ⟨d, hd, rfl⟩ := List.mem_map.1 (hlist ▸ hc)
    have hdig := Nat.isDigit_of_mem_toDigits (by decide) (by decide) hd
    rw [Char.isDigit, Bool.and_eq_true, decide_eq_true_eq, decide_eq_true_eq] at hdig
    exact ⟨UInt32.le_iff_toNat_le.1 hdig.1, UInt32.le_iff_toNat_le.1 hdig.2⟩
  have hne : digits n ≠ [] := by
    rw [hlist]
    simp
  rw [readDigits, if_pos ⟨hne, hdigit⟩, hlist, List.foldl_map]
  have hvalue := Nat.ofDigitChars_ten_toDigits (n := n)
  rw [Nat.ofDigitChars_eq_foldl] at hvalue
  exact congrArg (fun k : ℕ ↦ some (k : ℤ)) hvalue

theorem digits_injective : Function.Injective digits := by
  intro m n h
  have hread := readDigits_digits m
  rw [h, readDigits_digits n] at hread
  exact (Int.ofNat.inj (Option.some.inj hread)).symm

/-- A standard library that is right for ASCII strings that are no numbers with a sign, a point or
blanks, and no JSON. -/
def plainRuntime : PyRuntime where
  toPyText := plainText
  lower := List.map lowerAscii
  lower_ascii := fun _ _ ↦ rfl
  loads := fun _ ↦ none
  toInt := fun v ↦
    match v with
    | .str s => readDigits s
    | .int n => some n
    | .bool b => some (if b then 1 else 0)
    | _ => none
  toInt_digits := readDigits_digits
  toFloat := fun _ ↦ none
  describe := fun _ ↦ text "ValueError"
  message := fun _ ↦ []

/-- The items of a dictionary. -/
abbrev Fields := List (PyStr × PyValue)

/-- The code point that marks a key which is no string; no string holds it. -/
def keyMark : ℕ := 0x110000

/-- A key of a dictionary. What is no string but can be a key is written behind the mark; numbers
that are equal are the same key. -/
def dictKey (v : PyValue) : Except PyError PyStr :=
  match v, v.number? with
  | .str s, _ => .ok s
  | .null, _ => .ok [keyMark]
  | _, some (.finite q) => .ok [keyMark, if q < 0 then 1 else 0, q.num.natAbs, q.den]
  | _, some (.infinity negative) => .ok [keyMark, if negative then 3 else 2]
  | _, some .nan => .ok [keyMark, 4]
  | _, none => .error .typeError

/-- The key is a string. -/
def isTextKey (key : PyStr) : Bool := !key.contains [keyMark]

/-- A pair that `dict()` accepts as an item. -/
def toItem : PyValue → Except PyError (PyStr × PyValue)
  | .list [k, v] => (dictKey k).map fun key ↦ (key, v)
  | .str [a, b] => .ok ([a], .str [b])
  | .dict [f, g] => .ok (f.1, .str g.1)
  | .list _ => .error .valueError
  | .str _ => .error .valueError
  | .dict _ => .error .valueError
  | _ => .error .typeError

/-- `dict(v)`. -/
def toDict : PyValue → Except PyError Fields
  | .dict fields => .ok fields
  | .list items => items.foldlM (fun d v ↦ (toItem v).map fun f ↦ upsert d f.1 f.2) []
  | .str [] => .ok []
  | .str _ => .error .valueError
  | _ => .error .typeError

/-- `v.strip()`. -/
def stripped : PyValue → Except PyError PyStr
  | .str s => .ok s.strip
  | _ => .error .attributeError

/-! ### Names -/

/-- `piece.replace("@activepieces/piece-", "")`. -/
def shortName (piece : PyStr) : PyStr := PyStr.removeAll piecePrefix 0 piece

/-- The full name: a name with an `@` is one. -/
def fullName (piece : PyStr) : PyStr :=
  if (text "@").isPrefixOf piece then piece else piecePrefix ++ piece

/-- `s.replace("_", "-")`. -/
def dashed (s : PyStr) : PyStr := s.map fun c ↦ if c = 95 then 45 else c

/-- `s.replace("-", "_")`. -/
def underscored (s : PyStr) : PyStr := s.map fun c ↦ if c = 45 then 95 else c

/-- `C`: the reference to a connection. -/
def connectionRef (extId : PyStr) : PyStr :=
  text "\x7b\x7bconnections['" ++ extId ++ text "']\x7d\x7d"

/-- `C`, which concatenates and so takes a string only. -/
def connectionRefOf : PyValue → Except PyError PyValue
  | .str s => .ok (.str (connectionRef s))
  | _ => .error .typeError

/-- `PIECE_VERSIONS`. -/
def pieceVersions : List (PyStr × PyStr) :=
  [(text "webhook", text "~0.1.32"), (text "gmail", text "~0.12.1"),
    (text "google-sheets", text "~0.14.6"), (text "google-drive", text "~0.7.1"),
    (text "schedule", text "~0.1.0"), (text "slack", text "~0.7.7"),
    (text "hubspot", text "~0.8.4")]

/-- `PIECE_VERSIONS.get(short, "~0.1.0")`. -/
def fallbackVersion (short : PyStr) : PyStr := (pieceVersions.lookup short).getD (text "~0.1.0")

/-- `_BOOLEAN_FIELD_NAMES`. -/
def booleanFieldNames : List PyStr :=
  [text "draft", text "public", text "active", text "is_draft", text "is_public", text "is_active",
    text "enabled", text "published"]

/-! ### Requests -/

/-- A lookup in ActivePieces. -/
inductive CatalogQuery where
  /-- The schema of a piece. -/
  | schema (piece : PyStr)
  /-- The list of all pieces. -/
  | pieces
  /-- The connections of the project. -/
  | connections
deriving DecidableEq

/-- What the builders share while a flow is built: the number of the next step, and the reports on
the steps so far. -/
structure BuilderState where
  counter : ℕ
  stepsInfo : List PyValue

/-- A program that looks pieces up. -/
abbrev BuilderM (α : Type) := Dialogue CatalogQuery (Except EngineError PyValue) BuilderState
  EngineError α

/-- A computation on values, among lookups. -/
def evalPy {α : Type} (x : Except PyError α) : BuilderM α := .lift (x.mapError .py)

/-- `fetch_piece_schema`. What is not a dictionary raises inside the function, and both attempts are
given up. -/
def fetchPieceSchema (piece : PyStr) : BuilderM PyValue := do
  match ← ask (.schema piece) with
  | .ok data => pure (if data.truthy && !data.isDict then .dict [] else data)
  | .error _ => pure (.dict [])

/-- `raw if isinstance(raw, list) else raw.get("data", [])`. -/
def listOrData (raw : PyValue) : Except PyError PyValue :=
  match raw with
  | .list _ => .ok raw
  | _ => raw.getD "data" (.list [])

/-- `_get_raw_pieces_list`, as it is iterated over. -/
def getRawPiecesList : BuilderM (List PyValue) := do
  match ← ask .pieces with
  | .error e => raise e
  | .ok raw =>
    let pieces ← evalPy (listOrData raw)
    let items ← evalPy pieces.items
    pure (items.map Subtype.val)

/-- `if schema and schema.get("actions")`. -/
def hasActions (schema : PyValue) : Except PyError Bool :=
  if schema.truthy then (schema.get "actions").map truthy else .ok false

section Runtime

variable (R : PyRuntime)

/-- `_piece_candidates`. -/
def pieceCandidates (name : PyStr) : List PyStr :=
  let clean := shortName (PyStr.strip (R.lower name))
  let suffixes := [text "-business", text "-cloud", text "-online", text "-api", text "-v2"]
  ([clean] ++ (suffixes.filter (·.isSuffixOf clean)).map (fun suffix ↦
    clean.take (clean.length - suffix.length)) ++ [dashed clean, underscored clean]).eraseDups

/-- What a search has found, and the schema that was fetched last. -/
abbrev Found := Option (PyStr × PyValue) × PyValue

/-- The first name whose schema has actions. -/
def tryCandidates : List PyStr → PyValue → BuilderM Found
  | [], last => pure (none, last)
  | c :: cs, _ => do
    let schema ← fetchPieceSchema c
    if ← evalPy (hasActions schema) then pure (some (c, schema), schema)
    else tryCandidates cs schema

/-- The short name of a listed piece, in lower case. -/
def listedName (p : PyValue) : Except PyError PyStr := do
  match ← p.getD "name" (py "") with
  | .str s => pure (R.lower (shortName s))
  | _ => .error .attributeError

/-- The first listed piece that matches the query and whose schema has actions. -/
def tryListed (query : PyStr) : List PyValue → PyValue → BuilderM Found
  | [], last => pure (none, last)
  | p :: ps, last => do
    let short ← evalPy (listedName R p)
    if short.contains query || query.isPrefixOf short then
      let schema ← fetchPieceSchema short
      if ← evalPy (hasActions schema) then pure (some (short, schema), schema)
      else tryListed query ps schema
    else tryListed query ps last

/-- `auto_resolve_piece`. -/
def autoResolvePiece (name : PyStr) : BuilderM (PyStr × PyValue) := do
  let schema ← fetchPieceSchema name
  if ← evalPy (hasActions schema) then pure (name, schema)
  else
    let found ← tryCandidates ((pieceCandidates R name).filter (· ≠ name)) schema
    match found.1 with
    | some resolved => pure resolved
    | none =>
      let pieces ← getRawPiecesList
      let listed ← tryListed R (shortName (R.lower name)) pieces found.2
      match listed.1 with
      | some resolved => pure resolved
      | none => pure (name, listed.2.orElse (.dict []))

/-! ### Input -/

/-- The value is dropped from the input. -/
def isDropped : PyValue → Bool
  | .null => true
  | .list [.str []] => true
  | .str [] => true
  | _ => false

/-- `clean_input_config`. -/
def cleanInputConfig (input : Fields) : Fields := input.filter fun f ↦ !isDropped f.2

/-- `get_action_props`. -/
def getActionProps (schema : PyValue) (actionName : PyValue) : Except PyError PyValue := do
  let actions ← schema.getD "actions" (.dict [])
  let action ← match actions, actionName with
    | .dict fields, .str name => pure ((fields.lookup name).getD (.dict []))
    | .dict _, .list _ => .error .typeError
    | .dict _, .dict _ => .error .typeError
    | .dict _, _ => pure (.dict [])
    | _, _ => .error .attributeError
  let props ← action.getD "props" (.dict [])
  if props.truthy then pure props else action.getD "properties" (.dict [])

/-- The type casts of `generate_property_settings`. -/
def castProperty (ptype val : PyValue) : PyValue :=
  if ptype.isStr (text "BOOLEAN") then
    .bool (match val with
      | .null => false
      | .str s => R.lower s ∈ [text "true", text "1", text "yes"]
      | v => v.truthy)
  else if ptype.isStr (text "ARRAY") then
    match val with
    | .null => val
    | .list _ => val
    | v => .list [v]
  else if ptype.isStr (text "JSON") then
    match val with
    | .str s => (R.loads s).getD val
    | v => v
  else if ptype.isStr (text "NUMBER") then
    match val with
    | .null => val
    | .bool _ => val
    | .int _ => val
    | .float _ => val
    | v =>
      if (R.str v).contains (text ".") then (R.toFloat v).elim val .float
      else (R.toInt v).elim val .int
  else val

/-- The value can be an element of a set. -/
def isHashable : PyValue → Bool
  | .list _ => false
  | .dict _ => false
  | _ => true

/-- The settings of a static dropdown; `none` where an exception leaves it out. -/
def staticDropdown (pinfo val : PyValue) : Option PyValue := do
  let opts := if pinfo.isDict then (pinfo.getD "options" (.list [])).toOption.getD (.list [])
    else .list []
  let valid ← if opts.truthy then do
      let items ← opts.items.toOption
      items.mapM fun o ↦ do
        let v := if o.1.isDict then (o.1.get "value").toOption.getD .null else o.1
        if isHashable v then some v else none
    else some []
  let marked := pyDict [("type", py "STATIC_DROPDOWN"), ("status", py "CUSTOM_INPUT")]
  let plain := pyDict [("type", py "STATIC_DROPDOWN")]
  if valid.isEmpty then some plain
  else if !isHashable val then none
  else if valid.any val.eq then some plain
  else some marked

/-- One property in the loop of `generate_property_settings`: the settings, and the input, which it
rewrites. -/
def propertySetting (acc : Fields × Fields) (prop : PyStr × PyValue) : Fields × Fields :=
  if prop.1 = text "auth" then acc
  else
    match acc.2.lookup prop.1 with
    | none => acc
    | some val =>
      let custom := fun ptype : PyValue ↦
        pyDict [("type", ptype), ("status", py "CUSTOM_INPUT")]
      if containsHandlebars val then (upsert acc.1 prop.1 (custom (py "SHORT_TEXT")), acc.2)
      else
        let ptype := match prop.2 with
          | .dict _ => (prop.2.getD "type" (py "")).toOption.getD (py "")
          | v => .str (R.str v)
        let val := castProperty R ptype val
        let input := upsert acc.2 prop.1 val
        let setting : Option PyValue :=
          if ptype.isStr (text "DYNAMIC") || ptype.isStr (text "DROPDOWN") ||
              ptype.isStr (text "MULTI_SELECT_DROPDOWN") then some (custom ptype)
          else if ptype.isStr (text "STATIC_DROPDOWN") then staticDropdown prop.2 val
          else none
        (setting.elim acc.1 (upsert acc.1 prop.1), input)

/-- What no property has registered. -/
def manualSettings (settings input : Fields) : Fields :=
  input.foldl (fun settings f ↦
    if f.1 = text "auth" ∨ f.1 ∈ settings.map Prod.fst then settings
    else settings ++ [(f.1, pyDict [("type", py "MANUAL")])]) settings

/-- `generate_property_settings`: the settings, and the input as it leaves it. -/
def generatePropertySettings (props : PyValue) (input : Fields) :
    Except PyError (Fields × Fields) :=
  if !props.truthy then .ok ([], input)
  else
    match props with
    | .dict ps =>
      let acc := ps.foldl (propertySetting R) ([], input)
      .ok (manualSettings acc.1 acc.2, acc.2)
    | _ => .error .attributeError

/-- `resolve_piece_version`. -/
def resolvePieceVersion (schema : PyValue) (pieceName : PyStr) : Except PyError PyStr := do
  let version ← if schema.truthy then schema.get "version" else pure .null
  if version.truthy then pure (text "~" ++ R.str version)
  else pure (fallbackVersion (shortName pieceName))

end Runtime

/-! ### Lookups and the state -/

section Runs

variable {R : PyRuntime} {α β : Type} {s t : BuilderState}
  {l : List (CatalogQuery × Except EngineError PyValue)}

theorem runs_evalPy_ok_iff {x : Except PyError α} {b : α} :
    (evalPy x).Runs s l (.ok b) t ↔ l = [] ∧ x = .ok b ∧ t = s := by
  refine runs_lift_iff.trans (and_congr_right fun _ ↦ and_congr_left fun _ ↦ ?_)
  exact eq_comm.trans mapError_eq_ok_iff

theorem runs_evalPy_bind_ok_iff {x : Except PyError α} {f : α → BuilderM β} {b : β} :
    (evalPy x >>= f).Runs s l (.ok b) t ↔ ∃ a, x = .ok a ∧ (f a).Runs s l (.ok b) t := by
  refine runs_lift_bind_iff.trans ?_
  cases x with
  | ok a =>
    constructor
    · rintro (⟨a', ha, h⟩ | ⟨e, he, -⟩)
      · exact ⟨a', Except.ok.inj ha ▸ rfl, h⟩
      · exact absurd he (by simp [Except.mapError])
    · rintro ⟨a', ha, h⟩
      exact .inl ⟨a', congrArg Except.ok (Except.ok.inj ha), h⟩
  | error e =>
    refine iff_of_false ?_ fun ⟨_, h, _⟩ ↦ absurd h (by simp)
    rintro (⟨a', ha, -⟩ | ⟨e', -, -, h, -⟩)
    · exact absurd ha (by simp [Except.mapError])
    · exact absurd h (by simp)

theorem stateless_evalPy (x : Except PyError α) : Stateless (evalPy x) := stateless_lift _

theorem stateless_fetchPieceSchema (piece : PyStr) : Stateless (fetchPieceSchema piece) := by
  refine .ask_bind fun r ↦ ?_
  cases r with
  | ok data => exact stateless_pure _
  | error e => exact stateless_pure _

theorem stateless_getRawPiecesList : Stateless getRawPiecesList := by
  refine .ask_bind fun r ↦ ?_
  cases r with
  | error e => exact stateless_raise e
  | ok raw =>
    exact .bind (stateless_evalPy _) fun _ ↦ .bind (stateless_evalPy _) fun _ ↦
      stateless_pure _

theorem stateless_tryCandidates (names : List PyStr) (last : PyValue) :
    Stateless (tryCandidates names last) := by
  induction names generalizing last with
  | nil => exact stateless_pure _
  | cons c cs ih =>
    refine .bind (stateless_fetchPieceSchema c) fun schema ↦ .bind (stateless_evalPy _)
      fun found ↦ ?_
    cases found with
    | true => exact stateless_pure _
    | false => exact ih schema

theorem stateless_tryListed (query : PyStr) (pieces : List PyValue) (last : PyValue) :
    Stateless (tryListed R query pieces last) := by
  induction pieces generalizing last with
  | nil => exact stateless_pure _
  | cons p ps ih =>
    refine .bind (stateless_evalPy _) fun short ↦ ?_
    split
    · refine .bind (stateless_fetchPieceSchema short) fun schema ↦ .bind (stateless_evalPy _)
        fun found ↦ ?_
      cases found with
      | true => exact stateless_pure _
      | false => exact ih schema
    · exact ih last

theorem stateless_autoResolvePiece (name : PyStr) : Stateless (autoResolvePiece R name) := by
  refine .bind (stateless_fetchPieceSchema name) fun schema ↦ .bind (stateless_evalPy _)
    fun loaded ↦ ?_
  cases loaded with
  | true => exact stateless_pure _
  | false =>
    refine .bind (stateless_tryCandidates _ _) fun found ↦ ?_
    rcases found with ⟨_ | resolved, last⟩
    · refine .bind stateless_getRawPiecesList fun pieces ↦ .bind (stateless_tryListed _ _ _)
        fun listed ↦ ?_
      rcases listed with ⟨_ | resolved, last'⟩
      · exact stateless_pure _
      · exact stateless_pure _
    · exact stateless_pure _

/-- A name whose schema has actions resolves to itself. -/
theorem runs_autoResolvePiece {name : PyStr} {schema : PyValue} (hdict : schema.isDict = true)
    (hactions : hasActions schema = .ok true) :
    (autoResolvePiece R name).Runs s [(.schema name, .ok schema)] (.ok (name, schema)) s := by
  have hfetch : (fetchPieceSchema name).Runs s [(.schema name, .ok schema)] (.ok schema) s := by
    refine ⟨_, _, rfl, runs_pure_iff.2 ⟨rfl, ?_, rfl⟩⟩
    rw [hdict, Bool.not_true, Bool.and_false]
    rfl
  refine runs_bind_ok_iff.2 ⟨_, [], schema, s, rfl, hfetch, ?_⟩
  exact runs_evalPy_bind_ok_iff.2 ⟨true, hactions, runs_pure_iff.2 ⟨rfl, rfl, rfl⟩⟩

end Runs

end Siyadah
