import Mathlib.Tactic.FinCases
import SiyadahOrchestrator.Build.ComplexBuild
import SiyadahOrchestrator.Build.McpBuild
import SiyadahOrchestrator.Build.SideBySide

/-!
# Updating a flow

`v2_reimport` gives an existing flow a new structure; over MCP, `update_flow` does. Both take a
trigger and a list of actions, resolve nothing themselves and leave the rest to the builder. Over
MCP each action becomes a step with a piece, whatever its type is, and no version is passed on; over
REST other actions go into the chain as they are, and a step gets the version of the action, or the
one of a table.

So the two import the same tree exactly when each action uses a piece and its version is the one
that the catalogue has (`sameTree_imports_iff`), and the versions of the trigger agree.
-/

namespace Siyadah

open Dialogue PyValue

/-- `ReimportBody`, and the parameters of `update_flow`, where no template is used. -/
structure ReimportBody where
  connectionIds : Option (List (PyStr × PyStr))
  displayName : Option PyStr
  trigger : Fields
  actions : List Fields

/-! ### Actions and trigger -/

section Specs

variable (cn : Fields) (a : PyValue)

/-- The piece of an action, and its input with the connection. -/
def connectedAction : Except PyError (PyStr × Fields) := do
  let piece ← a.getD "piece" (py "")
  let name ← pieceText piece
  let raw ← a.getD "input" (.dict [])
  let fields ← toDict raw
  let connId ← ownConnection cn a (shortName name)
  let input ← keepOwnAuth connId (cleanInputConfig fields)
  pure (name, input)

/-- `a.get("version", PIECE_VERSIONS.get(short, "~0.1.0"))`. -/
def pinnedVersion (name : PyStr) : PyValue :=
  (a.entry "version").getD (.str (fallbackVersion (shortName name)))

/-- What `v2_reimport` gives the builder for an action. -/
def reimportSpec : Except PyError PyValue := do
  let stype ← a.getD "type" (py "PIECE")
  if stype.isStr (text "PIECE") then
    let connected ← connectedAction cn a
    let actionName ← a.getD "action_name" (py "")
    let display ← a.getD "display_name" (py "Action")
    pure (pyDict [("type", py "PIECE"), ("piece", .str connected.1), ("action_name", actionName),
      ("version", pinnedVersion a connected.1), ("input", .dict connected.2),
      ("display_name", display)])
  else pure a

/-- What `update_flow` gives the builder for an action. -/
def updateSpec : Except PyError PyValue := do
  let connected ← connectedAction cn a
  let actionName ← a.getD "action_name" (py "")
  let display ← a.getD "display_name" (py "Action")
  pure (pyDict [("type", py "PIECE"), ("piece", .str connected.1), ("action_name", actionName),
    ("input", .dict connected.2), ("display_name", display)])

end Specs

/-- The trigger, for the version that its piece has by default. -/
def importedTrigger (defaultVersion : PyStr → PyStr) (display t first : PyValue) :
    Except PyError PyValue := do
  let piece ← t.getD "piece" (py "@activepieces/piece-webhook")
  let name ← pieceText piece
  let version ← t.getD "version" (.str (defaultVersion name))
  let triggerName ← t.getD "trigger_name" (py "catch_webhook")
  let input ← t.getD "input" (pyDict [("authType", py "none")])
  pure (buildTrigger (fullName name) version triggerName input display first)

/-! ### The two imports -/

section Imports

variable (env : BuilderEnv)

/-- The connections by their pieces: those of the request over the default ones. -/
def ReimportBody.connections (body : ReimportBody) : List (PyStr × PyStr) :=
  resolveConns env (body.connectionIds.getD [])

/-- The same, as values. -/
def ReimportBody.connectionFields (body : ReimportBody) : Fields :=
  (body.connections env).map fun c ↦ (c.1, .str c.2)

/-- The guard of `v2_reimport`. -/
def guardReimport (pid : PyStr) (body : ReimportBody) : BuilderM Unit := do
  if body.actions.isEmpty then pure ()
  else
    let required ← evalPy (extractPiecesFromSteps (.list (body.actions.map .dict)))
    if required.isEmpty then pure ()
    else
      let _ ← guardConnections env.runtime pid required (body.connections env) true
      pure ()

/-- The tree of a request, for what each action gives the builder and for how the trigger is
built. -/
def importTree (body : ReimportBody) (refused : EngineError)
    (spec : Fields → PyValue → Except PyError PyValue)
    (trigger : PyValue → PyValue → Except PyError PyValue) : BuilderM PyValue := do
  if body.trigger.isEmpty then raise refused
  else
    let specs ← evalPy (body.actions.mapM fun a ↦ spec (body.connectionFields env) (.dict a))
    setState { counter := 1, stepsInfo := [] }
    let first ← buildActionChain env (.list specs)
    evalPy (trigger (.dict body.trigger) first)

/-- `v2_reimport`, up to the tree that it imports. -/
def v2ReimportTree (pid : PyStr) (body : ReimportBody) : BuilderM PyValue := do
  let _ ← guardReimport env pid body
  importTree env body
    (badRequest [.lit "Provide 'template' or both 'trigger' and 'actions'"]) reimportSpec
    (importedTrigger (fun name ↦ fallbackVersion (shortName name))
      (.str (((body.displayName.filter (· ≠ [])).getD (text "Updated")) ++ text " — Trigger")))

/-- `update_flow`, up to the tree that it imports. -/
def mcpUpdateFlowTree (body : ReimportBody) : BuilderM PyValue :=
  importTree env body (badRequest [.lit "Provide template or trigger+actions"]) updateSpec
    (importedTrigger (fun _ ↦ text "~0.1.0") (py "Trigger"))

end Imports

/-! ### Versions -/

section Versions

variable (env : BuilderEnv) (answer : CatalogQuery → Except EngineError PyValue)

/-- The version of a piece that is built without one. -/
def defaultVersion (resolved : PyStr × PyValue) : Except PyError PyValue := do
  if ← hasActions resolved.2 then
    (resolvePieceVersion env.runtime resolved.2 resolved.1).map .str
  else pure (.str (fallbackVersion (shortName resolved.1)))

/-- The version that the catalogue has for a piece. -/
def catalogVersion (name : PyStr) : Except EngineError PyValue := do
  let resolved ← (autoResolvePiece env.runtime name).against answer ⟨1, []⟩
  fromPy (defaultVersion env resolved)

/-- The action uses a piece, and the version that it is given, if any, is the one that the
catalogue has. -/
structure ActionAgrees (a : PyValue) : Prop where
  piece : (stepType a).isStr (text "PIECE") = true
  version : ∀ name, (a.entry "piece").getD (py "") = .str name →
    (pinnedVersion a name).truthy = true →
    catalogVersion env answer name.strip = .ok (pinnedVersion a name)

/-- The versions of the trigger agree. -/
def TriggerAgrees (t : PyValue) : Prop :=
  ∀ name, (t.entry "piece").getD (py "@activepieces/piece-webhook") = .str name →
    (t.entry "version").getD (.str (fallbackVersion (shortName name))) =
      (t.entry "version").getD (py "~0.1.0")

variable {env answer} {spec spec' schema : PyValue} {resolved : PyStr}
  {input : Fields} {settings settings' : PieceSettings}

/-- The version of a step: the one that it gives, or the default one. -/
theorem version_of_pieceSettings (h : pieceSettings env spec schema resolved = .ok settings) :
    if (spec.entryD "version").truthy then settings.version = spec.entryD "version"
    else defaultVersion env (resolved, schema) = .ok settings.version := by
  obtain ⟨config, -, h⟩ := bind_eq_ok_iff.1 h
  obtain ⟨raw, -, h⟩ := bind_eq_ok_iff.1 h
  obtain ⟨fields, -, h⟩ := bind_eq_ok_iff.1 h
  obtain ⟨input, -, h⟩ := bind_eq_ok_iff.1 h
  obtain ⟨loaded, hloaded, h⟩ := bind_eq_ok_iff.1 h
  rw [defaultVersion, fromPy_eq_ok_iff.1 hloaded]
  cases loaded with
  | true =>
    obtain ⟨explicit, hexplicit, h⟩ := bind_eq_ok_iff.1 h
    obtain ⟨-, rfl⟩ := getD_eq_ok_iff.1 (fromPy_eq_ok_iff.1 hexplicit)
    obtain ⟨version, hversion, h⟩ := bind_eq_ok_iff.1 h
    have hsettings : settings.version = version := by
      obtain ⟨actionName, -, h⟩ := bind_eq_ok_iff.1 h
      obtain ⟨found, -, h⟩ := bind_eq_ok_iff.1 h
      obtain ⟨props, -, h⟩ := bind_eq_ok_iff.1 h
      obtain ⟨guarded, -, h⟩ := bind_eq_ok_iff.1 h
      obtain ⟨generated, -, h⟩ := bind_eq_ok_iff.1 h
      split at h
      · obtain ⟨extra, -, h⟩ := bind_eq_ok_iff.1 h
        rw [← Except.ok.inj h]
      · exact absurd h (by simp)
    replace hversion : versionOr env (spec.entryD "version") schema resolved = .ok version :=
      fromPy_eq_ok_iff.1 hversion
    rw [hsettings]
    rw [versionOr] at hversion
    split at hversion
    · rename_i htruthy
      rw [if_pos htruthy]
      exact (Except.ok.inj hversion).symm
    · rename_i hfalsy
      rw [if_neg hfalsy]
      exact hversion
  | false =>
    obtain ⟨explicit, hexplicit, h⟩ := bind_eq_ok_iff.1 h
    obtain ⟨-, rfl⟩ := getD_eq_ok_iff.1 (fromPy_eq_ok_iff.1 hexplicit)
    obtain ⟨action, -, h⟩ := bind_eq_ok_iff.1 h
    obtain ⟨extra, -, h⟩ := bind_eq_ok_iff.1 h
    obtain ⟨-, -, h⟩ := bind_eq_ok_iff.1 h
    rw [← Except.ok.inj h]
    by_cases htruthy : (spec.entryD "version").truthy = true
    · rw [if_pos htruthy]
      exact if_pos htruthy
    · rw [if_neg htruthy]
      exact congrArg Except.ok (if_neg htruthy).symm

/-- The entries of a specification that the settings depend on, but for the version. -/
def settingsKeys : List String :=
  ["input", "input_config", "connection_id", "action_name", "property_settings"]

/-- Specifications that agree but for the version get settings that do. -/
theorem settings_eq_of_entries (hdict : spec.isDict = true) (hdict' : spec'.isDict = true)
    (hentry : ∀ key ∈ settingsKeys, spec.entry key = spec'.entry key)
    (h : pieceSettings env spec schema resolved = .ok settings)
    (h' : pieceSettings env spec' schema resolved = .ok settings')
    (hversion : settings.version = settings'.version) : settings = settings' := by
  simp only [settingsKeys, List.forall_mem_cons] at hentry
  obtain ⟨hinput, hconfig, hconnection, haction, hproperty, -⟩ := hentry
  simp only [pieceSettings, withAuth, settingsFromSchema, settingsWithoutSchema, PyValue.get,
    getD_of_isDict hdict, getD_of_isDict hdict', hinput, hconfig, hconnection, haction,
    hproperty] at h h'
  obtain ⟨config, -, h, h'⟩ := exists_of_bind_eq_ok h h'
  obtain ⟨raw, -, h, h'⟩ := exists_of_bind_eq_ok h h'
  obtain ⟨fields, -, h, h'⟩ := exists_of_bind_eq_ok h h'
  obtain ⟨input, -, h, h'⟩ := exists_of_bind_eq_ok h h'
  obtain ⟨loaded, -, h, h'⟩ := exists_of_bind_eq_ok h h'
  cases loaded with
  | true =>
    obtain ⟨_, -, h⟩ := bind_eq_ok_iff.1 h
    obtain ⟨_, -, h⟩ := bind_eq_ok_iff.1 h
    obtain ⟨_, -, h'⟩ := bind_eq_ok_iff.1 h'
    obtain ⟨_, -, h'⟩ := bind_eq_ok_iff.1 h'
    obtain ⟨actionName, -, h, h'⟩ := exists_of_bind_eq_ok h h'
    obtain ⟨found, -, h, h'⟩ := exists_of_bind_eq_ok h h'
    obtain ⟨props, -, h, h'⟩ := exists_of_bind_eq_ok h h'
    obtain ⟨guarded, -, h, h'⟩ := exists_of_bind_eq_ok h h'
    obtain ⟨generated, -, h, h'⟩ := exists_of_bind_eq_ok h h'
    by_cases hfound : found.1 ∈ found.2.map Prod.fst
    · rw [if_pos hfound] at h h'
      obtain ⟨extra, -, h, h'⟩ := exists_of_bind_eq_ok h h'
      obtain rfl := Except.ok.inj h
      obtain rfl := Except.ok.inj h'
      obtain rfl : _ = _ := hversion
      rfl
    · rw [if_neg hfound] at h
      exact absurd h (by simp)
  | false =>
    obtain ⟨_, -, h⟩ := bind_eq_ok_iff.1 h
    obtain ⟨_, -, h'⟩ := bind_eq_ok_iff.1 h'
    obtain ⟨action, -, h, h'⟩ := exists_of_bind_eq_ok h h'
    obtain ⟨extra, -, h, h'⟩ := exists_of_bind_eq_ok h h'
    obtain ⟨-, -, h, h'⟩ := exists_of_bind_eq_ok h h'
    obtain rfl := Except.ok.inj h
    obtain rfl := Except.ok.inj h'
    exact congrArg (PieceSettings.mk · _ _ _ _) hversion

end Versions

/-! ### One action -/

section Actions

variable {env : BuilderEnv} {answer : CatalogQuery → Except EngineError PyValue} {cn : Fields}
  {a spec spec' : PyValue}

theorem specPiece_of_entry {v : PyValue} {name : PyStr} (hdict : v.isDict = true)
    (hpiece : v.entryD "piece" = .str name) (hname : v.entryD "piece_name" = .null) :
    specPiece v = .ok name.strip := by
  rw [specPiece, get_of_isDict hdict, hpiece, ok_bind, orGet, get_of_isDict hdict, hname]
  cases name with
  | nil => rfl
  | cons c name => rfl

theorem pieceText_eq_ok {v : PyValue} {name : PyStr} (h : pieceText v = .ok name) :
    v = .str name := by
  cases v with
  | str s => exact congrArg PyValue.str (Except.ok.inj h)
  | _ => cases h

/-- The piece of an action is a string. -/
theorem piece_of_connectedAction {connected : PyStr × Fields}
    (h : connectedAction cn a = .ok connected) :
    (a.entry "piece").getD (py "") = .str connected.1 := by
  obtain ⟨piece, hpiece, h⟩ := bind_eq_ok_iff.1 h
  obtain ⟨name, hname, h⟩ := bind_eq_ok_iff.1 h
  obtain ⟨raw, -, h⟩ := bind_eq_ok_iff.1 h
  obtain ⟨fields, -, h⟩ := bind_eq_ok_iff.1 h
  obtain ⟨connId, -, h⟩ := bind_eq_ok_iff.1 h
  obtain ⟨input, -, h⟩ := bind_eq_ok_iff.1 h
  obtain rfl := Except.ok.inj h
  obtain ⟨-, rfl⟩ := getD_eq_ok_iff.1 hpiece
  exact pieceText_eq_ok hname

/-- The two specifications of an action that uses a piece: they agree but for the version. -/
structure Pinned (a spec spec' : PyValue) (name : PyStr) : Prop where
  named : (a.entry "piece").getD (py "") = .str name
  dict : spec.isDict = true
  dict' : spec'.isDict = true
  piece : specPiece spec = .ok name.strip
  piece' : specPiece spec' = .ok name.strip
  type : (stepType spec).isStr (text "PIECE") = true
  type' : (stepType spec').isStr (text "PIECE") = true
  display : spec.entry "display_name" = spec'.entry "display_name"
  settings : ∀ key ∈ settingsKeys, spec.entry key = spec'.entry key
  version : spec.entryD "version" = pinnedVersion a name
  version' : spec'.entryD "version" = .null

theorem exists_pinned (ha : (stepType a).isStr (text "PIECE") = true)
    (hspec : reimportSpec cn a = .ok spec) (hspec' : updateSpec cn a = .ok spec') :
    ∃ name, Pinned a spec spec' name := by
  obtain ⟨stype, hstype, hspec⟩ := bind_eq_ok_iff.1 hspec
  obtain ⟨-, rfl⟩ := getD_eq_ok_iff.1 hstype
  change (if (stepType a).isStr (text "PIECE") = true then _ else _) = _ at hspec
  rw [if_pos ha] at hspec
  obtain ⟨connected, hconnected, hspec, hspec'⟩ := exists_of_bind_eq_ok hspec hspec'
  obtain ⟨actionName, -, hspec, hspec'⟩ := exists_of_bind_eq_ok hspec hspec'
  obtain ⟨display, -, hspec, hspec'⟩ := exists_of_bind_eq_ok hspec hspec'
  obtain rfl := Except.ok.inj hspec
  obtain rfl := Except.ok.inj hspec'
  refine ⟨connected.1, piece_of_connectedAction hconnected, rfl, rfl,
    specPiece_of_entry rfl ?_ ?_, specPiece_of_entry rfl ?_ ?_, ?_, ?_, ?_, ?_, ?_, ?_⟩
  case refine_8 =>
    intro key hkey
    rw [entry_pyDict, entry_pyDict]
    fin_cases hkey <;> rfl
  all_goals
    simp only [stepType, entryD, entry_pyDict]
    rfl

/-- **An action that uses a piece** is built alike when its version is the one of the catalogue. -/
theorem decided_of_pinned {name : PyStr} (ha : (stepType a).isStr (text "PIECE") = true)
    (h : Pinned a spec spec' name) :
    SpecPair.Decided env answer ⟨spec, spec', ActionAgrees env answer a⟩ := by
  refine decided_piece h.type h.type' (h.piece.trans h.piece'.symm) h.display ?_
  intro name' resolved settings settings' hname' hresolved hsettings hsettings'
  obtain rfl := Except.ok.inj (h.piece.symm.trans hname')
  have hversion := version_of_pieceSettings hsettings
  have hversion' := version_of_pieceSettings hsettings'
  rw [h.version] at hversion
  rw [h.version', if_neg (show ¬ PyValue.null.truthy = true by decide)] at hversion'
  -- what the catalogue has is what the step gets that gives no version
  have hcatalog : catalogVersion env answer name.strip = .ok settings'.version := by
    rw [catalogVersion, hresolved, ok_bind]
    exact mapError_eq_ok_iff.2 hversion'
  constructor
  · intro hagree
    refine settings_eq_of_entries h.dict h.dict' h.settings hsettings hsettings' ?_
    split at hversion
    · rename_i htruthy
      rw [hversion]
      exact Except.ok.inj ((hagree.version name h.named htruthy).symm.trans hcatalog)
    · exact Except.ok.inj (hversion.symm.trans hversion')
  · intro heq _
    refine ⟨ha, fun name' hname' htruthy ↦ ?_⟩
    obtain rfl := PyValue.str.inj (h.named.symm.trans hname')
    rw [if_pos htruthy] at hversion
    rw [hcatalog, ← heq, hversion]

theorem specKind_eq_piece_iff {v : PyValue} :
    specKind v = .piece ↔ (stepType v).isStr (text "PIECE") = true := by
  constructor
  · intro h
    by_contra hne
    rw [specKind, if_neg hne] at h
    split at h
    · exact absurd h (by decide)
    split at h
    · exact absurd h (by decide)
    split at h
    · exact absurd h (by decide)
    · exact absurd h (by decide)
  · exact fun h ↦ if_pos h

/-- An action that uses none is not built alike. -/
theorem decided_of_not_piece (ha : ¬ (stepType a).isStr (text "PIECE") = true)
    (hspec : reimportSpec cn a = .ok spec) (hspec' : updateSpec cn a = .ok spec') :
    SpecPair.Decided env answer ⟨spec, spec', ActionAgrees env answer a⟩ where
  agree h h' hl hl' hsame := by
    obtain ⟨stype, hstype, hspec⟩ := bind_eq_ok_iff.1 hspec
    obtain ⟨-, rfl⟩ := getD_eq_ok_iff.1 hstype
    change (if (stepType a).isStr (text "PIECE") = true then _ else _) = _ at hspec
    rw [if_neg ha] at hspec
    obtain rfl := Except.ok.inj hspec
    obtain ⟨connected, -, hspec'⟩ := bind_eq_ok_iff.1 hspec'
    obtain ⟨actionName, -, hspec'⟩ := bind_eq_ok_iff.1 hspec'
    obtain ⟨display, -, hspec'⟩ := bind_eq_ok_iff.1 hspec'
    have hpiece : (stepType spec').isStr (text "PIECE") = true := by
      obtain rfl := Except.ok.inj hspec'
      rw [stepType, entry_pyDict]
      rfl
    have hkind := (mirrored_of_built (built_of_buildStepFromSpec _ _ h)).2.2.1.nodeKind_eq
    have hkind' := (mirrored_of_built (built_of_buildStepFromSpec _ _ h')).2.2.1.nodeKind_eq
    have htype := hsame.entryD_eq "type" (by decide) (by decide)
    rw [nodeKind, htype, ← nodeKind, hkind', specKind_eq_piece_iff.2 hpiece] at hkind
    exact absurd (specKind_eq_piece_iff.1 hkind.symm) ha
  same hagree := absurd hagree.piece ha

theorem decided_of_specs (hspec : reimportSpec cn a = .ok spec)
    (hspec' : updateSpec cn a = .ok spec') :
    SpecPair.Decided env answer ⟨spec, spec', ActionAgrees env answer a⟩ := by
  by_cases ha : (stepType a).isStr (text "PIECE") = true
  · obtain ⟨name, h⟩ := exists_pinned ha hspec hspec'
    exact decided_of_pinned ha h
  · exact decided_of_not_piece ha hspec hspec'

/-- The pairs of a request. -/
theorem exists_pairs {actions : List Fields} {specs specs' : List PyValue}
    (h : actions.mapM (fun a ↦ reimportSpec cn (.dict a)) = .ok specs)
    (h' : actions.mapM (fun a ↦ updateSpec cn (.dict a)) = .ok specs') :
    ∃ pairs : List SpecPair, pairs.map SpecPair.left = specs ∧ pairs.map SpecPair.right = specs' ∧
      (∀ p ∈ pairs, p.Decided env answer) ∧
      ((∀ p ∈ pairs, p.agree) ↔ ∀ a ∈ actions, ActionAgrees env answer (.dict a)) := by
  induction actions generalizing specs specs' with
  | nil =>
    obtain rfl := Except.ok.inj h
    obtain rfl := Except.ok.inj h'
    refine ⟨[], rfl, rfl, fun _ hp ↦ absurd hp List.not_mem_nil, ?_⟩
    exact iff_of_true (fun _ hp ↦ absurd hp List.not_mem_nil) fun _ ha ↦ absurd ha List.not_mem_nil
  | cons a actions ih =>
    rw [List.mapM_cons] at h h'
    obtain ⟨spec, hspec, h⟩ := bind_eq_ok_iff.1 h
    obtain ⟨rest, hrest, h⟩ := bind_eq_ok_iff.1 h
    obtain ⟨spec', hspec', h'⟩ := bind_eq_ok_iff.1 h'
    obtain ⟨rest', hrest', h'⟩ := bind_eq_ok_iff.1 h'
    obtain rfl := Except.ok.inj h
    obtain rfl := Except.ok.inj h'
    obtain ⟨pairs, rfl, rfl, hdecided, hagree⟩ := ih hrest hrest'
    refine ⟨⟨spec, spec', ActionAgrees env answer (.dict a)⟩ :: pairs, rfl, rfl, ?_, ?_⟩
    · exact List.forall_mem_cons.2 ⟨decided_of_specs hspec hspec', hdecided⟩
    · rw [List.forall_mem_cons, List.forall_mem_cons, hagree]

end Actions

/-! ### The main result -/

section Main

variable {env : BuilderEnv} {answer : CatalogQuery → Except EngineError PyValue} {pid : PyStr}
  {body : ReimportBody} {s s' t t' : BuilderState} {tree tree' : PyValue}
  {l l' : List (CatalogQuery × Except EngineError PyValue)}

theorem exists_of_runs_importTree {refused : EngineError}
    {spec : Fields → PyValue → Except PyError PyValue}
    {trigger : PyValue → PyValue → Except PyError PyValue}
    (h : (importTree env body refused spec trigger).Runs s l (.ok tree) t) :
    ∃ specs first u, body.actions.mapM (fun a ↦ spec (body.connectionFields env) (.dict a)) =
        .ok specs ∧
      (buildActionChain env (.list specs)).Runs ⟨1, []⟩ l (.ok first) u ∧
      trigger (.dict body.trigger) first = .ok tree := by
  rw [importTree] at h
  split at h
  · exact absurd (runs_raise_iff.1 h).2.1 (by simp)
  · obtain ⟨specs, hspecs, h⟩ := runs_evalPy_bind_ok_iff.1 h
    obtain ⟨l₁, l₂, first, u, rfl, hchain, h⟩ := runs_bind_ok_iff.1 (runs_setState_bind_iff.1 h)
    obtain ⟨rfl, htrigger, -⟩ := runs_evalPy_ok_iff.1 h
    rw [List.append_nil]
    exact ⟨specs, first, u, hspecs, hchain, htrigger⟩

/-- **The two imports agree** exactly when the versions of the trigger do and each action uses a
piece, at the version of the catalogue. -/
theorem sameTree_imports_iff (hrest : (v2ReimportTree env pid body).Runs s l (.ok tree) t)
    (hmcp : (mcpUpdateFlowTree env body).Runs s' l' (.ok tree') t')
    (hl : ∀ e ∈ l, AnsweredBy answer e) (hl' : ∀ e ∈ l', AnsweredBy answer e) :
    SameTree tree tree' ↔ TriggerAgrees (.dict body.trigger) ∧
      ∀ a ∈ body.actions, ActionAgrees env answer (.dict a) := by
  obtain ⟨l₁, l₂, -, u, rfl, -, hrest⟩ := runs_bind_ok_iff.1 hrest
  obtain ⟨specs, first, v, hspecs, hchain, htrigger⟩ := exists_of_runs_importTree hrest
  obtain ⟨specs', first', v', hspecs', hchain', htrigger'⟩ := exists_of_runs_importTree hmcp
  obtain ⟨pairs, rfl, rfl, hdecided, hagree⟩ := exists_pairs hspecs hspecs'
  have hchains := sameTree_chains_iff hdecided hchain hchain'
    (fun e he ↦ hl e (List.mem_append_right _ he)) hl'
  obtain ⟨piece, hpiece, htrigger, htrigger'⟩ := exists_of_bind_eq_ok htrigger htrigger'
  obtain ⟨name, hname, htrigger, htrigger'⟩ := exists_of_bind_eq_ok htrigger htrigger'
  obtain ⟨version, hversion, htrigger⟩ := bind_eq_ok_iff.1 htrigger
  obtain ⟨version', hversion', htrigger'⟩ := bind_eq_ok_iff.1 htrigger'
  obtain ⟨triggerName, -, htrigger, htrigger'⟩ := exists_of_bind_eq_ok htrigger htrigger'
  obtain ⟨input, -, htrigger, htrigger'⟩ := exists_of_bind_eq_ok htrigger htrigger'
  obtain rfl := Except.ok.inj htrigger
  obtain rfl := Except.ok.inj htrigger'
  obtain ⟨-, rfl⟩ := getD_eq_ok_iff.1 hpiece
  obtain ⟨-, rfl⟩ := getD_eq_ok_iff.1 hversion
  obtain ⟨-, rfl⟩ := getD_eq_ok_iff.1 hversion'
  have hpiece := pieceText_eq_ok hname
  rw [sameTree_buildTrigger_iff, hchains, hagree, and_iff_right rfl, and_iff_left rfl]
  refine and_congr_left' ⟨fun h name' hname' ↦ ?_, fun h ↦ h name hpiece⟩
  obtain rfl := PyValue.str.inj (hpiece.symm.trans hname')
  exact h

end Main

/-! ### Two requests -/

/-- What ActivePieces answers: the connections of the project, and one schema for every piece. -/
def gmailAnswer : CatalogQuery → Except EngineError PyValue
  | .connections => .ok (.list [pyDict [("externalId", py "conn-own")],
      pyDict [("externalId", py "conn-default")]])
  | _ => .ok gmailSchema

/-- A schedule, and a message that is sent with Gmail. -/
def scheduleBody : ReimportBody where
  connectionIds := none
  displayName := none
  trigger := [(text "piece", py "schedule")]
  actions := [fieldsOf gmailSpec]

/-- A request with the one action is gone through, whatever either endpoint makes of it. -/
theorem runs_importTree_gmail {refused : EngineError} {v : PyValue}
    {spec : Fields → PyValue → Except PyError PyValue}
    {trigger : PyValue → PyValue → Except PyError PyValue}
    (hspec : spec (scheduleBody.connectionFields gmailEnv) gmailSpec = .ok v)
    (hpiece : specPiece v = .ok (text "gmail"))
    (htype : (stepType v).isStr (text "PIECE") = true)
    (hsettings : pieceSettings gmailEnv v gmailSchema (text "gmail") = .ok gmailSettings)
    (hdisplay : ∀ d, v.getD "display_name" d = .ok (py "Action"))
    (htrigger : ∀ first, ∃ tree, trigger (.dict scheduleBody.trigger) first = .ok tree) :
    ∃ tree t, (importTree gmailEnv scheduleBody refused spec trigger).Runs ⟨1, []⟩
      (gmailExchanges.drop 1) (.ok tree) t := by
  have hend : (buildChainFrom gmailEnv (buildStepFromSpec gmailEnv) id 1 2 []).Runs ⟨1, []⟩ []
      (.ok .null) ⟨1, []⟩ := runs_pure_iff.2 ⟨rfl, rfl, rfl⟩
  have hne : text "gmail" ≠ [] := by decide
  have hdict := (getD_eq_ok_iff.1 (hdisplay .null)).1
  have hchain : ∃ node u, (buildActionChain gmailEnv (.list [v])).Runs ⟨1, []⟩
      (gmailExchanges.drop 1) (.ok node) u := by
    rw [buildActionChain_list gmailEnv (List.cons_ne_nil _ _)]
    exact ⟨_, _, runs_chain_cons hend (runs_buildStepFromSpec_piece hpiece hne
      (fun s ↦ runs_autoResolvePiece rfl rfl) hsettings (hdisplay _) htype) hdict⟩
  obtain ⟨node, u, hchain⟩ := hchain
  obtain ⟨tree, htree⟩ := htrigger node
  refine ⟨tree, u, runs_evalPy_bind_ok_iff.2 ⟨[v], ?_, runs_setState_bind_iff.2
    (runs_bind_ok_iff.2 ⟨_, [], node, u, (List.append_nil _).symm, hchain,
      runs_evalPy_ok_iff.2 ⟨rfl, htree, rfl⟩⟩)⟩⟩
  show (spec _ gmailSpec >>= fun v ↦ _) = _
  rw [hspec]
  rfl

theorem runs_guard_gmail :
    (guardReimport gmailEnv (text "p1") scheduleBody).Runs ⟨1, []⟩ (gmailExchanges.take 1) (.ok ())
      ⟨1, []⟩ := by
  have hguard : (guardConnections plainRuntime (text "p1") [text "gmail"]
      (scheduleBody.connections gmailEnv) true).Runs ⟨1, []⟩ (gmailExchanges.take 1) (.ok [])
      ⟨1, []⟩ := ⟨_, _, rfl, rfl, rfl⟩
  refine runs_evalPy_bind_ok_iff.2 ⟨[text "gmail"], extractPieces_gmail, ?_⟩
  exact runs_bind_ok_iff.2 ⟨_, [], [], ⟨1, []⟩, rfl, hguard, runs_pure_iff.2 ⟨rfl, rfl, rfl⟩⟩

theorem runs_v2ReimportTree_schedule : ∃ tree t, (v2ReimportTree gmailEnv (text "p1")
    scheduleBody).Runs ⟨1, []⟩ gmailExchanges (.ok tree) t := by
  have htree : ∃ tree t, (importTree gmailEnv scheduleBody
      (badRequest [.lit "Provide 'template' or both 'trigger' and 'actions'"]) reimportSpec
      (importedTrigger (fun name ↦ fallbackVersion (shortName name))
        (.str (text "Updated" ++ text " — Trigger")))).Runs ⟨1, []⟩ (gmailExchanges.drop 1)
      (.ok tree) t :=
    runs_importTree_gmail rfl rfl (by decide) rfl (fun _ ↦ rfl) fun _ ↦ ⟨_, rfl⟩
  obtain ⟨tree, t, htree⟩ := htree
  exact ⟨tree, t, runs_bind_ok_iff.2 ⟨_, _, (), ⟨1, []⟩, rfl, runs_guard_gmail, htree⟩⟩

theorem runs_mcpUpdateFlowTree_schedule : ∃ tree t,
    (mcpUpdateFlowTree gmailEnv scheduleBody).Runs ⟨1, []⟩ (gmailExchanges.drop 1) (.ok tree) t :=
  runs_importTree_gmail rfl rfl (by decide) rfl (fun _ ↦ rfl) fun _ ↦ ⟨_, rfl⟩

/-- Where the versions of the tables are those of the catalogue, the trees are the same. -/
theorem imports_agree_schedule : ∃ s l tree t s' l' tree' t',
    (v2ReimportTree gmailEnv (text "p1") scheduleBody).Runs s l (.ok tree) t ∧
      (mcpUpdateFlowTree gmailEnv scheduleBody).Runs s' l' (.ok tree') t' ∧
      SameTree tree tree' := by
  obtain ⟨tree, t, hrest⟩ := runs_v2ReimportTree_schedule
  obtain ⟨tree', t', hmcp⟩ := runs_mcpUpdateFlowTree_schedule
  refine ⟨_, _, _, _, _, _, _, _, hrest, hmcp, ?_⟩
  have hanswered : ∀ e ∈ gmailExchanges, AnsweredBy gmailAnswer e := by
    rw [gmailExchanges, List.forall_mem_cons, List.forall_mem_singleton]
    exact ⟨rfl, rfl⟩
  refine (sameTree_imports_iff hrest hmcp hanswered fun e he ↦
    hanswered e (List.mem_of_mem_drop he)).2 ⟨fun name hname ↦ ?_, ?_⟩
  · obtain rfl : text "schedule" = name := PyValue.str.inj hname
    exact congrArg PyValue.str (by decide)
  · refine List.forall_mem_singleton.2 ⟨by decide, fun name hname _ ↦ ?_⟩
    obtain rfl : text "gmail" = name := PyValue.str.inj hname
    rfl

/-- A webhook, and no actions. -/
def webhookBody : ReimportBody := ⟨none, none, [(text "piece", py "webhook")], []⟩

/-- The trigger gets another version over MCP. -/
theorem imports_differ_webhook : ∃ tree t tree' t',
    (v2ReimportTree gmailEnv (text "p1") webhookBody).Runs ⟨1, []⟩ [] (.ok tree) t ∧
      (mcpUpdateFlowTree gmailEnv webhookBody).Runs ⟨1, []⟩ [] (.ok tree') t' ∧
        ¬ SameTree tree tree' := by
  refine ⟨_, _, _, _, ⟨rfl, rfl⟩, ⟨rfl, rfl⟩, fun h ↦ ?_⟩
  obtain ⟨-, hversion, -⟩ := (sameTree_buildTrigger_iff.1 h).1
  exact absurd (PyValue.str.inj hversion) (by decide)

end Siyadah
