import SiyadahOrchestrator.Build.PendingPrivacy
import SiyadahOrchestrator.Build.RegistryGate
import SiyadahOrchestrator.Build.UpdateFlow

/-!
# The connection of a step

A step that uses a piece may get its connection from several places: its own input, the action, the
connections of the request, the live ones that the gate has found, and the default ones. Two
endpoints look at them in different orders. A connection that is written into the input at one place
or at another leaves the same input behind, but for the connection itself (`ButForAuth`); so two
steps for one action are the same exactly when their connections are (`decided_chainSpec`).

A step with code has no connection. Over MCP its code may stand in its input, and `decided_code`
says when that makes a difference.
-/

namespace Siyadah

open Dialogue PyValue

/-! ### The connection of a step -/

section Inputs

variable {env : BuilderEnv} {short : PyStr} {base input input' : Fields} {v : PyValue}

/-- The input of a step that gives no connection id: it gets the default connection, if it has
none. -/
def defaultedInput (env : BuilderEnv) (short : PyStr) (input : Fields) : Fields :=
  match input.lookup (text "auth"), env.defaultAuth short with
  | none, some v => upsert input (text "auth") v
  | _, _ => input

theorem withAuth_eq {spec : PyValue} (hdict : spec.isDict = true)
    (hconn : spec.entryD "connection_id" = .null) :
    withAuth env spec short input = .ok (defaultedInput env short input) := by
  have hkey : (input.map Prod.fst).contains (text "auth") =
      (input.lookup (text "auth")).isSome := by
    rw [Bool.eq_iff_iff, List.contains_iff_mem, mem_keys_iff, Option.isSome_iff_exists]
  rw [withAuth, get_of_isDict hdict, hconn, ok_bind, hkey, defaultedInput, BuilderEnv.defaultAuth]
  cases input.lookup (text "auth") with
  | some own =>
    rcases env.defaultConnections.lookup short with _ | _ | ⟨c, cs⟩
    · rfl
    · rfl
    · rfl
  | none =>
    rcases env.defaultConnections.lookup short with _ | _ | ⟨c, cs⟩
    · rfl
    · rfl
    · rfl

/-- The input is the other one, but for the connection. -/
def ButForAuth (base input : Fields) : Prop :=
  input = (input.lookup (text "auth")).elim base (upsert base (text "auth"))

theorem butForAuth_self (h : (base.map Prod.fst).Nodup) : ButForAuth base base := by
  rw [ButForAuth]
  cases hlookup : base.lookup (text "auth") with
  | none => rfl
  | some v => exact (upsert_eq_self h hlookup).symm

theorem butForAuth_upsert : ButForAuth base (upsert base (text "auth") v) := by
  rw [ButForAuth, lookup_upsert_self]
  rfl

theorem ButForAuth.eq (h : ButForAuth base input) (h' : ButForAuth base input')
    (hauth : input.lookup (text "auth") = input'.lookup (text "auth")) : input = input' := by
  rw [h, h', hauth]

theorem ButForAuth.defaulted (h : ButForAuth base input) :
    ButForAuth base (defaultedInput env short input) := by
  rw [defaultedInput]
  cases hlookup : input.lookup (text "auth") with
  | some own => exact h
  | none =>
    have hbase : input = base := by
      rw [ButForAuth, hlookup] at h
      exact h
    cases env.defaultAuth short with
    | none => exact h
    | some v =>
      rw [hbase]
      exact butForAuth_upsert

theorem lookup_auth_defaultedInput : (defaultedInput env short input).lookup (text "auth") =
    (input.lookup (text "auth")).or (env.defaultAuth short) := by
  rw [defaultedInput]
  cases hlookup : input.lookup (text "auth") with
  | some own => exact hlookup
  | none =>
    cases hdefault : env.defaultAuth short with
    | none => exact hlookup
    | some v => exact lookup_upsert_self

/-- The connection of an input is none of the values that are dropped. -/
def KeepsAuth (input : Fields) : Prop := ∀ f ∈ input, f.1 = text "auth" → isDropped f.2 = false

theorem keepsAuth_clean : KeepsAuth (cleanInputConfig input) := by
  intro f hf _
  simpa using (List.mem_filter.1 hf).2

theorem lookup_clean (h : KeepsAuth input) :
    (cleanInputConfig input).lookup (text "auth") = input.lookup (text "auth") := by
  rw [cleanInputConfig]
  induction input with
  | nil => rfl
  | cons f input ih =>
    obtain ⟨hf, hrest⟩ := List.forall_mem_cons.1 h
    rw [List.filter_cons, List.lookup_cons, ← ih hrest]
    split
    · rw [List.lookup_cons]
    · rename_i hdropped
      have hne : text "auth" ≠ f.1 := fun heq ↦ hdropped (by rw [hf heq.symm]; rfl)
      rw [beq_false_of_ne hne]

/-- A connection is written into an input before or after the input is cleaned. -/
theorem clean_upsert (h : KeepsAuth input) (hv : isDropped v = false) :
    cleanInputConfig (upsert input (text "auth") v) =
      upsert (cleanInputConfig input) (text "auth") v := by
  have hkeys : text "auth" ∈ (cleanInputConfig input).map Prod.fst ↔
      text "auth" ∈ input.map Prod.fst := by
    rw [mem_keys_iff, mem_keys_iff, lookup_clean h]
  rw [upsert, upsert]
  by_cases hmem : text "auth" ∈ input.map Prod.fst
  · rw [if_pos hmem, if_pos (hkeys.2 hmem), cleanInputConfig, cleanInputConfig]
    clear hkeys hmem
    induction input with
    | nil => rfl
    | cons f input ih =>
      obtain ⟨hf, hrest⟩ := List.forall_mem_cons.1 h
      rw [List.map_cons, List.filter_cons, List.filter_cons, ih hrest]
      by_cases heq : f.1 = text "auth"
      · rw [if_pos heq, if_pos (by rw [hv]; rfl), if_pos (by rw [hf heq]; rfl), List.map_cons,
          if_pos heq]
      · rw [if_neg heq]
        split
        · rw [List.map_cons, if_neg heq]
        · rfl
  · rw [if_neg hmem, if_neg (hkeys.not.2 hmem), cleanInputConfig, List.filter_append]
    refine congrArg _ ?_
    rw [List.filter_cons_of_pos (by rw [hv]; rfl)]
    rfl

theorem connectionRefOf_kept {connId auth : PyValue} (h : connectionRefOf connId = .ok auth) :
    isDropped auth = false := by
  cases connId with
  | str s =>
    obtain rfl := Except.ok.inj h
    rfl
  | _ => cases h

end Inputs

/-! ### What a resolved action has of its own -/

section Resolved

variable {env : BuilderEnv} {a : PyValue} {r : ResolvedAction} {props : PyValue}
  {input fields : Fields} {generated : Fields × Fields}

theorem nodup_keys_clean (h : (input.map Prod.fst).Nodup) :
    ((cleanInputConfig input).map Prod.fst).Nodup :=
  h.sublist (List.filter_sublist.map Prod.fst)

theorem nodup_keys_toDict {raw : PyValue} (h : toDict raw = .ok fields)
    (hraw : ∀ d, raw = .dict d → (d.map Prod.fst).Nodup) : (fields.map Prod.fst).Nodup := by
  cases raw with
  | dict d =>
    obtain rfl := Except.ok.inj h
    exact hraw d rfl
  | list items =>
    have hfold : ∀ (acc : Fields), (acc.map Prod.fst).Nodup →
        items.foldlM (fun d v ↦ (toItem v).map fun f ↦ upsert d f.1 f.2) acc = .ok fields →
        (fields.map Prod.fst).Nodup := by
      clear h
      induction items with
      | nil =>
        intro acc hacc h
        obtain rfl := Except.ok.inj h
        exact hacc
      | cons v items ih =>
        intro acc hacc h
        rw [List.foldlM_cons] at h
        obtain ⟨next, hnext, h⟩ := bind_eq_ok_iff.1 h
        refine ih (fun d hd ↦ nomatch hd) next ?_ h
        cases hitem : toItem v with
        | error e =>
          rw [hitem] at hnext
          cases hnext
        | ok f =>
          rw [hitem] at hnext
          obtain rfl := Except.ok.inj hnext
          exact nodup_keys_upsert hacc
    exact hfold [] List.nodup_nil h
  | str s =>
    cases s with
    | nil =>
      obtain rfl := Except.ok.inj h
      exact List.nodup_nil
    | cons c s => cases h
  | _ => cases h

/-- What `generate_property_settings` keeps of an input: its connection, and that its keys are
distinct. -/
theorem kept_propertySetting (prop : PyStr × PyValue) {acc : Fields × Fields}
    (hauth : KeepsAuth acc.2) :
    KeepsAuth (propertySetting env.runtime acc prop).2 ∧
      ((acc.2.map Prod.fst).Nodup →
        ((propertySetting env.runtime acc prop).2.map Prod.fst).Nodup) := by
  rw [propertySetting]
  split
  · exact ⟨hauth, id⟩
  · rename_i hprop
    split
    · exact ⟨hauth, id⟩
    · split
      · exact ⟨hauth, id⟩
      · refine ⟨fun f hf hkey ↦ ?_, nodup_keys_upsert⟩
        rcases mem_upsert hf with hf | rfl
        · exact hauth f hf hkey
        · exact absurd hkey hprop

theorem kept_foldl_propertySetting (ps : Fields) {acc : Fields × Fields}
    (hauth : KeepsAuth acc.2) :
    KeepsAuth (ps.foldl (propertySetting env.runtime) acc).2 ∧
      ((acc.2.map Prod.fst).Nodup →
        ((ps.foldl (propertySetting env.runtime) acc).2.map Prod.fst).Nodup) := by
  induction ps generalizing acc with
  | nil => exact ⟨hauth, id⟩
  | cons prop ps ih =>
    obtain ⟨hkeeps, hnext⟩ := kept_propertySetting prop hauth
    obtain ⟨hkeeps', hrest⟩ := ih hkeeps
    exact ⟨hkeeps', hrest ∘ hnext⟩

theorem kept_generatePropertySettings (hauth : KeepsAuth input)
    (hgenerated : generatePropertySettings env.runtime props input = .ok generated) :
    KeepsAuth generated.2 ∧
      ((input.map Prod.fst).Nodup → (generated.2.map Prod.fst).Nodup) := by
  rw [generatePropertySettings.eq_def] at hgenerated
  split at hgenerated
  · obtain rfl := Except.ok.inj hgenerated
    exact ⟨hauth, id⟩
  · cases props with
    | dict ps =>
      obtain rfl := Except.ok.inj hgenerated
      exact kept_foldl_propertySetting ps hauth
    | _ => exact absurd hgenerated (by simp)

/-- The input of an action has distinct keys, as a dictionary has. -/
def DistinctInput (a : PyValue) : Prop :=
  ∀ d, (a.entry "input").getD (.dict []) = .dict d → (d.map Prod.fst).Nodup

theorem kept_actionSettings {resolved : PyStr × PyValue} {settings : PyValue × Fields × Fields}
    (h : actionSettings env a resolved = .ok settings) :
    KeepsAuth settings.2.1 ∧ (DistinctInput a → (settings.2.1.map Prod.fst).Nodup) := by
  obtain ⟨explicit, -, h⟩ := bind_eq_ok_iff.1 h
  obtain ⟨raw, hraw, h⟩ := bind_eq_ok_iff.1 h
  obtain ⟨-, rfl⟩ := getD_eq_ok_iff.1 hraw
  obtain ⟨fields, hfields, h⟩ := bind_eq_ok_iff.1 h
  have hnodup : DistinctInput a → ((cleanInputConfig fields).map Prod.fst).Nodup :=
    fun ha ↦ nodup_keys_clean (nodup_keys_toDict hfields ha)
  split at h
  · obtain rfl := Except.ok.inj h
    exact ⟨keepsAuth_clean, hnodup⟩
  · obtain ⟨version, -, h⟩ := bind_eq_ok_iff.1 h
    obtain ⟨actionName, -, h⟩ := bind_eq_ok_iff.1 h
    obtain ⟨props, -, h⟩ := bind_eq_ok_iff.1 h
    obtain ⟨generated, hgenerated, h⟩ := bind_eq_ok_iff.1 h
    obtain rfl := Except.ok.inj h
    obtain ⟨hkeeps, hdistinct⟩ := kept_generatePropertySettings keepsAuth_clean hgenerated
    exact ⟨hkeeps, hdistinct ∘ hnodup⟩

theorem kept_resolveActionSpec {s t : BuilderState}
    {l : List (CatalogQuery × Except EngineError PyValue)}
    (h : (resolveActionSpec env a).Runs s l (.ok r) t) :
    KeepsAuth r.input ∧ (DistinctInput a → (r.input.map Prod.fst).Nodup) := by
  obtain ⟨piece, -, h⟩ := runs_evalPy_bind_ok_iff.1 h
  obtain ⟨name, -, h⟩ := runs_evalPy_bind_ok_iff.1 h
  obtain ⟨l₁, l₂, resolved, u, rfl, -, h⟩ := runs_bind_ok_iff.1 h
  obtain ⟨settings, hsettings, h⟩ := runs_evalPy_bind_ok_iff.1 h
  obtain ⟨-, hr, -⟩ := runs_pure_iff.1 h
  obtain rfl := Except.ok.inj hr
  exact kept_actionSettings hsettings

end Resolved

/-! ### Steps with a piece -/

section Pieces

/-- The connection that `v2_build_dynamic` leaves in a step: the one of the action or of its piece,
else the own one, else the default one. -/
def restAuth (env : BuilderEnv) (connId : PyValue) (own : Option PyValue) (short : PyStr) :
    Option PyValue :=
  if connId.truthy then (connectionRefOf connId).toOption else own.or (env.defaultAuth short)

/-- The connection that `build_dynamic_flow` leaves in a step: here the own one comes first. -/
def mcpAuth (env : BuilderEnv) (connId : PyValue) (own : Option PyValue) (short : PyStr) :
    Option PyValue :=
  own.or (if connId.truthy then (connectionRefOf connId).toOption else env.defaultAuth short)

variable {env : BuilderEnv} {answer : CatalogQuery → Except EngineError PyValue}
  {connId a spec spec' schema : PyValue} {base input input' : Fields} {short resolved : PyStr}
  {r : ResolvedAction} {settings : PieceSettings}

/-- A connection is written into the input, in place of the one that it has. -/
theorem lookup_auth_connectInput (hkeeps : KeepsAuth base)
    (h : connectInput connId base = .ok input) (short : PyStr) :
    (defaultedInput env short (cleanInputConfig input)).lookup (text "auth") =
      restAuth env connId (base.lookup (text "auth")) short := by
  rw [lookup_auth_defaultedInput, restAuth]
  rw [connectInput] at h
  split at h
  · rename_i htruthy
    cases hauth : connectionRefOf connId with
    | error e =>
      rw [hauth] at h
      cases h
    | ok v =>
      rw [hauth] at h
      obtain rfl := Except.ok.inj h
      rw [clean_upsert hkeeps (connectionRefOf_kept hauth), lookup_upsert_self, if_pos htruthy]
      rfl
  · rename_i hfalsy
    obtain rfl := Except.ok.inj h
    rw [lookup_clean hkeeps, if_neg hfalsy]

/-- And nothing else of the input is changed. -/
theorem butForAuth_connectInput (hnodup : (base.map Prod.fst).Nodup) (hkeeps : KeepsAuth base)
    (h : connectInput connId base = .ok input) (short : PyStr) :
    ButForAuth (cleanInputConfig base) (defaultedInput env short (cleanInputConfig input)) := by
  rw [connectInput] at h
  split at h
  · cases hauth : connectionRefOf connId with
    | error e =>
      rw [hauth] at h
      cases h
    | ok v =>
      rw [hauth] at h
      obtain rfl := Except.ok.inj h
      rw [clean_upsert hkeeps (connectionRefOf_kept hauth)]
      exact butForAuth_upsert.defaulted
  · obtain rfl := Except.ok.inj h
    exact (butForAuth_self (nodup_keys_clean hnodup)).defaulted

/-- A connection is written into the input, if it has none. -/
theorem keepOwnAuth_spec (hnodup : (base.map Prod.fst).Nodup) (hkeeps : KeepsAuth base)
    (h : keepOwnAuth connId base = .ok input) (short : PyStr) :
    ButForAuth (cleanInputConfig base) (defaultedInput env short (cleanInputConfig input)) ∧
      (defaultedInput env short (cleanInputConfig input)).lookup (text "auth") =
        mcpAuth env connId (base.lookup (text "auth")) short := by
  rw [keepOwnAuth] at h
  split at h
  · rename_i hown
    obtain rfl := Except.ok.inj h
    obtain ⟨own, hlookup⟩ := mem_keys_iff.1 (List.contains_iff_mem.1 hown)
    refine ⟨(butForAuth_self (nodup_keys_clean hnodup)).defaulted, ?_⟩
    rw [lookup_auth_defaultedInput, lookup_clean hkeeps, mcpAuth, hlookup]
    rfl
  · rename_i hnone
    have hlookup : base.lookup (text "auth") = none := by
      rw [Option.eq_none_iff_forall_ne_some]
      exact fun v hv ↦ hnone (List.contains_iff_mem.2 (mem_keys_iff.2 ⟨v, hv⟩))
    refine ⟨butForAuth_connectInput hnodup hkeeps h short,
      (lookup_auth_connectInput hkeeps h short).trans ?_⟩
    rw [restAuth, mcpAuth, hlookup]
    rfl

/-- The settings of a step, once its input is complete. -/
def settingsOn (env : BuilderEnv) (spec schema : PyValue) (resolved : PyStr) (input : Fields) :
    Except EngineError PieceSettings := do
  if ← fromPy (hasActions schema) then settingsFromSchema env spec schema resolved input
  else settingsWithoutSchema env spec (shortName resolved) input

theorem pieceSettings_eq (hdict : spec.isDict = true)
    (hinput : spec.entry "input" = some (.dict input))
    (hconn : spec.entryD "connection_id" = .null) :
    pieceSettings env spec schema resolved =
      settingsOn env spec schema resolved
        (defaultedInput env (shortName resolved) (cleanInputConfig input)) := by
  simp only [pieceSettings, getD_of_isDict hdict, hinput, withAuth_eq hdict hconn]
  rfl

theorem settingsOn_congr (hdict : spec.isDict = true) (hdict' : spec'.isDict = true)
    (hversion : spec.entry "version" = spec'.entry "version")
    (haction : spec.entry "action_name" = spec'.entry "action_name")
    (hproperty : spec.entry "property_settings" = spec'.entry "property_settings") :
    settingsOn env spec schema resolved input = settingsOn env spec' schema resolved input := by
  simp only [settingsOn, settingsFromSchema, settingsWithoutSchema, PyValue.get,
    getD_of_isDict hdict, getD_of_isDict hdict', hversion, haction, hproperty]

theorem lookup_auth_settingsOn (h : settingsOn env spec schema resolved input = .ok settings) :
    settings.input.lookup (text "auth") = input.lookup (text "auth") := by
  obtain ⟨loaded, -, h⟩ := bind_eq_ok_iff.1 h
  cases loaded with
  | true => exact lookup_auth_settingsFromSchema h
  | false => exact lookup_auth_settingsWithoutSchema h

/-- What the builder reads of a specification that is made for an action. -/
structure MadeFor (r : ResolvedAction) (actionName display : PyValue) (input : Fields)
    (spec : PyValue) : Prop where
  dict : spec.isDict = true
  type : (stepType spec).isStr (text "PIECE") = true
  piece : specPiece spec = .ok r.full.strip
  input : spec.entry "input" = some (.dict input)
  connection : spec.entryD "connection_id" = .null
  action : spec.entry "action_name" = some actionName
  version : spec.entry "version" = some r.version
  display : spec.entry "display_name" = some display
  property : spec.entry "property_settings" = some (.dict r.propertySettings)

theorem madeFor (r : ResolvedAction) (actionName display : PyValue) (input : Fields) :
    MadeFor r actionName display input (pyDict [("type", py "PIECE"), ("piece", .str r.full),
      ("action_name", actionName), ("version", r.version), ("input", .dict input),
      ("display_name", display), ("property_settings", .dict r.propertySettings)]) := by
  refine ⟨rfl, ?_, specPiece_of_entry rfl ?_ ?_, ?_, ?_, ?_, ?_, ?_, ?_⟩
  all_goals
    simp only [stepType, entryD, entry_pyDict]
    rfl

theorem exists_madeFor (h : chainSpec a r input = .ok spec) :
    ∃ actionName display, MadeFor r actionName display input spec := by
  obtain ⟨actionName, -, h⟩ := bind_eq_ok_iff.1 h
  obtain ⟨display, -, h⟩ := bind_eq_ok_iff.1 h
  exact ⟨actionName, display, Except.ok.inj h ▸ madeFor _ _ _ _⟩

/-- **Two steps for one action** are compared by their connections. -/
theorem decided_chainSpec (hspec : chainSpec a r input = .ok spec)
    (hspec' : chainSpec a r input' = .ok spec') {agree : Prop}
    (hinput : ∀ short, ButForAuth base (defaultedInput env short (cleanInputConfig input)))
    (hinput' : ∀ short, ButForAuth base (defaultedInput env short (cleanInputConfig input')))
    (hagree : ∀ resolved, ResolvedBy env answer r.full.strip resolved → (agree ↔
      (defaultedInput env (shortName resolved.1) (cleanInputConfig input)).lookup (text "auth") =
        (defaultedInput env (shortName resolved.1) (cleanInputConfig input')).lookup
          (text "auth"))) :
    SpecPair.Decided env answer ⟨spec, spec', agree⟩ := by
  obtain ⟨actionName, -, hspec, hspec'⟩ := exists_of_bind_eq_ok hspec hspec'
  obtain ⟨display, -, hspec, hspec'⟩ := exists_of_bind_eq_ok hspec hspec'
  have h : MadeFor r actionName display input spec := Except.ok.inj hspec ▸ madeFor _ _ _ _
  have h' : MadeFor r actionName display input' spec' := Except.ok.inj hspec' ▸ madeFor _ _ _ _
  refine decided_piece h.type h'.type (h.piece.trans h'.piece.symm)
    (h.display.trans h'.display.symm) ?_
  intro name resolved settings settings' hname hresolved hsettings hsettings'
  obtain rfl := Except.ok.inj (h.piece.symm.trans hname)
  rw [pieceSettings_eq h.dict h.input h.connection] at hsettings
  rw [pieceSettings_eq h'.dict h'.input h'.connection, ← settingsOn_congr h.dict h'.dict
    (h.version.trans h'.version.symm) (h.action.trans h'.action.symm)
    (h.property.trans h'.property.symm)] at hsettings'
  constructor
  · intro hmet
    have heq := (hinput (shortName resolved.1)).eq (hinput' _) ((hagree resolved hresolved).1 hmet)
    rw [← heq] at hsettings'
    exact Except.ok.inj (hsettings.symm.trans hsettings')
  · intro _ heq
    refine (hagree resolved hresolved).2 ?_
    rw [← lookup_auth_settingsOn hsettings, heq, lookup_auth_settingsOn hsettings']

end Pieces

/-! ### Steps with code -/

section Code

variable {env : BuilderEnv} {answer : CatalogQuery → Except EngineError PyValue}
  {a spec next node : PyValue} {s t : BuilderState}
  {l : List (CatalogQuery × Except EngineError PyValue)}

/-- The code of a step that gives none. -/
def defaultCode : PyValue := py "export const code = async (inputs) => \x7b return inputs; \x7d;"

/-- The input of its code. -/
def defaultCodeInput : PyValue := pyDict [("data", py "\x7b\x7btrigger['body']\x7d\x7d")]

/-- The code of a step. -/
def codeOf (spec : PyValue) : PyValue := (spec.entry "code").getD defaultCode

/-- The input of the code. -/
def codeInputOf (spec : PyValue) : PyValue := (spec.entryD "code_input").orElse defaultCodeInput

/-- If the action has no code of its own, the one in its input is the default one; and likewise for
the input of the code. -/
structure CodeAgrees (a : PyValue) : Prop where
  code : a.entry "code" = none → ∀ v, (a.entryD "input").entry "code" = some v → v = defaultCode
  input : a.entry "code_input" = none → ∀ v, (a.entryD "input").entry "code_input" = some v →
    v.truthy = true → v = defaultCodeInput

theorem lookup_liftField_self {input d : Fields} {key : PyStr} :
    (liftField input d key).lookup key = (d.lookup key).or (input.lookup key) := by
  rw [liftField]
  cases hd : d.lookup key with
  | some own => exact hd
  | none =>
    cases hinput : input.lookup key with
    | none => exact hd
    | some v => exact lookup_upsert_self

theorem entry_code_liftCode :
    (liftCode a).entry "code" = (a.entry "code").or ((a.entryD "input").entry "code") := by
  have hfields : ∀ v : PyValue, (fieldsOf v).lookup (text "code") = v.entry "code" := by
    intro v
    cases v <;> rfl
  show (liftField _ (liftField _ _ _) _).lookup (text "code") = _
  rw [lookup_liftField (by decide), lookup_liftField_self, hfields, hfields]

theorem entry_codeInput_liftCode : (liftCode a).entry "code_input" =
    (a.entry "code_input").or ((a.entryD "input").entry "code_input") := by
  have hfields : ∀ v : PyValue, (fieldsOf v).lookup (text "code_input") = v.entry "code_input" := by
    intro v
    cases v <;> rfl
  show (liftField _ (liftField _ _ _) _).lookup (text "code_input") = _
  rw [lookup_liftField_self, lookup_liftField (by decide), hfields, hfields]

/-- The action has the code, and the input of the code, that are lifted. -/
theorem codeAgrees_iff : CodeAgrees a ↔
    codeOf a = codeOf (liftCode a) ∧ codeInputOf a = codeInputOf (liftCode a) := by
  have hcode : codeOf a = codeOf (liftCode a) ↔
      (a.entry "code" = none → ∀ v, (a.entryD "input").entry "code" = some v →
        v = defaultCode) := by
    rw [codeOf, codeOf, entry_code_liftCode]
    cases a.entry "code" with
    | some own => exact iff_of_true rfl fun h ↦ absurd h (by simp)
    | none =>
      cases (a.entryD "input").entry "code" with
      | none => exact iff_of_true rfl fun _ v h ↦ absurd h (by simp)
      | some v =>
        constructor
        · intro h _ w hw
          obtain rfl := Option.some.inj hw
          exact h.symm
        · intro h
          exact (h rfl v rfl).symm
  have hinput : codeInputOf a = codeInputOf (liftCode a) ↔
      (a.entry "code_input" = none → ∀ v, (a.entryD "input").entry "code_input" = some v →
        v.truthy = true → v = defaultCodeInput) := by
    rw [codeInputOf, codeInputOf, entryD, entryD, entry_codeInput_liftCode]
    cases a.entry "code_input" with
    | some own => exact iff_of_true rfl fun h ↦ absurd h (by simp)
    | none =>
      cases (a.entryD "input").entry "code_input" with
      | none => exact iff_of_true rfl fun _ v h ↦ absurd h (by simp)
      | some v =>
        show defaultCodeInput = v.orElse defaultCodeInput ↔ _
        rw [orElse]
        constructor
        · intro h _ w hw htruthy
          obtain rfl := Option.some.inj hw
          rw [if_pos htruthy] at h
          exact h.symm
        · intro h
          split
          · rename_i htruthy
            exact (h rfl v rfl htruthy).symm
          · rfl
  rw [hcode, hinput]
  exact ⟨fun h ↦ ⟨h.code, h.input⟩, fun h ↦ ⟨h.1, h.2⟩⟩

/-- The settings of a step with code. -/
def codeSettings (spec : PyValue) : PyValue :=
  pyDict [("input", codeInputOf spec),
    ("sourceCode", pyDict [("code", codeOf spec),
      ("packageJson", py "\x7b\"dependencies\": \x7b\x7d\x7d")]),
    ("inputUiInfo", .dict []), ("errorHandlingOptions", errorHandlingOptions)]

theorem entryD_input_codeSettings : (codeSettings spec).entryD "input" = codeInputOf spec := by
  rw [codeSettings, entryD, entry_pyDict]
  rfl

theorem entryD_code_codeSettings :
    ((codeSettings spec).entryD "sourceCode").entryD "code" = codeOf spec := by
  have hsource : (codeSettings spec).entryD "sourceCode" = pyDict [("code", codeOf spec),
      ("packageJson", py "\x7b\"dependencies\": \x7b\x7d\x7d")] := by
    rw [codeSettings, entryD, entry_pyDict]
    rfl
  rw [hsource, entryD, entry_pyDict]
  rfl

/-- What a run has gone through that builds a step with code. -/
theorem exists_of_runs_code (htype : (stepType spec).isStr (text "CODE") = true)
    (h : (buildStepFromSpec env spec next).Runs s l (.ok node) t) :
    node = withNext [("name", .str (stepName s.counter)), ("type", py "CODE"),
        ("valid", .bool true), ("displayName", (spec.entry "display_name").getD (py "Code")),
        ("settings", codeSettings spec)] next ∧
      t = s.reported (structureReport (stepName s.counter) "CODE"
        ((spec.entry "display_name").getD (py "Code")) []) := by
  rw [buildStepFromSpec] at h
  obtain ⟨stype, hstype, h⟩ := runs_evalPy_bind_ok_iff.1 h
  obtain ⟨-, rfl⟩ := getD_eq_ok_iff.1 hstype
  replace h := runs_nextNumber_bind_iff.1 h
  change Runs (if (stepType spec).isStr (text "PIECE") then _ else _) _ _ _ _ at h
  rw [if_neg fun hpiece ↦ absurd (not_typed_both hpiece htype) (by decide)] at h
  change Runs (if (stepType spec).isStr (text "CODE") then _ else _) _ _ _ _ at h
  rw [if_pos htype] at h
  obtain ⟨display, hdisplay, h⟩ := runs_evalPy_bind_ok_iff.1 h
  obtain ⟨-, rfl⟩ := getD_eq_ok_iff.1 hdisplay
  obtain ⟨code, hcode, h⟩ := runs_evalPy_bind_ok_iff.1 (runs_report_bind_iff.1 h)
  obtain ⟨-, rfl⟩ := getD_eq_ok_iff.1 hcode
  obtain ⟨input, hinput, h⟩ := runs_evalPy_bind_ok_iff.1 h
  obtain ⟨-, rfl⟩ := getD_eq_ok_iff.1 hinput
  obtain ⟨-, hnode, rfl⟩ := runs_pure_iff.1 h
  exact ⟨Except.ok.inj hnode, rfl⟩

/-- **An action with code** is built alike when the lifted code is the code that it has. -/
theorem decided_code (htype : (stepType a).isStr (text "CODE") = true) :
    SpecPair.Decided env answer ⟨a, liftCode a, CodeAgrees a⟩ := by
  have htype' : (stepType (liftCode a)).isStr (text "CODE") = true := by
    rwa [stepType, entry_liftCode (by decide) (by decide)]
  refine ⟨?_, ?_⟩
  · intro next next' node node' s s' t t' l l' h h' _ _ hsame
    obtain ⟨rfl, -⟩ := exists_of_runs_code htype h
    obtain ⟨rfl, -⟩ := exists_of_runs_code htype' h'
    have hsettings := hsame.entryD_eq "settings" (by decide) (by decide)
    rw [entryD_withNext (by decide), entryD_withNext (by decide)] at hsettings
    replace hsettings : codeSettings a = codeSettings (liftCode a) := hsettings
    have hinput := congrArg (entryD · "input") hsettings
    have hcode := congrArg (fun v ↦ (v.entryD "sourceCode").entryD "code") hsettings
    rw [entryD_input_codeSettings, entryD_input_codeSettings] at hinput
    rw [entryD_code_codeSettings, entryD_code_codeSettings] at hcode
    exact codeAgrees_iff.2 ⟨hcode, hinput⟩
  · intro hagree next node node' s t t' l l' h h' _ _
    obtain ⟨rfl, rfl⟩ := exists_of_runs_code htype h
    obtain ⟨rfl, rfl⟩ := exists_of_runs_code htype' h'
    obtain ⟨hcode, hinput⟩ := codeAgrees_iff.1 hagree
    rw [codeSettings, codeSettings, hcode, hinput,
      entry_liftCode (show text "display_name" ≠ text "code" by decide) (by decide)]
    exact ⟨rfl, rfl⟩

end Code

end Siyadah
