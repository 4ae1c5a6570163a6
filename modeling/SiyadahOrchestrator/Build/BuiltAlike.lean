import SiyadahOrchestrator.Build.StepConnections

/-!
# Built alike

`v2_build_dynamic` and, over MCP, `build_dynamic_flow` make a tree out of the same request. They
resolve its pieces alike, and differ in what follows. Over REST the connections that the gate has
found come first, and the connection of a step is written over the one that stands in its input;
over MCP it is only written where there is none. Over MCP the code of a step may stand in its input.
And a trigger without an input, or with the empty string for a piece, gets different defaults.

`ActionBuiltAlike` and `TriggerBuiltAlike` say when none of this makes a difference. The actions are
compared along the two loops (`exists_pairs_of_runs`).
-/

namespace Siyadah

open Dialogue PyValue

/-! ### The connections that the gate finds -/

section Found

variable {live : List PyValue} {overrides : List (PyStr × PyStr)} {t : ConnectionTables}
  {full : PyStr} {schema : PyValue} {g g' : GateLists}

/-- The connection of a piece is the one that the request names, if it names one. -/
structure Honours (overrides : List (PyStr × PyStr)) (ids : Fields) : Prop where
  nodup : (ids.map Prod.fst).Nodup
  named : ∀ short cid v, overrides.lookup short = some cid → cid ≠ [] → ids.lookup short = some v →
    v = .str cid

theorem honours_classifyPiece (h : classifyPiece live overrides t full schema g = .ok g')
    (hg : Honours overrides g.connectionIds) : Honours overrides g'.connectionIds := by
  have hupsert : ∀ v, (∀ cid, overrides.lookup (shortName full) = some cid → cid ≠ [] →
      v = .str cid) → Honours overrides (upsert g.connectionIds (shortName full) v) := by
    intro v hv
    refine ⟨nodup_keys_upsert hg.nodup, fun short cid w hcid hne hw ↦ ?_⟩
    by_cases hshort : short = shortName full
    · subst hshort
      obtain rfl := Option.some.inj (lookup_upsert_self.symm.trans hw)
      exact hv cid hcid hne
    · exact hg.named short cid w hcid hne ((lookup_upsert_of_ne hshort).symm.trans hw)
  obtain ⟨required, -, h⟩ := bind_eq_ok_iff.1 h
  cases required with
  | false =>
    obtain rfl := Except.ok.inj h
    exact hg
  | true =>
    obtain ⟨authType, -, h⟩ := bind_eq_ok_iff.1 h
    dsimp only at h
    split at h
    · rename_i hne
      split at h
      · split at h
        · obtain rfl := Except.ok.inj h
          refine hupsert _ fun cid hcid _ ↦ ?_
          rw [hcid]
          rfl
        · obtain rfl := Except.ok.inj h
          exact hg
      · obtain rfl := Except.ok.inj h
        exact hg
    · rename_i hnone
      split at h
      · obtain rfl := Except.ok.inj h
        refine hupsert _ fun cid hcid hne ↦ absurd ?_ hnone
        rw [hcid]
        exact hne
      · obtain rfl := Except.ok.inj h
        exact hg

theorem honours_classifyPieces {rest : List PyStr} {s u : BuilderState}
    {l : List (CatalogQuery × Except EngineError PyValue)}
    (h : (classifyPieces live overrides evalPy fetchPieceSchema t rest g).Runs s l (.ok g') u)
    (hg : Honours overrides g.connectionIds) : Honours overrides g'.connectionIds := by
  induction rest generalizing g s l with
  | nil =>
    obtain ⟨-, hg', -⟩ := runs_pure_iff.1 h
    obtain rfl := Except.ok.inj hg'
    exact hg
  | cons full rest ih =>
    obtain ⟨l₁, l₂, schema, v, rfl, -, h⟩ := runs_bind_ok_iff.1 h
    obtain ⟨next, hnext, h⟩ := runs_evalPy_bind_ok_iff.1 h
    exact ih h (honours_classifyPiece hnext hg)

/-- **The gate honours the connections that the request names.** -/
theorem honours_gatedTrigger {env : BuilderEnv} {body : DynamicBuildBody} {s u : BuilderState}
    {l : List (CatalogQuery × Except EngineError PyValue)}
    {gated : ResolvedTrigger × ConnectionGate}
    (h : (gatedTrigger env body).Runs s l (.ok gated) u) :
    Honours (body.connections env) gated.2.connectionIds := by
  obtain ⟨l₁, l₂, trigger, v, rfl, -, h⟩ := runs_bind_ok_iff.1 h
  obtain ⟨l₃, l₄, live, w, rfl, -, h⟩ := runs_bind_ok_iff.1 h
  obtain ⟨l₅, l₆, gate, x, rfl, hgate, h⟩ := runs_bind_ok_iff.1 h
  obtain ⟨-, hgated, -⟩ := runs_pure_iff.1 h
  obtain rfl := Except.ok.inj hgated
  obtain ⟨pieces, -, hgate⟩ := runs_evalPy_bind_ok_iff.1 hgate
  obtain ⟨tables, -, hgate⟩ := runs_evalPy_bind_ok_iff.1 hgate
  obtain ⟨l₇, l₈, lists, y, -, hlists, hgate⟩ := runs_bind_ok_iff.1 hgate
  obtain ⟨-, hgate, -⟩ := runs_pure_iff.1 hgate
  obtain rfl := Except.ok.inj hgate
  exact honours_classifyPieces hlists ⟨List.nodup_nil, fun _ _ _ _ _ h ↦ absurd h (by simp)⟩

end Found

/-! ### The connection of an action -/

section Connection

/-- The connection that the input of an action has. -/
def ownAuth (a : PyValue) : Option PyValue :=
  match toDict ((a.entry "input").getD (.dict [])) with
  | .ok fields => (cleanInputConfig fields).lookup (text "auth")
  | .error _ => none

/-- The id that the action gives, or the one of its piece. -/
def connectionIdOf (cn : Fields) (a : PyValue) (short : PyStr) : PyValue :=
  (a.entry "connection_id").getD ((cn.lookup short).getD (py ""))

/-- The connections of a request, as values. -/
def DynamicBuildBody.connectionFields (env : BuilderEnv) (body : DynamicBuildBody) : Fields :=
  (body.connections env).map fun c ↦ (c.1, .str c.2)

/-- The connections of the request and, over them, those that the gate has found. -/
def withFound (found cn : Fields) : Fields := found.foldl (fun cn c ↦ upsert cn c.1 c.2) cn

variable {env : BuilderEnv} {a : PyValue} {r : ResolvedAction} {s t : BuilderState}
  {l : List (CatalogQuery × Except EngineError PyValue)}

theorem lookup_auth_actionSettings {resolved : PyStr × PyValue}
    {settings : PyValue × Fields × Fields} (h : actionSettings env a resolved = .ok settings) :
    settings.2.1.lookup (text "auth") = ownAuth a := by
  obtain ⟨explicit, -, h⟩ := bind_eq_ok_iff.1 h
  obtain ⟨raw, hraw, h⟩ := bind_eq_ok_iff.1 h
  obtain ⟨-, rfl⟩ := getD_eq_ok_iff.1 hraw
  obtain ⟨fields, hfields, h⟩ := bind_eq_ok_iff.1 h
  rw [ownAuth, hfields]
  split at h
  · obtain rfl := Except.ok.inj h
    rfl
  · obtain ⟨version, -, h⟩ := bind_eq_ok_iff.1 h
    obtain ⟨actionName, -, h⟩ := bind_eq_ok_iff.1 h
    obtain ⟨props, -, h⟩ := bind_eq_ok_iff.1 h
    obtain ⟨generated, hgenerated, h⟩ := bind_eq_ok_iff.1 h
    obtain rfl := Except.ok.inj h
    exact lookup_auth_generatePropertySettings hgenerated

/-- The names of a resolved action are those of its piece, and its connection is its own. -/
theorem resolves_of_runs_resolveActionSpec (h : (resolveActionSpec env a).Runs s l (.ok r) t) :
    ∃ name resolved, (a.entry "piece").getD (py "") = .str name ∧
      Resolves env.runtime l name resolved ∧ r.full = fullName resolved.1 ∧
      r.short = shortName resolved.1 ∧ r.input.lookup (text "auth") = ownAuth a := by
  obtain ⟨piece, hpiece, h⟩ := runs_evalPy_bind_ok_iff.1 h
  obtain ⟨-, rfl⟩ := getD_eq_ok_iff.1 hpiece
  obtain ⟨name, hname, h⟩ := runs_evalPy_bind_ok_iff.1 h
  obtain ⟨l₁, l₂, resolved, u, rfl, hresolve, h⟩ := runs_bind_ok_iff.1 h
  obtain ⟨settings, hsettings, h⟩ := runs_evalPy_bind_ok_iff.1 h
  obtain ⟨rfl, hr, -⟩ := runs_pure_iff.1 h
  obtain rfl := Except.ok.inj hr
  obtain ⟨-, hresolves⟩ := stateless_autoResolvePiece name _ _ _ _ hresolve
  rw [List.append_nil]
  exact ⟨name, resolved, pieceText_eq_ok hname, hresolves, rfl, rfl,
    lookup_auth_actionSettings hsettings⟩

theorem exists_of_runs_resolveActionSpec {answer : CatalogQuery → Except EngineError PyValue}
    (h : (resolveActionSpec env a).Runs s l (.ok r) t) (hl : ∀ e ∈ l, AnsweredBy answer e) :
    ∃ name resolved, (a.entry "piece").getD (py "") = .str name ∧
      ResolvedBy env answer name resolved ∧ r.full = fullName resolved.1 ∧
      r.short = shortName resolved.1 ∧ r.input.lookup (text "auth") = ownAuth a := by
  obtain ⟨name, resolved, hname, hresolves, hr⟩ := resolves_of_runs_resolveActionSpec h
  exact ⟨name, resolved, hname, resolvedBy_of_runs hresolves hl, hr⟩

/-! Which connection a step gets. -/

variable {overrides : List (PyStr × PyStr)} {found cn : Fields} {short : PyStr}

theorem lookup_withFound (h : (found.map Prod.fst).Nodup) :
    (withFound found cn).lookup short = (found.lookup short).or (cn.lookup short) := by
  have hiff : ∀ v, (withFound found cn).lookup short = some v ↔
      (found.lookup short).or (cn.lookup short) = some v := by
    intro v
    rw [withFound, lookup_foldl_upsert_iff h, Option.or_eq_some_iff, lookup_eq_some_iff_mem h]
    refine or_congr ⟨?_, fun hmem ↦ ⟨_, hmem, rfl, rfl⟩⟩ (and_congr_left' ?_)
    · rintro ⟨c, hc, rfl, rfl⟩
      exact hc
    · rw [mem_keys_iff, ← Option.isSome_iff_exists, Option.not_isSome_iff_eq_none]
  exact Option.ext hiff

/-- Both endpoints leave the same connection in a step whose piece is found under the one name by
the endpoint, and under the other one by the builder. -/
structure SameConnection (env : BuilderEnv) (cn found : Fields) (a : PyValue)
    (short resolved : PyStr) : Prop where
  /-- A connection that stands in the input is the one that is written over it. -/
  own : ∀ v, ownAuth a = some v → (connectionIdOf (withFound found cn) a short).truthy = true →
    connectionRefOf (connectionIdOf (withFound found cn) a short) = .ok v
  /-- A connection that nobody but the gate has found is the default one. -/
  found : ownAuth a = none → a.entry "connection_id" = none →
    ((cn.lookup short).getD (py "")).truthy = false → ∀ id, found.lookup short = some id →
      id.truthy = true → ∀ v, connectionRefOf id = .ok v → env.defaultAuth resolved = some v

theorem lookup_map_str :
    (overrides.map fun c ↦ (c.1, PyValue.str c.2)).lookup short =
      (overrides.lookup short).map .str := by
  induction overrides with
  | nil => rfl
  | cons c overrides ih =>
    rw [List.map_cons, List.lookup_cons, List.lookup_cons, ih]
    split <;> rfl

/-- Where the gate has found what the request names, both use it. -/
theorem found_cases (hfound : Honours overrides found) {id : PyValue}
    (hid : found.lookup short = some id)
    (hcn : cn = overrides.map fun c ↦ (c.1, PyValue.str c.2)) :
    (cn.lookup short).getD (py "") = id ∨ ((cn.lookup short).getD (py "")).truthy = false := by
  rw [hcn, lookup_map_str]
  cases hnamed : overrides.lookup short with
  | none => exact .inr rfl
  | some cid =>
    by_cases hne : cid = []
    · subst hne
      exact .inr rfl
    · exact .inl (hfound.named short cid id hnamed hne hid).symm

theorem restAuth_eq_mcpAuth_iff (hfound : Honours overrides found)
    (hcn : cn = overrides.map fun c ↦ (c.1, PyValue.str c.2)) {own : Option PyValue}
    {resolved : PyStr} (hown : own = ownAuth a)
    (hrest : (connectionIdOf (withFound found cn) a short).truthy = true →
      ∃ v, connectionRefOf (connectionIdOf (withFound found cn) a short) = .ok v) :
    restAuth env (connectionIdOf (withFound found cn) a short) own resolved =
        mcpAuth env (connectionIdOf cn a short) own resolved ↔
      SameConnection env cn found a short resolved := by
  cases own with
  | some own =>
    have hnone : ownAuth a ≠ none := by simp [← hown]
    have hiff : SameConnection env cn found a short resolved ↔
        ((connectionIdOf (withFound found cn) a short).truthy = true →
          connectionRefOf (connectionIdOf (withFound found cn) a short) = .ok own) := by
      constructor
      · exact fun h ↦ h.own own hown.symm
      · refine fun h ↦ ⟨fun v hv ↦ ?_, fun h ↦ absurd h hnone⟩
        obtain rfl := Option.some.inj (hown.trans hv)
        exact h
    rw [hiff, restAuth, mcpAuth]
    split
    · rename_i htruthy
      obtain ⟨v, hv⟩ := hrest htruthy
      rw [hv, imp_iff_right htruthy, Except.ok.injEq]
      show some v = some own ↔ _
      rw [Option.some.injEq]
    · rename_i hfalsy
      exact iff_of_true rfl fun h ↦ absurd h hfalsy
  | none =>
    have hnone : ∀ v, ownAuth a ≠ some v := by simp [← hown]
    rw [restAuth, mcpAuth, Option.none_or, Option.none_or]
    cases hconn : a.entry "connection_id" with
    | some c =>
      rw [connectionIdOf, connectionIdOf, hconn]
      refine iff_of_true rfl ⟨fun v hv ↦ absurd hv (hnone v), fun _ h ↦ ?_⟩
      exact absurd (hconn.symm.trans h) (by simp)
    | none =>
      have hnamed : connectionIdOf cn a short = (cn.lookup short).getD (py "") := by
        rw [connectionIdOf, hconn]
        rfl
      have hchosen : connectionIdOf (withFound found cn) a short =
          ((found.lookup short).or (cn.lookup short)).getD (py "") := by
        rw [connectionIdOf, hconn, lookup_withFound hfound.nodup]
        rfl
      rw [hchosen] at hrest
      rw [hchosen, hnamed]
      cases hid : found.lookup short with
      | none =>
        refine iff_of_true rfl ⟨fun v hv ↦ absurd hv (hnone v), fun _ _ _ id h ↦ ?_⟩
        exact absurd (hid.symm.trans h) (by simp)
      | some id =>
        rw [hid, Option.some_or, Option.getD_some] at hrest
        rw [Option.some_or, Option.getD_some]
        rcases found_cases hfound hid hcn with heq | hfalsy
        · -- the request names it too
          rw [heq]
          refine iff_of_true rfl ⟨fun v hv ↦ absurd hv (hnone v), fun _ _ hfalsy id' h htruthy ↦ ?_⟩
          obtain rfl := Option.some.inj (hid.symm.trans h)
          rw [heq, htruthy] at hfalsy
          exact absurd hfalsy (by decide)
        · rw [hfalsy]
          show (if id.truthy then _ else env.defaultAuth resolved) = env.defaultAuth resolved ↔ _
          split
          · rename_i htruthy
            obtain ⟨v, hv⟩ := hrest htruthy
            rw [hv]
            constructor
            · intro h
              refine ⟨fun w hw ↦ absurd hw (hnone w), fun _ _ _ id' hid' _ w hw ↦ ?_⟩
              obtain rfl := Option.some.inj (hid.symm.trans hid')
              obtain rfl := Except.ok.inj (hv.symm.trans hw)
              exact h.symm
            · intro h
              exact (h.found hown.symm hconn hfalsy id hid htruthy v hv).symm
          · rename_i hempty
            refine iff_of_true rfl ⟨fun v hv ↦ absurd hv (hnone v), fun _ _ _ id' h htruthy ↦ ?_⟩
            obtain rfl := Option.some.inj (hid.symm.trans h)
            exact absurd htruthy hempty

end Connection

/-! ### The actions of a request -/

section Actions

variable {env : BuilderEnv} {answer : CatalogQuery → Except EngineError PyValue}
  {overrides : List (PyStr × PyStr)} {found cn : Fields} {a spec spec' : PyValue}
  {as specs' : List PyValue} {specs : List PyValue × List PyStr} {s s' t t' : BuilderState}
  {connection : PyValue → PyStr → Except PyError PyValue}
  {check : PyValue → Except EngineError Unit}
  {l l' : List (CatalogQuery × Except EngineError PyValue)}

/-- The step of the action is built alike by both endpoints. -/
structure ActionBuiltAlike (env : BuilderEnv) (answer : CatalogQuery → Except EngineError PyValue)
    (cn found : Fields) (a : PyValue) : Prop where
  /-- The builder resolves a piece once more, under its full name. -/
  piece : IsPieceStep a → ∀ name first second, (a.entry "piece").getD (py "") = .str name →
    ResolvedBy env answer name first → ResolvedBy env answer (fullName first.1).strip second →
      SameConnection env cn found a (shortName first.1) (shortName second.1)
  code : (stepType a).isStr (text "CODE") = true → CodeAgrees a

/-- What a run for the first action has gone through. -/
theorem exists_of_runs_chainSpecs_cons
    (h : (chainSpecs env connection (a :: as)).Runs s l (.ok specs) t) :
    ∃ l₁ l₂ spec others u, l = l₁ ++ l₂ ∧ specs.1 = spec :: others.1 ∧
      (¬ IsPieceStep a ∧ spec = a ∧ l₁ = [] ∨ IsPieceStep a ∧ ∃ r connId input v,
        (resolveActionSpec env a).Runs s l₁ (.ok r) v ∧ connection a r.short = .ok connId ∧
          connectInput connId r.input = .ok input ∧ chainSpec a r input = .ok spec) ∧
      (chainSpecs env connection as).Runs u l₂ (.ok others) t := by
  obtain ⟨stype, hstype, h⟩ := runs_evalPy_bind_ok_iff.1 h
  obtain ⟨-, rfl⟩ := getD_eq_ok_iff.1 hstype
  split at h
  · rename_i hother
    obtain ⟨l₁, l₂, others, u, rfl, hothers, h⟩ := runs_bind_ok_iff.1 h
    obtain ⟨rfl, hspecs, rfl⟩ := runs_pure_iff.1 h
    obtain rfl := Except.ok.inj hspecs
    refine ⟨[], l₁, a, others, s, List.append_nil _, rfl, .inl ⟨?_, rfl, rfl⟩, hothers⟩
    intro ha
    change (stepType a).isStr (text "PIECE") = true at ha
    change (!(stepType a).isStr (text "PIECE")) = true at hother
    rw [ha] at hother
    exact absurd hother (by decide)
  · rename_i hpiece
    obtain ⟨l₁, l₂, r, u, rfl, hr, h⟩ := runs_bind_ok_iff.1 h
    obtain ⟨connId, hconn, h⟩ := runs_evalPy_bind_ok_iff.1 h
    obtain ⟨input, hinput, h⟩ := runs_evalPy_bind_ok_iff.1 h
    obtain ⟨spec, hspec, h⟩ := runs_evalPy_bind_ok_iff.1 h
    obtain ⟨l₃, l₄, others, v, rfl, hothers, h⟩ := runs_bind_ok_iff.1 h
    obtain ⟨rfl, hspecs, rfl⟩ := runs_pure_iff.1 h
    obtain rfl := Except.ok.inj hspecs
    refine ⟨l₁, l₃, spec, others, u, by rw [List.append_nil], rfl, .inr ⟨?_, r, connId, input, u,
      hr, hconn, hinput, hspec⟩, hothers⟩
    change ¬ (!(stepType a).isStr (text "PIECE")) = true at hpiece
    rw [Bool.not_eq_true, Bool.not_eq_false'] at hpiece
    exact hpiece

/-- The action that both endpoints resolve is the same. -/
theorem unique_resolveActionSpec {r r' : ResolvedAction}
    (h : (resolveActionSpec env a).Runs s l (.ok r) t)
    (h' : (resolveActionSpec env a).Runs s' l' (.ok r') t')
    (hl : ∀ e ∈ l, AnsweredBy answer e) (hl' : ∀ e ∈ l', AnsweredBy answer e) : r = r' := by
  obtain ⟨-, hagain⟩ := (looksUp_resolveActionSpec a).stateless _ _ _ _ h'
  exact Except.ok.inj (unique_of_answeredBy h (hagain s) hl hl').1

theorem exists_of_connectInput {connId : PyValue} {input input' : Fields}
    (h : connectInput connId input = .ok input') (htruthy : connId.truthy = true) :
    ∃ v, connectionRefOf connId = .ok v := by
  rw [connectInput, if_pos htruthy] at h
  cases hv : connectionRefOf connId with
  | ok v => exact ⟨v, rfl⟩
  | error e =>
    rw [hv] at h
    cases h

/-- **An action that uses a piece** is built alike when it gets the same connection. -/
theorem decided_of_pieceSpecs {connId connId' : PyValue} {r : ResolvedAction}
    {input input' : Fields} (ha : IsPieceStep a) (hdistinct : DistinctInput a)
    (hfound : Honours overrides found) (hcn : cn = overrides.map fun c ↦ (c.1, PyValue.str c.2))
    (hr : (resolveActionSpec env a).Runs s l (.ok r) t) (hl : ∀ e ∈ l, AnsweredBy answer e)
    (hconn : ownConnection (withFound found cn) a r.short = .ok connId)
    (hinput : connectInput connId r.input = .ok input) (hspec : chainSpec a r input = .ok spec)
    (hconn' : ownConnection cn a r.short = .ok connId')
    (hinput' : keepOwnAuth connId' r.input = .ok input')
    (hspec' : chainSpec a r input' = .ok spec') :
    SpecPair.Decided env answer ⟨spec, spec', ActionBuiltAlike env answer cn found a⟩ := by
  obtain ⟨hkeeps, hnodup⟩ := kept_resolveActionSpec hr
  replace hnodup := hnodup hdistinct
  obtain ⟨name, first, hname, hfirst, hfull, hshort, hown⟩ :=
    exists_of_runs_resolveActionSpec hr hl
  obtain ⟨-, rfl⟩ := getD_eq_ok_iff.1 hconn
  obtain ⟨-, rfl⟩ := getD_eq_ok_iff.1 hconn'
  refine decided_chainSpec hspec hspec' (butForAuth_connectInput hnodup hkeeps hinput)
    (fun short ↦ (keepOwnAuth_spec hnodup hkeeps hinput' short).1) ?_
  intro second hsecond
  rw [lookup_auth_connectInput hkeeps hinput, (keepOwnAuth_spec hnodup hkeeps hinput' _).2]
  refine Iff.trans ?_ (restAuth_eq_mcpAuth_iff hfound hcn hown ?_).symm
  · rw [hfull] at hsecond
    rw [hshort]
    constructor
    · exact fun h ↦ h.piece ha name first second hname hfirst hsecond
    · refine fun h ↦ ⟨fun _ name' first' second' hname' hfirst' hsecond' ↦ ?_, fun hcode ↦ ?_⟩
      · obtain rfl := PyValue.str.inj (hname.symm.trans hname')
        obtain rfl := hfirst.unique hfirst'
        obtain rfl := hsecond.unique hsecond'
        exact h
      · exact absurd (not_typed_both ha hcode) (by decide)
  · exact exists_of_connectInput hinput

/-- An action that uses none gets no connection. -/
theorem decided_of_not_pieceSpec (ha : ¬ IsPieceStep a)
    (hspec' : (mcpSpec env check cn a).Runs s l (.ok spec') t) :
    SpecPair.Decided env answer ⟨a, spec', ActionBuiltAlike env answer cn found a⟩ := by
  obtain ⟨stype, hstype, hspec'⟩ := runs_evalPy_bind_ok_iff.1 hspec'
  obtain ⟨-, rfl⟩ := getD_eq_ok_iff.1 hstype
  change Runs (if (stepType a).isStr (text "PIECE") then _ else _) _ _ _ _ at hspec'
  have hne : ¬ (stepType a).isStr (text "PIECE") = true := ha
  rw [if_neg hne] at hspec'
  split at hspec'
  · rename_i hcode
    obtain ⟨-, hspec', -⟩ := runs_pure_iff.1 hspec'
    obtain rfl := Except.ok.inj hspec'
    have hiff : ActionBuiltAlike env answer cn found a ↔ CodeAgrees a :=
      ⟨fun h ↦ h.code hcode, fun h ↦ ⟨fun h ↦ absurd h ha, fun _ ↦ h⟩⟩
    rw [hiff]
    exact decided_code hcode
  · rename_i hother
    obtain ⟨-, hspec', -⟩ := runs_pure_iff.1 hspec'
    obtain rfl := Except.ok.inj hspec'
    have hiff : ActionBuiltAlike env answer cn found spec' ↔ True :=
      iff_true_intro ⟨fun h ↦ absurd h ha, fun h ↦ absurd h hother⟩
    rw [hiff]
    exact decided_self spec'

/-- The pairs of a request, along the two loops. -/
theorem exists_pairs_of_runs (hfound : Honours overrides found)
    (hcn : cn = overrides.map fun c ↦ (c.1, PyValue.str c.2))
    (hdistinct : ∀ a ∈ as, DistinctInput a)
    (h : (chainSpecs env (ownConnection (withFound found cn)) as).Runs s l (.ok specs) t)
    (h' : (mcpSpecs env check cn as).Runs s' l' (.ok specs') t')
    (hl : ∀ e ∈ l, AnsweredBy answer e) (hl' : ∀ e ∈ l', AnsweredBy answer e) :
    ∃ pairs : List SpecPair, pairs.map SpecPair.left = specs.1 ∧
      pairs.map SpecPair.right = specs' ∧ (∀ p ∈ pairs, p.Decided env answer) ∧
      ((∀ p ∈ pairs, p.agree) ↔ ∀ a ∈ as, ActionBuiltAlike env answer cn found a) := by
  induction as generalizing s s' l l' specs specs' with
  | nil =>
    obtain ⟨-, hspecs, -⟩ := runs_pure_iff.1 h
    obtain ⟨-, hspecs', -⟩ := runs_pure_iff.1 h'
    obtain rfl := Except.ok.inj hspecs
    obtain rfl := Except.ok.inj hspecs'
    refine ⟨[], rfl, rfl, fun _ hp ↦ absurd hp List.not_mem_nil, ?_⟩
    exact iff_of_true (fun _ hp ↦ absurd hp List.not_mem_nil) fun _ ha ↦ absurd ha List.not_mem_nil
  | cons a as ih =>
    obtain ⟨hfirst, hdistinct⟩ := List.forall_mem_cons.1 hdistinct
    obtain ⟨l₁, l₂, spec, others, u, rfl, hspecs, hspec, hothers⟩ :=
      exists_of_runs_chainSpecs_cons h
    obtain ⟨k₁, k₂, spec', u', rfl, hspec', h'⟩ := runs_bind_ok_iff.1 h'
    obtain ⟨k₃, k₄, others', v', rfl, hothers', h'⟩ := runs_bind_ok_iff.1 h'
    obtain ⟨rfl, hspecs', rfl⟩ := runs_pure_iff.1 h'
    obtain rfl := Except.ok.inj hspecs'
    rw [List.append_nil] at hl'
    obtain ⟨hl₁, hl₂⟩ := List.forall_mem_append.1 hl
    obtain ⟨hk₁, hk₂⟩ := List.forall_mem_append.1 hl'
    obtain ⟨pairs, hleft, hright, hdecided, hagree⟩ := ih hdistinct hothers hothers' hl₂ hk₂
    refine ⟨⟨spec, spec', ActionBuiltAlike env answer cn found a⟩ :: pairs, ?_, ?_, ?_, ?_⟩
    · rw [List.map_cons, hleft, hspecs]
    · rw [List.map_cons, hright]
    · refine List.forall_mem_cons.2 ⟨?_, hdecided⟩
      rcases hspec with ⟨ha, rfl, -⟩ | ⟨ha, r, connId, input, v, hr, hconn, hinput, hspec⟩
      · exact decided_of_not_pieceSpec ha hspec'
      · obtain ⟨-, hspec'⟩ := (runs_mcpSpec_of_piece ha).1 hspec'
        obtain ⟨piece, r', connId', input', shown, -, -, hr', hconn', hinput', -, hspec', -⟩ :=
          runs_mcpPieceSpec_iff.1 hspec'
        obtain rfl := unique_resolveActionSpec hr hr' hl₁ hk₁
        exact decided_of_pieceSpecs ha hfirst hfound hcn hr hl₁ hconn hinput hspec hconn' hinput'
          hspec'
    · rw [List.forall_mem_cons, List.forall_mem_cons, hagree]

end Actions

/-! ### The trigger of a request -/

section Trigger

variable {env : BuilderEnv} {answer : CatalogQuery → Except EngineError PyValue}
  {t : PyValue} {rt : ResolvedTrigger} {full : PyStr} {version : PyValue} {s s' u u' : BuilderState}
  {l l' : List (CatalogQuery × Except EngineError PyValue)}

/-- `t.get("piece", "@activepieces/piece-webhook")`. -/
def triggerPiece (t : PyValue) : PyValue :=
  (t.entry "piece").getD (py "@activepieces/piece-webhook")

/-- A trigger with this name gets this piece, in this version. -/
def TriggerIs (env : BuilderEnv) (answer : CatalogQuery → Except EngineError PyValue)
    (t : PyValue) (name full : PyStr) (version : PyValue) : Prop :=
  ∃ resolved, ResolvedBy env answer name resolved ∧ full = fullName resolved.1 ∧
    versionOr env ((t.entry "version").getD (py "")) resolved.2 resolved.1 = .ok version

/-- The trigger is built alike by both endpoints: it has an input, and if its piece is the empty
string, that resolves to the piece of a webhook. -/
structure TriggerBuiltAlike (env : BuilderEnv)
    (answer : CatalogQuery → Except EngineError PyValue) (t : PyValue) : Prop where
  input : t.entry "input" ≠ none
  piece : t.entry "piece" = some (py "") → ∀ full version full' version',
    TriggerIs env answer t [] full version →
      TriggerIs env answer t (text "@activepieces/piece-webhook") full' version' →
        full = full' ∧ version = version'

theorem TriggerIs.unique {name full' : PyStr} {version' : PyValue}
    (h : TriggerIs env answer t name full version)
    (h' : TriggerIs env answer t name full' version') : full = full' ∧ version = version' := by
  obtain ⟨resolved, hresolved, rfl, hversion⟩ := h
  obtain ⟨resolved', hresolved', rfl, hversion'⟩ := h'
  obtain rfl := hresolved.unique hresolved'
  exact ⟨rfl, Except.ok.inj (hversion.symm.trans hversion')⟩

/-- What a run has gone through that resolves the trigger over REST. -/
theorem resolves_of_runs_resolveTrigger (h : (resolveTrigger env t).Runs s l (.ok rt) u) :
    ∃ name fields resolved, triggerPiece t = .str name ∧ Resolves env.runtime l name resolved ∧
      rt.full = fullName resolved.1 ∧
      versionOr env ((t.entry "version").getD (py "")) resolved.2 resolved.1 = .ok rt.version ∧
      rt.name = (t.entry "trigger_name").getD (py "catch_webhook") ∧
      toDict ((t.entry "input").getD (.dict [])) = .ok fields ∧
      rt.input = cleanInputConfig fields := by
  obtain ⟨piece, hpiece, h⟩ := runs_evalPy_bind_ok_iff.1 h
  obtain ⟨-, rfl⟩ := getD_eq_ok_iff.1 hpiece
  obtain ⟨name, hname, h⟩ := runs_evalPy_bind_ok_iff.1 h
  obtain ⟨l₁, l₂, resolved, v, rfl, hresolve, h⟩ := runs_bind_ok_iff.1 h
  obtain ⟨triggerName, htriggerName, h⟩ := runs_evalPy_bind_ok_iff.1 h
  obtain ⟨-, rfl⟩ := getD_eq_ok_iff.1 htriggerName
  obtain ⟨raw, hraw, h⟩ := runs_evalPy_bind_ok_iff.1 h
  obtain ⟨-, rfl⟩ := getD_eq_ok_iff.1 hraw
  obtain ⟨fields, hfields, h⟩ := runs_evalPy_bind_ok_iff.1 h
  obtain ⟨explicit, hexplicit, h⟩ := runs_evalPy_bind_ok_iff.1 h
  obtain ⟨-, rfl⟩ := getD_eq_ok_iff.1 hexplicit
  obtain ⟨version, hversion, h⟩ := runs_evalPy_bind_ok_iff.1 h
  obtain ⟨rfl, hrt, -⟩ := runs_pure_iff.1 h
  obtain rfl := Except.ok.inj hrt
  obtain ⟨-, hresolves⟩ := stateless_autoResolvePiece name _ _ _ _ hresolve
  rw [List.append_nil]
  exact ⟨name, fields, resolved, pieceText_eq_ok hname, hresolves, rfl, hversion, rfl, hfields,
    rfl⟩

theorem exists_of_runs_resolveTrigger (h : (resolveTrigger env t).Runs s l (.ok rt) u)
    (hl : ∀ e ∈ l, AnsweredBy answer e) :
    ∃ name fields, triggerPiece t = .str name ∧ TriggerIs env answer t name rt.full rt.version ∧
      rt.name = (t.entry "trigger_name").getD (py "catch_webhook") ∧
      toDict ((t.entry "input").getD (.dict [])) = .ok fields ∧
      rt.input = cleanInputConfig fields := by
  obtain ⟨name, fields, resolved, hname, hresolves, hfull, hversion, hrest⟩ :=
    resolves_of_runs_resolveTrigger h
  exact ⟨name, fields, hname, ⟨resolved, resolvedBy_of_runs hresolves hl, hfull, hversion⟩, hrest⟩

/-- What a run has gone through that resolves it over MCP. -/
theorem exists_of_runs_mcpTriggerPiece
    (h : (mcpTriggerPiece env t).Runs s l (.ok (full, version)) u)
    (hl : ∀ e ∈ l, AnsweredBy answer e) :
    ∃ name, (t.entryD "piece").orElse (py "@activepieces/piece-webhook") = .str name ∧
      TriggerIs env answer t name full version := by
  obtain ⟨piece, hpiece, h⟩ := runs_evalPy_bind_ok_iff.1 h
  obtain ⟨-, rfl⟩ := getD_eq_ok_iff.1 hpiece
  obtain ⟨name, hname, h⟩ := runs_evalPy_bind_ok_iff.1 h
  obtain ⟨l₁, l₂, resolved, v, rfl, hresolve, h⟩ := runs_bind_ok_iff.1 h
  obtain ⟨explicit, hexplicit, h⟩ := runs_evalPy_bind_ok_iff.1 h
  obtain ⟨-, rfl⟩ := getD_eq_ok_iff.1 hexplicit
  obtain ⟨version', hversion, h⟩ := runs_evalPy_bind_ok_iff.1 h
  obtain ⟨-, heq, -⟩ := runs_pure_iff.1 h
  obtain ⟨rfl, rfl⟩ := Prod.mk.inj (Except.ok.inj heq)
  obtain ⟨-, hresolves⟩ := stateless_autoResolvePiece name _ _ _ _ hresolve
  have hresolved := resolvedBy_of_runs hresolves fun e he ↦ hl e (List.mem_append_left _ he)
  exact ⟨name, pieceText_eq_ok hname, resolved, hresolved, rfl, hversion⟩

/-- The inputs of the trigger are the same, if it has one. -/
theorem input_eq_iff {fields fields' : Fields}
    (h : toDict ((t.entry "input").getD (.dict [])) = .ok fields)
    (h' : mcpTriggerInput t = .ok fields') :
    cleanInputConfig fields = fields' ↔ t.entry "input" ≠ none := by
  obtain ⟨raw, hraw, h'⟩ := bind_eq_ok_iff.1 h'
  obtain ⟨-, rfl⟩ := getD_eq_ok_iff.1 hraw
  obtain ⟨own, hown, h'⟩ := bind_eq_ok_iff.1 h'
  obtain rfl := Except.ok.inj h'
  cases hinput : t.entry "input" with
  | some v =>
    rw [hinput] at h hown
    obtain rfl := Except.ok.inj (h.symm.trans hown)
    exact iff_of_true rfl (by simp)
  | none =>
    rw [hinput] at h hown
    obtain rfl := Except.ok.inj h
    obtain rfl := Except.ok.inj hown
    exact iff_of_false (fun h ↦ absurd (congrArg List.length h) (by decide)) (by simp)

/-- **The trigger** gets the same piece, version and input exactly when it is built alike. -/
theorem triggerBuiltAlike_iff {fields' : Fields}
    (h : (resolveTrigger env t).Runs s l (.ok rt) u)
    (h' : (mcpTriggerPiece env t).Runs s' l' (.ok (full, version)) u')
    (hinput' : mcpTriggerInput t = .ok fields') (hl : ∀ e ∈ l, AnsweredBy answer e)
    (hl' : ∀ e ∈ l', AnsweredBy answer e) :
    (rt.full = full ∧ rt.version = version ∧ PyValue.dict rt.input = .dict fields') ↔
      TriggerBuiltAlike env answer t := by
  obtain ⟨name, fields, hname, his, -, hfields, hinput⟩ := exists_of_runs_resolveTrigger h hl
  obtain ⟨name', hname', his'⟩ := exists_of_runs_mcpTriggerPiece h' hl'
  rw [PyValue.dict.injEq, hinput, input_eq_iff hfields hinput', ← and_assoc]
  have hpiece : rt.full = full ∧ rt.version = version ↔ (t.entry "piece" = some (py "") →
      ∀ full version full' version', TriggerIs env answer t [] full version →
        TriggerIs env answer t (text "@activepieces/piece-webhook") full' version' →
          full = full' ∧ version = version') := by
    rw [triggerPiece] at hname
    rw [entryD] at hname'
    cases hentry : t.entry "piece" with
    | none =>
      rw [hentry] at hname hname'
      obtain rfl := PyValue.str.inj (hname.symm.trans hname')
      exact iff_of_true (his.unique his') fun h ↦ absurd h (by simp)
    | some piece =>
      rw [hentry] at hname hname'
      obtain rfl : piece = .str name := hname
      by_cases hempty : name = []
      · subst hempty
        obtain rfl : text "@activepieces/piece-webhook" = name' := PyValue.str.inj hname'
        constructor
        · rintro ⟨hfull, hversion⟩ - full₁ version₁ full₂ version₂ h₁ h₂
          obtain ⟨rfl, rfl⟩ := his.unique h₁
          obtain ⟨rfl, rfl⟩ := his'.unique h₂
          exact ⟨hfull, hversion⟩
        · exact fun h ↦ h rfl _ _ _ _ his his'
      · have htruthy : (PyValue.str name).truthy = true := by
          cases name with
          | nil => exact absurd rfl hempty
          | cons c name => rfl
        rw [Option.getD_some, orElse, if_pos htruthy] at hname'
        obtain rfl := PyValue.str.inj hname'
        exact iff_of_true (his.unique his') fun h ↦ absurd (PyValue.str.inj (Option.some.inj h))
          hempty
  rw [hpiece]
  exact ⟨fun h ↦ ⟨h.2, h.1⟩, fun h ↦ ⟨h.piece, h.input⟩⟩

end Trigger

end Siyadah
