import SiyadahOrchestrator.Build.BuiltAlike

/-!
# Two ways to build

A run over REST and a run over MCP of the same request, where both reach `golden_build` and
ActivePieces answers both alike: the trees are the same, but for the names that are displayed,
exactly when the trigger and each action are built alike (`sameTree_builds_iff`).
-/

namespace Siyadah

open Dialogue PyValue

/-! ### The two requests -/

section Requests

variable {env : BuilderEnv} {pid stampedAt : PyStr} {visible : Bool} {body : DynamicBuildBody}
  {s t : BuilderState} {x : Except EngineError PyValue}

/-- The trees that `golden_build` is given. -/
def NoTree : DynamicQuery → Prop
  | .goldenBuild _ _ _ => False
  | _ => True

theorem sends_perform {q : DynamicQuery} (hq : NoTree q) : Sends NoTree (perform q) :=
  (sends_ask hq).bind fun _ ↦ sends_lift _

theorem sends_noTree_inCatalog {α : Type} (m : BuilderM α) : Sends NoTree (inCatalog m) :=
  (sends_inCatalog m).mono fun q hq ↦ by
    cases q with
    | catalog q => exact trivial
    | _ => exact hq.elim

/-- A request that is kept as a plan is not built. -/
theorem sends_keepPlan {trigger : ResolvedTrigger} {gate : ConnectionGate} :
    Sends NoTree (keepPlan env pid stampedAt visible body trigger gate) := by
  have hdraft : ∀ tree, Sends NoTree
      (createApVisibleDraftFlow requestEngine pid body.displayName stampedAt tree) := by
    intro tree
    refine (sends_perform (by exact trivial)).bind fun flow ↦ ?_
    dsimp only
    split
    · exact sends_raise _
    · refine (sends_perform (by exact trivial)).bind fun _ ↦ ?_
      refine (sends_perform (by exact trivial)).bind fun _ ↦ ?_
      refine (sends_perform (by exact trivial)).bind fun _ ↦ ?_
      exact (sends_lift _).bind fun _ ↦ sends_pure _
  have hvisible : Sends NoTree (visibleDraft env pid stampedAt visible body trigger gate) := by
    rw [visibleDraft]
    split
    · exact (sends_noTree_inCatalog _).bind fun chain ↦ hdraft _
    · exact sends_pure _
  exact hvisible.bind fun _ ↦ (sends_perform (by exact trivial)).bind fun _ ↦ sends_pure _

/-- The exchanges of a lookup that is part of the request. -/
theorem mem_of_mem_catalog {l : List (DynamicQuery × Except EngineError PyValue)}
    {k : List (CatalogQuery × Except EngineError PyValue)}
    {answer : CatalogQuery → Except EngineError PyValue}
    (hl : ∀ q r, (.catalog q, r) ∈ l → r = answer q)
    (hk : ∀ e ∈ k.map (Prod.map DynamicQuery.catalog id), e ∈ l) :
    ∀ e ∈ k, AnsweredBy answer e := by
  intro e he
  exact hl e.1 e.2 (hk _ (List.mem_map.2 ⟨e, he, rfl⟩))

/-- **A run over REST that reaches `golden_build`**: its lookups, and then that request. -/
theorem exists_of_reaches_goldenBuild {l : List (DynamicQuery × Except EngineError PyValue)}
    {pid' name : PyStr} {tree : PyValue} {r : Except EngineError PyValue}
    (h : (v2BuildDynamic env pid stampedAt visible body).Runs s l x t)
    (hbuilt : (.goldenBuild pid' name tree, r) ∈ l) :
    ∃ k k' gated chain u v,
      l = (k ++ k').map (Prod.map .catalog id) ++ [(.goldenBuild pid' name tree, r)] ∧
      (gatedTrigger env body).Runs s k (.ok gated) u ∧ gated.2.blockedCount = 0 ∧
      (dynamicChain env body (ownConnection (withFound gated.2.connectionIds
        (body.connectionFields env)))).Runs u k' (.ok chain) v ∧
      tree = dynamicTrigger body gated.1 chain.1 := by
  have hnone : ∀ {m : List (DynamicQuery × Except EngineError PyValue)},
      (∀ e ∈ m, NoTree e.1) → (.goldenBuild pid' name tree, r) ∉ m :=
    fun hm hmem ↦ hm _ hmem
  rcases runs_bind_of_sends (sends_noTree_inCatalog _) h with
    ⟨-, hall⟩ | ⟨l₁, l₂, gated, u, rfl, hall, hgated, hrest⟩
  · exact absurd hbuilt (hnone hall)
  replace hbuilt := (List.mem_append.1 hbuilt).resolve_left (hnone hall)
  split at hrest
  · exact absurd hbuilt (hnone (sends_keepPlan _ _ _ _ hrest))
  rename_i hready
  rcases runs_bind_of_sends (sends_noTree_inCatalog _) hrest with
    ⟨-, hall'⟩ | ⟨l₃, l₄, chain, v, rfl, hall', hchain, hbuild⟩
  · exact absurd hbuilt (hnone hall')
  replace hbuilt := (List.mem_append.1 hbuilt).resolve_left (hnone hall')
  obtain ⟨k, rfl, hk⟩ := runs_rename_iff.1 hgated
  obtain ⟨k', rfl, hk'⟩ := runs_rename_iff.1 hchain
  obtain ⟨reply, l₅, rfl, hafter⟩ := runs_perform_bind_iff.1 (runs_getState_bind_iff.1 hbuild)
  -- what follows is computed from the reply
  have hend : l₅ = [] := by
    rcases hafter with ⟨result, rfl, hafter⟩ | ⟨e, rfl, rfl, -⟩
    · have hsends : ∀ e ∈ l₅, False := by
        refine Sends.bind (P := fun _ ↦ False) (sends_lift _) (fun _ ↦ ?_) _ _ _ _ hafter
        refine (sends_lift _).bind fun _ ↦ (sends_lift _).bind fun _ ↦ ?_
        exact (sends_lift _).bind fun _ ↦ sends_pure _
      exact List.eq_nil_iff_forall_not_mem.2 hsends
    · rfl
  subst hend
  have heq := List.mem_singleton.1 hbuilt
  refine ⟨k, k', gated, chain, u, v, ?_, hk, Nat.eq_zero_of_not_pos hready, hk',
    (DynamicQuery.goldenBuild.inj (Prod.mk.inj heq).1).2.2⟩
  rw [heq, List.map_append, List.append_assoc]

/-- **What it has gone through**, where every lookup has a reply of its own. -/
theorem exists_of_built_rest {l : List (DynamicQuery × Except EngineError PyValue)}
    {pid' name : PyStr} {tree : PyValue} {r : Except EngineError PyValue}
    {answer : CatalogQuery → Except EngineError PyValue}
    (h : (v2BuildDynamic env pid stampedAt visible body).Runs s l x t)
    (hbuilt : (.goldenBuild pid' name tree, r) ∈ l)
    (hl : ∀ q r, (.catalog q, r) ∈ l → r = answer q) :
    ∃ k k' gated chain u v, (∀ e ∈ k, AnsweredBy answer e) ∧ (∀ e ∈ k', AnsweredBy answer e) ∧
      (gatedTrigger env body).Runs s k (.ok gated) u ∧ gated.2.blockedCount = 0 ∧
      (dynamicChain env body (ownConnection (withFound gated.2.connectionIds
        (body.connectionFields env)))).Runs u k' (.ok chain) v ∧
      tree = dynamicTrigger body gated.1 chain.1 := by
  obtain ⟨k, k', gated, chain, u, v, rfl, hk, hready, hk', htree⟩ :=
    exists_of_reaches_goldenBuild h hbuilt
  refine ⟨k, k', gated, chain, u, v, mem_of_mem_catalog hl fun e he ↦ ?_,
    mem_of_mem_catalog hl fun e he ↦ ?_, hk, hready, hk', htree⟩
  · rw [List.map_append]
    exact List.mem_append_left _ (List.mem_append_left _ he)
  · rw [List.map_append]
    exact List.mem_append_left _ (List.mem_append_right _ he)

/-- **What a run over MCP has gone through that reaches it.** -/
theorem exists_of_built_mcp {files : RegistryFiles} {cn : Fields} {p name tree : PyValue}
    {pid' : PyStr} {r : Except EngineError PyValue}
    {l : List (McpBuildQuery × Except EngineError PyValue)}
    {answer : CatalogQuery → Except EngineError PyValue}
    (h : (mcpBuildFlow env cn files pid .buildDynamicFlow p).Runs s l x t)
    (hbuilt : (.goldenBuild pid' name tree, r) ∈ l)
    (hl : ∀ q r, (.catalog q, r) ∈ l → r = answer q) :
    ∃ k k' resolved u v, (∀ e ∈ k, AnsweredBy answer e) ∧ (∀ e ∈ k', AnsweredBy answer e) ∧
      (mcpResolve env (validateActionAgainstRegistry env.runtime files) cn p).Runs s k
        (.ok resolved) u ∧
      (mcpTrigger env p resolved).Runs u k' (.ok tree) v := by
  have hnone : ∀ k : List (CatalogQuery × Except EngineError PyValue),
      (McpBuildQuery.goldenBuild pid' name tree, r) ∉ k.map (Prod.map .catalog id) := by
    intro k hk
    obtain ⟨e, -, he⟩ := List.mem_map.1 hk
    exact McpBuildQuery.noConfusion (Prod.mk.inj he).1
  rcases runs_lift_bind_iff.1 h with ⟨p', hp, hrun⟩ | ⟨_, -, rfl, -⟩
  swap
  · exact absurd hbuilt List.not_mem_nil
  obtain rfl : p = p' := Except.ok.inj hp
  rcases runs_bind_iff.1 hrun with ⟨l₁, l₂, resolved, u, rfl, hresolve, hrest⟩ | ⟨_, -, hresolve⟩
  swap
  · obtain ⟨k, rfl, -⟩ := runs_rename_iff.1 hresolve
    exact absurd hbuilt (hnone k)
  obtain ⟨k, rfl, hk⟩ := runs_rename_iff.1 hresolve
  replace hbuilt := (List.mem_append.1 hbuilt).resolve_left (hnone k)
  rcases runs_bind_iff.1 hrest with ⟨l₃, l₄, tree', v, rfl, htrigger, hbuild⟩ | ⟨_, -, htrigger⟩
  swap
  · obtain ⟨k', rfl, -⟩ := runs_rename_iff.1 htrigger
    exact absurd hbuilt (hnone k')
  obtain ⟨k', rfl, hk'⟩ := runs_rename_iff.1 htrigger
  replace hbuilt := (List.mem_append.1 hbuilt).resolve_left (hnone k')
  refine ⟨k, k', resolved, u, v, fun e he ↦ ?_, fun e he ↦ ?_, hk, ?_⟩
  · exact hl e.1 e.2 (List.mem_append_left _ (List.mem_map.2 ⟨e, he, rfl⟩))
  · exact hl e.1 e.2 (List.mem_append_right _ (List.mem_append_left _
      (List.mem_map.2 ⟨e, he, rfl⟩)))
  · rcases runs_lift_bind_iff.1 hbuild with ⟨display, -, hbuild⟩ | ⟨_, -, rfl, -⟩
    · obtain ⟨reply, l₅, rfl, hafter⟩ := runs_ask_bind_iff.1 hbuild
      obtain ⟨rfl, -⟩ := runs_lift_iff.1 hafter
      obtain heq := List.mem_singleton.1 hbuilt
      obtain rfl := (McpBuildQuery.goldenBuild.inj (Prod.mk.inj heq).1).2.2
      exact hk'
    · exact absurd hbuilt List.not_mem_nil

end Requests

/-! ### The main result -/

section Main

variable {env : BuilderEnv} {answer : CatalogQuery → Except EngineError PyValue}
  {pid pid' stampedAt : PyStr} {visible : Bool} {body : DynamicBuildBody} {files : RegistryFiles}
  {s s' t t' : BuilderState}

theorem stateless_classifyPieces {live : List PyValue} {overrides : List (PyStr × PyStr)}
    {tables : ConnectionTables} (pieces : List PyStr) (g : GateLists) :
    Stateless (classifyPieces live overrides evalPy fetchPieceSchema tables pieces g :
      BuilderM GateLists) := by
  induction pieces generalizing g with
  | nil => exact stateless_pure g
  | cons full pieces ih =>
    exact (stateless_fetchPieceSchema full).bind fun schema ↦
      (stateless_lift _).bind fun next ↦ ih next

/-- What the gate finds does not depend on the step that the builder has come to. -/
theorem stateless_gatedTrigger : Stateless (gatedTrigger env body) := by
  have hlive : Stateless listConnections := by
    refine Stateless.ask_bind fun reply ↦ ?_
    cases reply with
    | error e => exact stateless_raise e
    | ok raw =>
      refine (stateless_lift _).bind fun live ↦ ?_
      split
      · exact (stateless_lift _).bind fun items ↦ stateless_pure _
      · exact stateless_pure _
  refine (looksUp_resolveTrigger _).stateless.bind fun trigger ↦ hlive.bind fun live ↦ ?_
  refine Stateless.bind ?_ fun gate ↦ stateless_pure _
  refine (stateless_lift _).bind fun pieces ↦ (stateless_lift _).bind fun tables ↦ ?_
  exact (stateless_classifyPieces _ _).bind fun lists ↦ stateless_pure _

/-- The connections that the gate finds, if ActivePieces answers by the table. -/
def foundConnections (env : BuilderEnv) (answer : CatalogQuery → Except EngineError PyValue)
    (body : DynamicBuildBody) : Fields :=
  match (gatedTrigger env body).against answer ⟨0, []⟩ with
  | .ok gated => gated.2.connectionIds
  | .error _ => []

theorem foundConnections_eq {l : List (CatalogQuery × Except EngineError PyValue)}
    {gated : ResolvedTrigger × ConnectionGate} (h : (gatedTrigger env body).Runs s l (.ok gated) t)
    (hl : ∀ e ∈ l, AnsweredBy answer e) :
    foundConnections env answer body = gated.2.connectionIds := by
  obtain ⟨-, hagain⟩ := stateless_gatedTrigger _ _ _ _ h
  rw [foundConnections, against, Talk.answered_of_runs (hagain ⟨0, []⟩) hl]

theorem triggerOf_dump : triggerOf body.dump = .dict body.trigger := by
  have hentry : body.dump.entryD "trigger" = .dict body.trigger := by
    rw [DynamicBuildBody.dump, entryD, entry_pyDict]
    rfl
  rw [triggerOf, hentry, orElse]
  split
  · rfl
  · rename_i hempty
    cases hfields : body.trigger with
    | nil => rfl
    | cons f fields =>
      rw [hfields] at hempty
      exact absurd rfl hempty

theorem actionsOf_dump : actionsOf body.dump = .list (body.actions.map .dict) := by
  have hentry : body.dump.entryD "actions" = .list (body.actions.map .dict) := by
    rw [DynamicBuildBody.dump, entryD, entry_pyDict]
    rfl
  rw [actionsOf, hentry, orElse]
  split
  · rfl
  · rename_i hempty
    cases hactions : body.actions with
    | nil => rfl
    | cons a actions =>
      rw [hactions] at hempty
      exact absurd rfl hempty

theorem exists_of_runs_gatedTrigger {l : List (CatalogQuery × Except EngineError PyValue)}
    {gated : ResolvedTrigger × ConnectionGate}
    (h : (gatedTrigger env body).Runs s l (.ok gated) t) :
    ∃ l₁ l₂ u, l = l₁ ++ l₂ ∧
      (resolveTrigger env (.dict body.trigger)).Runs s l₁ (.ok gated.1) u := by
  obtain ⟨l₁, l₂, trigger, u, rfl, htrigger, h⟩ := runs_bind_ok_iff.1 h
  obtain ⟨l₃, l₄, live, v, -, -, h⟩ := runs_bind_ok_iff.1 h
  obtain ⟨l₅, l₆, gate, w, -, -, h⟩ := runs_bind_ok_iff.1 h
  obtain ⟨-, hgated, -⟩ := runs_pure_iff.1 h
  obtain rfl := Except.ok.inj hgated
  exact ⟨l₁, l₂, u, rfl, htrigger⟩

theorem exists_of_runs_dynamicChain {l : List (CatalogQuery × Except EngineError PyValue)}
    {connection : PyValue → PyStr → Except PyError PyValue} {chain : PyValue × List PyStr}
    (h : (dynamicChain env body connection).Runs s l (.ok chain) t) :
    ∃ l₁ l₂ specs u v, l = l₁ ++ l₂ ∧
      (chainSpecs env connection (body.actions.map .dict)).Runs s l₁ (.ok specs) u ∧
      (buildActionChain env (.list specs.1)).Runs ⟨1, []⟩ l₂ (.ok chain.1) v := by
  obtain ⟨l₁, l₂, specs, u, rfl, hspecs, h⟩ := runs_bind_ok_iff.1 h
  obtain ⟨l₃, l₄, first, v, rfl, hfirst, h⟩ := runs_bind_ok_iff.1 (runs_setState_bind_iff.1 h)
  obtain ⟨rfl, hchain, -⟩ := runs_pure_iff.1 h
  obtain rfl := Except.ok.inj hchain
  rw [List.append_nil]
  exact ⟨l₁, l₃, specs, u, v, rfl, hspecs, hfirst⟩

theorem exists_of_runs_mcpTrigger {l : List (CatalogQuery × Except EngineError PyValue)}
    {p tree : PyValue} {resolved : McpResolved}
    (h : (mcpTrigger env p resolved).Runs s l (.ok tree) t) :
    ∃ first input v,
      (buildActionChain env (.list resolved.specs)).Runs ⟨1, []⟩ l (.ok first) v ∧
      mcpTriggerInput (triggerOf p) = .ok input ∧
      tree = buildTrigger resolved.full resolved.version
        (((triggerOf p).entry "trigger_name").getD (py "catch_webhook")) (.dict input)
        (py "Trigger") first := by
  obtain ⟨l₁, l₂, first, v, rfl, hfirst, h⟩ := runs_bind_ok_iff.1 (runs_setState_bind_iff.1 h)
  obtain ⟨input, hinput, h⟩ := runs_evalPy_bind_ok_iff.1 h
  obtain ⟨triggerName, hname, h⟩ := runs_evalPy_bind_ok_iff.1 h
  obtain ⟨-, rfl⟩ := getD_eq_ok_iff.1 hname
  obtain ⟨rfl, htree, -⟩ := runs_pure_iff.1 h
  rw [List.append_nil]
  exact ⟨first, input, v, hfirst, hinput, Except.ok.inj htree⟩

/-- **The two endpoints build the same tree** exactly when the trigger and each action of the
request are built alike. -/
theorem sameTree_builds_iff (body : DynamicBuildBody)
    {l : List (DynamicQuery × Except EngineError PyValue)}
    {l' : List (McpBuildQuery × Except EngineError PyValue)}
    {x x' r r' : Except EngineError PyValue} {pid₁ pid₂ name : PyStr} {name' tree tree' : PyValue}
    (hrest : (v2BuildDynamic env pid stampedAt visible body).Runs s l x t)
    (hmcp : (mcpBuildFlow env (body.connectionFields env) files pid' .buildDynamicFlow
      body.dump).Runs s' l' x' t')
    (hbuilt : (.goldenBuild pid₁ name tree, r) ∈ l)
    (hbuilt' : (.goldenBuild pid₂ name' tree', r') ∈ l')
    (hl : ∀ q r, (.catalog q, r) ∈ l → r = answer q)
    (hl' : ∀ q r, (.catalog q, r) ∈ l' → r = answer q)
    (hdistinct : ∀ a ∈ body.actions, DistinctInput (.dict a)) :
    SameTree tree tree' ↔ TriggerBuiltAlike env answer (.dict body.trigger) ∧
      ∀ a ∈ body.actions, ActionBuiltAlike env answer (body.connectionFields env)
        (foundConnections env answer body) (.dict a) := by
  obtain ⟨k₁, k₂, gated, chain, u, v, hk₁, hk₂, hgated, -, hchain, rfl⟩ :=
    exists_of_built_rest hrest hbuilt hl
  obtain ⟨m₁, m₂, resolved, u', v', hm₁, hm₂, hresolve, htrigger'⟩ :=
    exists_of_built_mcp hmcp hbuilt' hl'
  have hfound := honours_gatedTrigger hgated
  rw [← foundConnections_eq hgated hk₁] at hfound hchain
  -- the chains
  obtain ⟨j₁, j₂, specs, w, y, rfl, hspecs, hfirst⟩ := exists_of_runs_dynamicChain hchain
  obtain ⟨i₁, i₂, w', items, rfl, hpiece', hitems, hspecs'⟩ := runs_mcpResolve_iff.1 hresolve
  obtain ⟨first', input', y', hfirst', hinput', rfl⟩ := exists_of_runs_mcpTrigger htrigger'
  rw [map_val_of_items hitems, actionsOf_dump] at hspecs'
  obtain ⟨hj₁, hj₂⟩ := List.forall_mem_append.1 hk₂
  obtain ⟨hi₁, hi₂⟩ := List.forall_mem_append.1 hm₁
  obtain ⟨pairs, hleft, hright, hdecided, hagree⟩ := exists_pairs_of_runs hfound
    (rfl : body.connectionFields env = _) (List.forall_mem_map.2 hdistinct) hspecs hspecs' hj₁ hi₂
  rw [← hleft] at hfirst
  rw [← hright] at hfirst'
  have hchains := sameTree_chains_iff hdecided hfirst hfirst' hj₂ hm₂
  -- the triggers
  obtain ⟨j₃, j₄, z, rfl, htrigger⟩ := exists_of_runs_gatedTrigger hgated
  obtain ⟨hj₃, -⟩ := List.forall_mem_append.1 hk₁
  rw [triggerOf_dump] at hpiece' hinput'
  have htriggers := triggerBuiltAlike_iff htrigger hpiece' hinput' hj₃ hi₁
  obtain ⟨-, -, -, -, hname, -⟩ := exists_of_runs_resolveTrigger htrigger hj₃
  rw [dynamicTrigger, hname, triggerOf_dump, sameTree_buildTrigger_iff, htriggers, hchains, hagree,
    List.forall_mem_map]

end Main

/-! ### Two requests -/

section Samples

/-- The piece of a webhook. -/
def webhookPiece : PyStr := text "@activepieces/piece-webhook"

/-- An action with code of its own. -/
def codeAction : Fields := fieldsOf (pyDict [("type", py "CODE"), ("code", py "return 1;")])

/-- A webhook with an input, and the action. -/
def codeBody : DynamicBuildBody where
  projectId := none
  connectionIds := none
  displayName := text "Flow"
  trigger := [(text "piece", .str webhookPiece), (text "input", .dict [])]
  actions := [codeAction]

/-- A webhook without an input, and no actions. -/
def plainBody : DynamicBuildBody where
  projectId := none
  connectionIds := none
  displayName := text "Flow"
  trigger := [(text "piece", .str webhookPiece)]
  actions := []

/-- What ActivePieces answers: there are no connections, and all pieces have one schema. -/
def hookAnswer : CatalogQuery → Except EngineError PyValue
  | .connections => .ok (.list [])
  | _ => .ok sendEmailSchema

/-- What `golden_build` answers. -/
def deployed : PyValue := pyDict [("flow_id", py "f1"), ("publish", .dict [])]

/-- The trigger, once the piece is resolved. -/
def hookTrigger : ResolvedTrigger where
  full := webhookPiece
  version := py "~0.12.1"
  name := py "catch_webhook"
  input := []

variable {body : DynamicBuildBody} {first : PyValue} {s t : BuilderState}

theorem runs_gatedTrigger_hook
    (htrigger : (resolveTrigger gateEnv (.dict body.trigger)).Runs s
      [(.schema webhookPiece, .ok sendEmailSchema)] (.ok hookTrigger) s)
    (hpieces : extractPieces id (.list (pyDict [("type", py "PIECE"),
      ("piece", .str webhookPiece)] :: body.actions.map .dict)) = .ok [webhookPiece]) :
    ∃ gate, (gatedTrigger gateEnv body).Runs s
        [(.schema webhookPiece, .ok sendEmailSchema), (.connections, .ok (.list [])),
          (.schema webhookPiece, .ok sendEmailSchema)] (.ok (hookTrigger, gate)) s ∧
      gate.blockedCount = 0 := by
  have hgate : ∃ gate, (classifyConnectionRequirements [] (body.connections gateEnv) evalPy
      fetchPieceSchema (.list (pyDict [("type", py "PIECE"), ("piece", .str webhookPiece)] ::
        body.actions.map .dict))).Runs s [(.schema webhookPiece, .ok sendEmailSchema)] (.ok gate)
        s ∧ gate.blockedCount = 0 :=
    ⟨_, runs_evalPy_bind_ok_iff.2 ⟨_, hpieces, ⟨_, _, rfl, rfl, rfl⟩⟩, rfl⟩
  obtain ⟨gate, hgate, hblocked⟩ := hgate
  refine ⟨gate, runs_bind_ok_iff.2 ⟨[_], [_, _], hookTrigger, s, rfl, htrigger, ?_⟩, hblocked⟩
  refine runs_bind_ok_iff.2 ⟨[_], [_], [], s, rfl, ⟨_, _, rfl, rfl, rfl⟩, ?_⟩
  exact runs_bind_ok_iff.2 ⟨[_], [], gate, s, rfl, hgate, runs_pure_iff.2 ⟨rfl, rfl, rfl⟩⟩

/-- A request reaches `golden_build` when its gate blocks nothing and its chain is built. -/
theorem exists_runs_built_rest (pid : PyStr) (visible : Bool) {env : BuilderEnv}
    {body : DynamicBuildBody} {s u w : BuilderState} {rt : ResolvedTrigger} {gate : ConnectionGate}
    {chain : PyValue × List PyStr} {k k' : List (CatalogQuery × Except EngineError PyValue)}
    (hgated : (gatedTrigger env body).Runs s k (.ok (rt, gate)) u) (hready : gate.blockedCount = 0)
    (hchain : (dynamicChain env body (ownConnection (withFound gate.connectionIds
      (body.connectionFields env)))).Runs u k' (.ok chain) w) :
    ∃ x, (v2BuildDynamic env pid (text "t0") visible body).Runs s
      ((k ++ k').map (Prod.map .catalog id) ++
        [(.goldenBuild pid body.displayName (dynamicTrigger body rt chain.1), .ok deployed)]) x
      w := by
  have hrest : ∃ x, (onValues (webhookUrlOf env rt.full deployed) >>= fun url ↦
      pure (pyDict [("status", py "deployed"), ("flow_id", py "f1"),
        ("display_name", .str body.displayName), ("steps_count", .int w.counter),
        ("webhook_url", url), ("pieces_used", .list ((rt.full :: chain.2).map .str)),
        ("publish", .dict []), ("diagnosis", .null)])).Runs w [] x w := by
    cases hurl : webhookUrlOf env rt.full deployed with
    | ok url =>
      exact ⟨_, runs_onValues_bind_iff.2 (.inl ⟨url, rfl, runs_pure_iff.2 ⟨rfl, rfl, rfl⟩⟩)⟩
    | error e => exact ⟨_, runs_onValues_bind_iff.2 (.inr ⟨e, rfl, rfl, rfl, rfl⟩)⟩
  obtain ⟨x, hrest⟩ := hrest
  have hbuild : (buildRunnable env pid body rt gate).Runs u
      (k'.map (Prod.map .catalog id) ++ [(.goldenBuild pid body.displayName
        (dynamicTrigger body rt chain.1), .ok deployed)]) x w := by
    refine runs_bind_iff.2 (.inl ⟨_, _, chain, w, rfl, ?_, ?_⟩)
    · exact runs_rename_iff.2 ⟨k', rfl, hchain⟩
    · exact runs_getState_bind_iff.2 (runs_perform_bind_iff.2 ⟨_, [], rfl, .inl ⟨_, rfl, hrest⟩⟩)
  rw [List.map_append, List.append_assoc]
  refine ⟨x, runs_bind_iff.2 (.inl ⟨_, _, (rt, gate), u, rfl, runs_rename_iff.2 ⟨k, rfl, hgated⟩,
    ?_⟩)⟩
  rw [if_neg (by rw [hready]; decide)]
  exact hbuild

/-- And the lookups of this run are those of the gate and of the chain. -/
theorem exists_built_rest (pid : PyStr) (visible : Bool) {env : BuilderEnv}
    {body : DynamicBuildBody} {s u w : BuilderState} {rt : ResolvedTrigger} {gate : ConnectionGate}
    {chain : PyValue × List PyStr} {k k' : List (CatalogQuery × Except EngineError PyValue)}
    {answer : CatalogQuery → Except EngineError PyValue}
    (hgated : (gatedTrigger env body).Runs s k (.ok (rt, gate)) u) (hready : gate.blockedCount = 0)
    (hchain : (dynamicChain env body (ownConnection (withFound gate.connectionIds
      (body.connectionFields env)))).Runs u k' (.ok chain) w)
    (hk : ∀ e ∈ k, AnsweredBy answer e) (hk' : ∀ e ∈ k', AnsweredBy answer e) :
    ∃ l x r, (v2BuildDynamic env pid (text "t0") visible body).Runs s l x w ∧
      (.goldenBuild pid body.displayName (dynamicTrigger body rt chain.1), r) ∈ l ∧
      ∀ q r, (.catalog q, r) ∈ l → r = answer q := by
  obtain ⟨x, hrun⟩ := exists_runs_built_rest pid visible hgated hready hchain
  refine ⟨_, x, .ok deployed, hrun, List.mem_append_right _ (List.mem_singleton_self _), ?_⟩
  intro q r hmem
  rcases List.mem_append.1 hmem with hmem | hmem
  · obtain ⟨e, he, heq⟩ := List.mem_map.1 hmem
    obtain ⟨hq, rfl⟩ := Prod.mk.inj heq
    obtain rfl := DynamicQuery.catalog.inj hq
    rcases List.mem_append.1 he with he | he
    · exact hk e he
    · exact hk' e he
  · cases (Prod.mk.inj (List.mem_singleton.1 hmem)).1

/-- A request whose chain is built without a lookup reaches `golden_build` over REST. -/
theorem exists_built_rest_hook
    (htrigger : (resolveTrigger gateEnv (.dict body.trigger)).Runs ⟨1, []⟩
      [(.schema webhookPiece, .ok sendEmailSchema)] (.ok hookTrigger) ⟨1, []⟩)
    (hpieces : extractPieces id (.list (pyDict [("type", py "PIECE"),
      ("piece", .str webhookPiece)] :: body.actions.map .dict)) = .ok [webhookPiece])
    (hchain : ∀ connection, (dynamicChain gateEnv body connection).Runs ⟨1, []⟩ []
      (.ok (first, [])) t) :
    ∃ l x r, (v2BuildDynamic gateEnv (text "p1") (text "t0") false body).Runs ⟨1, []⟩ l x t ∧
      (.goldenBuild (text "p1") body.displayName (dynamicTrigger body hookTrigger first), r) ∈ l ∧
      ∀ q r, (.catalog q, r) ∈ l → r = hookAnswer q := by
  obtain ⟨gate, hgate, hready⟩ := runs_gatedTrigger_hook htrigger hpieces
  have hanswered : ∀ e ∈ [(CatalogQuery.schema webhookPiece, Except.ok sendEmailSchema),
      (.connections, .ok (.list [])), (.schema webhookPiece, .ok sendEmailSchema)],
      AnsweredBy hookAnswer e := by
    refine List.forall_mem_cons.2 ⟨rfl, List.forall_mem_cons.2 ⟨rfl, ?_⟩⟩
    exact List.forall_mem_singleton.2 rfl
  exact exists_built_rest (text "p1") false hgate hready (hchain _) hanswered
    fun _ he ↦ absurd he List.not_mem_nil

/-- And over MCP. -/
theorem exists_built_mcp_hook (specs : List PyValue) {tree : PyValue} {cn : Fields}
    (hresolve : (mcpResolve gateEnv (validateActionAgainstRegistry plainRuntime gmailRegistry) cn
      body.dump).Runs ⟨1, []⟩ [(.schema webhookPiece, .ok sendEmailSchema)]
      (.ok ⟨webhookPiece, py "~0.12.1", specs⟩) ⟨1, []⟩)
    (htrigger : (mcpTrigger gateEnv body.dump ⟨webhookPiece, py "~0.12.1", specs⟩).Runs ⟨1, []⟩ []
      (.ok tree) t) :
    ∃ l x r, (mcpBuildFlow gateEnv cn gmailRegistry (text "p1") .buildDynamicFlow body.dump).Runs
        ⟨1, []⟩ l x t ∧
      (.goldenBuild (text "p1") (.str body.displayName) tree, r) ∈ l ∧
      ∀ q r, (.catalog q, r) ∈ l → r = hookAnswer q := by
  have hname : body.dump.getD "display_name" (py "سيادة — أتمتة مخصصة") =
      .ok (.str body.displayName) := by
    refine getD_eq_ok_iff.2 ⟨rfl, ?_⟩
    rw [DynamicBuildBody.dump, entry_pyDict]
    rfl
  have hrun : (mcpBuildFlow gateEnv cn gmailRegistry (text "p1") .buildDynamicFlow
      body.dump).Runs ⟨1, []⟩ [(.catalog (.schema webhookPiece), .ok sendEmailSchema),
        (.goldenBuild (text "p1") (.str body.displayName) tree, .ok deployed)] (.ok deployed)
        t := by
    refine runs_lift_bind_iff.2 (.inl ⟨_, rfl, ?_⟩)
    refine runs_bind_ok_iff.2 ⟨[_], [_], _, _, rfl, runs_rename_iff.2 ⟨_, rfl, hresolve⟩, ?_⟩
    refine runs_bind_ok_iff.2 ⟨[], [_], tree, t, rfl, runs_rename_iff.2 ⟨[], rfl, htrigger⟩, ?_⟩
    rw [hname]
    exact ⟨_, _, rfl, rfl, rfl⟩
  refine ⟨_, _, .ok deployed, hrun, by simp, ?_⟩
  intro q r hmem
  simp only [List.mem_cons, List.not_mem_nil, Prod.mk.injEq, McpBuildQuery.catalog.injEq,
    reduceCtorEq, false_and, or_false] at hmem
  obtain ⟨rfl, rfl⟩ := hmem
  rfl

theorem runs_codeChain : ∃ node t, (buildActionChain gateEnv (.list [.dict codeAction])).Runs
    ⟨1, []⟩ [] (.ok node) t := by
  have hend : (buildChainFrom gateEnv (buildStepFromSpec gateEnv) id 1 2 []).Runs ⟨1, []⟩ []
      (.ok .null) ⟨1, []⟩ := runs_pure_iff.2 ⟨rfl, rfl, rfl⟩
  have hstep : ∃ node t, (buildStepFromSpec gateEnv (.dict codeAction) .null).Runs ⟨1, []⟩ []
      (.ok node) t := by
    rw [buildStepFromSpec]
    exact ⟨_, _, rfl, rfl⟩
  obtain ⟨node, t, hstep⟩ := hstep
  rw [buildActionChain_list gateEnv (List.cons_ne_nil _ _)]
  exact ⟨node, t, runs_chain_cons hend hstep rfl⟩

theorem exists_built_rest_code
    (hchain : (buildActionChain gateEnv (.list [.dict codeAction])).Runs ⟨1, []⟩ [] (.ok first) t) :
    ∃ l x r, (v2BuildDynamic gateEnv (text "p1") (text "t0") false codeBody).Runs ⟨1, []⟩ l x t ∧
      (.goldenBuild (text "p1") codeBody.displayName (dynamicTrigger codeBody hookTrigger first),
        r) ∈ l ∧ ∀ q r, (.catalog q, r) ∈ l → r = hookAnswer q := by
  have hpieces : extractPieces id (.list (pyDict [("type", py "PIECE"),
      ("piece", .str webhookPiece)] :: codeBody.actions.map .dict)) = .ok [webhookPiece] := by
    rw [extractPieces]
    rfl
  refine exists_built_rest_hook ⟨_, _, rfl, rfl, rfl⟩ hpieces fun connection ↦ ?_
  refine runs_bind_ok_iff.2 ⟨[], [], ([.dict codeAction], []), ⟨1, []⟩, rfl, ⟨rfl, rfl⟩, ?_⟩
  exact runs_setState_bind_iff.2 (runs_bind_ok_iff.2 ⟨[], [], first, t, rfl, hchain,
    runs_pure_iff.2 ⟨rfl, rfl, rfl⟩⟩)

theorem exists_built_mcp_code {cn : Fields}
    (hchain : (buildActionChain gateEnv (.list [.dict codeAction])).Runs ⟨1, []⟩ [] (.ok first) t) :
    ∃ tree l x r, (mcpBuildFlow gateEnv cn gmailRegistry (text "p1") .buildDynamicFlow
        codeBody.dump).Runs ⟨1, []⟩ l x t ∧
      (.goldenBuild (text "p1") (.str codeBody.displayName) tree, r) ∈ l ∧
      ∀ q r, (.catalog q, r) ∈ l → r = hookAnswer q := by
  have hresolve : (mcpResolve gateEnv (validateActionAgainstRegistry plainRuntime gmailRegistry) cn
      codeBody.dump).Runs ⟨1, []⟩ [(.schema webhookPiece, .ok sendEmailSchema)]
      (.ok ⟨webhookPiece, py "~0.12.1", [.dict codeAction]⟩) ⟨1, []⟩ := ⟨_, _, rfl, rfl, rfl⟩
  have htrigger : ∃ tree, (mcpTrigger gateEnv codeBody.dump
      ⟨webhookPiece, py "~0.12.1", [.dict codeAction]⟩).Runs ⟨1, []⟩ [] (.ok tree) t :=
    ⟨_, runs_setState_bind_iff.2 (runs_bind_ok_iff.2 ⟨[], [], first, t, rfl, hchain, ⟨rfl, rfl⟩⟩)⟩
  obtain ⟨tree, htrigger⟩ := htrigger
  refine ⟨tree, exists_built_mcp_hook [.dict codeAction] ?_ ?_⟩
  -- both are at hand, and nothing is to be unfolded
  · assumption
  · assumption

/-- Where the trigger has an input and the code stands in the action, the trees are the same. -/
theorem builds_agree_code : ∃ l x t l' x' t' tree tree' r r',
    (v2BuildDynamic gateEnv (text "p1") (text "t0") false codeBody).Runs ⟨1, []⟩ l x t ∧
      (mcpBuildFlow gateEnv (codeBody.connectionFields gateEnv) gmailRegistry (text "p1")
        .buildDynamicFlow codeBody.dump).Runs ⟨1, []⟩ l' x' t' ∧
      (.goldenBuild (text "p1") codeBody.displayName tree, r) ∈ l ∧
      (.goldenBuild (text "p1") (.str codeBody.displayName) tree', r') ∈ l' ∧
      SameTree tree tree' := by
  obtain ⟨first, t, hchain⟩ := runs_codeChain
  obtain ⟨l, x, r, hrest, hbuilt, hl⟩ := exists_built_rest_code hchain
  obtain ⟨tree', l', x', r', hmcp, hbuilt', hl'⟩ := exists_built_mcp_code hchain
  refine ⟨l, x, t, l', x', t, _, tree', r, r', hrest, hmcp, hbuilt, hbuilt', ?_⟩
  have hdistinct : ∀ a ∈ codeBody.actions, DistinctInput (.dict a) := by
    refine List.forall_mem_singleton.2 fun d hd ↦ ?_
    obtain rfl : [] = d := PyValue.dict.inj hd
    exact List.nodup_nil
  refine (sameTree_builds_iff codeBody hrest hmcp hbuilt hbuilt' hl hl' hdistinct).2 ⟨⟨?_, ?_⟩, ?_⟩
  · intro hnone
    exact absurd (congrArg Option.isSome hnone) (by decide)
  · intro hempty
    exact absurd (PyValue.str.inj (Option.some.inj hempty)) (by decide)
  · refine List.forall_mem_singleton.2 ⟨fun hpiece ↦ absurd hpiece (by decide), fun _ ↦ ⟨?_, ?_⟩⟩
    · intro hnone
      exact absurd (congrArg Option.isSome hnone) (by decide)
    · intro _ v hv
      have hnone : ((PyValue.dict codeAction).entryD "input").entry "code_input" = none := rfl
      exact absurd (hnone.symm.trans hv) (by simp)

theorem exists_built_rest_plain : ∃ l x r,
    (v2BuildDynamic gateEnv (text "p1") (text "t0") false plainBody).Runs ⟨1, []⟩ l x ⟨1, []⟩ ∧
      (.goldenBuild (text "p1") plainBody.displayName (dynamicTrigger plainBody hookTrigger .null),
        r) ∈ l ∧ ∀ q r, (.catalog q, r) ∈ l → r = hookAnswer q := by
  have hpieces : extractPieces id (.list (pyDict [("type", py "PIECE"),
      ("piece", .str webhookPiece)] :: plainBody.actions.map .dict)) = .ok [webhookPiece] := by
    rw [extractPieces]
    rfl
  exact exists_built_rest_hook ⟨_, _, rfl, rfl, rfl⟩ hpieces fun _ ↦ ⟨rfl, rfl⟩

/-- The trigger that it gets over MCP. -/
def plainTrigger : PyValue :=
  buildTrigger webhookPiece (py "~0.12.1") (py "catch_webhook") (pyDict [("authType", py "none")])
    (py "Trigger") .null

theorem exists_built_mcp_plain {cn : Fields} : ∃ l x r,
    (mcpBuildFlow gateEnv cn gmailRegistry (text "p1") .buildDynamicFlow plainBody.dump).Runs
        ⟨1, []⟩ l x ⟨1, []⟩ ∧
      (.goldenBuild (text "p1") (.str plainBody.displayName) plainTrigger, r) ∈ l ∧
      ∀ q r, (.catalog q, r) ∈ l → r = hookAnswer q := by
  have hresolve : (mcpResolve gateEnv (validateActionAgainstRegistry plainRuntime gmailRegistry) cn
      plainBody.dump).Runs ⟨1, []⟩ [(.schema webhookPiece, .ok sendEmailSchema)]
      (.ok ⟨webhookPiece, py "~0.12.1", []⟩) ⟨1, []⟩ := ⟨_, _, rfl, rfl, rfl⟩
  have htrigger : (mcpTrigger gateEnv plainBody.dump ⟨webhookPiece, py "~0.12.1", []⟩).Runs
      ⟨1, []⟩ [] (.ok plainTrigger) ⟨1, []⟩ := ⟨rfl, rfl⟩
  refine exists_built_mcp_hook [] ?_ ?_
  · assumption
  · assumption

/-- **A trigger without an input** gets none over REST; over MCP it gets one. -/
theorem builds_differ_plain : ∃ l x t l' x' t' tree tree' r r',
    (v2BuildDynamic gateEnv (text "p1") (text "t0") false plainBody).Runs ⟨1, []⟩ l x t ∧
      (mcpBuildFlow gateEnv (plainBody.connectionFields gateEnv) gmailRegistry (text "p1")
        .buildDynamicFlow plainBody.dump).Runs ⟨1, []⟩ l' x' t' ∧
      (.goldenBuild (text "p1") plainBody.displayName tree, r) ∈ l ∧
      (.goldenBuild (text "p1") (.str plainBody.displayName) tree', r') ∈ l' ∧
      (∀ q r, (.catalog q, r) ∈ l → r = hookAnswer q) ∧
      (∀ q r, (.catalog q, r) ∈ l' → r = hookAnswer q) ∧ ¬ SameTree tree tree' := by
  have hdiffer : ¬ SameTree (dynamicTrigger plainBody hookTrigger .null) plainTrigger := by
    intro hsame
    have hname : hookTrigger.name = py "catch_webhook" := rfl
    rw [dynamicTrigger, plainTrigger, hname, sameTree_buildTrigger_iff] at hsame
    obtain ⟨⟨-, -, hinput⟩, -⟩ := hsame
    exact absurd (congrArg List.length (PyValue.dict.inj hinput)) (by decide)
  obtain ⟨l, x, r, hrest, hbuilt, hl⟩ := exists_built_rest_plain
  obtain ⟨l', x', r', hmcp, hbuilt', hl'⟩ := exists_built_mcp_plain
  exact ⟨l, x, _, l', x', _, _, _, r, r', hrest, hmcp, hbuilt, hbuilt', hl, hl', hdiffer⟩

end Samples

end Siyadah
