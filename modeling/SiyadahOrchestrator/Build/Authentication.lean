import SiyadahOrchestrator.Build.Derivation

/-!
# The connection of a step

The connection of a step is decided when its input is collected: the step keeps an `auth` that its
specification gives, else it gets the connection that the specification names, else the default one
of the piece (`withAuth`). Whatever happens to the input afterwards leaves the entry `auth` alone
(`lookup_auth_of_pieceSettings`).

`StepOf` says which step of a tree belongs to which specification, by their positions alone.
-/

namespace Siyadah

open Dialogue PyValue

/-! ### Names -/

theorem removeAll_eq_drop (old : PyStr) (skip : ℕ) (s : PyStr) :
    PyStr.removeAll old skip s = PyStr.removeAll old 0 (s.drop skip) := by
  induction s generalizing skip with
  | nil => rw [List.drop_nil]; rfl
  | cons c s ih =>
    cases skip with
    | zero => rfl
    | succ k =>
      rw [List.drop_succ_cons]
      exact ih k

theorem shortName_append (s : PyStr) : shortName (piecePrefix ++ s) = shortName s := by
  obtain ⟨c, rest, hprefix⟩ : ∃ c rest, piecePrefix = c :: rest := ⟨_, _, rfl⟩
  have hstart : piecePrefix.isPrefixOf (c :: (rest ++ s)) = true := by
    rw [← List.cons_append, ← hprefix]
    exact List.isPrefixOf_iff_prefix.2 (List.prefix_append _ _)
  have hlength : piecePrefix.length - 1 = rest.length := by rw [ hprefix]; rfl
  rw [shortName, hprefix, List.cons_append, PyStr.removeAll, ← hprefix, if_pos hstart, hlength,
    removeAll_eq_drop, List.drop_left]
  rfl

/-- The full name of a piece has the short name that the piece has. -/
@[simp] theorem shortName_fullName (piece : PyStr) :
    shortName (fullName piece) = shortName piece := by
  rw [fullName]
  split
  · rfl
  · exact shortName_append piece

/-! ### The entry `auth` -/

/-- The input of a specification, as it is written. -/
def specInput (spec : PyValue) : PyValue :=
  (spec.entry "input").getD ((spec.entry "input_config").getD (.dict []))

/-- The specification gives an `auth` that is not blank. -/
def GivesAuth (spec : PyValue) : Prop :=
  ∃ fields v, toDict (specInput spec) = .ok fields ∧
    (cleanInputConfig fields).lookup (text "auth") = some v

/-- The connection that a step gets by default. -/
def BuilderEnv.defaultAuth (env : BuilderEnv) (short : PyStr) : Option PyValue :=
  ((env.defaultConnections.lookup short).filter (· ≠ [])).map fun c ↦ .str (connectionRef c)

section Auth

variable {env : BuilderEnv} {spec schema props : PyValue} {resolved short : PyStr}
  {input input' : Fields} {settings : PieceSettings}

theorem auth_notMem_booleanFieldNames : text "auth" ∉ booleanFieldNames := by decide

theorem lookup_auth_draftGuard (h : draftGuard props input = .ok input') :
    input'.lookup (text "auth") = input.lookup (text "auth") := by
  rw [draftGuard] at h
  split at h
  · have hnames : ∀ flag ∈ booleanFieldNames, text "auth" ≠ flag :=
      fun flag hflag heq ↦ auth_notMem_booleanFieldNames (heq ▸ hflag)
    generalize booleanFieldNames = flags at h hnames
    induction flags generalizing input with
    | nil => rw [Except.ok.inj h]
    | cons flag flags ih =>
      rw [List.foldlM_cons] at h
      obtain ⟨mid, hmid, hrest⟩ := bind_eq_ok_iff.1 h
      rw [ih hrest fun f hf ↦ hnames f (List.mem_cons_of_mem _ hf)]
      split at hmid
      · rw [Except.ok.inj hmid]
      · obtain ⟨found, -, hmid⟩ := bind_eq_ok_iff.1 hmid
        split at hmid
        · rw [← Except.ok.inj hmid]
          exact lookup_upsert_of_ne (hnames flag List.mem_cons_self)
        · rw [Except.ok.inj hmid]
  · rw [Except.ok.inj h]

theorem lookup_auth_propertySetting (acc : Fields × Fields) (prop : PyStr × PyValue) :
    (propertySetting env.runtime acc prop).2.lookup (text "auth") = acc.2.lookup (text "auth") := by
  rw [propertySetting]
  split
  · rfl
  · rename_i hprop
    split
    · rfl
    · split
      · rfl
      · exact lookup_upsert_of_ne (Ne.symm hprop)

theorem lookup_auth_foldl_propertySetting (ps : Fields) (acc : Fields × Fields) :
    (ps.foldl (propertySetting env.runtime) acc).2.lookup (text "auth") =
      acc.2.lookup (text "auth") := by
  induction ps generalizing acc with
  | nil => rfl
  | cons p ps ih => rw [List.foldl_cons, ih, lookup_auth_propertySetting]

theorem lookup_auth_generatePropertySettings {generated : Fields × Fields}
    (h : generatePropertySettings env.runtime props input = .ok generated) :
    generated.2.lookup (text "auth") = input.lookup (text "auth") := by
  rw [generatePropertySettings.eq_def] at h
  split at h
  · rw [← Except.ok.inj h]
  · cases props with
    | dict ps =>
      rw [← Except.ok.inj h]
      exact lookup_auth_foldl_propertySetting ps ([], input)
    | _ => exact absurd h (by simp)

theorem lower_auth (R : PyRuntime) : R.lower (text "auth") = text "auth" := by
  rw [R.lower_ascii _ (by decide)]
  decide

theorem lookup_auth_fallbackAutofill :
    (fallbackAutofill env input).lookup (text "auth") = input.lookup (text "auth") := by
  induction input with
  | nil => rfl
  | cons f input ih =>
    show ((if _ then _ else f) :: fallbackAutofill env input).lookup (text "auth") = _
    rw [List.lookup_cons, List.lookup_cons, ih]
    by_cases hf : f.1 = text "auth"
    · rw [if_neg fun h ↦ auth_notMem_booleanFieldNames (lower_auth env.runtime ▸ hf ▸ h.2)]
    · have hkey : (if (f.2.isBlank && !f.2.isDict) = true ∧
          env.runtime.lower f.1 ∈ booleanFieldNames then (f.1, PyValue.bool false) else f).1 =
          f.1 := by
        split <;> rfl
      rw [hkey, beq_false_of_ne (Ne.symm hf)]

theorem fromPy_eq_ok_iff {α : Type} {x : Except PyError α} {a : α} :
    fromPy x = .ok a ↔ x = .ok a := mapError_eq_ok_iff

theorem lookup_auth_settingsFromSchema
    (h : settingsFromSchema env spec schema resolved input = .ok settings) :
    settings.input.lookup (text "auth") = input.lookup (text "auth") := by
  obtain ⟨explicit, -, h⟩ := bind_eq_ok_iff.1 h
  obtain ⟨version, -, h⟩ := bind_eq_ok_iff.1 h
  obtain ⟨actionName, -, h⟩ := bind_eq_ok_iff.1 h
  obtain ⟨found, -, h⟩ := bind_eq_ok_iff.1 h
  obtain ⟨props, -, h⟩ := bind_eq_ok_iff.1 h
  obtain ⟨guarded, hguarded, h⟩ := bind_eq_ok_iff.1 h
  obtain ⟨generated, hgenerated, h⟩ := bind_eq_ok_iff.1 h
  split at h
  · obtain ⟨extra, -, h⟩ := bind_eq_ok_iff.1 h
    rw [← Except.ok.inj h]
    exact (lookup_auth_generatePropertySettings (fromPy_eq_ok_iff.1 hgenerated)).trans
      (lookup_auth_draftGuard (fromPy_eq_ok_iff.1 hguarded))
  · exact absurd h (by simp)

theorem lookup_auth_settingsWithoutSchema
    (h : settingsWithoutSchema env spec short input = .ok settings) :
    settings.input.lookup (text "auth") = input.lookup (text "auth") := by
  obtain ⟨explicit, -, h⟩ := bind_eq_ok_iff.1 h
  obtain ⟨action, -, h⟩ := bind_eq_ok_iff.1 h
  obtain ⟨extra, -, h⟩ := bind_eq_ok_iff.1 h
  obtain ⟨-, -, h⟩ := bind_eq_ok_iff.1 h
  rw [← Except.ok.inj h]
  exact lookup_auth_fallbackAutofill

/-- **The settings of a step keep the connection** that was decided with its input. -/
theorem lookup_auth_of_pieceSettings
    (h : pieceSettings env spec schema resolved = .ok settings) :
    ∃ fields input, toDict (specInput spec) = .ok fields ∧
      withAuth env spec (shortName resolved) (cleanInputConfig fields) = .ok input ∧
        settings.input.lookup (text "auth") = input.lookup (text "auth") := by
  obtain ⟨config, hconfig, h⟩ := bind_eq_ok_iff.1 h
  obtain ⟨raw, hraw, h⟩ := bind_eq_ok_iff.1 h
  obtain ⟨fields, hfields, h⟩ := bind_eq_ok_iff.1 h
  obtain ⟨input, hinput, h⟩ := bind_eq_ok_iff.1 h
  obtain ⟨loaded, -, h⟩ := bind_eq_ok_iff.1 h
  obtain ⟨-, rfl⟩ := getD_eq_ok_iff.1 (fromPy_eq_ok_iff.1 hconfig)
  obtain ⟨-, rfl⟩ := getD_eq_ok_iff.1 (fromPy_eq_ok_iff.1 hraw)
  refine ⟨fields, input, fromPy_eq_ok_iff.1 hfields, fromPy_eq_ok_iff.1 hinput, ?_⟩
  cases loaded with
  | true => exact lookup_auth_settingsFromSchema h
  | false => exact lookup_auth_settingsWithoutSchema h

/-- A specification that gives no connection gets the default one of its piece. -/
theorem lookup_auth_of_default (h : pieceSettings env spec schema resolved = .ok settings)
    (hauth : ¬ GivesAuth spec) (hconn : (spec.entryD "connection_id").truthy = false) :
    settings.input.lookup (text "auth") = env.defaultAuth (shortName resolved) := by
  obtain ⟨fields, input, hfields, hinput, hsame⟩ := lookup_auth_of_pieceSettings h
  rw [hsame]
  have hnone : (cleanInputConfig fields).lookup (text "auth") = none := by
    rw [Option.eq_none_iff_forall_ne_some]
    exact fun v hv ↦ hauth ⟨fields, v, hfields, hv⟩
  obtain ⟨own, hown, hinput⟩ := bind_eq_ok_iff.1 hinput
  obtain ⟨hdict, rfl⟩ := getD_eq_ok_iff.1 hown
  have hconnId : ((spec.entry "connection_id").getD .null).orElse
      (.str ((env.defaultConnections.lookup (shortName resolved)).getD [])) =
        .str ((env.defaultConnections.lookup (shortName resolved)).getD []) :=
    if_neg (ne_true_of_eq_false hconn)
  rw [hconnId] at hinput
  have hkey : ((cleanInputConfig fields).map Prod.fst).contains (text "auth") = false := by
    rw [← Bool.not_eq_true, List.contains_iff_mem, mem_keys_iff, hnone]
    simp
  rw [hkey] at hinput
  rw [BuilderEnv.defaultAuth]
  cases hlookup : env.defaultConnections.lookup (shortName resolved) with
  | none =>
    rw [hlookup] at hinput
    rw [← Except.ok.inj hinput]
    exact hnone
  | some c =>
    rw [hlookup] at hinput
    cases c with
    | nil =>
      rw [← Except.ok.inj hinput]
      exact hnone
    | cons a c =>
      rw [← Except.ok.inj hinput]
      exact lookup_upsert_self

end Auth

/-! ### Which step belongs to which specification -/

/-- The node is the step of the specification, in the tree of these specifications from `chain`
on. -/
inductive StepOf (spec node : PyValue) : List PyValue → PyValue → Prop
  | head {specs} : StepOf spec node (spec :: specs) node
  | next {s specs n} : StepOf spec node specs (n.entryD "nextAction") →
      StepOf spec node (s :: specs) n
  | branch {s specs n b child} {i : ℕ} : (stepType s).isStr (text "ROUTER") = true →
      (branchList s)[i]? = some b → (n.entryD "children").listItems[i]? = some child →
      StepOf spec node (branchActions b) child → StepOf spec node (s :: specs) n
  | loop {s specs n} : (stepType s).isStr (text "LOOP") = true →
      StepOf spec node (loopActions s) (n.entryD "firstLoopAction") →
      StepOf spec node (s :: specs) n

/-- The piece of a node. -/
def nodePiece (node : PyValue) : PyValue := (node.entryD "settings").entryD "pieceName"

/-- The `auth` of a node. -/
def nodeAuth (node : PyValue) : Option PyValue :=
  ((node.entryD "settings").entryD "input").entry "auth"

section StepOf

variable {env : BuilderEnv} {l : Lookups} {spec node chain next : PyValue}
  {specs : List PyValue} {s t : BuilderState}

theorem specWithin_cons {s : PyValue} (h : SpecWithin specs spec) :
    SpecWithin (s :: specs) spec := by
  obtain ⟨inner, hinner, hspec⟩ := h
  rcases hinner.cases_head with rfl | ⟨mid, ⟨spec', hspec', hmid⟩, hrest⟩
  · exact ⟨s :: specs, .refl, List.mem_cons_of_mem s hspec⟩
  · exact ⟨inner, .head ⟨spec', List.mem_cons_of_mem s hspec', hmid⟩ hrest, hspec⟩

theorem specWithin_nested {s : PyValue} {inner : List PyValue} (hinner : inner ∈ nestedLists s)
    (h : SpecWithin inner spec) : SpecWithin (s :: specs) spec := by
  obtain ⟨deep, hdeep, hspec⟩ := h
  exact ⟨deep, .head ⟨s, List.mem_cons_self, hinner⟩ hdeep, hspec⟩

theorem specWithin_of_stepOf (h : StepOf spec node specs chain) : SpecWithin specs spec := by
  induction h with
  | head => exact ⟨_, .refl, List.mem_cons_self⟩
  | next hrest ih => exact specWithin_cons ih
  | @branch s specs n b child i htype hb hchild hrest ih =>
    refine specWithin_nested ?_ ih
    rw [nestedLists_router htype]
    exact List.mem_map_of_mem (List.mem_of_getElem? hb)
  | loop htype hrest ih =>
    refine specWithin_nested ?_ ih
    rw [nestedLists_loop htype]
    exact List.mem_singleton_self _

/-- What is built of a specification goes on with the chain that it was given. -/
theorem built_step_next (h : Built env (.step spec next node) s l t) : node.truthy = true ∧
    node.entryD "nextAction" = if next.truthy then next else .null := by
  rcases h with _ | _ | _ | _ | p | _ | _ | _
  · exact ⟨truthy_withNext rfl, entryD_nextAction rfl⟩
  · exact ⟨truthy_withNext rfl, entryD_nextAction rfl⟩
  · exact ⟨truthy_withNext rfl, entryD_nextAction rfl⟩
  · refine ⟨truthy_withNext rfl, entryD_nextAction ?_⟩
    split <;> rfl

/-- A chain without steps is nothing at all. -/
theorem built_chain_cases (h : Built env (.chain specs chain) s l t) :
    chain = .null ∨ chain.truthy = true := by
  rcases h with _ | ⟨_, _, hstep⟩
  · exact .inl rfl
  · exact .inr (built_step_next hstep).1

/-- The step after a step is the rest of the chain. -/
theorem nextAction_of_built (hchain : Built env (.chain specs next) s l t)
    {s' t' : BuilderState} {l' : Lookups} (h : Built env (.step spec next node) s' l' t') :
    node.entryD "nextAction" = next := by
  rw [(built_step_next h).2]
  rcases built_chain_cases hchain with rfl | htruthy
  · rfl
  · exact if_pos htruthy

/-- The branches of a router have their chains at their places. -/
theorem built_branch {bs : List PyValue} {built : List (PyValue × PyValue)} {b child : PyValue}
    {i : ℕ} (h : Built env (.branches bs built) s l t) (hb : bs[i]? = some b)
    (hchild : (built.map Prod.snd)[i]? = some child) :
    ∃ s' l' t', Built env (.chain (branchActions b) child) s' l' t' := by
  induction bs generalizing built s l i with
  | nil => exact absurd hb (by simp)
  | cons b' bs ih =>
    rcases h with _ | _ | _ | ⟨hdefinition, hfirst, hrest⟩
    cases i with
    | zero =>
      obtain rfl := Option.some.inj hb
      obtain rfl := Option.some.inj hchild
      exact ⟨_, _, _, hfirst⟩
    | succ i => exact ih hrest hb hchild

theorem not_typed_both {a b : String} (ha : (stepType spec).isStr (text a) = true)
    (hb : (stepType spec).isStr (text b) = true) : text a = text b :=
  PyValue.str.inj ((eq_str_of_isStr ha).symm.trans (eq_str_of_isStr hb))

theorem built_router_branch (hrouter : (stepType spec).isStr (text "ROUTER") = true)
    (h : Built env (.step spec next node) s l t) {b child : PyValue} {i : ℕ}
    (hb : (branchList spec)[i]? = some b)
    (hchild : (node.entryD "children").listItems[i]? = some child) :
    ∃ s' l' t', Built env (.chain (branchActions b) child) s' l' t' := by
  rcases h with _ | _ | _ | _ | p | hcode | ⟨-, -, hbranches⟩ | hloop
  · exact absurd (not_typed_both hrouter p.typed) (by decide)
  · exact absurd (not_typed_both hrouter hcode) (by decide)
  · rw [buildRouterStep, entryD_withNext (by decide)] at hchild
    exact built_branch hbranches hb hchild
  · exact absurd (not_typed_both hrouter hloop) (by decide)

theorem built_loop_body (hloop : (stepType spec).isStr (text "LOOP") = true)
    (h : Built env (.step spec next node) s l t) :
    ∃ s' l' t', Built env (.chain (loopActions spec) (node.entryD "firstLoopAction")) s' l' t' := by
  rcases h with _ | _ | _ | _ | p | hcode | hrouter | ⟨-, -, -, hbody⟩
  · exact absurd (not_typed_both hloop p.typed) (by decide)
  · exact absurd (not_typed_both hloop hcode) (by decide)
  · exact absurd (not_typed_both hloop hrouter) (by decide)
  · rename_i display items first more
    have hfirst : (buildLoopStep (stepName s.counter) display items first next).entryD
        "firstLoopAction" = first := by
      rw [buildLoopStep, entryD_withNext (by decide)]
      by_cases htruthy : first.truthy = true
      · rw [if_pos htruthy]
        rfl
      · rw [if_neg htruthy, (built_chain_cases hbody).resolve_right htruthy]
        rfl
    rw [hfirst]
    exact ⟨_, _, _, hbody⟩

/-- A step has been built from its specification, as a step of its own. -/
theorem built_of_stepOf (hbuilt : Built env (.chain specs chain) s l t)
    (h : StepOf spec node specs chain) :
    ∃ next s' l' t', Built env (.step spec next node) s' l' t' := by
  induction h generalizing s l t with
  | head =>
    rcases hbuilt with _ | ⟨_, _, hstep⟩
    exact ⟨_, _, _, _, hstep⟩
  | next hrest ih =>
    rcases hbuilt with _ | ⟨_, hchain, hstep⟩
    rw [nextAction_of_built hchain hstep] at ih
    exact ih hchain
  | branch hrouter hb hchild hrest ih =>
    rcases hbuilt with _ | ⟨_, -, hstep⟩
    obtain ⟨s', l', t', hbranch⟩ := built_router_branch hrouter hstep hb hchild
    exact ih hbranch
  | loop hloop hrest ih =>
    rcases hbuilt with _ | ⟨_, -, hstep⟩
    obtain ⟨s', l', t', hbody⟩ := built_loop_body hloop hstep
    exact ih hbody

/-- **The step of a specification that uses a piece** is what the settings of the piece give. -/
theorem pieceStep_of_stepOf (hbuilt : Built env (.chain specs chain) s l t)
    (h : StepOf spec node specs chain) (htype : (stepType spec).isStr (text "PIECE") = true) :
    ∃ (l' : Lookups) (p : PieceStep env l' spec) (n : ℕ) (next : PyValue),
      node = p.node (stepName n) next := by
  obtain ⟨next, s', l', t', hstep⟩ := built_of_stepOf hbuilt h
  rcases hstep with _ | _ | _ | _ | p | hcode | hrouter | hloop
  · exact ⟨l', p, _, _, rfl⟩
  · exact absurd (not_typed_both htype hcode) (by decide)
  · exact absurd (not_typed_both htype hrouter) (by decide)
  · exact absurd (not_typed_both htype hloop) (by decide)

/-- A list of one step that uses a piece has no other step. -/
theorem stepOf_singleton {s : PyValue} (htype : (stepType s).isStr (text "PIECE") = true)
    (h : StepOf spec node [s] chain) : spec = s ∧ node = chain := by
  rcases h with _ | ⟨⟨⟩⟩ | ⟨hrouter, -, -, -⟩ | ⟨hloop, -⟩
  · exact ⟨rfl, rfl⟩
  · exact absurd (not_typed_both htype hrouter) (by decide)
  · exact absurd (not_typed_both htype hloop) (by decide)

theorem nodePiece_node (p : PieceStep env l spec) (sname : PyStr) (next : PyValue) :
    nodePiece (p.node sname next) = .str p.full := by
  rw [nodePiece, PieceStep.node, buildAction, entryD_withNext (by decide)]
  show (pyDict _).entryD _ = _
  rw [entryD, entry_pyDict]
  rfl

theorem nodeAuth_node (p : PieceStep env l spec) (sname : PyStr) (next : PyValue) :
    nodeAuth (p.node sname next) = p.settings.input.lookup (text "auth") := by
  rw [nodeAuth, PieceStep.node, buildAction, entryD_withNext (by decide)]
  show ((pyDict _).entryD _).entry _ = _
  rw [entryD, entry_pyDict]
  rfl

end StepOf

end Siyadah
