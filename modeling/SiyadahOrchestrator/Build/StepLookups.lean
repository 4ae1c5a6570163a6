import SiyadahOrchestrator.Build.Structure
import SiyadahOrchestrator.Build.RegistryGate

/-!
# What the lookups of a chain find

Every step that uses a piece looks its piece up, and no lookup remembers another one: one name may
be found in one step and missed in the next. So the lookups of a run are read step by step. A chain
is built from its last step on, and `buildOrder` lists the specifications that use a piece in the
order in which they are built. `carries_of_built` cuts the lookups of a chain into those of its
steps, and there is only one way to do so (`eq_of_lookupsOf`).
-/

namespace Siyadah

open Dialogue PyValue

/-! ### Names that are looked up -/

/-- A name, the lookups that are made for it, and the name of the piece that they find. -/
structure Resolution where
  name : PyStr
  lookups : Lookups
  piece : PyStr

namespace Resolution

/-- The full name of the piece. -/
def full (r : Resolution) : PyStr := fullName r.piece

/-- The short name of the piece. -/
def short (r : Resolution) : PyStr := shortName r.piece

/-- The lookups are those of `auto_resolve_piece`, and this is the piece that it returns. -/
def Made (R : PyRuntime) (r : Resolution) : Prop :=
  ∃ schema, Resolves R r.lookups r.name (r.piece, schema)

variable {R : PyRuntime} {r r' : Resolution}

/-- The replies decide where the lookups for a name end, and what they find. -/
theorem Made.unique (h : r.Made R) (h' : r'.Made R) (hname : r.name = r'.name) {k k' : Lookups}
    (hk : r.lookups ++ k = r'.lookups ++ k') : r = r' ∧ k = k' := by
  obtain ⟨schema, h⟩ := h
  obtain ⟨schema', h'⟩ := h'
  rw [hname] at h
  have hreplies : r.lookups.map Prod.snd ++ k.map Prod.snd =
      r'.lookups.map Prod.snd ++ k'.map Prod.snd := by
    rw [← List.map_append, hk, List.map_append]
  obtain ⟨hlookups, hresult, -⟩ := (h ⟨0, []⟩).unique (h' ⟨0, []⟩) hreplies
  have hpiece : r.piece = r'.piece := congrArg Prod.fst (Except.ok.inj hresult)
  refine ⟨?_, List.append_cancel_left (hlookups ▸ hk)⟩
  cases r
  cases r'
  simp only [Resolution.mk.injEq]
  exact ⟨hname, hlookups, hpiece⟩

end Resolution

/-- A specification, and what its lookups find. -/
abbrev StepLookup : Type := PyValue × Resolution

/-- The step looks up the piece of its specification. -/
def FindsPiece (R : PyRuntime) (e : StepLookup) : Prop :=
  specPiece e.1 = .ok e.2.name ∧ e.2.Made R

/-- The lookups of the steps, one after the other. -/
def lookupsOf (es : List StepLookup) : Lookups := es.flatMap fun e ↦ e.2.lookups

theorem lookupsOf_append (es es' : List StepLookup) :
    lookupsOf (es ++ es') = lookupsOf es ++ lookupsOf es' := List.flatMap_append

/-- **The lookups of a list of steps are cut in one way only.** -/
theorem eq_of_lookupsOf {R : PyRuntime} {es es' : List StepLookup} {k k' : Lookups}
    (hes : ∀ e ∈ es, FindsPiece R e) (hes' : ∀ e ∈ es', FindsPiece R e)
    (hspecs : es.map Prod.fst = es'.map Prod.fst)
    (hk : lookupsOf es ++ k = lookupsOf es' ++ k') : es = es' ∧ k = k' := by
  induction es generalizing es' with
  | nil =>
    obtain rfl := List.map_eq_nil_iff.1 hspecs.symm
    exact ⟨rfl, hk⟩
  | cons e es ih =>
    obtain _ | ⟨e', es'⟩ := es'
    · exact absurd hspecs (by simp)
    rw [List.map_cons, List.map_cons, List.cons.injEq] at hspecs
    obtain ⟨⟨hname, hmade⟩, hes⟩ := List.forall_mem_cons.1 hes
    obtain ⟨⟨hname', hmade'⟩, hes'⟩ := List.forall_mem_cons.1 hes'
    have hnames : e.2.name = e'.2.name := by
      rw [hspecs.1, hname'] at hname
      exact (Except.ok.inj hname).symm
    rw [lookupsOf, lookupsOf, List.flatMap_cons, List.flatMap_cons, List.append_assoc,
      List.append_assoc] at hk
    obtain ⟨hres, hrest⟩ := hmade.unique hmade' hnames hk
    obtain ⟨rfl, rfl⟩ := ih hes hes' hspecs.2 hrest
    exact ⟨by rw [Prod.ext hspecs.1 hres], rfl⟩

/-! ### The order of building -/

/-- The specifications that use a piece, at any depth, in the order in which they are built: the
later ones of a list first, and a step before what is inside it. -/
def buildOrder (specs : List PyValue) : List PyValue :=
  (specForest specs).laterFirst.filter fun spec ↦ IsPieceStep spec

section BuildOrder

variable {spec : PyValue} {specs : List PyValue}

theorem buildOrder_nil : buildOrder [] = [] := by
  rw [buildOrder, specForest]
  rfl

theorem buildOrder_singleton : buildOrder [spec] =
    (if IsPieceStep spec then [spec] else []) ++ (nestedLists spec).flatMap buildOrder := by
  have hinside : (specInside spec).laterFirst.filter (fun spec ↦ IsPieceStep spec) =
      (nestedLists spec).flatMap buildOrder := by
    rw [specInside, Forests.laterFirst_ofList, List.flatMap_map, List.filter_flatMap]
    rfl
  rw [buildOrder, specForest_cons, specForest, Forest.laterFirst, Forest.laterFirst,
    List.nil_append, ← hinside, List.filter_cons]
  by_cases hpiece : IsPieceStep spec
  · rw [if_pos hpiece, if_pos (decide_eq_true hpiece)]
    rfl
  · rw [if_neg hpiece, if_neg (by simpa using hpiece)]
    rfl

theorem buildOrder_cons : buildOrder (spec :: specs) = buildOrder specs ++ buildOrder [spec] := by
  rw [buildOrder, buildOrder, buildOrder, specForest_cons, specForest_cons, specForest,
    Forest.laterFirst, Forest.laterFirst, Forest.laterFirst, List.nil_append, List.filter_append]

theorem buildOrder_piece (h : IsPieceStep spec) : buildOrder [spec] = [spec] := by
  rw [buildOrder_singleton, if_pos h, nestedLists_piece h]
  rfl

theorem buildOrder_other (h : ¬ IsPieceStep spec) :
    buildOrder [spec] = (nestedLists spec).flatMap buildOrder := by
  rw [buildOrder_singleton, if_neg h]
  rfl

end BuildOrder

/-! ### The lookups of a chain -/

/-- The lookups are those of what is built, and what holds of all its steps is what holds of all its
lookups. -/
def Judgement.Carries (N : PyValue → Prop) (S : StepLookup → Prop) (es : List StepLookup) :
    Judgement → Prop
  | .step spec next node => es.map Prod.fst = buildOrder [spec] ∧
    ((∀ n ∈ executionOrder node, N n) ↔ (∀ e ∈ es, S e) ∧ ∀ n ∈ executionOrder next, N n)
  | .chain specs node => es.map Prod.fst = buildOrder specs ∧
    ((∀ n ∈ executionOrder node, N n) ↔ ∀ e ∈ es, S e)
  | .branches bs built => es.map Prod.fst = bs.flatMap (fun b ↦ buildOrder (branchActions b)) ∧
    ((∀ b ∈ built, ∀ n ∈ executionOrder b.2, N n) ↔ ∀ e ∈ es, S e)

/-- What the lookups of a step find. -/
def PieceStep.resolution {env : BuilderEnv} {l : Lookups} {spec : PyValue}
    (p : PieceStep env l spec) : Resolution := ⟨p.name, l, p.resolved.1⟩

section Carries

variable {env : BuilderEnv} {l : Lookups} {N : PyValue → Prop} {S : StepLookup → Prop}
  {es : List StepLookup} {j : Judgement} {s t : BuilderState}

theorem PieceStep.findsPiece {spec : PyValue} (p : PieceStep env l spec) :
    FindsPiece env.runtime (spec, p.resolution) := ⟨p.named, p.resolved.2, p.resolves⟩

/-- A step with nothing inside it. -/
theorem carries_leaf {fields : List (String × PyValue)} {name spec next : PyValue}
    (hname : fields.lookup "name" = some name) (hnext : fields.lookup "nextAction" = none)
    (hchildren : fields.lookup "children" = none)
    (hfirst : fields.lookup "firstLoopAction" = none)
    (hes : es.map Prod.fst = buildOrder [spec])
    (hiff : N (withNext fields next) ↔ ∀ e ∈ es, S e) :
    (Judgement.step spec next (withNext fields next)).Carries N S es := by
  refine ⟨hes, ?_⟩
  rw [executionOrder_leaf hname hnext hchildren hfirst, List.forall_mem_cons, hiff]

/-- **The lookups of a chain and its steps**: a property of steps that, for those that use a piece,
is one of their lookups, and that the others have. -/
theorem carries_of_built (hpiece : ∀ spec l (p : PieceStep env l spec) (sname : PyStr) next,
      N (p.node sname next) ↔ S (spec, p.resolution))
    (hnode : ∀ n, n.entryD "type" ≠ py "PIECE" → N n) (h : Built env j s l t) :
    ∃ es, (∀ e ∈ es, FindsPiece env.runtime e) ∧ lookupsOf es = l ∧ j.Carries N S es := by
  have hother : ∀ {spec : PyValue} {kind : String}, (stepType spec).isStr (text kind) = true →
      text kind ≠ text "PIECE" → ¬ IsPieceStep spec :=
    fun htype hne hpiece ↦ hne (not_typed_both htype hpiece)
  induction h with
  | nil =>
    refine ⟨[], fun _ he ↦ absurd he List.not_mem_nil, rfl, buildOrder_nil.symm, ?_⟩
    rw [executionOrder_of_falsy rfl]
    exact iff_of_true (fun _ hn ↦ absurd hn List.not_mem_nil) fun _ he ↦
      absurd he List.not_mem_nil
  | cons hdict hchain hstep ihchain ihstep =>
    obtain ⟨es₁, hes₁, rfl, hspecs₁, hiff₁⟩ := ihchain
    obtain ⟨es₂, hes₂, rfl, hspecs₂, hiff₂⟩ := ihstep
    refine ⟨es₁ ++ es₂, List.forall_mem_append.2 ⟨hes₁, hes₂⟩, lookupsOf_append _ _, ?_, ?_⟩
    · rw [List.map_append, hspecs₁, hspecs₂]
      exact buildOrder_cons.symm
    · rw [hiff₂, hiff₁, List.forall_mem_append, and_comm]
  | noBranch =>
    exact ⟨[], fun _ he ↦ absurd he List.not_mem_nil, rfl, rfl,
      iff_of_true (fun _ hb ↦ absurd hb List.not_mem_nil) fun _ he ↦ absurd he List.not_mem_nil⟩
  | @branch b bs definition child built s u t l₁ l₂ hdefinition hchild hrest ihchild ihrest =>
    obtain ⟨es₁, hes₁, rfl, hspecs₁, hiff₁⟩ := ihchild
    obtain ⟨es₂, hes₂, rfl, hspecs₂, hiff₂⟩ := ihrest
    refine ⟨es₁ ++ es₂, List.forall_mem_append.2 ⟨hes₁, hes₂⟩, lookupsOf_append _ _, ?_, ?_⟩
    · rw [List.map_append, hspecs₁, hspecs₂, List.flatMap_cons]
    · rw [List.forall_mem_cons, hiff₁, hiff₂, List.forall_mem_append]
  | @piece spec next s l p =>
    refine ⟨[(spec, p.resolution)], List.forall_mem_singleton.2 p.findsPiece, List.append_nil _, ?_⟩
    refine carries_leaf rfl rfl rfl rfl (buildOrder_piece p.typed).symm ?_
    rw [List.forall_mem_singleton]
    exact hpiece spec l p _ next
  | @code spec next display code input s htype hdisplay hcode hinput =>
    refine ⟨[], fun _ he ↦ absurd he List.not_mem_nil, rfl,
      carries_leaf rfl rfl rfl rfl ?_ (iff_of_true (hnode _ ?_) fun _ he ↦
        absurd he List.not_mem_nil)⟩
    · rw [buildOrder_other (hother htype (by decide)), nestedLists_code htype]
      rfl
    · rw [entryD_withNext (by decide)]
      exact fun heq ↦ absurd (PyValue.str.inj heq) (by decide)
  | @router spec next display built more s t l htype hdisplay hbranches ih =>
    obtain ⟨es, hes, rfl, hspecs, hiff⟩ := ih
    refine ⟨es, hes, rfl, ?_, ?_⟩
    · rw [buildOrder_other (hother htype (by decide)), nestedLists_router htype,
        List.flatMap_map, hspecs]
    have hself : N (buildRouterStep (stepName s.counter) display (built.map Prod.fst)
        (built.map Prod.snd) next) := by
      refine hnode _ ?_
      rw [buildRouterStep, entryD_withNext (by decide)]
      exact fun heq ↦ absurd (PyValue.str.inj heq) (by decide)
    rw [executionOrder_router, List.flatMap_map, List.forall_mem_cons, List.forall_mem_append,
      List.forall_mem_flatMap, hiff]
    exact and_iff_right hself
  | @loop spec next display items first more s t l htype hdisplay hitems hfirst ih =>
    obtain ⟨es, hes, rfl, hspecs, hiff⟩ := ih
    refine ⟨es, hes, rfl, ?_, ?_⟩
    · rw [buildOrder_other (hother htype (by decide)), nestedLists_loop htype, hspecs]
      exact (List.append_nil _).symm
    have hself : N (buildLoopStep (stepName s.counter) display items first next) := by
      refine hnode _ ?_
      rw [entryD_loop (by decide) (by decide), buildLoopStep, entryD_withNext (by decide)]
      exact fun heq ↦ absurd (PyValue.str.inj heq) (by decide)
    rw [executionOrder_loop, List.forall_mem_cons, List.forall_mem_append, hiff]
    exact and_iff_right hself

end Carries

end Siyadah
