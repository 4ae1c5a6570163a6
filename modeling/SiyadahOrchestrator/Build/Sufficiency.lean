import SiyadahOrchestrator.Build.Numbering
import SiyadahOrchestrator.Build.Validation

/-!
# Validation is not sufficient for building

`_build_action_chain` builds what `validate_complex_steps` has accepted. They are two recursions,
and the builder reads entries that the check never looks at: the input and the connection of a step
that uses a piece, and the conditions of a branch. Where one of these has a shape that the builder
cannot use, the request fails with a 500 (`accepted_but_not_built`). That is all that can go wrong:
while the catalogue answers normally, an accepted request is built or refused with a 4xx exactly
when these entries have usable shapes (`validation_suffices_iff`).
-/

namespace Siyadah

open Dialogue PyValue

/-! ### The catalogue -/

/-- A schema as ActivePieces describes a piece: its actions are dictionaries, and so are the
properties of an action. -/
def NormalSchema (schema : PyValue) : Prop :=
  schema.isDict = true ∧ ∀ actions, schema.entry "actions" = some actions →
    ∃ fields, actions = .dict fields ∧ ∀ f ∈ fields, f.2.isDict = true ∧
      ∀ key ∈ ["props", "properties"], ∀ props, f.2.entry key = some props → props.isDict = true

/-- A lookup is answered normally: by a schema or an error for one piece, by pieces with names for
the list of all pieces. -/
def AnsweredNormally : CatalogQuery × Except EngineError PyValue → Prop
  | (.schema _, .ok data) => NormalSchema data
  | (.schema _, .error _) => True
  | (.pieces, reply) => ∃ raw ps, reply = .ok raw ∧ listOrData raw = .ok (.list ps) ∧
      ∀ p ∈ ps, ∃ name, p.getD "name" (py "") = .ok (.str name)
  | (.connections, _) => True

/-- Some lookup may find a piece with actions. -/
def SomeActions (A : CatalogQuery × Except EngineError PyValue → Prop) : Prop :=
  ∃ piece schema, A (.schema piece, .ok schema) ∧ hasActions schema = .ok true

/-- What a lookup leaves: a normal schema, which has actions only if some lookup finds them. -/
def Fetched (A : CatalogQuery × Except EngineError PyValue → Prop) (schema : PyValue) : Prop :=
  NormalSchema schema ∧ (hasActions schema = .ok true → SomeActions A)

section Catalog

variable {A : CatalogQuery × Except EngineError PyValue → Prop} {F : EngineError → Prop}
  {R : PyRuntime} {schema : PyValue}

theorem fetched_nil : Fetched A (.dict []) := by
  refine ⟨⟨rfl, fun actions h ↦ ?_⟩, fun h ↦ ?_⟩
  · exact absurd h (by simp [entry])
  · exact absurd h (by simp [hasActions, truthy])

/-- A normal schema has actions or has none. -/
theorem exists_hasActions (h : NormalSchema schema) : ∃ found, hasActions schema = .ok found := by
  rw [hasActions]
  split
  · exact ⟨_, congrArg (Except.map truthy) (get_of_isDict h.1 "actions")⟩
  · exact ⟨_, rfl⟩

theorem ensures_evalPy {α : Type} {x : Except PyError α} {P : α → Prop}
    (h : ∃ a, x = .ok a ∧ P a) : Ensures A P F (evalPy x) := by
  obtain ⟨a, rfl, ha⟩ := h
  exact ensures_pure ha

theorem ensures_fetchPieceSchema (hA : ∀ e, A e → AnsweredNormally e) (piece : PyStr) :
    Ensures A (Fetched A) F (fetchPieceSchema piece) := by
  refine .ask_bind fun r hr ↦ ?_
  cases r with
  | error e => exact ensures_pure fetched_nil
  | ok data =>
    have hnormal : NormalSchema data := hA _ hr
    refine ensures_pure ?_
    rw [hnormal.1, Bool.not_true, Bool.and_false]
    exact ⟨hnormal, fun h ↦ ⟨piece, data, hr, h⟩⟩

/-- What a search leaves, besides the schema that was fetched last. -/
def SearchFetched (A : CatalogQuery × Except EngineError PyValue → Prop) (found : Found) : Prop :=
  Fetched A found.2 ∧ ∀ resolved, found.1 = some resolved → Fetched A resolved.2

theorem ensures_tryCandidates (hA : ∀ e, A e → AnsweredNormally e) (names : List PyStr)
    {last : PyValue} (hlast : Fetched A last) :
    Ensures A (SearchFetched A) F (tryCandidates names last) := by
  induction names generalizing last with
  | nil => exact ensures_pure ⟨hlast, fun _ h ↦ absurd h (by simp)⟩
  | cons c cs ih =>
    refine (ensures_fetchPieceSchema hA c).bind fun schema hschema ↦ ?_
    obtain ⟨found, hfound⟩ := exists_hasActions hschema.1
    refine (ensures_evalPy ⟨found, hfound, trivial⟩ : Ensures A (fun _ ↦ True) F _).bind
      fun loaded _ ↦ ?_
    cases loaded with
    | true =>
      refine ensures_pure ⟨hschema, fun resolved h ↦ ?_⟩
      obtain rfl := Option.some.inj h
      exact hschema
    | false => exact ih hschema

/-- The pieces of a list have names. -/
def NamedPieces (pieces : List PyValue) : Prop :=
  ∀ p ∈ pieces, ∃ name, p.getD "name" (py "") = .ok (.str name)

theorem ensures_getRawPiecesList (hA : ∀ e, A e → AnsweredNormally e) :
    Ensures A NamedPieces F getRawPiecesList := by
  refine .ask_bind fun r hr ↦ ?_
  obtain ⟨raw, ps, rfl, hlist, hnamed⟩ : AnsweredNormally (.pieces, r) := hA _ hr
  refine (ensures_evalPy ⟨_, hlist, rfl⟩ : Ensures A (· = .list ps) F _).bind fun pieces hps ↦ ?_
  subst hps
  obtain ⟨items, hitems⟩ : ∃ items, (PyValue.list ps).items = .ok items := ⟨_, rfl⟩
  refine (ensures_evalPy ⟨items, hitems, map_val_of_items hitems⟩ :
    Ensures A (fun items ↦ items.map Subtype.val = ps) F _).bind fun items hvalues ↦ ?_
  refine ensures_pure ?_
  rw [hvalues]
  exact hnamed

theorem ensures_tryListed (hA : ∀ e, A e → AnsweredNormally e) (query : PyStr)
    {pieces : List PyValue} (hnamed : NamedPieces pieces) {last : PyValue}
    (hlast : Fetched A last) : Ensures A (SearchFetched A) F (tryListed R query pieces last) := by
  induction pieces generalizing last with
  | nil => exact ensures_pure ⟨hlast, fun _ h ↦ absurd h (by simp)⟩
  | cons p ps ih =>
    obtain ⟨⟨name, hname⟩, hrest⟩ := List.forall_mem_cons.1 hnamed
    have hshort : listedName R p = .ok (R.lower (shortName name)) := by
      rw [listedName, hname]
      rfl
    refine (ensures_evalPy ⟨_, hshort, trivial⟩ : Ensures A (fun _ ↦ True) F _).bind
      fun short _ ↦ ?_
    split
    · refine (ensures_fetchPieceSchema hA short).bind fun schema hschema ↦ ?_
      obtain ⟨found, hfound⟩ := exists_hasActions hschema.1
      refine (ensures_evalPy ⟨found, hfound, trivial⟩ : Ensures A (fun _ ↦ True) F _).bind
        fun loaded _ ↦ ?_
      cases loaded with
      | true =>
        refine ensures_pure ⟨hschema, fun resolved h ↦ ?_⟩
        obtain rfl := Option.some.inj h
        exact hschema
      | false => exact ih hrest hschema
    · exact ih hrest hlast

/-- **A piece is always resolved**, to a schema that was fetched. -/
theorem ensures_autoResolvePiece (hA : ∀ e, A e → AnsweredNormally e) (name : PyStr) :
    Ensures A (fun resolved ↦ Fetched A resolved.2) F (autoResolvePiece R name) := by
  refine (ensures_fetchPieceSchema hA name).bind fun schema hschema ↦ ?_
  obtain ⟨found, hfound⟩ := exists_hasActions hschema.1
  refine (ensures_evalPy ⟨found, hfound, trivial⟩ : Ensures A (fun _ ↦ True) F _).bind
    fun loaded _ ↦ ?_
  cases loaded with
  | true => exact ensures_pure hschema
  | false =>
    refine (ensures_tryCandidates hA _ hschema).bind fun candidate hcandidate ↦ ?_
    rcases candidate with ⟨_ | resolved, last⟩
    · refine (ensures_getRawPiecesList hA).bind fun pieces hpieces ↦
        (ensures_tryListed hA _ hpieces hcandidate.1).bind fun listed hlisted ↦ ?_
      rcases listed with ⟨_ | resolved, last'⟩
      · refine ensures_pure ?_
        show Fetched A (last'.orElse (.dict []))
        rw [orElse]
        split
        · exact hlisted.1
        · exact fetched_nil
      · exact ensures_pure (hlisted.2 resolved rfl)
    · exact ensures_pure (hcandidate.2 resolved rfl)

end Catalog

/-! ### The entries that the builder reads -/

/-- A `for` loop can go through the value. -/
def isIterable : PyValue → Bool
  | .list _ => true
  | .dict _ => true
  | .str _ => true
  | _ => false

/-- The input of a step can be read, and so can its connection where the input has no `auth`. -/
def UsableInput (spec : PyValue) : Prop :=
  ∃ fields, toDict (specInput spec) = .ok fields ∧ blankKeys (cleanInputConfig fields) = .ok () ∧
    ((spec.entryD "connection_id").truthy = true →
      text "auth" ∉ (cleanInputConfig fields).map Prod.fst →
      ∃ c, spec.entryD "connection_id" = .str c)

/-- The conditions of a branch can be gone through. -/
def UsableConditions (branch : PyValue) : Prop :=
  ((branch.entry "branch_type").getD (py "CONDITION")).isStr (text "FALLBACK") = false →
    isIterable ((branch.entry "conditions").getD (.list [])) = true ∧
      ∀ group ∈ ((branch.entry "conditions").getD (.list [])).iterated, isIterable group = true

/-- The entries that the builder reads and the check does not look at. -/
def Buildable (spec : PyValue) : Prop :=
  ((stepType spec).isStr (text "PIECE") = true → UsableInput spec) ∧
    ((stepType spec).isStr (text "ROUTER") = true →
      ∀ b ∈ branchList spec, UsableConditions (orEmpty b))

theorem exists_items_iff {v : PyValue} : (∃ items, v.items = .ok items) ↔ isIterable v = true := by
  cases v with
  | list _ => exact iff_of_true ⟨_, rfl⟩ rfl
  | dict _ => exact iff_of_true ⟨_, rfl⟩ rfl
  | str _ => exact iff_of_true ⟨_, rfl⟩ rfl
  | _ => exact iff_of_false (by simp [items]) (by simp [isIterable])

theorem isDict_orEmpty (v : PyValue) : (orEmpty v).isDict = true := by
  rw [orEmpty]
  split
  · assumption
  · rfl

theorem exists_conditionOf (c : PyValue) : ∃ condition, conditionOf c = .ok condition := by
  have hdict := isDict_orEmpty c
  rw [conditionOf, getD_of_isDict hdict, getD_of_isDict hdict, getD_of_isDict hdict]
  exact ⟨_, rfl⟩

/-- A branch has a definition exactly when its conditions can be gone through. -/
theorem exists_branchDefinition_iff {branch : PyValue} (hdict : branch.isDict = true) :
    (∃ definition, branchDefinition branch = .ok definition) ↔ UsableConditions branch := by
  constructor
  · rintro ⟨definition, h⟩ hcondition
    obtain ⟨branchType, htype, h⟩ := bind_eq_ok_iff.1 h
    obtain ⟨-, rfl⟩ := getD_eq_ok_iff.1 htype
    rw [hcondition] at h
    obtain ⟨conditions, hconditions, h⟩ := bind_eq_ok_iff.1 h
    obtain ⟨-, rfl⟩ := getD_eq_ok_iff.1 hconditions
    obtain ⟨groups, hgroups, h⟩ := bind_eq_ok_iff.1 h
    obtain ⟨conds, hconds, -⟩ := bind_eq_ok_iff.1 h
    refine ⟨exists_items_iff.1 ⟨groups, hgroups⟩, fun group hgroup ↦ ?_⟩
    rw [← map_val_of_items hgroups] at hgroup
    obtain ⟨g, hg, rfl⟩ := List.mem_map.1 hgroup
    obtain ⟨cond, -, hcond⟩ := exists_of_mapM_eq_ok hconds hg
    obtain ⟨members, hmembers, -⟩ := bind_eq_ok_iff.1 hcond
    exact exists_items_iff.1 ⟨members, hmembers⟩
  · intro husable
    refine exists_bind_eq_ok_iff.2 ⟨_, getD_of_isDict hdict _ _, ?_⟩
    split
    · exact ⟨_, bind_eq_ok_iff.2 ⟨_, getD_of_isDict hdict _ _, rfl⟩⟩
    · rename_i hcondition
      obtain ⟨hconditions, hgroups⟩ := husable (by simpa using hcondition)
      obtain ⟨groups, hitems⟩ := exists_items_iff.2 hconditions
      have hall : ∀ g ∈ groups, ∃ cond, (do
          let members ← g.1.items
          let group ← members.mapM fun c ↦ conditionOf c.1
          pure (PyValue.list group)) = Except.ok (ε := PyError) cond ∧ True := by
        intro g hg
        have hmem : g.1 ∈ ((branch.entry "conditions").getD (.list [])).iterated :=
          map_val_of_items hitems ▸ List.mem_map_of_mem hg
        obtain ⟨members, hmembers⟩ := exists_items_iff.2 (hgroups g.1 hmem)
        obtain ⟨group, hgroup, -⟩ := exists_mapM_eq_ok (f := fun c ↦ conditionOf c.1)
          (P := fun _ _ ↦ True) (l := members) fun c _ ↦
            (exists_conditionOf c.1).imp fun _ hc ↦ ⟨hc, trivial⟩
        exact ⟨_, bind_eq_ok_iff.2 ⟨members, hmembers, bind_eq_ok_iff.2 ⟨group, hgroup, rfl⟩⟩,
          trivial⟩
      obtain ⟨conds, hconds, -⟩ := exists_mapM_eq_ok hall
      exact ⟨_, bind_eq_ok_iff.2 ⟨_, getD_of_isDict hdict _ _, bind_eq_ok_iff.2 ⟨groups, hitems,
        bind_eq_ok_iff.2 ⟨conds, hconds, bind_eq_ok_iff.2 ⟨_, getD_of_isDict hdict _ _, rfl⟩⟩⟩⟩⟩

/-! ### The settings of a piece -/

section Settings

variable {env : BuilderEnv} {R : PyRuntime} {spec schema props : PyValue}
  {short resolved name : PyStr} {input fields : Fields}

/-- The connection of a step can be read exactly when it is a string, unless it is not read. -/
theorem exists_withAuth_iff (hdict : spec.isDict = true) :
    (∃ input', withAuth env spec short input = .ok input') ↔
      ((spec.entryD "connection_id").truthy = true → text "auth" ∉ input.map Prod.fst →
        ∃ c, spec.entryD "connection_id" = .str c) := by
  rw [withAuth, get_of_isDict hdict, exists_bind_eq_ok_iff]
  generalize spec.entryD "connection_id" = own
  constructor
  · rintro ⟨_, hval, h⟩ hown hauth
    obtain rfl := Except.ok.inj hval
    dsimp only at h
    rw [orElse, if_pos hown, if_pos (by simpa [hown] using hauth)] at h
    cases own with
    | str c => exact ⟨c, rfl⟩
    | _ => exact absurd h (by simp [connectionRefOf, bind, Except.bind])
  · intro h
    refine ⟨own, rfl, ?_⟩
    dsimp only
    split
    · rename_i hnone
      obtain ⟨-, hauth⟩ := Bool.and_eq_true_iff.1 hnone
      by_cases hown : own.truthy = true
      · obtain ⟨c, rfl⟩ := h hown (by simpa using hauth)
        rw [orElse, if_pos hown]
        exact ⟨_, rfl⟩
      · rw [orElse, if_neg hown]
        exact ⟨_, rfl⟩
    · exact ⟨_, rfl⟩

theorem blankKeys_eq_ok_iff : blankKeys input = .ok () ↔
    (input.all fun f ↦ !(f.2.isBlank && !f.2.isDict) || isTextKey f.1) = true := by
  rw [blankKeys]
  split
  · rename_i hkeys
    exact iff_of_true rfl hkeys
  · rename_i hkeys
    exact iff_of_false (by simp) hkeys

/-- The name of the connection is a string. -/
theorem blankKeys_withAuth {input' : Fields} (h : withAuth env spec short input = .ok input') :
    blankKeys input' = .ok () ↔ blankKeys input = .ok () := by
  obtain ⟨own, -, h⟩ := bind_eq_ok_iff.1 h
  dsimp only at h
  split at h
  · rename_i hnone
    have hauth : text "auth" ∉ input.map Prod.fst := by
      simpa using (Bool.and_eq_true_iff.1 hnone).2
    obtain ⟨auth, -, h⟩ := bind_eq_ok_iff.1 h
    obtain rfl := Except.ok.inj h
    have hkey : isTextKey (text "auth") = true := by decide
    rw [blankKeys_eq_ok_iff, blankKeys_eq_ok_iff, upsert, if_neg hauth, List.all_append,
      List.all_cons, hkey, Bool.or_true, List.all_nil, Bool.and_true, Bool.and_true]
  · rw [Except.ok.inj h]

/-- The properties of an action are a dictionary, also where there is no such action. -/
theorem exists_getActionProps (hnormal : NormalSchema schema)
    (hactions : schema.entry "actions" = some (.dict fields)) (name : PyStr) :
    ∃ props, getActionProps schema (.str name) = .ok props ∧ props.isDict = true := by
  obtain ⟨fields', heq, hall⟩ := hnormal.2 _ hactions
  obtain rfl := PyValue.dict.inj heq
  have haction : ∃ action, (fields.lookup name).getD (.dict []) = action ∧ action.isDict = true ∧
      ∀ key ∈ ["props", "properties"], ∀ props, action.entry key = some props →
        props.isDict = true := by
    cases hlookup : fields.lookup name with
    | none => exact ⟨_, rfl, rfl, fun key _ props h ↦ absurd h (by simp [entry])⟩
    | some action =>
      obtain ⟨l₁, l₂, rfl, -⟩ := List.lookup_eq_some_iff.1 hlookup
      exact ⟨action, rfl, hall (name, action) (by simp)⟩
  obtain ⟨action, haction, hdict, hprops⟩ := haction
  have hdefault : ∀ key ∈ ["props", "properties"],
      ((action.entry key).getD (.dict [])).isDict = true := by
    intro key hkey
    cases hentry : action.entry key with
    | none => rfl
    | some props => exact hprops key hkey props hentry
  have hget : getActionProps schema (.str name) = (do
      let props ← action.getD "props" (.dict [])
      if props.truthy then pure props else action.getD "properties" (.dict [])) := by
    rw [getActionProps, getD_of_isDict hnormal.1, hactions, ← haction]
    rfl
  rw [hget, getD_of_isDict hdict, getD_of_isDict hdict]
  by_cases htruthy : ((action.entry "props").getD (.dict [])).truthy = true
  · exact ⟨_, if_pos htruthy, hdefault "props" (by simp)⟩
  · exact ⟨_, if_neg htruthy, hdefault "properties" (by simp)⟩

theorem exists_draftGuard (hprops : props.isDict = true) (input : Fields) :
    ∃ input', draftGuard props input = .ok input' := by
  rw [draftGuard]
  split
  · generalize booleanFieldNames = flags
    induction flags generalizing input with
    | nil => exact ⟨_, rfl⟩
    | cons flag flags ih =>
      rw [List.foldlM_cons]
      refine exists_bind_eq_ok_iff.2 ?_
      have hstep : ∃ mid, (if flag ∈ input.map Prod.fst then pure input
          else do
            if ← props.hasItem flag then pure (upsert input flag (.bool false))
            else pure input) = Except.ok mid := by
        split
        · exact ⟨_, rfl⟩
        · obtain ⟨found, hfound⟩ : ∃ found, props.hasItem flag = .ok found := by
            cases props with
            | dict ps => exact ⟨_, rfl⟩
            | _ => exact absurd hprops (by simp [isDict])
          refine exists_bind_eq_ok_iff.2 ⟨found, hfound, ?_⟩
          split
          · exact ⟨_, rfl⟩
          · exact ⟨_, rfl⟩
      exact hstep.imp fun mid hmid ↦ ⟨hmid, ih mid⟩
  · exact ⟨_, rfl⟩

theorem exists_generatePropertySettings (hprops : props.isDict = true) (input : Fields) :
    ∃ generated, generatePropertySettings R props input = .ok generated := by
  cases props with
  | dict ps =>
    rw [generatePropertySettings]
    split
    · exact ⟨_, rfl⟩
    · exact ⟨_, rfl⟩
  | _ => exact absurd hprops (by simp [isDict])

theorem error_of_fromPy_bind {α β : Type} {x : Except PyError α} {f : α → Except EngineError β}
    {a : α} {e : EngineError} (hx : x = .ok a) (h : fromPy x >>= f = .error e) :
    f a = .error e := by
  subst hx
  exact h

/-- A schema with actions yields settings, unless it does not have the action. -/
theorem error_of_settingsFromSchema (hdict : spec.isDict = true)
    (hname : spec.entryD "action_name" = .str name) (hnormal : NormalSchema schema)
    (hactions : hasActions schema = .ok true) {e : EngineError}
    (h : settingsFromSchema env spec schema resolved input = .error e) :
    ∃ asked found actions, e = actionNotFound asked found actions := by
  have htruthy : schema.truthy = true := by
    by_contra hfalsy
    rw [hasActions, if_neg hfalsy] at hactions
    exact absurd hactions (by simp)
  obtain ⟨fields, hentry⟩ : ∃ fields, schema.entry "actions" = some (.dict fields) := by
    cases hentry : schema.entry "actions" with
    | some actions =>
      obtain ⟨fields, rfl, -⟩ := hnormal.2 actions hentry
      exact ⟨fields, rfl⟩
    | none =>
      rw [hasActions, if_pos htruthy, get_of_isDict hnormal.1, entryD, hentry] at hactions
      exact absurd hactions (by simp [truthy, Except.map])
  have hversion : ∃ version,
      versionOr env (spec.entryD "version") schema resolved = .ok version := by
    rw [versionOr, resolvePieceVersion, if_pos htruthy, get_of_isDict hnormal.1]
    split
    · exact ⟨_, rfl⟩
    · generalize schema.entryD "version" = version
      by_cases hversion : version.truthy = true
      · exact ⟨_, congrArg (Except.map PyValue.str) (if_pos hversion)⟩
      · exact ⟨_, congrArg (Except.map PyValue.str) (if_neg hversion)⟩
  have hask : spec.getD "action_name" (py "") = .ok (.str name) := by
    rw [getD_of_isDict hdict]
    rw [entryD] at hname
    cases hvalue : spec.entry "action_name" with
    | some v => exact congrArg Except.ok (by rwa [hvalue] at hname)
    | none => exact absurd (hvalue ▸ hname) (by simp)
  have hresolve : resolveAction schema (.str name) = .ok (fuzzyName name fields, fields) := by
    rw [resolveAction, getD_of_isDict hnormal.1, hentry]
    rfl
  obtain ⟨version, hversion⟩ := hversion
  obtain ⟨props, hprops, hpropsDict⟩ := exists_getActionProps hnormal hentry
    (fuzzyName name fields)
  obtain ⟨guarded, hguarded⟩ := exists_draftGuard hpropsDict input
  obtain ⟨generated, hgenerated⟩ :=
    exists_generatePropertySettings (R := env.runtime) hpropsDict guarded
  replace h := error_of_fromPy_bind (get_of_isDict hdict _) h
  replace h := error_of_fromPy_bind hversion h
  replace h := error_of_fromPy_bind hask h
  replace h := error_of_fromPy_bind hresolve h
  replace h := error_of_fromPy_bind hprops h
  replace h := error_of_fromPy_bind hguarded h
  replace h := error_of_fromPy_bind hgenerated h
  split at h
  · exact absurd (error_of_fromPy_bind (get_of_isDict hdict _) h) (by simp [pure, Except.pure])
  · exact ⟨_, _, _, (Except.error.inj h).symm⟩

end Settings

/-! ### Builders that fail for a reason -/

/-- A 4xx. -/
def EngineError.Refuses : EngineError → Prop
  | .http status _ => 400 ≤ status ∧ status < 500
  | _ => False

/-- The program fails otherwise than with a 4xx only if `X` does not hold, and it returns only if
`X` holds; schemas with actions may yield a 4xx and may hide that `X` does not hold. -/
def FailsUnless (A : CatalogQuery × Except EngineError PyValue → Prop) (X : Prop) {α : Type}
    (m : BuilderM α) : Prop :=
  Ensures A (fun _ ↦ SomeActions A ∨ X)
    (fun e ↦ e.Refuses ∧ SomeActions A ∨ ¬ e.Refuses ∧ ¬ X) m

theorem not_refuses_of_fromPy {α : Type} {x : Except PyError α} {e : EngineError}
    (h : fromPy x = .error e) : ¬ e.Refuses := by
  cases x with
  | ok a => exact absurd h (by simp [fromPy, Except.mapError])
  | error e' =>
    obtain rfl := Except.error.inj h
    exact fun hrefuses ↦ hrefuses

section FailsUnless

variable {A : CatalogQuery × Except EngineError PyValue → Prop} {X Y : Prop} {α β : Type}
  {m : BuilderM α} {f : α → BuilderM β}

theorem FailsUnless.congr (h : FailsUnless A X m) (hXY : X ↔ Y) : FailsUnless A Y m :=
  propext hXY ▸ h

theorem failsUnless_pure {a : α} (h : X) : FailsUnless A X (pure a : BuilderM α) :=
  ensures_pure (.inr h)

/-- Each part has its own reason to fail. -/
theorem FailsUnless.bind (hm : FailsUnless A X m) (hf : ∀ a, FailsUnless A Y (f a)) :
    FailsUnless A (X ∧ Y) (m >>= f) := by
  refine Ensures.bind (hm.mono (fun _ h ↦ h) ?_) fun a hX ↦ (hf a).mono ?_ ?_
  · rintro e (h | ⟨he, hX⟩)
    · exact .inl h
    · exact .inr ⟨he, fun hXY ↦ hX hXY.1⟩
  · rintro b (h | hY)
    · exact .inl h
    · exact hX.imp id fun hX ↦ ⟨hX, hY⟩
  · rintro e (h | ⟨he, hY⟩)
    · exact .inl h
    · exact .inr ⟨he, fun hXY ↦ hY hXY.2⟩

/-- A part that does not fail. -/
theorem FailsUnless.after {P : α → Prop} (hm : Ensures A P (fun _ ↦ False) m)
    (hf : ∀ a, P a → FailsUnless A Y (f a)) : FailsUnless A Y (m >>= f) :=
  Ensures.bind (hm.mono (fun _ h ↦ h) fun _ h ↦ h.elim) hf

theorem failsUnless_evalPy {x : Except PyError α} (h : (∃ a, x = .ok a) ↔ X) :
    FailsUnless A X (evalPy x) := by
  refine ensures_lift (fun a ha ↦ ?_) fun e he ↦ ?_
  · cases x with
    | ok b => exact .inr (h.1 ⟨b, rfl⟩)
    | error e => exact absurd ha (by simp [Except.mapError])
  · cases x with
    | ok b => exact absurd he (by simp [Except.mapError])
    | error e' =>
      obtain rfl := Except.error.inj he
      exact .inr ⟨fun hrefuses ↦ hrefuses, fun hX ↦ by simpa using h.2 hX⟩

theorem failsUnless_evalPy_bind {x : Except PyError α} {a : α} (hx : x = .ok a)
    (hf : FailsUnless A Y (f a)) : FailsUnless A Y (evalPy x >>= f) :=
  .after (P := (· = a)) (ensures_evalPy ⟨a, hx, rfl⟩) fun _ h ↦ h ▸ hf

theorem failsUnless_report_bind {row : PyValue} {f : Unit → BuilderM α}
    (hf : FailsUnless A Y (f ())) : FailsUnless A Y (report row >>= f) :=
  fun _ l x t hrun hA ↦ hf _ l x t (runs_report_bind_iff.1 hrun) hA

theorem failsUnless_nextNumber_bind {f : ℕ → BuilderM α} (hf : ∀ n, FailsUnless A Y (f n)) :
    FailsUnless A Y (nextNumber >>= f) :=
  fun _ l x t hrun hA ↦ hf _ _ l x t (runs_nextNumber_bind_iff.1 hrun) hA

end FailsUnless

/-! ### Steps -/

section Steps

variable {env : BuilderEnv} {A : CatalogQuery × Except EngineError PyValue → Prop}
  {spec schema next : PyValue} {resolved name : PyStr}

/-- The settings of a piece fail for what the step gives as input and connection. -/
theorem failsUnless_pieceSettings (hdict : spec.isDict = true)
    (hname : spec.entryD "action_name" = .str name) (hfetched : Fetched A schema) :
    FailsUnless A (UsableInput spec) (lift (pieceSettings env spec schema resolved)) := by
  have hraw : spec.getD "input" ((spec.entry "input_config").getD (.dict [])) =
      .ok (specInput spec) := getD_of_isDict hdict _ _
  obtain ⟨found, hfound⟩ := exists_hasActions hfetched.1
  refine ensures_lift (fun settings h ↦ ?_) fun e h ↦ ?_
  · obtain ⟨config, hconfig, h⟩ := bind_eq_ok_iff.1 h
    obtain ⟨-, rfl⟩ := getD_eq_ok_iff.1 (fromPy_eq_ok_iff.1 hconfig)
    obtain ⟨raw, hraw', h⟩ := bind_eq_ok_iff.1 h
    obtain rfl := Except.ok.inj (hraw.symm.trans (fromPy_eq_ok_iff.1 hraw'))
    obtain ⟨fields, hfields, h⟩ := bind_eq_ok_iff.1 h
    obtain ⟨input, hinput, h⟩ := bind_eq_ok_iff.1 h
    obtain ⟨loaded, hloaded, h⟩ := bind_eq_ok_iff.1 h
    have hinput' := fromPy_eq_ok_iff.1 hinput
    split at h
    · rename_i htrue
      subst htrue
      exact .inl (hfetched.2 (fromPy_eq_ok_iff.1 hloaded))
    · obtain ⟨explicit, -, h⟩ := bind_eq_ok_iff.1 h
      obtain ⟨action, -, h⟩ := bind_eq_ok_iff.1 h
      obtain ⟨extra, -, h⟩ := bind_eq_ok_iff.1 h
      obtain ⟨checked, hblank, -⟩ := bind_eq_ok_iff.1 h
      exact .inr ⟨fields, fromPy_eq_ok_iff.1 hfields,
        (blankKeys_withAuth hinput').1 (fromPy_eq_ok_iff.1 hblank),
        (exists_withAuth_iff hdict).1 ⟨input, hinput'⟩⟩
  · replace h := error_of_fromPy_bind (getD_of_isDict hdict _ _) h
    replace h := error_of_fromPy_bind hraw h
    rcases bind_eq_error_iff.1 h with h | ⟨fields, hfields, h⟩
    · refine .inr ⟨not_refuses_of_fromPy h, ?_⟩
      rintro ⟨fields, hfields, -⟩
      rw [hfields] at h
      exact absurd h (by simp [fromPy, Except.mapError])
    replace hfields := fromPy_eq_ok_iff.1 hfields
    rcases bind_eq_error_iff.1 h with h | ⟨input, hinput, h⟩
    · refine .inr ⟨not_refuses_of_fromPy h, ?_⟩
      rintro ⟨fields', hfields', -, hconnection⟩
      obtain rfl := Except.ok.inj (hfields.symm.trans hfields')
      obtain ⟨input, hinput⟩ := (exists_withAuth_iff hdict).2 hconnection
      rw [hinput] at h
      exact absurd h (by simp [fromPy, Except.mapError])
    replace h := error_of_fromPy_bind hfound h
    split at h
    · -- Only a schema that has actions can lack the one that is asked for.
      rename_i htrue
      subst htrue
      obtain ⟨asked, action, actions, rfl⟩ :=
        error_of_settingsFromSchema hdict hname hfetched.1 hfound h
      exact .inl ⟨⟨Nat.le_refl 400, by decide⟩, hfetched.2 hfound⟩
    · replace h := error_of_fromPy_bind (get_of_isDict hdict _) h
      replace h := error_of_fromPy_bind (getD_of_isDict hdict _ _) h
      replace h := error_of_fromPy_bind (get_of_isDict hdict _) h
      rcases bind_eq_error_iff.1 h with h | ⟨checked, -, h⟩
      · refine .inr ⟨not_refuses_of_fromPy h, ?_⟩
        rintro ⟨fields', hfields', hblank, -⟩
        obtain rfl := Except.ok.inj (hfields.symm.trans hfields')
        rw [(blankKeys_withAuth (fromPy_eq_ok_iff.1 hinput)).2 hblank] at h
        exact absurd h (by simp [fromPy, Except.mapError])
      · exact absurd h (by simp [pure, Except.pure])

theorem failsUnless_buildPieceStep (hA : ∀ e, A e → AnsweredNormally e) (hvalid : ValidSpec spec)
    (htype : (stepType spec).isStr (text "PIECE") = true) (sname : PyStr) :
    FailsUnless A (UsableInput spec) (buildPieceStep env spec sname next) := by
  obtain ⟨raw, name, hraw, hne, hname⟩ := hvalid.piece htype
  refine failsUnless_evalPy_bind hraw ?_
  rw [if_neg hne]
  refine .after (ensures_autoResolvePiece hA raw) fun resolved hfetched ↦ ?_
  refine ((failsUnless_pieceSettings hvalid.dict hname hfetched).bind (Y := True)
    fun settings ↦ ?_).congr (and_iff_left trivial)
  refine failsUnless_report_bind (failsUnless_evalPy_bind (getD_of_isDict hvalid.dict _ _) ?_)
  exact failsUnless_pure trivial

theorem failsUnless_buildCodeFromSpec (hdict : spec.isDict = true) (sname : PyStr) :
    FailsUnless A True (buildCodeFromSpec spec sname next) := by
  refine failsUnless_evalPy_bind (getD_of_isDict hdict _ _) (failsUnless_report_bind ?_)
  refine failsUnless_evalPy_bind (getD_of_isDict hdict _ _) ?_
  exact failsUnless_evalPy_bind (get_of_isDict hdict _) (failsUnless_pure trivial)

/-- All steps of the list, at any depth. -/
def AllWithin (P : PyValue → Prop) (specs : List PyValue) : Prop :=
  ∀ spec, SpecWithin specs spec → P spec

/-- The step and all steps inside it. -/
def Throughout (P : PyValue → Prop) (spec : PyValue) : Prop :=
  P spec ∧ ∀ inner ∈ nestedLists spec, AllWithin P inner

theorem allWithin_nil {P : PyValue → Prop} : AllWithin P [] := by
  rintro spec ⟨inner, hinner, hspec⟩
  rcases hinner.cases_head with rfl | ⟨mid, ⟨s, hs, -⟩, -⟩
  · exact absurd hspec List.not_mem_nil
  · exact absurd hs List.not_mem_nil

theorem allWithin_cons_iff {P : PyValue → Prop} {specs : List PyValue} :
    AllWithin P (spec :: specs) ↔ AllWithin P specs ∧ Throughout P spec := by
  constructor
  · intro h
    refine ⟨fun w hw ↦ h w (specWithin_cons hw), h spec ⟨_, .refl, List.mem_cons_self⟩, ?_⟩
    exact fun inner hinner w hw ↦ h w (specWithin_nested hinner hw)
  · rintro ⟨hrest, hfirst, hinside⟩ w ⟨inner, hinner, hw⟩
    rcases hinner.cases_head with rfl | ⟨mid, ⟨s, hs, hmid⟩, hdeep⟩
    · rcases List.mem_cons.1 hw with rfl | hw
      · exact hfirst
      · exact hrest w ⟨specs, .refl, hw⟩
    · rcases List.mem_cons.1 hs with rfl | hs
      · exact hinside mid hmid w ⟨inner, hdeep, hw⟩
      · exact hrest w ⟨inner, .head ⟨s, hs, hmid⟩ hdeep, hw⟩

theorem allWithin_iff {P : PyValue → Prop} {specs : List PyValue} :
    AllWithin P specs ↔ ∀ spec ∈ specs, Throughout P spec := by
  induction specs with
  | nil => exact iff_of_true allWithin_nil fun _ h ↦ absurd h List.not_mem_nil
  | cons spec specs ih =>
    rw [allWithin_cons_iff, ih, List.forall_mem_cons, and_comm]

theorem stepList_getD {key : String} (h : StepList (spec.entryD key)) :
    StepList ((spec.entry key).getD (.list [])) := by
  rw [entryD] at h
  cases hvalue : spec.entry key with
  | some v => rwa [hvalue] at h
  | none => exact fun _ ↦ ⟨[], rfl⟩

section Chains

variable {β : Type}

/-- A chain fails for the reasons of its steps. -/
theorem failsUnless_buildChainFrom {build : β → PyValue → BuilderM PyValue}
    {specOf : β → PyValue} {total : ℕ} {bs : List β} (hdict : ∀ b ∈ bs, (specOf b).isDict = true)
    (hbuild : ∀ b ∈ bs, ∀ next,
      FailsUnless A (Throughout Buildable (specOf b)) (build b next)) (stepNum : ℕ) :
    FailsUnless A (AllWithin Buildable (bs.map specOf))
      (buildChainFrom env build specOf total stepNum bs) := by
  induction bs generalizing stepNum with
  | nil => exact failsUnless_pure allWithin_nil
  | cons b bs ih =>
    obtain ⟨hfirst, hrest⟩ := List.forall_mem_cons.1 hdict
    obtain ⟨hbuildFirst, hbuildRest⟩ := List.forall_mem_cons.1 hbuild
    rw [List.map_cons]
    refine ((ih hrest hbuildRest (stepNum + 1)).bind fun chain ↦ ?_).congr
      allWithin_cons_iff.symm
    rw [buildChainStep, if_pos hfirst]
    refine Ensures.handle (hbuildFirst chain) fun e he ↦ ?_
    split
    · exact ensures_raise he
    · -- What is no `HTTPException` is no 4xx, and neither is the 500 that it becomes.
      rename_i hhttp
      have hno : ¬ e.Refuses := by
        cases e with
        | http status detail => exact absurd rfl hhttp
        | _ => exact fun hrefuses ↦ hrefuses
      obtain ⟨-, hreason⟩ := he.resolve_left fun h ↦ hno h.1
      exact ensures_raise (.inr ⟨fun hrefuses ↦ absurd hrefuses.2 (by decide), hreason⟩)

theorem failsUnless_chainOf {v : PyValue} (hlist : StepList v)
    {build : { s : PyValue // s.weight ≤ v.weight } → PyValue → BuilderM PyValue}
    (hvalid : AllWithin ValidSpec v.listItems)
    (hbuild : ∀ b, Throughout ValidSpec b.1 → ∀ next,
      FailsUnless A (Throughout Buildable b.1) (build b next)) :
    FailsUnless A (AllWithin Buildable v.listItems) (chainOf env v build) := by
  rw [chainOf]
  split
  · rename_i hfalsy
    rw [listItems_eq_nil (by simpa using hfalsy)]
    exact failsUnless_pure allWithin_nil
  · rename_i htruthy
    obtain ⟨vs, rfl⟩ := hlist (by simpa using htruthy)
    obtain ⟨items, hitems⟩ := exists_items_iff.2 (show isIterable (.list vs) = true from rfl)
    refine failsUnless_evalPy_bind hitems ?_
    have hvalues : items.map Subtype.val = vs := map_val_of_items hitems
    have hall : ∀ b ∈ items, Throughout ValidSpec b.1 := by
      intro b hb
      have hmem : b.1 ∈ items.map Subtype.val := List.mem_map_of_mem hb
      rw [hvalues] at hmem
      exact allWithin_iff.1 hvalid b.1 hmem
    have hchain : FailsUnless A (AllWithin Buildable (items.map Subtype.val))
        (buildChainFrom env build Subtype.val items.length 1 items) :=
      failsUnless_buildChainFrom (fun b hb ↦ (hall b hb).1.dict) (fun b hb ↦ hbuild b (hall b hb)) 1
    rwa [hvalues] at hchain

theorem failsUnless_buildBranches {branchOf : β → PyValue} {chain : β → BuilderM PyValue}
    {bs : List β} (hchain : ∀ b ∈ bs,
      FailsUnless A (AllWithin Buildable (branchActions (branchOf b))) (chain b)) :
    FailsUnless A (∀ b ∈ bs, UsableConditions (orEmpty (branchOf b)) ∧
      AllWithin Buildable (branchActions (branchOf b))) (buildBranches branchOf chain bs) := by
  induction bs with
  | nil => exact failsUnless_pure fun _ h ↦ absurd h List.not_mem_nil
  | cons b bs ih =>
    obtain ⟨hfirst, hrest⟩ := List.forall_mem_cons.1 hchain
    have hdefinition := failsUnless_evalPy (A := A)
      (exists_branchDefinition_iff (isDict_orEmpty (branchOf b)))
    refine (hdefinition.bind fun definition ↦ hfirst.bind fun child ↦ ((ih hrest).bind (Y := True)
      fun rest ↦ failsUnless_pure trivial).congr (and_iff_left trivial)).congr ?_
    rw [List.forall_mem_cons, and_assoc]

end Chains

/-- **A step fails for the entries that are read while it is built.** The induction follows the
nesting of the specifications. -/
theorem failsUnless_buildStepFromSpec (hA : ∀ e, A e → AnsweredNormally e) (spec next : PyValue)
    (hvalid : Throughout ValidSpec spec) :
    FailsUnless A (Throughout Buildable spec) (buildStepFromSpec env spec next) := by
  obtain ⟨hspec, hinside⟩ := hvalid
  rw [buildStepFromSpec]
  refine failsUnless_evalPy_bind (getD_of_isDict hspec.dict _ _)
    (failsUnless_nextNumber_bind fun n ↦ ?_)
  change FailsUnless A _ (if (stepType spec).isStr (text "PIECE") then _ else _)
  split
  · rename_i htype
    refine (failsUnless_buildPieceStep hA hspec htype _).congr ⟨fun h ↦ ⟨⟨fun _ ↦ h, ?_⟩, ?_⟩,
      fun h ↦ h.1.1 htype⟩
    · exact fun hrouter ↦ absurd (not_typed_both htype hrouter) (by decide)
    · rw [nestedLists_piece htype]
      exact fun _ h ↦ absurd h List.not_mem_nil
  split
  · rename_i htype
    refine (failsUnless_buildCodeFromSpec hspec.dict _).congr (iff_of_true trivial ⟨⟨?_, ?_⟩, ?_⟩)
    · exact fun hpiece ↦ absurd (not_typed_both htype hpiece) (by decide)
    · exact fun hrouter ↦ absurd (not_typed_both htype hrouter) (by decide)
    · rw [nestedLists_code htype]
      exact fun _ h ↦ absurd h List.not_mem_nil
  split
  · rename_i htype
    obtain ⟨bs, hbs, hlists⟩ := hspec.router htype
    obtain ⟨branches, hbranches, hvalue⟩ := child_of_isDict hspec.dict "branches" Leaf.nil
    have hiter : isIterable branches.1 = true := by
      rw [hvalue.trans hbs]
      rfl
    obtain ⟨items, hitems⟩ := exists_items_iff.2 hiter
    have hvalues : items.map Subtype.val = branchList spec := by
      rw [map_val_of_items hitems, hvalue]
      rfl
    refine failsUnless_evalPy_bind hbranches (failsUnless_evalPy_bind
      (getD_of_isDict hspec.dict _ _) (failsUnless_report_bind (failsUnless_evalPy_bind hitems ?_)))
    have hchain : ∀ b ∈ items, FailsUnless A (AllWithin Buildable (branchActions b.1))
        (if b.1.isDict then do
          let actions ← evalPy (b.1.child "actions" Leaf.nil)
          chainOf env actions.1 fun s chain ↦ buildStepFromSpec env s.1 chain
        else pure .null) := by
      intro b hb
      have hmem : b.1 ∈ items.map Subtype.val := List.mem_map_of_mem hb
      rw [hvalues] at hmem
      split
      · rename_i hdict
        obtain ⟨actions, hactions, hpart⟩ := child_of_isDict hdict "actions" Leaf.nil
        have hb' : b.1 ∈ bs := by rwa [branchList, hbs] at hmem
        have hlist : StepList actions.1 := by
          rw [hpart]
          exact stepList_getD (hlists b.1 hb' hdict)
        have hin : AllWithin ValidSpec actions.1.listItems := by
          rw [hpart]
          refine hinside _ ?_
          rw [nestedLists_router htype]
          exact List.mem_map_of_mem hmem
        have hactions' : FailsUnless A (AllWithin Buildable actions.1.listItems)
            (chainOf env actions.1 fun s chain ↦ buildStepFromSpec env s.1 chain) :=
          failsUnless_chainOf hlist hin fun c hc next' ↦
            failsUnless_buildStepFromSpec hA c.1 next' hc
        have hinner : branchActions b.1 = actions.1.listItems := by
          rw [hpart]
          rfl
        rw [hinner]
        exact failsUnless_evalPy_bind hactions hactions'
      · rename_i hbranch
        rw [branchActions_of_not_dict (by simpa using hbranch)]
        exact failsUnless_pure allWithin_nil
    refine ((failsUnless_buildBranches hchain).bind (Y := True) fun built ↦
      failsUnless_pure trivial).congr ((and_iff_left trivial).trans ?_)
    have hbranches : (∀ b ∈ items, UsableConditions (orEmpty b.1) ∧
        AllWithin Buildable (branchActions b.1)) ↔ ∀ b ∈ branchList spec,
          UsableConditions (orEmpty b) ∧ AllWithin Buildable (branchActions b) := by
      rw [← hvalues, List.forall_mem_map]
    rw [hbranches, Throughout, nestedLists_router htype, List.forall_mem_map]
    refine ⟨fun h ↦ ⟨⟨?_, fun _ b hb ↦ (h b hb).1⟩, fun b hb ↦ (h b hb).2⟩,
      fun h b hb ↦ ⟨h.1.2 htype b hb, h.2 b hb⟩⟩
    exact fun hpiece ↦ absurd (not_typed_both htype hpiece) (by decide)
  split
  · rename_i htype
    obtain ⟨actions, hactions, hpart⟩ := child_of_isDict hspec.dict "loop_actions" Leaf.nil
    have hlist : StepList actions.1 := by
      rw [hpart]
      exact stepList_getD (hspec.loop htype)
    have hin : AllWithin ValidSpec actions.1.listItems := by
      rw [hpart]
      refine hinside _ ?_
      rw [nestedLists_loop htype]
      exact List.mem_singleton_self _
    refine failsUnless_evalPy_bind (getD_of_isDict hspec.dict _ _) (failsUnless_evalPy_bind
      (getD_of_isDict hspec.dict _ _) (failsUnless_evalPy_bind (getD_of_isDict hspec.dict _ _)
      (failsUnless_report_bind (failsUnless_evalPy_bind hactions ?_))))
    refine ((failsUnless_chainOf hlist hin fun c hc next' ↦
      failsUnless_buildStepFromSpec hA c.1 next' hc).bind (Y := True) fun first ↦
        failsUnless_pure trivial).congr ((and_iff_left trivial).trans ?_)
    rw [hpart]
    rw [Throughout, nestedLists_loop htype, List.forall_mem_singleton]
    refine ⟨fun h ↦ ⟨⟨?_, ?_⟩, h⟩, fun h ↦ h.2⟩
    · exact fun hpiece ↦ absurd (not_typed_both htype hpiece) (by decide)
    · exact fun hrouter ↦ absurd (not_typed_both htype hrouter) (by decide)
  · rename_i h₁ h₂ h₃ h₄
    exact (hspec.known.elim h₁ fun h ↦ h.elim h₂ fun h ↦ h.elim h₃ h₄).elim
termination_by spec.weight
decreasing_by
  · exact Nat.lt_of_le_of_lt c.2 actions.2
  · exact Nat.lt_of_le_of_lt c.2 (Nat.lt_of_lt_of_le actions.2 (Nat.le_of_lt
      (Nat.lt_of_le_of_lt b.2 branches.2)))

end Steps

/-! ### The main result -/

/-- Each run in which the catalogue answers normally returns, or raises a 4xx. -/
def BuiltOrRefused (env : BuilderEnv) (specs : PyValue) : Prop :=
  ∀ s l x t, (buildActionChain env specs).Runs s l x t → (∀ e ∈ l, AnsweredNormally e) →
    ∀ e, x = .error e → e.Refuses

/-- The answers of a catalogue without pieces. -/
def emptyCatalog : CatalogQuery → Except EngineError PyValue
  | .schema _ => .error (.http 404 (.text []))
  | .pieces => .ok (.list [])
  | .connections => .ok (.list [])

theorem answeredNormally_of_emptyCatalog {e : CatalogQuery × Except EngineError PyValue}
    (h : e.2 = emptyCatalog e.1) : AnsweredNormally e := by
  obtain ⟨q, r⟩ := e
  obtain rfl : r = emptyCatalog q := h
  cases q with
  | schema piece => exact trivial
  | pieces => exact ⟨_, _, rfl, rfl, fun _ hp ↦ absurd hp List.not_mem_nil⟩
  | connections => exact trivial

theorem not_someActions_of_emptyCatalog : ¬ SomeActions fun e ↦ e.2 = emptyCatalog e.1 := by
  rintro ⟨piece, schema, h, -⟩
  exact absurd h (by simp [emptyCatalog])

section Main

variable {env : BuilderEnv} {specs : PyValue} {path : PyStr} {allowEmpty : Bool}

/-- What is accepted is built unless it has unusable entries. -/
theorem failsUnless_buildActionChain {A : CatalogQuery × Except EngineError PyValue → Prop}
    (hA : ∀ e, A e → AnsweredNormally e)
    (h : validateComplexSteps specs path allowEmpty = .ok ()) :
    FailsUnless A (AllWithin Buildable specs.listItems) (buildActionChain env specs) := by
  have hlist : StepList specs := by
    intro _
    cases specs with
    | list vs => exact ⟨vs, rfl⟩
    | _ => exact absurd h (by simp [validateComplexSteps])
  have hvalid : AllWithin ValidSpec specs.listItems := fun spec hspec ↦
    validSpec_of_accepted ⟨specs, path, allowEmpty, rfl, h⟩ hspec
  exact failsUnless_chainOf hlist hvalid fun b hb next ↦
    failsUnless_buildStepFromSpec hA b.1 next hb

/-- **What the check accepts is built or refused exactly when the entries that the check does not
look at are usable**: the input and the connection of each step that uses a piece, and the
conditions of each branch. -/
theorem validation_suffices_iff (env : BuilderEnv)
    (h : validateComplexSteps specs path allowEmpty = .ok ()) :
    BuiltOrRefused env specs ↔ AllWithin Buildable specs.listItems := by
  constructor
  · intro hbuilt
    -- Where no schema is found nothing is refused, so the run has to return.
    obtain ⟨l, x, t, hrun, hanswer⟩ :=
      exists_run_answered (buildActionChain env specs) ⟨1, []⟩ emptyCatalog
    have hfails : FailsUnless (fun e ↦ e.2 = emptyCatalog e.1) (AllWithin Buildable specs.listItems)
        (buildActionChain env specs) :=
      failsUnless_buildActionChain (fun e he ↦ answeredNormally_of_emptyCatalog he) h
    have houtcome := hfails ⟨1, []⟩ l x t hrun hanswer
    cases x with
    | ok chain => exact (houtcome.1 chain rfl).resolve_left not_someActions_of_emptyCatalog
    | error e =>
      have hrefuses : e.Refuses := hbuilt _ l _ t hrun
        (fun ex hex ↦ answeredNormally_of_emptyCatalog (hanswer ex hex)) e rfl
      rcases houtcome.2 e rfl with ⟨-, hactions⟩ | ⟨hno, -⟩
      · exact absurd hactions not_someActions_of_emptyCatalog
      · exact absurd hrefuses hno
  · intro hbuildable s l x t hrun hA e he
    rcases (failsUnless_buildActionChain (fun _ h ↦ h) h s l x t hrun hA).2 e he with
      ⟨hrefuses, -⟩ | ⟨-, hno⟩
    · exact hrefuses
    · exact absurd hbuildable hno

end Main

/-- The nested request is accepted. -/
theorem validate_nestedSpecs :
    validateComplexSteps (.list nestedSpecs) (text "steps") false = .ok () := by
  have hnotice : ∀ path, validateComplexSteps (.list [noticeSpec]) path true = .ok () := by
    intro path
    rw [validateComplexSteps]
    rfl
  have hcode : ∀ path, validateComplexSteps (.list [codeSpec]) path true = .ok () := by
    intro path
    rw [validateComplexSteps]
    rfl
  have hrouter : ∀ label, validateComplexStep noticeRouterSpec label
      (fun w path ↦ validateComplexSteps w.1 path true) = .ok () := by
    intro label
    show (validateComplexSteps (.list [noticeSpec]) _ true >>= fun _ ↦
      (validateComplexSteps (.list [codeSpec]) _ true >>= fun _ ↦ pure ())) = .ok ()
    exact bind_eq_ok_iff.2 ⟨(), hnotice _, bind_eq_ok_iff.2 ⟨(), hcode _, rfl⟩⟩
  have hloop : ∀ label, validateComplexStep noticeLoopSpec label
      (fun w path ↦ validateComplexSteps w.1 path true) = .ok () := fun label ↦ hnotice _
  rw [validateComplexSteps]
  show (validateComplexStep noticeRouterSpec _ (fun w path ↦ validateComplexSteps w.1 path true) >>=
    fun _ ↦ (validateComplexStep noticeLoopSpec _ (fun w path ↦
      validateComplexSteps w.1 path true) >>= fun _ ↦ pure ())) = .ok ()
  exact bind_eq_ok_iff.2 ⟨(), hrouter _, bind_eq_ok_iff.2 ⟨(), hloop _, rfl⟩⟩

/-- The inputs of the notices are dictionaries, and the conditions of the router lists of lists. -/
theorem nestedSpecs_built : BuiltOrRefused gmailEnv (.list nestedSpecs) := by
  have hnotice : AllWithin Buildable [noticeSpec] := by
    have hnone : nestedLists noticeSpec = [] := nestedLists_piece (by decide)
    refine allWithin_iff.2 (List.forall_mem_singleton.2
      ⟨⟨fun _ ↦ ⟨_, rfl, rfl, fun h ↦ ?_⟩, ?_⟩, ?_⟩)
    · exact absurd h (by decide)
    · exact fun h ↦ absurd h (by decide)
    · exact fun _ h ↦ absurd h (hnone ▸ List.not_mem_nil)
  have hcode : AllWithin Buildable [codeSpec] := by
    have hnone : nestedLists codeSpec = [] := nestedLists_code (by decide)
    refine allWithin_iff.2 (List.forall_mem_singleton.2 ⟨⟨?_, ?_⟩, ?_⟩)
    · exact fun h ↦ absurd h (by decide)
    · exact fun h ↦ absurd h (by decide)
    · exact fun _ h ↦ absurd h (hnone ▸ List.not_mem_nil)
  have hrouter : Throughout Buildable noticeRouterSpec := by
    refine ⟨⟨fun h ↦ absurd h (by decide), fun _ ↦ List.forall_mem_cons.2 ⟨fun _ ↦ ⟨rfl, ?_⟩,
      List.forall_mem_singleton.2 fun h ↦ absurd h (by decide)⟩⟩, ?_⟩
    · exact List.forall_mem_singleton.2 rfl
    · rw [nestedLists_router (by decide)]
      exact List.forall_mem_cons.2 ⟨hnotice, List.forall_mem_singleton.2 hcode⟩
  have hloop : Throughout Buildable noticeLoopSpec := by
    refine ⟨⟨fun h ↦ absurd h (by decide), fun h ↦ absurd h (by decide)⟩, ?_⟩
    rw [nestedLists_loop (by decide)]
    exact List.forall_mem_singleton.2 hnotice
  exact (validation_suffices_iff _ validate_nestedSpecs).2
    (allWithin_iff.2 (List.forall_mem_cons.2 ⟨hrouter, List.forall_mem_singleton.2 hloop⟩))

/-- A router whose only branch has `null` for its conditions. -/
def nullRouter : PyValue :=
  pyDict [("type", py "ROUTER"), ("branches", .list [pyDict [("conditions", .null)]])]

theorem runs_nullRouter (env : BuilderEnv) (s : BuilderState) :
    (buildStepFromSpec env nullRouter .null).Runs s [] (.error (.py .typeError))
      (s.reported (structureReport (stepName s.counter) "ROUTER" (py "Router")
        [("branches_count", .int 1)])) := by
  rw [buildStepFromSpec]
  exact ⟨rfl, rfl⟩

theorem runs_chain_nullRouter (env : BuilderEnv) :
    ∃ detail t, (buildActionChain env (.list [nullRouter])).Runs ⟨1, []⟩ []
      (.error (.http 500 detail)) t := by
  have hchain : (buildChainFrom env (buildStepFromSpec env) id 1 2 []).Runs ⟨1, []⟩ []
      (.ok .null) ⟨1, []⟩ := runs_pure_iff.2 ⟨rfl, rfl, rfl⟩
  have hpass : ∃ detail t, (buildChainStep env (buildStepFromSpec env nullRouter .null) nullRouter
      1 1).Runs ⟨1, []⟩ [] (.error (.http 500 detail)) t :=
    ⟨_, _, runs_handle_iff.2 (.inr ⟨[], [], _, _, rfl, runs_nullRouter env _,
      runs_raise_iff.2 ⟨rfl, rfl, rfl⟩⟩)⟩
  obtain ⟨detail, t, hpass⟩ := hpass
  refine ⟨detail, t, ?_⟩
  rw [buildActionChain_list env (List.cons_ne_nil _ _)]
  exact runs_bind_iff.2 (.inl ⟨[], [], _, _, rfl, hchain, hpass⟩)

/-- **The check accepts a router whose conditions are `null`, and the builder fails with a 500**,
without any lookup. -/
theorem accepted_but_not_built :
    validateComplexSteps (.list [nullRouter]) (text "steps") false = .ok () ∧
      ∃ detail t, (buildActionChain ⟨plainRuntime, [], []⟩ (.list [nullRouter])).Runs ⟨1, []⟩ []
        (.error (.http 500 detail)) t := by
  refine ⟨?_, runs_chain_nullRouter _⟩
  have hnil : ∀ path, validateComplexSteps (.list []) path true = .ok () := by
    intro path
    rw [validateComplexSteps]
    rfl
  have hstep : ∀ label, validateComplexStep nullRouter label
      (fun w path ↦ validateComplexSteps w.1 path true) = .ok () := by
    intro label
    show (validateComplexSteps (.list []) (label ++ text ".branches[" ++ digits 1 ++
      text "].actions") true >>= fun _ ↦ pure ()) = .ok ()
    rw [hnil]
    rfl
  rw [validateComplexSteps]
  show (validateComplexStep nullRouter (stepLabel (text "steps") 0)
    (fun w path ↦ validateComplexSteps w.1 path true) >>= fun _ ↦ pure ()) = .ok ()
  rw [hstep]
  rfl

end Siyadah
