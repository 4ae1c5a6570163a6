import SiyadahOrchestrator.Build.Authentication

/-!
# The connection guard

Before a flow is built, the endpoints collect the pieces of the request (`extractPieces`) and look
for the connection that the connection map has for each of them among the connections of the project
(`guardConnections`). The collection goes through branches and loops, so every piece that will be
built is looked at (`mem_extractPieces`).
-/

namespace Siyadah

open Dialogue PyValue

/-! ### The pieces of a request -/

/-- The lists of steps under one of these keys are collected from every step. -/
def stepListKeys : List String := ["actions", "loop_actions", "before_loop", "after_loop"]

/-- The pieces of one step, for the way in which the pieces of a list are collected. -/
def specPieces (rename : PyStr → PyStr) (d : PyValue)
    (collect : d.Part → Except PyError (List PyStr)) : Except PyError (List PyStr) := do
  let stype ← d.getD "type" (py "PIECE")
  let raw ← specPiece d
  let nested ← stepListKeys.mapM fun key ↦ do
    let sub ← d.child key Leaf.null
    match sub.1 with
    | .list _ => collect sub
    | _ => pure []
  let branches ← d.child "branches" Leaf.null
  let items ← branches.orNil.1.items
  let below ← items.mapM fun b ↦
    if b.1.isDict then do
      let sub ← b.1.child "actions" Leaf.nil
      collect ⟨sub.1, Nat.lt_trans sub.2 (branches.lt_of_item b)⟩
    else pure []
  let own := if stype.isStr (text "PIECE") ∧ raw ≠ [] then [rename raw] else []
  pure (own ++ nested.flatten ++ below.flatten)

/-- The pieces of a list of steps, under the names that `rename` gives them. -/
def extractPieces (rename : PyStr → PyStr) (steps : PyValue) : Except PyError (List PyStr) :=
  if !steps.truthy then .ok []
  else do
    let items ← steps.items
    let found ← items.mapM fun s ↦
      if s.1.isDict then specPieces rename s.1 fun w ↦ extractPieces rename w.1 else pure []
    pure found.flatten
termination_by steps.weight
decreasing_by exact Nat.lt_of_lt_of_le w.2 s.2

/-- `_extract_pieces_from_steps`. -/
def extractPiecesFromSteps (steps : PyValue) : Except PyError (List PyStr) :=
  extractPieces shortName steps

section Extract

variable {rename : PyStr → PyStr} {v spec : PyValue} {pieces : List PyStr}

/-- What is collected from a list has been collected from each of its steps. -/
theorem specPieces_of_extractPieces (h : extractPieces rename v = .ok pieces)
    (hspec : spec ∈ v.listItems) (hdict : spec.isDict = true) :
    ∃ own, specPieces rename spec (fun w ↦ extractPieces rename w.1) = .ok own ∧ own ⊆ pieces := by
  rw [extractPieces] at h
  split at h
  · rename_i hfalsy
    rw [listItems_eq_nil (by simpa using hfalsy)] at hspec
    exact absurd hspec List.not_mem_nil
  · obtain ⟨items, hitems, h⟩ := bind_eq_ok_iff.1 h
    obtain ⟨found, hfound, h⟩ := bind_eq_ok_iff.1 h
    have hmem : spec ∈ items.map Subtype.val := by
      rw [map_val_of_items hitems]
      cases v with
      | list vs => exact hspec
      | _ => exact absurd hspec List.not_mem_nil
    obtain ⟨s, hs, rfl⟩ := List.mem_map.1 hmem
    obtain ⟨own, hown, hcollect⟩ := exists_of_mapM_eq_ok hfound hs
    rw [if_pos hdict] at hcollect
    refine ⟨own, hcollect, fun p hp ↦ ?_⟩
    rw [← Except.ok.inj h]
    exact List.mem_flatten.2 ⟨own, hown, hp⟩

/-- What is collected from a step has been collected from each of the lists right inside it. -/
theorem extractPieces_of_specPieces
    (h : specPieces rename spec (fun w ↦ extractPieces rename w.1) = .ok pieces)
    {inner : List PyValue} (hinner : inner ∈ nestedLists spec) :
    ∃ w own, w.listItems = inner ∧ extractPieces rename w = .ok own ∧ own ⊆ pieces := by
  obtain ⟨stype, -, h⟩ := bind_eq_ok_iff.1 h
  obtain ⟨raw, -, h⟩ := bind_eq_ok_iff.1 h
  obtain ⟨nested, hnested, h⟩ := bind_eq_ok_iff.1 h
  obtain ⟨branches, hbranches, h⟩ := bind_eq_ok_iff.1 h
  obtain ⟨items, hitems, h⟩ := bind_eq_ok_iff.1 h
  obtain ⟨below, hbelow, h⟩ := bind_eq_ok_iff.1 h
  have hempty : ∃ w own, w.listItems = [] ∧ extractPieces rename w = .ok own ∧ own ⊆ pieces :=
    ⟨.list [], [], rfl, by rw [extractPieces]; rfl, List.nil_subset _⟩
  rw [nestedLists] at hinner
  split at hinner
  · obtain ⟨b, hb, rfl⟩ := List.mem_map.1 hinner
    have hvalue : branches.orNil.1 = (spec.entry "branches").getD (.list []) := by
      have htruthy := truthy_of_mem_iterated hb
      rw [Part.orNil_val, (child_eq_ok hbranches).2]
      cases hentry : spec.entry "branches" with
      | none => rfl
      | some v =>
        rw [hentry] at htruthy
        exact if_pos htruthy
    have hmem : b ∈ items.map Subtype.val := by
      rw [map_val_of_items hitems, hvalue]
      exact hb
    obtain ⟨b', hb', rfl⟩ := List.mem_map.1 hmem
    obtain ⟨own, hown, hcollect⟩ := exists_of_mapM_eq_ok hbelow hb'
    by_cases hdict : b'.1.isDict = true
    · rw [if_pos hdict] at hcollect
      obtain ⟨sub, hsub, hcollect⟩ := bind_eq_ok_iff.1 hcollect
      refine ⟨sub.1, own, by rw [(child_eq_ok hsub).2]; rfl, hcollect, fun p hp ↦ ?_⟩
      rw [← Except.ok.inj h]
      exact List.mem_append_right _ (List.mem_flatten.2 ⟨own, hown, hp⟩)
    · rw [branchActions_of_not_dict (by simpa using hdict)]
      exact hempty
  · split at hinner
    · obtain rfl := List.mem_singleton.1 hinner
      obtain ⟨own, hown, hcollect⟩ := exists_of_mapM_eq_ok hnested
        (show "loop_actions" ∈ stepListKeys by decide)
      obtain ⟨sub, hsub, hcollect⟩ := bind_eq_ok_iff.1 hcollect
      have hsubset : own ⊆ pieces := by
        intro p hp
        rw [← Except.ok.inj h]
        exact List.mem_append_left _ (List.mem_append_right _ (List.mem_flatten.2 ⟨own, hown, hp⟩))
      have hvalue := (child_eq_ok hsub).2
      have hitems' : sub.1.listItems = loopActions spec := by
        rw [hvalue, loopActions]
        cases spec.entry "loop_actions" <;> rfl
      split at hcollect
      · exact ⟨sub.1, own, hitems', hcollect, hsubset⟩
      · rename_i hlist
        rw [← hitems']
        have hnil : sub.1.listItems = [] := by
          cases hv : sub.1 with
          | list vs => exact absurd hv (hlist vs)
          | _ => rfl
        rw [hnil]
        exact hempty
    · exact absurd hinner List.not_mem_nil

/-- **Every piece of the request is collected**, at any depth. -/
theorem mem_extractPieces (h : extractPieces rename v = .ok pieces)
    (hspec : SpecWithin v.listItems spec) (htype : (stepType spec).isStr (text "PIECE") = true)
    {raw : PyStr} (hraw : specPiece spec = .ok raw) (hne : raw ≠ []) : rename raw ∈ pieces := by
  obtain ⟨inner, hinner, hmem⟩ := hspec
  -- The list that the specification is in has been collected itself.
  have hcollected : ∃ w own, w.listItems = inner ∧ extractPieces rename w = .ok own ∧
      own ⊆ pieces := by
    clear hmem
    induction hinner with
    | refl => exact ⟨v, pieces, rfl, h, List.Subset.refl _⟩
    | tail hwithin hstep ih =>
      obtain ⟨w, own, rfl, hown, hsubset⟩ := ih
      obtain ⟨s, hs, hnested⟩ := hstep
      obtain ⟨own', hown', hsubset'⟩ :=
        specPieces_of_extractPieces hown hs (isDict_of_nested hnested)
      obtain ⟨w', own'', hw', hown'', hsubset''⟩ := extractPieces_of_specPieces hown' hnested
      exact ⟨w', own'', hw', hown'', fun p hp ↦ hsubset (hsubset' (hsubset'' hp))⟩
  obtain ⟨w, own, rfl, hown, hsubset⟩ := hcollected
  obtain ⟨piece, hpiece, -⟩ := bind_eq_ok_iff.1 hraw
  obtain ⟨own', hown', hsubset'⟩ :=
    specPieces_of_extractPieces hown hmem (getD_eq_ok_iff.1 hpiece).1
  refine hsubset (hsubset' ?_)
  obtain ⟨stype, hstype, h⟩ := bind_eq_ok_iff.1 hown'
  obtain ⟨raw', hraw', h⟩ := bind_eq_ok_iff.1 h
  obtain ⟨nested, -, h⟩ := bind_eq_ok_iff.1 h
  obtain ⟨branches, -, h⟩ := bind_eq_ok_iff.1 h
  obtain ⟨items, -, h⟩ := bind_eq_ok_iff.1 h
  obtain ⟨below, -, h⟩ := bind_eq_ok_iff.1 h
  obtain rfl := Except.ok.inj (hraw.symm.trans hraw')
  obtain ⟨-, rfl⟩ := getD_eq_ok_iff.1 hstype
  rw [← Except.ok.inj h, if_pos ⟨htype, hne⟩]
  exact List.mem_append_left _ (List.mem_append_left _ (List.mem_singleton_self _))

end Extract

/-! ### The guard -/

/-- `resolve_conns`. -/
def resolveConns (env : BuilderEnv) (override : List (PyStr × PyStr)) : List (PyStr × PyStr) :=
  override.foldl (fun conns c ↦ upsert conns c.1 c.2) env.defaultConnections

/-- The ids of the project's connections, from the reply of ActivePieces. -/
def availableIds (reply : Except EngineError PyValue) : Except EngineError (List PyValue) := do
  let raw ← reply
  let live ← fromPy (listOrData raw)
  let conns ← fromPy live.items
  let ids ← fromPy (conns.mapM fun c ↦ do
    let externalId ← c.1.getD "externalId" (py "")
    let id ← c.1.getD "id" (py "")
    if isHashable externalId && isHashable id then pure [externalId, id] else .error .typeError)
  pure ids.flatten

section Guard

variable (R : PyRuntime) (pid : PyStr)

/-- What the guard has against one piece. -/
def guardPiece (available : List PyValue) (conns : List (PyStr × PyStr)) (piece : PyStr) :
    List PyStr :=
  let short := shortName piece
  let cid := (conns.lookup short).getD []
  if cid = [] then
    [text "No connection ID configured for '" ++ short ++
      text "' — provide it via connection_ids or DEFAULT_CONNECTIONS"]
  else if available.any (·.isStr cid) then []
  else
    [text "Connection '" ++ cid ++ text "' for " ++ short ++ text " not found in project " ++ pid]

/-- The `errors` of `guard_connections`. -/
def guardErrors (reply : Except EngineError PyValue) (required : List PyStr)
    (conns : List (PyStr × PyStr)) : List PyStr :=
  match availableIds reply with
  | .ok available => required.flatMap (guardPiece pid available conns)
  | .error e => [text "Connection guard check failed: " ++ (R.message e).take 100]

/-- `guard_connections`. -/
def guardConnections (required : List PyStr) (conns : List (PyStr × PyStr)) (strict : Bool) :
    BuilderM (List PyStr) := do
  let reply ← ask .connections
  let errors := guardErrors R pid reply required conns
  if strict && !errors.isEmpty then
    raise (.http 422 (.value (pyDict [
      ("message", py "Missing connections — connect the required tools before building."),
      ("missing", .list (errors.map .str))])))
  else pure errors

variable {R pid} {required : List PyStr} {conns : List (PyStr × PyStr)}

/-- **What the guard has approved**, in strict mode: the map has a connection for each piece, and it
is one of the project's. -/
theorem approved_of_guard {s t : BuilderState}
    {l : List (CatalogQuery × Except EngineError PyValue)} {errors : List PyStr}
    (h : (guardConnections R pid required conns true).Runs s l (.ok errors) t) :
    ∃ reply available, l = [(.connections, reply)] ∧ availableIds reply = .ok available ∧ t = s ∧
      ∀ piece ∈ required, ∃ cid, conns.lookup (shortName piece) = some cid ∧ cid ≠ [] ∧
        .str cid ∈ available := by
  obtain ⟨reply, l', rfl, h⟩ := h
  change Runs (if _ then _ else _) _ _ _ _ at h
  split at h
  · exact absurd (runs_raise_iff.1 h).2.1 (by simp)
  · rename_i hnone
    obtain ⟨rfl, -, rfl⟩ := runs_pure_iff.1 h
    have hnil : guardErrors R pid reply required conns = [] := by simpa using hnone
    rw [guardErrors] at hnil
    cases havailable : availableIds reply with
    | error e =>
      rw [havailable] at hnil
      exact absurd hnil (List.cons_ne_nil _ _)
    | ok available =>
      rw [havailable] at hnil
      refine ⟨reply, available, rfl, havailable, rfl, fun piece hpiece ↦ ?_⟩
      have hok := List.flatMap_eq_nil_iff.1 hnil piece hpiece
      rw [guardPiece] at hok
      cases hlookup : conns.lookup (shortName piece) with
      | none =>
        rw [hlookup] at hok
        exact absurd hok (List.cons_ne_nil _ _)
      | some cid =>
        rw [hlookup] at hok
        dsimp only [Option.getD_some] at hok
        split at hok
        · exact absurd hok (List.cons_ne_nil _ _)
        · rename_i hcid
          split at hok
          · rename_i hany
            obtain ⟨w, hw, hstr⟩ := List.any_eq_true.1 hany
            exact ⟨cid, rfl, hcid, eq_str_of_isStr hstr ▸ hw⟩
          · exact absurd hok (List.cons_ne_nil _ _)

end Guard

end Siyadah
