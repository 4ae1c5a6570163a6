import SiyadahOrchestrator.Build.ComplexBuild

/-!
# What the validation makes sure of

`validate_complex_steps` checks the nested steps of a request before anything is looked up. What it
has made sure of is `ValidSpec`, about every step at any depth (`validSpec_of_accepted`): its type,
the names of its piece and action, and that the lists inside it are lists. The rest of a step it
does not look at.
-/

namespace Siyadah

open Dialogue PyValue

/-! ### What is accepted -/

/-- `v` is a list, or counts as an empty one: `v or []`. -/
def StepList (v : PyValue) : Prop := v.truthy = true → ∃ vs, v = .list vs

/-- What the check has made sure of about one step. -/
structure ValidSpec (spec : PyValue) : Prop where
  dict : spec.isDict = true
  known : (stepType spec).isStr (text "PIECE") = true ∨ (stepType spec).isStr (text "CODE") = true ∨
    (stepType spec).isStr (text "ROUTER") = true ∨ (stepType spec).isStr (text "LOOP") = true
  piece : (stepType spec).isStr (text "PIECE") = true →
    ∃ raw name, specPiece spec = .ok raw ∧ raw ≠ [] ∧ spec.entryD "action_name" = .str name
  router : (stepType spec).isStr (text "ROUTER") = true →
    ∃ bs, (spec.entry "branches").getD (.list []) = .list bs ∧
      ∀ b ∈ bs, b.isDict = true → StepList (b.entryD "actions")
  loop : (stepType spec).isStr (text "LOOP") = true → StepList (spec.entryD "loop_actions")

/-- The list is one that the check has accepted. -/
def AcceptedSteps (specs : List PyValue) : Prop :=
  ∃ v path allowEmpty, v.listItems = specs ∧ validateComplexSteps v path allowEmpty = .ok ()

section AcceptedSteps

variable {spec v : PyValue} {path label : PyStr} {allowEmpty : Bool}

theorem acceptedSteps_nil : AcceptedSteps [] := by
  refine ⟨.list [], [], true, rfl, ?_⟩
  rw [validateComplexSteps]
  rfl

/-- The steps of an accepted list are accepted. -/
theorem validateComplexStep_of_accepted
    (h : validateComplexSteps v path allowEmpty = .ok ()) (hspec : spec ∈ v.listItems) :
    spec.isDict = true ∧ ∃ label, validateComplexStep spec label
      (fun w path' ↦ validateComplexSteps w.1 path' true) = .ok () := by
  cases v with
  | list vs =>
    rw [validateComplexSteps] at h
    split at h
    · rename_i hfalsy
      have hnil : vs = [] := by simpa [truthy] using hfalsy
      exact absurd (hnil ▸ hspec) List.not_mem_nil
    · obtain ⟨items, hitems, h⟩ := bind_eq_ok_iff.1 h
      have hvalues := map_val_of_items (fromPy_eq_ok_iff.1 hitems)
      have hmem : spec ∈ items.map Subtype.val := hvalues ▸ hspec
      obtain ⟨s, hs, rfl⟩ := List.mem_map.1 hmem
      obtain ⟨i, hi⟩ := List.mem_iff_getElem?.1 hs
      have hstep := forM_eq_ok_iff.1 h (s, i) (List.mem_zipIdx_iff_getElem?.2 hi)
      by_cases hdict : s.1.isDict = true
      · rw [if_pos hdict] at hstep
        exact ⟨hdict, _, hstep⟩
      · rw [if_neg hdict] at hstep
        exact absurd hstep (by simp)
  | _ => exact absurd hspec List.not_mem_nil

theorem listItems_orElse (w : PyValue) : (w.orElse (.list [])).listItems = w.listItems := by
  rw [orElse]
  split
  · rfl
  · rename_i hfalsy
    exact (listItems_eq_nil (by simpa using hfalsy)).symm

/-- `w or []` is a list. -/
theorem stepList_of_orElse {w : PyValue} {vs : List PyValue} (h : w.orElse (.list []) = .list vs) :
    StepList w := by
  intro htruthy
  rw [orElse, if_pos htruthy] at h
  exact ⟨vs, h⟩

/-- The lists inside a step have been validated in their turn. -/
theorem accepted_of_validate {key : String} {w : PyValue} {α : Type}
    {x : Except EngineError α} {a : α} {e : EngineError}
    (hw : w = (spec.entryD key).orElse (.list []))
    (h : (match w with
      | .list _ => x
      | _ => .error e) = .ok a) :
    StepList (spec.entryD key) ∧ x = .ok a := by
  cases w with
  | list vs => exact ⟨stepList_of_orElse hw.symm, h⟩
  | _ => exact absurd h (by simp)

theorem validSpec_piece (hdict : spec.isDict = true)
    (htype : (stepType spec).isStr (text "PIECE") = true)
    (h : (do
      let piece ← fromPy (specPiece spec)
      let action ← fromPy (spec.get "action_name" >>= fun v ↦ stripped (v.orElse (py "")))
      if piece = [] then
        .error (badRequest [.val (.str label), .lit ": piece or piece_name is required"])
      else if action = [] then
        .error (badRequest [.val (.str label), .lit ": action_name is missing"])
      else pure () : Except EngineError Unit) = .ok ()) : ValidSpec spec := by
  obtain ⟨raw, hraw, h⟩ := bind_eq_ok_iff.1 h
  obtain ⟨action, haction, h⟩ := bind_eq_ok_iff.1 h
  obtain ⟨v, hv, hstrip⟩ := bind_eq_ok_iff.1 (fromPy_eq_ok_iff.1 haction)
  obtain ⟨-, rfl⟩ := getD_eq_ok_iff.1 hv
  split at h
  · exact absurd h (by simp)
  · rename_i hne
    split at h
    · exact absurd h (by simp)
    · rename_i hname
      refine ⟨hdict, .inl htype, fun _ ↦ ?_, fun hrouter ↦ ?_, fun hloop ↦ ?_⟩
      · -- A blank name would have been refused, and only a string can be stripped.
        have htruthy : ((spec.entry "action_name").getD .null).truthy = true := by
          by_contra hfalsy
          rw [orElse, if_neg hfalsy] at hstrip
          exact hname (Except.ok.inj hstrip).symm
        rw [orElse, if_pos htruthy] at hstrip
        obtain ⟨name, hstr⟩ : ∃ name, spec.entryD "action_name" = .str name := by
          rw [entryD]
          cases hvalue : (spec.entry "action_name").getD .null with
          | str name => exact ⟨name, rfl⟩
          | _ =>
            rw [hvalue] at hstrip
            exact absurd hstrip (by simp [stripped])
        exact ⟨raw, name, fromPy_eq_ok_iff.1 hraw, hne, hstr⟩
      · exact absurd (not_typed_both htype hrouter) (by decide)
      · exact absurd (not_typed_both htype hloop) (by decide)

theorem listItems_entryD {key : String} :
    (spec.entryD key).listItems = ((spec.entry key).getD (.list [])).listItems := by
  rw [entryD]
  cases spec.entry key with
  | none => rfl
  | some v => rfl

/-- The branches of a router have been validated. -/
theorem accepted_of_branch {b : PyValue} {path' : PyStr}
    (h : (do
      let actions ← fromPy (b.child "actions" Leaf.null)
      match actions.orNil.1 with
      | .list _ => validateComplexSteps actions.orNil.1 path' true
      | _ => .error (badRequest [.val (.str path'), .lit ": must be a list"]) :
        Except EngineError Unit) = .ok ()) :
    StepList (b.entryD "actions") ∧ AcceptedSteps (branchActions b) := by
  obtain ⟨actions, hactions, h⟩ := bind_eq_ok_iff.1 h
  have hvalue : actions.orNil.1 = (b.entryD "actions").orElse (.list []) := by
    rw [Part.orNil_val, (child_eq_ok (fromPy_eq_ok_iff.1 hactions)).2]
    rfl
  obtain ⟨hlist, hvalid⟩ := accepted_of_validate hvalue h
  refine ⟨hlist, _, _, true, ?_, hvalid⟩
  rw [hvalue, listItems_orElse, branchActions, listItems_entryD]

/-- What the check makes sure of, about a step and about the lists inside it. -/
theorem validSpec_of_validateComplexStep (hdict : spec.isDict = true)
    (h : validateComplexStep spec label
      (fun w path' ↦ validateComplexSteps w.1 path' true) = .ok ()) :
    ValidSpec spec ∧ ∀ inner ∈ nestedLists spec, AcceptedSteps inner := by
  obtain ⟨stype, hstype, h⟩ := bind_eq_ok_iff.1 h
  obtain ⟨-, rfl⟩ := getD_eq_ok_iff.1 (fromPy_eq_ok_iff.1 hstype)
  change (if (stepType spec).isStr (text "PIECE") then _ else _) = _ at h
  split at h
  · rename_i htype
    refine ⟨validSpec_piece hdict htype h, fun inner hinner ↦ ?_⟩
    rw [nestedLists_piece htype] at hinner
    exact absurd hinner List.not_mem_nil
  split at h
  · rename_i htype
    obtain ⟨branches, hbranches, h⟩ := bind_eq_ok_iff.1 h
    have hvalue := (child_eq_ok (fromPy_eq_ok_iff.1 hbranches)).2
    obtain ⟨bs, hbs, h⟩ : ∃ bs, branches.1 = .list bs ∧ _ = Except.ok () := by
      dsimp only at h
      split at h
      · rename_i bs hbs
        exact ⟨bs, hbs, h⟩
      · exact absurd h (by simp)
    rw [if_pos rfl] at h
    rw [hbs] at hvalue
    obtain ⟨items, hitems, h⟩ := bind_eq_ok_iff.1 h
    have hitems' : items.map Subtype.val = bs :=
      (map_val_of_items (fromPy_eq_ok_iff.1 hitems)).trans (congrArg iterated hbs)
    have hbranch : ∀ b ∈ bs, b.isDict = true →
        StepList (b.entryD "actions") ∧ AcceptedSteps (branchActions b) := by
      intro b hb hdict'
      have hmem : b ∈ items.map Subtype.val := hitems' ▸ hb
      obtain ⟨b', hb', rfl⟩ := List.mem_map.1 hmem
      obtain ⟨i, hi⟩ := List.mem_iff_getElem?.1 hb'
      have hstep := forM_eq_ok_iff.1 h (b', i) (List.mem_zipIdx_iff_getElem?.2 hi)
      rw [if_pos hdict'] at hstep
      exact accepted_of_branch hstep
    refine ⟨⟨hdict, .inr (.inr (.inl htype)), fun hpiece ↦ ?_, fun _ ↦ ⟨bs, hvalue.symm, ?_⟩,
      fun hloop ↦ ?_⟩, fun inner hinner ↦ ?_⟩
    · exact absurd (not_typed_both htype hpiece) (by decide)
    · exact fun b hb hdict' ↦ (hbranch b hb hdict').1
    · exact absurd (not_typed_both htype hloop) (by decide)
    · rw [nestedLists_router htype, branchList] at hinner
      obtain ⟨b, hb, rfl⟩ := List.mem_map.1 hinner
      have hb' : b ∈ bs := by
        rwa [show (spec.entry "branches").getD (.list []) = .list bs from hvalue.symm] at hb
      by_cases hdict' : b.isDict = true
      · exact (hbranch b hb' hdict').2
      · rw [branchActions_of_not_dict (by simpa using hdict')]
        exact acceptedSteps_nil
  split at h
  · rename_i htype
    obtain ⟨actions, hactions, h⟩ := bind_eq_ok_iff.1 h
    have hvalue : actions.orNil.1 = (spec.entryD "loop_actions").orElse (.list []) := by
      rw [Part.orNil_val, (child_eq_ok (fromPy_eq_ok_iff.1 hactions)).2]
      rfl
    obtain ⟨hlist, hvalid⟩ := accepted_of_validate hvalue h
    refine ⟨⟨hdict, .inr (.inr (.inr htype)), fun hpiece ↦ ?_, fun hrouter ↦ ?_, fun _ ↦ hlist⟩,
      fun inner hinner ↦ ?_⟩
    · exact absurd (not_typed_both htype hpiece) (by decide)
    · exact absurd (not_typed_both htype hrouter) (by decide)
    · rw [nestedLists_loop htype] at hinner
      obtain rfl := List.mem_singleton.1 hinner
      refine ⟨_, _, true, ?_, hvalid⟩
      rw [hvalue, listItems_orElse, loopActions, listItems_entryD]
  split at h
  · rename_i htype
    refine ⟨⟨hdict, .inr (.inl htype), fun hpiece ↦ ?_, fun hrouter ↦ ?_, fun hloop ↦ ?_⟩,
      fun inner hinner ↦ ?_⟩
    · exact absurd (not_typed_both htype hpiece) (by decide)
    · exact absurd (not_typed_both htype hrouter) (by decide)
    · exact absurd (not_typed_both htype hloop) (by decide)
    · rw [nestedLists_code htype] at hinner
      exact absurd hinner List.not_mem_nil
  · exact absurd h (by simp)

/-- **Whatever is inside an accepted list has been checked.** -/
theorem validSpec_of_accepted {specs : List PyValue} (h : AcceptedSteps specs)
    (hspec : SpecWithin specs spec) : ValidSpec spec := by
  obtain ⟨inner, hinner, hmem⟩ := hspec
  have hall : AcceptedSteps inner := by
    clear hmem
    induction hinner with
    | refl => exact h
    | tail hwithin hnested ih =>
      obtain ⟨s, hs, hlist⟩ := hnested
      obtain ⟨v, path, allowEmpty, rfl, hvalid⟩ := ih
      obtain ⟨hdict, label, hstep⟩ := validateComplexStep_of_accepted hvalid hs
      exact (validSpec_of_validateComplexStep hdict hstep).2 _ hlist
  obtain ⟨v, path, allowEmpty, rfl, hvalid⟩ := hall
  obtain ⟨hdict, label, hstep⟩ := validateComplexStep_of_accepted hvalid hmem
  exact (validSpec_of_validateComplexStep hdict hstep).1

end AcceptedSteps

end Siyadah
