import SiyadahOrchestrator.Build.DryRun

/-!
# One verdict

The dry run over REST and the one over MCP are two programs for one check. A step *passes* over REST
if it names a piece and a trigger or an action of that piece, and gives the required fields. MCP
objects to a step only where a piece *lacks* the name; where the look-up is not *readable*, it
raises.

So the two verdicts are the same (`sameVerdict_iff`) exactly when both return, and either some piece
lacks what is asked of it or every step passes.
-/

namespace Siyadah

open Dialogue PyValue

/-! ### The conditions -/

section Conditions

variable (R : PyRuntime) (answer : CatalogQuery → Except EngineError PyValue)

/-- The schema of a piece can be asked for the name. -/
def SchemaReadable (kind : BucketKind) (name : PyValue) (found : PyStr × PyValue) : Prop :=
  found.2.truthy = true → name.truthy = true → ∃ bucket b,
    found.2.getD kind.bucket (.dict []) = .ok bucket ∧ isIn name bucket = .ok b

/-- The schema of a piece does not have the name. -/
def SchemaLacks (kind : BucketKind) (name : PyValue) (found : PyStr × PyValue) : Prop :=
  found.2.truthy = true ∧ name.truthy = true ∧ ∃ bucket,
    found.2.getD kind.bucket (.dict []) = .ok bucket ∧ isIn name bucket = .ok false

/-- The look-up of a step raises nothing over MCP. -/
def StepReadable (kind : BucketKind) (piece name : PyValue) : Prop :=
  piece.truthy = true → ∃ found, lookupPiece R answer piece = .ok found ∧
    SchemaReadable kind name found

/-- The piece does not have the name. -/
def StepLacks (kind : BucketKind) (piece name : PyValue) : Prop :=
  piece.truthy = true ∧ ∃ found, lookupPiece R answer piece = .ok found ∧
    SchemaLacks kind name found

/-- The piece and the name are given, and the piece, if there is one, has the name, with whatever
else is asked for. -/
def StepPasses (kind : BucketKind) (piece name : PyValue) (more : PyValue → Prop) : Prop :=
  piece.truthy = true ∧ name.truthy = true ∧ ∃ found, lookupPiece R answer piece = .ok found ∧
    (found.2.truthy = true → ∃ bucket, found.2.getD kind.bucket (.dict []) = .ok bucket ∧
      isIn name bucket = .ok true ∧ more bucket)

/-- The required fields of an action are given. -/
def FieldsGiven (action : Fields) (name actions : PyValue) : Prop :=
  ∃ body props input, itemAt actions name = .ok body ∧ body.getD "props" (.dict []) =
      .ok (.dict props) ∧ toDict (field action "input" (.dict [])) = .ok input ∧
    ∀ p ∈ props, p.2.isDict = true → (p.2.entryD "required").truthy = true → p.1 ≠ text "auth" →
      p.1 ∈ (cleanInputConfig input).map Prod.fst

variable {R answer} {label : PyStr} {piece name : PyValue} {kind : BucketKind}
  {found : PyStr × PyValue} {more : PyValue → Prop} {a : Fields} {as : List Fields}

theorem StepPasses.not_lacks (h : StepPasses R answer kind piece name more) :
    ¬ StepLacks R answer kind piece name := by
  obtain ⟨-, -, found, hfound, himp⟩ := h
  rintro ⟨-, found', hfound', htruthy, -, bucket', hbucket', hnot⟩
  obtain rfl := Except.ok.inj (hfound.symm.trans hfound')
  obtain ⟨bucket, hbucket, hin, -⟩ := himp htruthy
  obtain rfl := Except.ok.inj (hbucket.symm.trans hbucket')
  cases hin.symm.trans hnot

/-- A name that is given is missing if it is not in the bucket. -/
theorem isMissing_of_truthy (hname : name.truthy = true) (bucket : PyValue) :
    isMissing name bucket = (isIn name bucket).map (!·) := if_pos hname

theorem missingInputs_eq_nil_iff {props input : Fields} :
    missingInputs label props input = [] ↔ ∀ p ∈ props, p.2.isDict = true →
      (p.2.entryD "required").truthy = true → p.1 ≠ text "auth" → p.1 ∈ input.map Prod.fst := by
  rw [missingInputs, List.map_eq_nil_iff, List.filter_eq_nil_iff]
  refine forall₂_congr fun p _ ↦ ?_
  rw [Bool.and_eq_true, Bool.and_eq_true, Bool.and_eq_true, Bool.not_eq_true', decide_eq_true_eq]
  constructor
  · intro h hdict hrequired hauth
    by_contra hnot
    refine h ⟨⟨⟨hdict, hrequired⟩, ?_⟩, hauth⟩
    exact eq_false_of_ne_true fun htrue ↦ hnot (List.contains_iff_mem.1 htrue)
  · rintro h ⟨⟨⟨hdict, hrequired⟩, hnot⟩, hauth⟩
    rw [List.contains_iff_mem.2 (h hdict hrequired hauth)] at hnot
    cases hnot

theorem notFoundText_ne_nil {resolved : PyStr} (s t : PyStr) :
    [notFoundText R kind name resolved piece ++ s ++ t] ≠ [] := List.cons_ne_nil _ _

theorem v2TriggerErrors_eq_nil_iff (hname : name.truthy = true) :
    v2TriggerErrors R piece name found = .ok [] ↔ (found.2.truthy = true → ∃ bucket,
      found.2.getD "triggers" (.dict []) = .ok bucket ∧ isIn name bucket = .ok true ∧ True) := by
  rw [v2TriggerErrors]
  rcases hfound : found.2.truthy with _ | _
  · exact iff_of_true rfl fun h ↦ absurd h Bool.false_ne_true
  rw [if_pos rfl, bind_eq_ok_iff]
  simp only [forall_const, and_true]
  refine exists_congr fun bucket ↦ and_congr_right fun _ ↦ ?_
  rw [isMissing_of_truthy hname]
  rcases hin : isIn name bucket with e | _ | _
  · exact iff_of_false (fun h ↦ by cases h) fun h ↦ by cases h
  · refine iff_of_false (fun h ↦ ?_) fun h ↦ by cases h
    obtain ⟨b, hb, h⟩ := bind_eq_ok_iff.1 h
    obtain rfl : true = b := Except.ok.inj hb
    obtain ⟨available, -, h⟩ := bind_eq_ok_iff.1 h
    exact absurd (Except.ok.inj h) (notFoundText_ne_nil _ _)
  · exact iff_of_true rfl rfl

theorem requiredCheck_eq_nil_iff {body : PyValue} : requiredCheck label a body = .ok [] ↔
    ∃ props input, body.getD "props" (.dict []) = .ok (.dict props) ∧
      toDict (field a "input" (.dict [])) = .ok input ∧
      ∀ p ∈ props, p.2.isDict = true → (p.2.entryD "required").truthy = true →
        p.1 ≠ text "auth" → p.1 ∈ (cleanInputConfig input).map Prod.fst := by
  rw [requiredCheck]
  constructor
  · intro h
    obtain ⟨props, hprops, h⟩ := bind_eq_ok_iff.1 h
    obtain ⟨input, hinput, h⟩ := bind_eq_ok_iff.1 h
    cases props with
    | dict ps => exact ⟨ps, input, hprops, hinput, missingInputs_eq_nil_iff.1 (Except.ok.inj h)⟩
    | _ => cases h
  · rintro ⟨ps, input, hprops, hinput, hgiven⟩
    rw [hprops, hinput]
    exact congrArg Except.ok (missingInputs_eq_nil_iff.2 hgiven)

theorem v2ActionErrors_eq_nil_iff (hname : name.truthy = true) :
    v2ActionErrors R label a piece name found = .ok [] ↔ (found.2.truthy = true → ∃ bucket,
      found.2.getD "actions" (.dict []) = .ok bucket ∧ isIn name bucket = .ok true ∧
        FieldsGiven a name bucket) := by
  rw [v2ActionErrors]
  rcases hfound : found.2.truthy with _ | _
  · exact iff_of_true rfl fun h ↦ absurd h Bool.false_ne_true
  rw [if_pos rfl, bind_eq_ok_iff]
  simp only [forall_const]
  refine exists_congr fun bucket ↦ and_congr_right fun _ ↦ ?_
  rw [isMissing_of_truthy hname]
  rcases hin : isIn name bucket with e | _ | _
  · exact iff_of_false (fun h ↦ by cases h) fun h ↦ by cases h.1
  · refine iff_of_false (fun h ↦ ?_) fun h ↦ by cases h.1
    obtain ⟨b, hb, h⟩ := bind_eq_ok_iff.1 h
    obtain rfl : true = b := Except.ok.inj hb
    obtain ⟨available, -, h⟩ := bind_eq_ok_iff.1 h
    exact absurd (Except.ok.inj h) (notFoundText_ne_nil _ _)
  · rw [and_iff_right rfl]
    show (if name.truthy = true then itemAt bucket name >>= requiredCheck label a else pure []) =
      Except.ok [] ↔ _
    rw [if_pos hname, bind_eq_ok_iff]
    simp only [requiredCheck_eq_nil_iff, ← exists_and_left]
    exact Iff.rfl

/-- The conditions on an action. -/
def ActionPasses (R : PyRuntime) (answer : CatalogQuery → Except EngineError PyValue) (a : Fields) :
    Prop :=
  StepPasses R answer actionKind (field a "piece" (py "")) (field a "action_name" (py ""))
    (FieldsGiven a (field a "action_name" (py "")))

/-- What a step over REST asks for. -/
theorem against_v2Step_iff {nameField : PyStr}
    {errorsOf : PyStr × PyValue → Except PyError (List PyStr)}
    (herrors : name.truthy = true → ∀ found : PyStr × PyValue,
      (errorsOf found = .ok [] ↔ (found.2.truthy = true → ∃ bucket,
        found.2.getD kind.bucket (.dict []) = .ok bucket ∧ isIn name bucket = .ok true ∧
          more bucket))) :
    ∃ errors, (v2Step R label nameField piece name errorsOf).against answer ⟨1, []⟩ = .ok errors ∧
      (errors = [] ↔ StepPasses R answer kind piece name more) := by
  obtain ⟨errors, hrun, hempty⟩ : ∃ errors,
      (v2Step R label nameField piece name errorsOf).against answer ⟨1, []⟩ = .ok errors ∧
        (errors = [] ↔ piece.truthy = true ∧ name.truthy = true ∧
          ∃ found, lookupPiece R answer piece = .ok found ∧ errorsOf found = .ok []) :=
    against_v2Step label nameField piece name errorsOf
  refine ⟨errors, hrun, hempty.trans (and_congr_right fun _ ↦ and_congr_right fun hname ↦ ?_)⟩
  exact exists_congr fun found ↦ and_congr_right fun _ ↦ herrors hname found

/-- The trigger over REST. -/
theorem against_v2Trigger (t : Fields) : ∃ errors,
    (v2Trigger R t).against answer ⟨1, []⟩ = .ok errors ∧
      (errors = [] ↔ StepPasses R answer triggerKind (field t "piece" (py ""))
        (field t "trigger_name" (py "")) fun _ ↦ True) :=
  against_v2Step_iff fun hname _ ↦ v2TriggerErrors_eq_nil_iff hname

/-- An action over REST. -/
theorem against_v2Action (i : ℕ) (a : Fields) : ∃ errors,
    (v2Action R i a).against answer ⟨1, []⟩ = .ok errors ∧
      (errors = [] ↔ ActionPasses R answer a) :=
  against_v2Step_iff fun hname _ ↦ v2ActionErrors_eq_nil_iff hname

/-- **The loop over REST** has no errors exactly when every action passes. -/
theorem against_v2Actions (i : ℕ) (as : List Fields) : ∃ errors,
    (v2Actions R i as).against answer ⟨1, []⟩ = .ok errors ∧
      (errors = [] ↔ ∀ a ∈ as, ActionPasses R answer a) := by
  induction as generalizing i with
  | nil => exact ⟨[], rfl, iff_of_true rfl fun a ha ↦ absurd ha List.not_mem_nil⟩
  | cons a as ih =>
    obtain ⟨errors, hrun, hempty⟩ : ∃ errors,
        (v2Action R i a).against answer ⟨1, []⟩ = .ok errors ∧
          (errors = [] ↔ ActionPasses R answer a) := against_v2Action i a
    obtain ⟨rest, hrest, hall⟩ := ih (i + 1)
    refine ⟨errors ++ rest, ?_, ?_⟩
    · have hstep : Stateless (v2Action R i a) := stateless_v2Step
      rw [v2Actions, against_bind hstep, hrun]
      show Dialogue.against (v2Actions R (i + 1) as >>= _) _ _ = _
      rw [against_bind (stateless_v2Actions _ _), hrest]
      rfl
    · rw [List.append_eq_nil_iff, hempty, hall, List.forall_mem_cons]

/-! ### MCP -/

/-- What a schema is asked over MCP. -/
theorem mcpErrors_cases (kind : BucketKind) (piece name : PyValue) (found : PyStr × PyValue) :
    (∃ errors, mcpErrors R kind piece name found = .ok errors ∧ SchemaReadable kind name found ∧
        (errors = [] ↔ ¬ SchemaLacks kind name found)) ∨
      ∃ e, mcpErrors R kind piece name found = .error e ∧ ¬ SchemaReadable kind name found := by
  rw [mcpErrors]
  rcases hasked : found.2.truthy && name.truthy with _ | _
  · have hnot : ¬ (found.2.truthy = true ∧ name.truthy = true) := fun h ↦
      Bool.false_ne_true (hasked.symm.trans (Bool.and_eq_true_iff.2 h))
    refine .inl ⟨[], rfl, fun h h' ↦ absurd ⟨h, h'⟩ hnot, iff_of_true rfl ?_⟩
    rintro ⟨htruthy, hname, -⟩
    exact hnot ⟨htruthy, hname⟩
  obtain ⟨htruthy, hname⟩ := Bool.and_eq_true_iff.1 hasked
  rw [if_pos rfl]
  rcases hbucket : found.2.getD kind.bucket (.dict []) with e | bucket
  · refine .inr ⟨e, rfl, fun h ↦ ?_⟩
    obtain ⟨bucket, b, hb, -⟩ := h htruthy hname
    cases hbucket.symm.trans hb
  show (∃ errors, isMissing name bucket >>= _ = .ok errors ∧ _) ∨
    ∃ e, isMissing name bucket >>= _ = .error e ∧ _
  rw [isMissing_of_truthy hname]
  rcases hin : isIn name bucket with e | b
  · refine .inr ⟨e, rfl, fun h ↦ ?_⟩
    obtain ⟨bucket', b, hb, hb'⟩ := h htruthy hname
    obtain rfl := Except.ok.inj (hbucket.symm.trans hb)
    cases hin.symm.trans hb'
  have hreadable : SchemaReadable kind name found := fun _ _ ↦ ⟨bucket, b, hbucket, hin⟩
  have hlacks : SchemaLacks kind name found ↔ b = false := by
    constructor
    · rintro ⟨-, -, bucket', hb, hb'⟩
      obtain rfl := Except.ok.inj (hbucket.symm.trans hb)
      exact Except.ok.inj (hin.symm.trans hb')
    · rintro rfl
      exact ⟨htruthy, hname, bucket, hbucket, hin⟩
  rw [hlacks]
  cases b with
  | true => exact .inl ⟨[], rfl, hreadable, iff_of_true rfl fun h ↦ Bool.false_ne_true h.symm⟩
  | false => exact .inl ⟨_, rfl, hreadable, iff_of_false (List.cons_ne_nil _ _) fun h ↦ h rfl⟩

/-- **A step over MCP** returns exactly when it is readable, and has no errors exactly when the
piece does not lack the name. -/
theorem against_mcpStep (kind : BucketKind) (piece name : PyValue) :
    (∃ errors, (mcpStep R kind piece name).against answer ⟨1, []⟩ = .ok errors ∧
        StepReadable R answer kind piece name ∧
          (errors = [] ↔ ¬ StepLacks R answer kind piece name)) ∨
      ∃ e, (mcpStep R kind piece name).against answer ⟨1, []⟩ = .error e ∧
        ¬ StepReadable R answer kind piece name := by
  rw [mcpStep]
  rcases hpiece : piece.truthy with _ | _
  · refine .inl ⟨[], rfl, fun h ↦ ?_, iff_of_true rfl fun h ↦ ?_⟩
    · exact absurd (hpiece.symm.trans h) Bool.false_ne_true
    · exact absurd (hpiece.symm.trans h.1) Bool.false_ne_true
  have hrun : Dialogue.against (do
      let found ← resolvePieceOf R piece
      evalPy (mcpErrors R kind piece name found) : BuilderM (List PyStr)) answer ⟨1, []⟩ =
        lookupPiece R answer piece >>= fun found ↦
          (mcpErrors R kind piece name found).mapError .py :=
    against_bind (stateless_resolvePieceOf piece)
  rw [if_pos rfl, hrun]
  rcases hlookup : lookupPiece R answer piece with e | found
  · refine .inr ⟨e, rfl, fun h ↦ ?_⟩
    obtain ⟨found, hfound, -⟩ := h hpiece
    cases hlookup.symm.trans hfound
  show (∃ errors, (mcpErrors R kind piece name found).mapError EngineError.py = .ok errors ∧ _) ∨
    ∃ e, (mcpErrors R kind piece name found).mapError EngineError.py = .error e ∧ _
  have hlacks : StepLacks R answer kind piece name ↔ SchemaLacks kind name found := by
    constructor
    · rintro ⟨-, found', hfound', hlacks⟩
      obtain rfl := Except.ok.inj (hlookup.symm.trans hfound')
      exact hlacks
    · exact fun h ↦ ⟨hpiece, found, hlookup, h⟩
  rcases mcpErrors_cases kind piece name found with
    ⟨errors, herrors, hreadable, hempty⟩ | ⟨e, herror, hnot⟩
  · rw [herrors, hlacks]
    exact .inl ⟨errors, rfl, fun _ ↦ ⟨found, hlookup, hreadable⟩, hempty⟩
  · rw [herror]
    refine .inr ⟨.py e, rfl, fun h ↦ ?_⟩
    obtain ⟨found', hfound', hreadable⟩ := h hpiece
    obtain rfl := Except.ok.inj (hlookup.symm.trans hfound')
    exact hnot hreadable

/-- The conditions on an action, for MCP. -/
def ActionReadable (R : PyRuntime) (answer : CatalogQuery → Except EngineError PyValue)
    (a : Fields) : Prop :=
  StepReadable R answer actionKind (field a "piece" (py "")) (field a "action_name" (py ""))

/-- The action is not one of its piece. -/
def ActionLacks (R : PyRuntime) (answer : CatalogQuery → Except EngineError PyValue)
    (a : Fields) : Prop :=
  StepLacks R answer actionKind (field a "piece" (py "")) (field a "action_name" (py ""))

/-- **The loop over MCP** has no errors exactly when no piece lacks its action. -/
theorem against_mcpActions (as : List Fields) :
    (∃ errors, (mcpActions R as).against answer ⟨1, []⟩ = .ok errors ∧
        (∀ a ∈ as, ActionReadable R answer a) ∧
        (errors = [] ↔ ∀ a ∈ as, ¬ ActionLacks R answer a)) ∨
      ∃ e, (mcpActions R as).against answer ⟨1, []⟩ = .error e ∧
        ¬ ∀ a ∈ as, ActionReadable R answer a := by
  induction as with
  | nil =>
    exact .inl ⟨[], rfl, fun a ha ↦ absurd ha List.not_mem_nil,
      iff_of_true rfl fun a ha ↦ absurd ha List.not_mem_nil⟩
  | cons a as ih =>
    rw [mcpActions, against_bind stateless_mcpStep]
    have hstep : (∃ errors, (mcpStep R actionKind (field a "piece" (py ""))
        (field a "action_name" (py ""))).against answer ⟨1, []⟩ = .ok errors ∧
          ActionReadable R answer a ∧ (errors = [] ↔ ¬ ActionLacks R answer a)) ∨
        ∃ e, (mcpStep R actionKind (field a "piece" (py ""))
          (field a "action_name" (py ""))).against answer ⟨1, []⟩ = .error e ∧
            ¬ ActionReadable R answer a := against_mcpStep _ _ _
    rcases hstep with ⟨errors, hrun, hreadable, hempty⟩ | ⟨e, hrun, hnot⟩
    · rw [hrun]
      show (∃ errors', Dialogue.against (mcpActions R as >>= _) _ _ = .ok errors' ∧ _) ∨
        ∃ e, Dialogue.against (mcpActions R as >>= _) _ _ = .error e ∧ _
      rw [against_bind (stateless_mcpActions as)]
      rcases ih with ⟨rest, hrest, hall, hnone⟩ | ⟨e, hrest, hnot⟩
      · rw [hrest]
        refine .inl ⟨errors ++ rest, rfl, List.forall_mem_cons.2 ⟨hreadable, hall⟩, ?_⟩
        rw [List.append_eq_nil_iff, hempty, hnone, List.forall_mem_cons]
      · rw [hrest]
        exact .inr ⟨e, rfl, fun h ↦ hnot (List.forall_mem_cons.1 h).2⟩
    · rw [hrun]
      exact .inr ⟨e, rfl, fun h ↦ hnot (List.forall_mem_cons.1 h).1⟩

/-! ### The suspect identifiers -/

/-- The input of a step is something that `dict()` accepts. -/
def Dictable (step : Fields) : Prop :=
  ∃ input, toDict (field step "input" (.dict [])) = .ok input

theorem suspectErrors_cases (R : PyRuntime) (label : PyStr) (step : Fields) :
    (Dictable step ∧ ∃ errors, suspectErrors R label step = .ok errors) ∨
      (¬ Dictable step ∧ ∃ e, suspectErrors R label step = .error e) := by
  rw [suspectErrors, Dictable]
  rcases hinput : toDict (field step "input" (.dict [])) with e | input
  · refine .inr ⟨?_, e, rfl⟩
    rintro ⟨input, h⟩
    cases h
  · exact .inl ⟨⟨input, rfl⟩, _, rfl⟩

/-- The loop over the inputs returns exactly when `dict()` accepts each of them. -/
theorem suspectActions_cases (R : PyRuntime) (i : ℕ) (as : List Fields) :
    ((∀ a ∈ as, Dictable a) ∧ ∃ errors, suspectActions R i as = .ok errors) ∨
      ((¬ ∀ a ∈ as, Dictable a) ∧ ∃ e, suspectActions R i as = .error e) := by
  induction as generalizing i with
  | nil => exact .inl ⟨fun a ha ↦ absurd ha List.not_mem_nil, [], rfl⟩
  | cons a as ih =>
    rw [suspectActions]
    rcases suspectErrors_cases R (actionLabel i) a with ⟨hinput, errors, herrors⟩ | ⟨hnot, e, he⟩
    · rw [herrors]
      rcases ih (i + 1) with ⟨hall, rest, hrest⟩ | ⟨hnot, e, he⟩
      · refine .inl ⟨List.forall_mem_cons.2 ⟨hinput, hall⟩, errors ++ rest, ?_⟩
        show suspectActions R (i + 1) as >>= _ = _
        rw [hrest]
        rfl
      · refine .inr ⟨fun h ↦ hnot (List.forall_mem_cons.1 h).2, e, ?_⟩
        show suspectActions R (i + 1) as >>= _ = _
        rw [he]
        rfl
    · rw [he]
      exact .inr ⟨fun h ↦ hnot (List.forall_mem_cons.1 h).1, e, rfl⟩

/-! ### The law -/

/-- The conditions on a trigger. -/
def TriggerPasses (R : PyRuntime) (answer : CatalogQuery → Except EngineError PyValue)
    (t : Fields) : Prop :=
  StepPasses R answer triggerKind (field t "piece" (py "")) (field t "trigger_name" (py ""))
    fun _ ↦ True

/-- The conditions on a trigger, for MCP. -/
def TriggerReadable (R : PyRuntime) (answer : CatalogQuery → Except EngineError PyValue)
    (t : Fields) : Prop :=
  StepReadable R answer triggerKind (field t "piece" (py "")) (field t "trigger_name" (py ""))

/-- The trigger is not one of its piece. -/
def TriggerLacks (R : PyRuntime) (answer : CatalogQuery → Except EngineError PyValue)
    (t : Fields) : Prop :=
  StepLacks R answer triggerKind (field t "piece" (py "")) (field t "trigger_name" (py ""))

variable (answer) in
/-- The dry run over REST. -/
theorem against_v2Validate (body : ValidateBody) :
    ((∀ step ∈ body.trigger :: body.actions, Dictable step) ∧
        ∃ d, (v2Validate R body).against answer ⟨1, []⟩ = .ok d ∧
          (d.checks = [] ↔ TriggerPasses R answer body.trigger ∧
            ∀ a ∈ body.actions, ActionPasses R answer a)) ∨
      (¬ (∀ step ∈ body.trigger :: body.actions, Dictable step)) ∧
        ∃ e, (v2Validate R body).against answer ⟨1, []⟩ = .error e := by
  have htrigger : Stateless (v2Trigger R body.trigger) := stateless_v2Step
  have hactions : Stateless (v2Actions R 0 body.actions) := stateless_v2Actions 0 body.actions
  obtain ⟨first, hfirst, hpasses⟩ : ∃ errors,
      (v2Trigger R body.trigger).against answer ⟨1, []⟩ = .ok errors ∧
        (errors = [] ↔ TriggerPasses R answer body.trigger) := against_v2Trigger body.trigger
  obtain ⟨rest, hrest, hall⟩ : ∃ errors,
      (v2Actions R 0 body.actions).against answer ⟨1, []⟩ = .ok errors ∧
        (errors = [] ↔ ∀ a ∈ body.actions, ActionPasses R answer a) :=
    against_v2Actions 0 body.actions
  -- the look-ups report what goes wrong; the last check is what may raise
  have hrun : (v2Validate R body).against answer ⟨1, []⟩ = (do
      let a ← suspectErrors R (text "trigger") body.trigger
      let b ← suspectActions R 0 body.actions
      pure (a ++ b)).mapError EngineError.py >>= fun suspects ↦ .ok ⟨first ++ rest, suspects⟩ := by
    rw [v2Validate, against_bind htrigger, hfirst]
    show Dialogue.against (v2Actions R 0 body.actions >>= _) _ _ = _
    rw [against_bind hactions, hrest]
    exact against_lift_bind _
  rw [hrun]
  have hchecks : first ++ rest = [] ↔ TriggerPasses R answer body.trigger ∧
      ∀ a ∈ body.actions, ActionPasses R answer a := by
    rw [List.append_eq_nil_iff, hpasses, hall]
  rcases suspectErrors_cases R (text "trigger") body.trigger with
    ⟨hinput, errors, herrors⟩ | ⟨hnot, e, he⟩
  · rcases suspectActions_cases R 0 body.actions with ⟨hinputs, more, hmore⟩ | ⟨hnot, e, he⟩
    · rw [herrors, hmore]
      exact .inl ⟨List.forall_mem_cons.2 ⟨hinput, hinputs⟩, _, rfl, hchecks⟩
    · rw [herrors, he]
      exact .inr ⟨fun h ↦ hnot (List.forall_mem_cons.1 h).2, .py e, rfl⟩
  · rw [he]
    exact .inr ⟨fun h ↦ hnot (List.forall_mem_cons.1 h).1, .py e, rfl⟩

variable (answer) in
/-- The dry run over MCP. -/
theorem against_mcpValidateFlow (body : ValidateBody) :
    (∃ errors, (mcpValidateFlow R body).against answer ⟨1, []⟩ = .ok errors ∧
        (TriggerReadable R answer body.trigger ∧ ∀ a ∈ body.actions, ActionReadable R answer a) ∧
        (errors = [] ↔ ¬ TriggerLacks R answer body.trigger ∧
          ∀ a ∈ body.actions, ¬ ActionLacks R answer a)) ∨
      ∃ e, (mcpValidateFlow R body).against answer ⟨1, []⟩ = .error e ∧
        ¬ (TriggerReadable R answer body.trigger ∧
          ∀ a ∈ body.actions, ActionReadable R answer a) := by
  have htrigger : (∃ errors, (mcpStep R triggerKind (field body.trigger "piece" (py ""))
      (field body.trigger "trigger_name" (py ""))).against answer ⟨1, []⟩ = .ok errors ∧
        TriggerReadable R answer body.trigger ∧
          (errors = [] ↔ ¬ TriggerLacks R answer body.trigger)) ∨
      ∃ e, (mcpStep R triggerKind (field body.trigger "piece" (py ""))
        (field body.trigger "trigger_name" (py ""))).against answer ⟨1, []⟩ = .error e ∧
          ¬ TriggerReadable R answer body.trigger := against_mcpStep _ _ _
  rw [mcpValidateFlow, against_bind stateless_mcpStep]
  rcases htrigger with ⟨errors, hrun, hreadable, hempty⟩ | ⟨e, hrun, hnot⟩
  · rw [hrun]
    show (∃ errors', Dialogue.against (mcpActions R body.actions >>= _) _ _ = .ok errors' ∧ _) ∨
      ∃ e, Dialogue.against (mcpActions R body.actions >>= _) _ _ = .error e ∧ _
    rw [against_bind (stateless_mcpActions body.actions)]
    rcases against_mcpActions body.actions with ⟨rest, hrest, hall, hnone⟩ | ⟨e, hrest, hnot⟩
    · rw [hrest]
      refine .inl ⟨errors ++ rest, rfl, ⟨hreadable, hall⟩, ?_⟩
      rw [List.append_eq_nil_iff, hempty, hnone]
    · rw [hrest]
      exact .inr ⟨e, rfl, fun h ↦ hnot h.2⟩
  · rw [hrun]
    exact .inr ⟨e, rfl, fun h ↦ hnot h.1⟩

end Conditions

/-- Both dry runs return, and the checks of the one find an error exactly when those of the other
do. -/
def SameVerdict (R : PyRuntime) (answer : CatalogQuery → Except EngineError PyValue)
    (body : ValidateBody) : Prop :=
  ∃ d errors, (v2Validate R body).against answer ⟨1, []⟩ = .ok d ∧
    (mcpValidateFlow R body).against answer ⟨1, []⟩ = .ok errors ∧ (d.checks = [] ↔ errors = [])

/-- **The two verdicts are the same** exactly when `dict()` accepts every input, every look-up is
readable, and either some piece lacks the name asked of it or every step passes. -/
theorem sameVerdict_iff (R : PyRuntime) (answer : CatalogQuery → Except EngineError PyValue)
    (body : ValidateBody) :
    SameVerdict R answer body ↔
      (∀ step ∈ body.trigger :: body.actions, Dictable step) ∧
        (TriggerReadable R answer body.trigger ∧ ∀ a ∈ body.actions, ActionReadable R answer a) ∧
        ((TriggerLacks R answer body.trigger ∨ ∃ a ∈ body.actions, ActionLacks R answer a) ∨
          (TriggerPasses R answer body.trigger ∧ ∀ a ∈ body.actions, ActionPasses R answer a)) := by
  have hexclusive : TriggerPasses R answer body.trigger ∧
      (∀ a ∈ body.actions, ActionPasses R answer a) → ¬ TriggerLacks R answer body.trigger ∧
        ∀ a ∈ body.actions, ¬ ActionLacks R answer a :=
    fun h ↦ ⟨h.1.not_lacks, fun a ha ↦ (h.2 a ha).not_lacks⟩
  have hsome : (TriggerLacks R answer body.trigger ∨ ∃ a ∈ body.actions, ActionLacks R answer a) ↔
      ¬ (¬ TriggerLacks R answer body.trigger ∧ ∀ a ∈ body.actions, ¬ ActionLacks R answer a) := by
    push Not
    exact ⟨fun h ht ↦ h.resolve_left ht, fun h ↦ or_iff_not_imp_left.2 h⟩
  rw [SameVerdict]
  rcases against_v2Validate answer body with ⟨hinputs, d, hd, hchecks⟩ | ⟨hnot, e, he⟩
  · rcases against_mcpValidateFlow answer body with
      ⟨errors, herrors, hreadable, hempty⟩ | ⟨e, he, hnot⟩
    · rw [hsome, ← hempty, ← hchecks]
      rw [← hempty, ← hchecks] at hexclusive
      constructor
      · rintro ⟨d', errors', hd', herrors', hsame⟩
        obtain rfl := Except.ok.inj (hd.symm.trans hd')
        obtain rfl := Except.ok.inj (herrors.symm.trans herrors')
        refine ⟨hinputs, hreadable, ?_⟩
        by_cases hnone : errors = []
        · exact .inr (hsame.2 hnone)
        · exact .inl hnone
      · rintro ⟨-, -, hverdict⟩
        refine ⟨d, errors, hd, herrors, hexclusive, fun hnone ↦ ?_⟩
        exact hverdict.resolve_left fun h ↦ h hnone
    · refine iff_of_false ?_ fun h ↦ hnot h.2.1
      rintro ⟨d', errors, -, herrors, -⟩
      cases he.symm.trans herrors
  · refine iff_of_false ?_ fun h ↦ hnot h.1
    rintro ⟨d, errors, hd, -, -⟩
    cases he.symm.trans hd

/-! ### An input left out -/

/-- Every piece is the same: its action sends a message to somebody. -/
def mailPiece : PyValue :=
  pyDict [("triggers", pyDict [("new_message", .dict [])]),
    ("actions", pyDict [("send_message", pyDict [("props", pyDict [("to",
      pyDict [("required", .bool true)])])])])]

/-- A message to nobody. -/
def messageToNobody : ValidateBody where
  trigger := [(text "piece", py "mail"), (text "trigger_name", py "new_message")]
  actions := [[(text "piece", py "mail"), (text "action_name", py "send_message")]]

/-- REST asks for the recipient; MCP finds the flow valid. -/
theorem not_sameVerdict_messageToNobody :
    ¬ SameVerdict plainRuntime (fun _ ↦ .ok mailPiece) messageToNobody := by
  rintro ⟨d, errors, hd, herrors, hsame⟩
  have hrest : (v2Validate plainRuntime messageToNobody).against (fun _ ↦ .ok mailPiece) ⟨1, []⟩ =
      .ok ⟨[text "actions[0].input missing required field: 'to'"], []⟩ := rfl
  have hmcp : (mcpValidateFlow plainRuntime messageToNobody).against (fun _ ↦ .ok mailPiece)
      ⟨1, []⟩ = .ok [] := rfl
  obtain rfl := Except.ok.inj (hrest.symm.trans hd)
  obtain rfl := Except.ok.inj (hmcp.symm.trans herrors)
  exact absurd (hsame.2 rfl) (List.cons_ne_nil _ _)

end Siyadah
