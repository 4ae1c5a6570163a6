import Mathlib.Logic.Relation
import SiyadahOrchestrator.Flows.FlowTree
import SiyadahOrchestrator.Flows.PieceValidator

/-!
# What the validator accepts

`validate_trigger` is compared with a statement about the tree that mentions no walker: every step
below the trigger is in order, and no placeholder is a leaf of its settings (`Clean`).

Two things stand between them. The scan for placeholders reads `settings.input` and nothing else,
so a placeholder in the conditions of a router, in the items of a loop or in the code of a step is
not seen. And a tree that the walker cannot read raises, whatever the specification says of it
(`Regular`). `sniper_iff` says that nothing else does.

The generic part comes first: what a recursive scan for a leaf finds.
-/

namespace Siyadah

/-! ### Leaves -/

namespace PyValue

/-- The string is a leaf of the value. -/
inductive LeafOf (s : PyStr) : PyValue → Prop
  | here : LeafOf s (.str s)
  | entry {fields : List (PyStr × PyValue)} {f : PyStr × PyValue} (hf : f ∈ fields)
      (h : LeafOf s f.2) : LeafOf s (.dict fields)
  | item {items : List PyValue} {v : PyValue} (hv : v ∈ items) (h : LeafOf s v) :
      LeafOf s (.list items)

/-- A scan goes into dictionaries and lists, and decides at the strings. -/
structure Scans (f : PyValue → Bool) (p : PyStr → Prop) : Prop where
  str : ∀ s, f (.str s) = true ↔ p s
  dict : ∀ fields, f (.dict fields) = fields.any fun e ↦ f e.2
  list : ∀ items, f (.list items) = items.any f
  null : f .null = false
  bool : ∀ b, f (.bool b) = false
  int : ∀ n, f (.int n) = false
  float : ∀ x, f (.float x) = false

section Scans

variable {f : PyValue → Bool} {p : PyStr → Prop} {s : PyStr}

theorem Scans.of_leaf (h : Scans f p) {v : PyValue} (hleaf : LeafOf s v) (hs : p s) :
    f v = true := by
  induction hleaf with
  | here => exact (h.str s).2 hs
  | entry hf _ ih =>
    rw [h.dict]
    exact List.any_eq_true.2 ⟨_, hf, ih⟩
  | item hv _ ih =>
    rw [h.list]
    exact List.any_eq_true.2 ⟨_, hv, ih⟩

theorem Scans.exists_leaf (h : Scans f p) :
    (v : PyValue) → f v = true → ∃ s, LeafOf s v ∧ p s
  | .str s, hv => ⟨s, .here, (h.str s).1 hv⟩
  | .dict fields, hv => by
    rw [h.dict] at hv
    obtain ⟨e, he, hfe⟩ := List.any_eq_true.1 hv
    obtain ⟨s, hs, hps⟩ := h.exists_leaf e.2 hfe
    exact ⟨s, .entry he hs, hps⟩
  | .list items, hv => by
    rw [h.list] at hv
    obtain ⟨w, hw, hfw⟩ := List.any_eq_true.1 hv
    obtain ⟨s, hs, hps⟩ := h.exists_leaf w hfw
    exact ⟨s, .item hw hs, hps⟩
  | .null, hv => absurd (h.null.symm.trans hv) (by simp)
  | .bool b, hv => absurd ((h.bool b).symm.trans hv) (by simp)
  | .int n, hv => absurd ((h.int n).symm.trans hv) (by simp)
  | .float x, hv => absurd ((h.float x).symm.trans hv) (by simp)
termination_by v => sizeOf v
decreasing_by
  · have hlt := List.sizeOf_lt_of_mem he
    rcases e with ⟨k, w⟩
    simp only [Prod.mk.sizeOf_spec, dict.sizeOf_spec] at hlt ⊢
    omega
  · have hlt := List.sizeOf_lt_of_mem hw
    simp only [list.sizeOf_spec]
    omega

/-- **A scan finds** what is a leaf. -/
theorem Scans.iff_exists_leaf (h : Scans f p) (v : PyValue) :
    f v = true ↔ ∃ s, LeafOf s v ∧ p s := by
  constructor
  · exact h.exists_leaf v
  · rintro ⟨s, hleaf, hs⟩
    exact h.of_leaf hleaf hs

end Scans

section Entries

variable {v : PyValue} {key : String} {s : PyStr}

/-- A leaf is below the entry, or elsewhere. -/
theorem leafOf_iff_entry :
    LeafOf s v ↔ LeafOf s (v.entryD key) ∨ LeafOf s (v.without key) := by
  have hnull : ¬ LeafOf s .null := fun h ↦ nomatch h
  cases v with
  | dict fields =>
    have hfields : LeafOf s (.dict fields) ↔ ∃ f ∈ fields, LeafOf s f.2 := by
      constructor
      · rintro (_ | ⟨hf, h⟩)
        exact ⟨_, hf, h⟩
      · rintro ⟨f, hf, h⟩
        exact .entry hf h
    have hrest : LeafOf s ((dict fields).without key) ↔
        ∃ f ∈ fields.eraseP fun f ↦ f.1 = PyStr.ofString key, LeafOf s f.2 := by
      constructor
      · rintro (_ | ⟨hf, h⟩)
        exact ⟨_, hf, h⟩
      · rintro ⟨f, hf, h⟩
        exact .entry hf h
    rw [hfields, hrest]
    show _ ↔ LeafOf s ((fields.lookup (PyStr.ofString key)).getD .null) ∨ _
    clear hfields hrest
    induction fields with
    | nil => simpa using hnull
    | cons f fields ih =>
      rw [List.exists_mem_cons_iff]
      by_cases hkey : f.1 = PyStr.ofString key
      · have hbeq : (PyStr.ofString key == f.1) = true := beq_iff_eq.2 hkey.symm
        rw [List.lookup_cons, hbeq, List.eraseP_cons_of_pos (by simpa using hkey)]
        exact Iff.rfl
      · have hbeq : (PyStr.ofString key == f.1) = false := beq_eq_false_iff_ne.2 (Ne.symm hkey)
        rw [List.lookup_cons, hbeq, List.eraseP_cons_of_neg (by simpa using hkey),
          List.exists_mem_cons_iff, ih]
        exact or_left_comm
  | _ => exact ⟨.inr, fun h ↦ h.resolve_left hnull⟩

end Entries

end PyValue

open PyValue

/-! ### The scans of the validator -/

/-- The string holds a reference: two opening braces, and two closing ones behind them on the same
line. -/
def HasReference (s : PyStr) : Prop :=
  ∃ before inside after, s = before ++ 123 :: 123 :: (inside ++ 125 :: 125 :: after) ∧
    (10 : ℕ) ∉ inside

theorem closesOnLine_iff (s : PyStr) :
    closesOnLine s = true ↔
      ∃ inside after, s = inside ++ 125 :: 125 :: after ∧ (10 : ℕ) ∉ inside := by
  fun_induction closesOnLine s with
  | case1 after => exact iff_of_true rfl ⟨[], after, rfl, List.not_mem_nil⟩
  | case2 c s hno ih =>
    rw [Bool.and_eq_true_iff, decide_eq_true_iff, ih]
    constructor
    · rintro ⟨hc, inside, after, rfl, hline⟩
      exact ⟨c :: inside, after, rfl, by simp [Ne.symm hc, hline]⟩
    · rintro ⟨inside, after, heq, hline⟩
      cases inside with
      | nil =>
        obtain ⟨rfl, rfl⟩ := List.cons.inj heq
        exact absurd rfl (hno after rfl)
      | cons d inside =>
        obtain ⟨rfl, rfl⟩ := List.cons.inj heq
        exact ⟨fun hc ↦ hline (by simp [hc]), inside, after, rfl,
          fun hmem ↦ hline (List.mem_cons_of_mem c hmem)⟩
  | case3 =>
    refine iff_of_false (by simp) ?_
    rintro ⟨inside, after, heq, -⟩
    exact absurd heq (by simp)

theorem isDynamic_iff (s : PyStr) : isDynamic s = true ↔ HasReference s := by
  fun_induction isDynamic s with
  | case1 s ih =>
    rw [Bool.or_eq_true_iff, closesOnLine_iff, ih]
    constructor
    · rintro (⟨inside, after, rfl, hline⟩ | ⟨before, inside, after, heq, hline⟩)
      · exact ⟨[], inside, after, rfl, hline⟩
      · exact ⟨123 :: before, inside, after, congrArg (List.cons 123) heq, hline⟩
    · rintro ⟨before, inside, after, heq, hline⟩
      cases before with
      | nil => exact .inl ⟨inside, after, (List.cons.inj (List.cons.inj heq).2).2, hline⟩
      | cons c before => exact .inr ⟨before, inside, after, (List.cons.inj heq).2, hline⟩
  | case2 c s hno ih =>
    rw [ih]
    constructor
    · rintro ⟨before, inside, after, rfl, hline⟩
      exact ⟨c :: before, inside, after, rfl, hline⟩
    · rintro ⟨before, inside, after, heq, hline⟩
      cases before with
      | nil =>
        obtain ⟨rfl, rfl⟩ := List.cons.inj heq
        exact absurd rfl (hno _ rfl)
      | cons d before => exact ⟨before, inside, after, (List.cons.inj heq).2, hline⟩
  | case3 =>
    refine iff_of_false (by simp) ?_
    rintro ⟨before, inside, after, heq, -⟩
    exact absurd heq (by simp)

theorem fieldsBanned_eq (fields : List (PyStr × PyValue)) :
    fieldsBanned fields = fields.any fun e ↦ isBanned e.2 := by
  induction fields with
  | nil => rfl
  | cons f fields ih => rw [fieldsBanned, List.any_cons, ih]

theorem itemsBanned_eq (items : List PyValue) : itemsBanned items = items.any isBanned := by
  induction items with
  | nil => rfl
  | cons v items ih => rw [itemsBanned, List.any_cons, ih]

theorem fieldsContainHandlebars_eq (fields : List (PyStr × PyValue)) :
    fieldsContainHandlebars fields = fields.any fun e ↦ containsHandlebars e.2 := by
  induction fields with
  | nil => rfl
  | cons f fields ih => rw [fieldsContainHandlebars, List.any_cons, ih]

theorem itemsContainHandlebars_eq (items : List PyValue) :
    itemsContainHandlebars items = items.any containsHandlebars := by
  induction items with
  | nil => rfl
  | cons v items ih => rw [itemsContainHandlebars, List.any_cons, ih]

/-- `_is_banned` is a scan for the placeholders. -/
theorem scans_isBanned : Scans isBanned fun s ↦ s.strip ∈ bannedValues where
  str _ := decide_eq_true_iff
  dict := fieldsBanned_eq
  list := itemsBanned_eq
  null := rfl
  bool _ := rfl
  int _ := rfl
  float _ := rfl

/-- `_contains_handlebars` is a scan for the references. -/
theorem scans_containsHandlebars : Scans containsHandlebars HasReference where
  str := isDynamic_iff
  dict := fieldsContainHandlebars_eq
  list := itemsContainHandlebars_eq
  null := rfl
  bool _ := rfl
  int _ := rfl
  float _ := rfl

/-! ### The specification -/

/-- A placeholder is a leaf of the value. -/
def HasPlaceholder (v : PyValue) : Prop := ∃ s, LeafOf s v ∧ s.strip ∈ bannedValues

/-- The value refers to the output of a step. -/
def Refers (v : PyValue) : Prop := ∃ s, LeafOf s v ∧ HasReference s

/-- The piece requires authentication. -/
def PieceRow.NeedsAuth (row : PieceRow) : Prop :=
  ∃ authType, row.authType = some authType ∧ authType ≠ [] ∧ authType ≠ text "NONE"

/-- The names that a trigger or an action may have, with their required properties. -/
def PieceRow.index (row : PieceRow) (isTrigger : Bool) : List (PyStr × List PyStr) :=
  if isTrigger then row.triggersIndex else row.actionsIndex

/-- The settings of a step that uses a piece are in order: piece and version are registered, the
action or trigger exists, there is an auth where the piece needs one, and the other required
properties are there and have a value or refer to one. -/
inductive PieceInOrder (reg : PieceRegistry) (isTrigger : Bool) (settings : PyValue) : Prop
  | intro (row : PieceRow) (hrow : row ∈ reg.rows) (rawVersion name : PyStr)
      (required : List PyStr)
      (hpiece : settings.entry "pieceName" = some (.str row.name)) (hpieceName : row.name ≠ [])
      (hraw : settings.entry "pieceVersion" = some (.str rawVersion))
      (hversion : stripVersion (.str rawVersion) = .ok row.pieceVersion)
      (hpieceVersion : row.pieceVersion ≠ [])
      (hname : settings.entry (if isTrigger then "triggerName" else "actionName") =
        some (.str name))
      (hnonempty : name ≠ []) (hindex : (row.index isTrigger).lookup name = some required)
      (hauth : row.NeedsAuth → ∃ auth, (settings.entryD "input").entry "auth" = some auth ∧
        auth.isBlank = false)
      (hrequired : ∀ req ∈ required, req ≠ text "auth" → ∃ v,
        (settings.entryD "input").getItem req = .ok v ∧ (Refers v ∨ v.isBlank = false))

/-- If the step uses a piece, its settings are in order. -/
structure StepInOrder (reg : PieceRegistry) (step : PyValue) : Prop where
  trigger : (step.entryD "type").isStr (text "PIECE_TRIGGER") = true →
    PieceInOrder reg true (step.entryD "settings")
  action : (step.entryD "type").isStr (text "PIECE") = true →
    PieceInOrder reg false (step.entryD "settings")

/-- A step directly below another one. -/
def StepBelow (v w : PyValue) : Prop :=
  w.isDict = true ∧ (v.entry "nextAction" = some w ∨
    (∃ items, v.entry "children" = some (.list items) ∧ w ∈ items) ∨
    v.entry "firstLoopAction" = some w)

/-- The steps of a tree. -/
abbrev Reachable (trigger step : PyValue) : Prop := Relation.ReflTransGen StepBelow trigger step

/-- **The specification**: every step that uses a piece is in order, and no placeholder is a leaf of
the settings of a step. -/
def Clean (reg : PieceRegistry) (trigger : PyValue) : Prop :=
  ∀ step, Reachable trigger step →
    StepInOrder reg step ∧ ¬ HasPlaceholder (step.entryD "settings")

/-- The walker can read the step: it is an object, and so are its settings; its children can be
iterated over. A falsy value stands for nothing. -/
structure Regular (step : PyValue) : Prop where
  object : step.truthy = true → step.isDict = true
  settings : (step.entryD "settings").truthy = true → (step.entryD "settings").isDict = true
  children : (step.entryD "children").truthy = true → (step.entryD "children").items.isOk = true

/-! ### One step -/

/-- A loop that collects errors collects none exactly if no pass of it does. -/
theorem mapM_flatten_eq_nil_iff {α β ε : Type} {f : α → Except ε (List β)} {l : List α} :
    (∃ ys, l.mapM f = .ok ys ∧ ys.flatten = []) ↔ ∀ x ∈ l, f x = .ok [] := by
  induction l with
  | nil => exact iff_of_true ⟨[], rfl, rfl⟩ fun x hx ↦ absurd hx List.not_mem_nil
  | cons x l ih =>
    rw [List.forall_mem_cons, ← ih, List.mapM_cons]
    constructor
    · rintro ⟨zs, hrun, hflat⟩
      obtain ⟨y, hy, hrest⟩ := bind_eq_ok_iff.1 hrun
      obtain ⟨ys, hys, hzs⟩ := bind_eq_ok_iff.1 hrest
      obtain rfl := Except.ok.inj hzs
      obtain ⟨rfl, hnil⟩ := List.append_eq_nil_iff.1 (List.flatten_cons ▸ hflat)
      exact ⟨hy, ys, hys, hnil⟩
    · rintro ⟨hy, ys, hys, hnil⟩
      exact ⟨[] :: ys, bind_eq_ok_iff.2 ⟨[], hy, bind_eq_ok_iff.2 ⟨ys, hys, rfl⟩⟩, hnil⟩

section Step

variable {repr : PyValue → PyStr} {reg : PieceRegistry} {path version : PyStr} {isTrigger : Bool}
  {row : PieceRow} {pieceName : PyValue} {required : List PyStr} {settings step v : PyValue}

/-- A list of one error is an error. -/
theorem pure_singleton_ne {e : ValidationError} :
    (pure [e] : Except PyError (List ValidationError)) ≠ .ok [] := fun h ↦
  absurd (Except.ok.inj h) (by simp)

theorem hasPlaceholder_iff : HasPlaceholder v ↔ isBanned v = true :=
  (scans_isBanned.iff_exists_leaf v).symm

theorem isBanned_orElse_nil : isBanned (v.orElse (.dict [])) = isBanned v := by
  rw [orElse]
  split
  · rfl
  · rename_i hfalsy
    cases v with
    | str s =>
      cases s with
      | nil => decide
      | cons c s => exact absurd rfl hfalsy
    | list items =>
      cases items with
      | nil => rfl
      | cons w items => exact absurd rfl hfalsy
    | dict fields =>
      cases fields with
      | nil => rfl
      | cons f fields => exact absurd rfl hfalsy
    | _ => rfl

theorem getItem_orElse_nil {key : PyStr} {w : PyValue} :
    (v.orElse (.dict [])).getItem key = .ok w ↔ v.getItem key = .ok w := by
  rw [orElse]
  split
  · rfl
  · rename_i hfalsy
    refine iff_of_false (by simp [getItem]) ?_
    cases v with
    | dict fields =>
      cases fields with
      | nil => simp [getItem]
      | cons f fields => exact absurd rfl hfalsy
    | _ => simp [getItem]

/-- The check of the `auth` entry passes exactly if there is one where the piece needs it. -/
theorem checkAuth_eq_ok_iff : checkAuth path pieceName version row v = .ok [] ↔
    (row.NeedsAuth → ∃ auth, v.entry "auth" = some auth ∧ auth.isBlank = false) := by
  rw [checkAuth]
  cases hauth : row.authType with
  | none =>
    refine iff_of_true rfl ?_
    rintro ⟨authType, h, -⟩
    exact absurd (hauth.symm.trans h) (by simp)
  | some authType =>
    dsimp only
    split
    · rename_i hno
      refine iff_of_true rfl ?_
      rintro ⟨authType', h, hne, hne'⟩
      obtain rfl := Option.some.inj (hauth.symm.trans h)
      exact absurd hno (not_or.2 ⟨hne, hne'⟩)
    · rename_i hneeds
      have hrow : row.NeedsAuth := ⟨authType, hauth, not_or.1 hneeds⟩
      rw [imp_iff_right hrow, bind_eq_ok_iff]
      constructor
      · rintro ⟨auth, hget, h⟩
        obtain ⟨-, rfl⟩ := getD_eq_ok_iff.1 hget
        split at h
        · exact absurd h pure_singleton_ne
        · rename_i hblank
          cases hentry : v.entry "auth" with
          | none =>
            rw [hentry] at hblank
            exact absurd rfl hblank
          | some auth =>
            rw [hentry] at hblank
            exact ⟨auth, rfl, Bool.eq_false_iff.2 hblank⟩
      · rintro ⟨auth, hentry, hblank⟩
        refine ⟨auth, getD_eq_ok_iff.2 ⟨isDict_of_entry hentry, by rw [hentry]; rfl⟩, ?_⟩
        rw [if_neg (by rw [hblank]; simp)]
        rfl

/-- The check of a required property passes exactly if it is there, with a value or a reference. -/
theorem checkRequired_eq_ok_iff {req : PyStr} :
    checkRequired repr path pieceName version v req = .ok [] ↔
      (req ≠ text "auth" → ∃ w, v.getItem req = .ok w ∧ (Refers w ∨ w.isBlank = false)) := by
  rw [checkRequired]
  split
  · rename_i hreq
    exact iff_of_true rfl fun hne ↦ absurd hreq hne
  · rename_i hreq
    rw [imp_iff_right hreq, bind_eq_ok_iff]
    constructor
    · rintro ⟨found, -, h⟩
      cases found with
      | false => exact absurd h pure_singleton_ne
      | true =>
        obtain ⟨w, hw, h⟩ := bind_eq_ok_iff.1 h
        refine ⟨w, hw, ?_⟩
        split at h
        · rename_i href
          exact .inl ((scans_containsHandlebars.iff_exists_leaf w).1 href)
        · split at h
          · exact absurd h pure_singleton_ne
          · rename_i hblank
            exact .inr (Bool.eq_false_iff.2 hblank)
    · rintro ⟨w, hw, hval⟩
      refine ⟨true, ?_, ?_⟩
      · cases v with
        | dict fields =>
          cases hlookup : fields.lookup req with
          | none =>
            rw [getItem, hlookup] at hw
            exact absurd hw (by simp)
          | some x => rw [hasItem, hlookup]; rfl
        | _ => exact absurd hw (by simp [getItem])
      · refine bind_eq_ok_iff.2 ⟨w, hw, ?_⟩
        rcases hval with href | hblank
        · rw [if_pos ((scans_containsHandlebars.iff_exists_leaf w).2 href)]
          rfl
        · rw [hblank]
          split <;> rfl

/-- The checks of the input pass exactly if there is an auth where the piece needs one, the required
properties are there, and there is no placeholder. -/
theorem checkInput_eq_ok_iff (hdict : settings.isDict = true) :
    checkInput repr path pieceName version row required settings = .ok [] ↔
      ((row.NeedsAuth → ∃ auth, (settings.entryD "input").entry "auth" = some auth ∧
          auth.isBlank = false) ∧
        ∀ req ∈ required, req ≠ text "auth" → ∃ w,
          (settings.entryD "input").getItem req = .ok w ∧ (Refers w ∨ w.isBlank = false)) ∧
      ¬ HasPlaceholder (settings.entryD "input") := by
  have hinput : settings.get "input" = .ok (settings.entryD "input") :=
    getD_eq_ok_iff.2 ⟨hdict, rfl⟩
  have hauth : checkAuth path pieceName version row ((settings.entryD "input").orElse (.dict [])) =
      .ok [] ↔ (row.NeedsAuth → ∃ auth, (settings.entryD "input").entry "auth" = some auth ∧
        auth.isBlank = false) := by
    rw [checkAuth_eq_ok_iff, entry_orElse_nil]
  have hprops : (∃ props, required.mapM (checkRequired repr path pieceName version
        ((settings.entryD "input").orElse (.dict []))) = .ok props ∧ props.flatten = []) ↔
      ∀ req ∈ required, req ≠ text "auth" → ∃ w,
        (settings.entryD "input").getItem req = .ok w ∧ (Refers w ∨ w.isBlank = false) := by
    rw [mapM_flatten_eq_nil_iff]
    refine forall₂_congr fun req _ ↦ ?_
    rw [checkRequired_eq_ok_iff]
    simp only [getItem_orElse_nil]
  rw [checkInput, hinput, hasPlaceholder_iff, Bool.not_eq_true]
  show (checkAuth path pieceName version row ((settings.entryD "input").orElse (.dict [])) >>= _) =
    _ ↔ _
  rw [bind_eq_ok_iff]
  constructor
  · rintro ⟨auth, hrun, hrest⟩
    obtain ⟨props, hprops', hlast⟩ := bind_eq_ok_iff.1 hrest
    obtain ⟨hboth, hbanned⟩ := List.append_eq_nil_iff.1 (Except.ok.inj hlast)
    obtain ⟨rfl, hnil⟩ := List.append_eq_nil_iff.1 hboth
    refine ⟨⟨hauth.1 hrun, hprops.1 ⟨props, hprops', hnil⟩⟩, ?_⟩
    split at hbanned
    · exact absurd hbanned (by simp)
    · rename_i hclean
      rw [isBanned_orElse_nil] at hclean
      exact Bool.eq_false_iff.2 hclean
  · rintro ⟨⟨hneeds, hreqs⟩, hclean⟩
    obtain ⟨props, hprops', hnil⟩ := hprops.2 hreqs
    refine ⟨[], hauth.2 hneeds, bind_eq_ok_iff.2 ⟨props, hprops', ?_⟩⟩
    rw [isBanned_orElse_nil, hclean, hnil]
    rfl

theorem lookupName_eq_some_iff {index : List (PyStr × List PyStr)} :
    lookupName index v = .ok (some required) ↔
      ∃ name, v = .str name ∧ index.lookup name = some required := by
  cases v with
  | str name =>
    rw [lookupName, Except.ok.injEq]
    exact ⟨fun h ↦ ⟨name, rfl, h⟩, fun ⟨name', heq, h⟩ ↦ PyValue.str.inj heq ▸ h⟩
  | _ => exact iff_of_false (by simp [lookupName]) (by simp)

theorem truthy_str_iff {s : PyStr} : (PyValue.str s).truthy = true ↔ s ≠ [] := by
  cases s <;> simp [truthy]

/-- An entry that is looked up with the default `""`, and is not empty, is there. -/
theorem entry_of_getD_blank {key : String} (h : settings.getD key (py "") = .ok v)
    (htruthy : v.truthy = true) : settings.entry key = some v := by
  obtain ⟨-, rfl⟩ := getD_eq_ok_iff.1 h
  cases hentry : settings.entry key with
  | none =>
    rw [hentry] at htruthy
    exact absurd htruthy (by decide)
  | some w => rfl

theorem getD_of_entry {key : String} {d : PyValue} (h : settings.entry key = some v) :
    settings.getD key d = .ok v :=
  getD_eq_ok_iff.2 ⟨isDict_of_entry h, by rw [h]; rfl⟩

/-- The checks behind the registry pass exactly if the name exists and those of the input pass. -/
theorem checkName_eq_ok_iff :
    checkName repr path isTrigger pieceName version row settings = .ok [] ↔
      ∃ name required, settings.entry (if isTrigger then "triggerName" else "actionName") =
          some (.str name) ∧ name ≠ [] ∧ (row.index isTrigger).lookup name = some required ∧
        checkInput repr path pieceName version row required settings = .ok [] := by
  rw [checkName, bind_eq_ok_iff]
  constructor
  · rintro ⟨nameKey, hget, h⟩
    dsimp only at h
    by_cases htruthy : nameKey.truthy = true
    · have hpresent : ¬ (!nameKey.truthy) = true := by simp [htruthy]
      rw [if_neg hpresent] at h
      obtain ⟨found, hfound, h⟩ := bind_eq_ok_iff.1 h
      cases found with
      | none => exact absurd h pure_singleton_ne
      | some required =>
        obtain ⟨name, rfl, hindex⟩ := lookupName_eq_some_iff.1 hfound
        exact ⟨name, required, entry_of_getD_blank hget htruthy, truthy_str_iff.1 htruthy, hindex,
          h⟩
    · have habsent : (!nameKey.truthy) = true := by simpa using htruthy
      rw [if_pos habsent] at h
      exact absurd h pure_singleton_ne
  · rintro ⟨name, required, hentry, hnonempty, hindex, h⟩
    refine ⟨.str name, getD_of_entry hentry, ?_⟩
    rw [truthy_str_iff.2 hnonempty]
    exact bind_eq_ok_iff.2 ⟨some required, lookupName_eq_some_iff.2 ⟨name, rfl, hindex⟩, h⟩

theorem fetchPiece_eq_some_iff : fetchPiece reg v version = .ok (some row) ↔
    row ∈ reg.rows ∧ v = .str row.name ∧ version = row.pieceVersion := by
  cases v with
  | str name =>
    rw [fetchPiece, Except.ok.injEq, KeyedTable.find?_eq_some_iff, PyValue.str.injEq,
      Prod.mk.injEq]
    exact and_congr_right fun _ ↦ and_congr eq_comm eq_comm
  | _ => exact iff_of_false (by simp [fetchPiece]) (by simp)

/-- A version that is not empty comes from a string. -/
theorem str_of_stripVersion (h : stripVersion v = .ok version) (hne : version ≠ []) :
    ∃ raw, v = .str raw ∧ v.truthy = true := by
  rw [stripVersion.eq_def] at h
  split at h
  · exact absurd (Except.ok.inj h).symm hne
  · rename_i htruthy
    split at h
    · rename_i raw
      exact ⟨raw, rfl, by simpa using htruthy⟩
    · exact absurd h (by simp)

/-- **A step that uses a piece** passes exactly if its settings are in order and its input holds no
placeholder. -/
theorem checkPiece_eq_ok_iff (hdict : step.isDict = true) :
    checkPiece repr reg path isTrigger step = .ok [] ↔
      PieceInOrder reg isTrigger (step.entryD "settings") ∧
        ¬ HasPlaceholder ((step.entryD "settings").entryD "input") := by
  have hget : step.get "settings" = .ok (step.entryD "settings") := getD_eq_ok_iff.2 ⟨hdict, rfl⟩
  have hinput : ((step.entryD "settings").orElse (.dict [])).entryD "input" =
      (step.entryD "settings").entryD "input" := by
    show (((step.entryD "settings").orElse (.dict [])).entry "input").getD .null = _
    rw [entry_orElse_nil]
    rfl
  rw [checkPiece, hget]
  show ((((step.entryD "settings").orElse (.dict [])).getD "pieceName" (py "")) >>= _) = _ ↔ _
  rw [bind_eq_ok_iff]
  constructor
  · rintro ⟨pieceName, hpiece, h⟩
    obtain ⟨rawVersion, hraw, hpresent⟩ := bind_eq_ok_iff.1 h
    obtain ⟨version, hversion, hchecked⟩ := bind_eq_ok_iff.1 hpresent
    split at hchecked
    · exact absurd hchecked pure_singleton_ne
    rename_i htruthy
    split at hchecked
    · exact absurd hchecked pure_singleton_ne
    rename_i hne
    obtain ⟨found, hfound, hnamed⟩ := bind_eq_ok_iff.1 hchecked
    cases found with
    | none => exact absurd hnamed pure_singleton_ne
    | some row =>
      obtain ⟨hrow, rfl, rfl⟩ := fetchPiece_eq_some_iff.1 hfound
      obtain ⟨raw, rfl, hrawTruthy⟩ := str_of_stripVersion hversion hne
      obtain ⟨name, required, hname, hnonempty, hindex, hrest⟩ := checkName_eq_ok_iff.1 hnamed
      have hpieceTruthy : (PyValue.str row.name).truthy = true := by simpa using htruthy
      have hpieceEntry := entry_of_getD_blank hpiece hpieceTruthy
      have hrawEntry := entry_of_getD_blank hraw hrawTruthy
      obtain ⟨⟨hauth, hrequired⟩, hclean⟩ :=
        (checkInput_eq_ok_iff (isDict_of_entry hpieceEntry)).1 hrest
      rw [hinput] at hauth hrequired hclean
      rw [entry_orElse_nil] at hpieceEntry hrawEntry hname
      exact ⟨⟨row, hrow, raw, name, required, hpieceEntry, truthy_str_iff.1 hpieceTruthy, hrawEntry,
        hversion, hne, hname, hnonempty, hindex, hauth, hrequired⟩, hclean⟩
  · rintro ⟨⟨row, hrow, raw, name, required, hpiece, hpieceName, hraw, hversion, hne, hname,
      hnonempty, hindex, hauth, hrequired⟩, hclean⟩
    rw [← hinput] at hauth hrequired hclean
    rw [← entry_orElse_nil] at hpiece hraw hname
    refine ⟨.str row.name, getD_of_entry hpiece, bind_eq_ok_iff.2 ⟨.str raw, getD_of_entry hraw,
      bind_eq_ok_iff.2 ⟨row.pieceVersion, hversion, ?_⟩⟩⟩
    rw [truthy_str_iff.2 hpieceName, if_neg (by simp), if_neg hne]
    refine bind_eq_ok_iff.2 ⟨some row, fetchPiece_eq_some_iff.2 ⟨hrow, rfl, rfl⟩, ?_⟩
    exact checkName_eq_ok_iff.2 ⟨name, required, hname, hnonempty, hindex,
      (checkInput_eq_ok_iff (isDict_of_entry hpiece)).2 ⟨⟨hauth, hrequired⟩, hclean⟩⟩

/-- A step that uses no piece passes exactly if its settings can be read and its input holds no
placeholder. -/
theorem checkStructural_eq_ok_iff (hdict : step.isDict = true) :
    checkStructural path step = .ok [] ↔
      ((step.entryD "settings").truthy = true → (step.entryD "settings").isDict = true) ∧
        ¬ HasPlaceholder ((step.entryD "settings").entryD "input") := by
  have hget : step.get "settings" = .ok (step.entryD "settings") := getD_eq_ok_iff.2 ⟨hdict, rfl⟩
  rw [checkStructural, hget, hasPlaceholder_iff, ← isDict_orElse_nil]
  show ((((step.entryD "settings").orElse (.dict [])).getD "input" .null) >>= _) = _ ↔ _
  rw [bind_eq_ok_iff]
  constructor
  · rintro ⟨input, hinput, h⟩
    obtain ⟨hsettings, rfl⟩ := getD_eq_ok_iff.1 hinput
    rw [entry_orElse_nil] at h
    refine ⟨hsettings, fun hbanned ↦ ?_⟩
    split at h
    · exact absurd h pure_singleton_ne
    · rename_i hclean
      exact hclean hbanned
  · rintro ⟨hsettings, hclean⟩
    refine ⟨_, getD_eq_ok_iff.2 ⟨hsettings, rfl⟩, ?_⟩
    rw [entry_orElse_nil]
    exact if_neg hclean

theorem isDict_of_pieceInOrder (h : PieceInOrder reg isTrigger settings) :
    settings.isDict = true := by
  obtain ⟨row, hrow, raw, name, required, hpiece⟩ := h
  exact isDict_of_entry hpiece

/-- **A step** passes exactly if it is an object in order whose settings can be read, and its input
holds no placeholder. -/
theorem checkStep_eq_ok_iff : checkStep repr reg path step = .ok [] ↔
    step.isDict = true ∧
      ((step.entryD "settings").truthy = true → (step.entryD "settings").isDict = true) ∧
      StepInOrder reg step ∧ ¬ HasPlaceholder ((step.entryD "settings").entryD "input") := by
  by_cases hdict : step.isDict = true
  · have htype : step.getD "type" (py "") = .ok ((step.entry "type").getD (py "")) :=
      getD_eq_ok_iff.2 ⟨hdict, rfl⟩
    -- A missing type is neither of the two.
    have hstr : ∀ s, text s ≠ [] → ((step.entry "type").getD (py "")).isStr (text s) =
        (step.entryD "type").isStr (text s) := by
      intro s hs
      rw [entryD]
      cases step.entry "type" with
      | none => exact decide_eq_false (Ne.symm hs)
      | some stype => rfl
    rw [checkStep, htype, and_iff_right hdict]
    show (if ((step.entry "type").getD (py "")).isStr (text "PIECE_TRIGGER") = true then _ else _) =
      _ ↔ _
    rw [hstr "PIECE_TRIGGER" (by decide), hstr "PIECE" (by decide)]
    have hpiece : ∀ isTrigger, (StepInOrder reg step ↔
          PieceInOrder reg isTrigger (step.entryD "settings")) →
        (checkPiece repr reg path isTrigger step = .ok [] ↔
          ((step.entryD "settings").truthy = true → (step.entryD "settings").isDict = true) ∧
          StepInOrder reg step ∧ ¬ HasPlaceholder ((step.entryD "settings").entryD "input")) := by
      intro isTrigger hiff
      rw [checkPiece_eq_ok_iff hdict, hiff]
      exact ⟨fun h ↦ ⟨fun _ ↦ isDict_of_pieceInOrder h.1, h⟩, fun h ↦ h.2⟩
    split
    · rename_i htrigger
      refine hpiece true ⟨fun h ↦ h.trigger htrigger, fun h ↦ ⟨fun _ ↦ h, fun haction ↦ ?_⟩⟩
      have heq := (eq_str_of_isStr htrigger).symm.trans (eq_str_of_isStr haction)
      exact absurd (PyValue.str.inj heq) (by decide)
    · rename_i hnotTrigger
      split
      · rename_i haction
        exact hpiece false ⟨fun h ↦ h.action haction,
          fun h ↦ ⟨fun htrigger ↦ absurd htrigger hnotTrigger, fun _ ↦ h⟩⟩
      · rename_i hnotAction
        have horder : StepInOrder reg step :=
          ⟨fun h ↦ absurd h hnotTrigger, fun h ↦ absurd h hnotAction⟩
        rw [checkStructural_eq_ok_iff hdict, and_iff_right horder]
  · refine iff_of_false (fun h ↦ ?_) fun h ↦ hdict h.1
    obtain ⟨stype, htype, -⟩ := bind_eq_ok_iff.1 h
    exact hdict (getD_eq_ok_iff.1 htype).1

end Step

/-! ### The walk -/

/-- The generator has not raised, and the step is accepted. -/
def Accepted (G : PyValue → Prop) : Yield → Prop
  | .ok s => G s.2
  | .error _ => False

/-- The children can be iterated over. -/
def ChildrenRegular (step : PyValue) : Prop :=
  (step.entryD "children").truthy = true → (step.entryD "children").items.isOk = true

/-- The steps from this one on are accepted. -/
def AllFrom (G : PyValue → Prop) (step : PyValue) : Prop :=
  ∀ s, Reachable step s → G s ∧ ChildrenRegular s

section Walk

variable {G : PyValue → Prop} {node step : PyValue} {path : PyStr}

theorem allFrom_iff : AllFrom G step ↔
    G step ∧ ChildrenRegular step ∧ ∀ s, StepBelow step s → AllFrom G s := by
  constructor
  · intro h
    exact ⟨(h step .refl).1, (h step .refl).2, fun s hs t ht ↦ h t (.head hs ht)⟩
  · rintro ⟨hG, hchildren, hbelow⟩ s hs
    rcases Relation.ReflTransGen.cases_head hs with rfl | ⟨t, ht, hts⟩
    · exact ⟨hG, hchildren⟩
    · exact hbelow t ht s hts

/-- A step and what is below it, where the walker goes into it. -/
theorem accepted_into_iff
    (hbelow : node.isDict = true → ((∀ y ∈ recurseSteps node path, Accepted G y) ↔
      ChildrenRegular node ∧ ∀ s, StepBelow node s → AllFrom G s)) :
    (∀ y ∈ (if node.isDict then (.ok (path, node) : Yield) :: recurseSteps node path else []),
      Accepted G y) ↔ (node.isDict = true → AllFrom G node) := by
  split
  · rename_i hdict
    rw [List.forall_mem_cons, hbelow hdict, imp_iff_right hdict, allFrom_iff]
    exact Iff.rfl
  · rename_i hdict
    exact iff_of_true (fun y hy ↦ absurd hy List.not_mem_nil) fun h ↦ absurd h hdict

/-- The loop over the children. -/
theorem accepted_items_iff {v : PyValue} {g : PyValue → ℕ → List Yield} {P : PyValue → Prop}
    (hg : ∀ w : PyValue, w.weight ≤ v.weight → ∀ i,
      (∀ y ∈ g w i, Accepted G y) ↔ (w.isDict = true → P w)) :
    (∀ y ∈ yieldFrom v.items fun children ↦ children.zipIdx.flatMap fun c ↦ g c.1.1 c.2,
      Accepted G y) ↔
      v.items.isOk = true ∧ ∀ items, v = .list items → ∀ w ∈ items, w.isDict = true → P w := by
  have hloop : ∀ children : List { w : PyValue // w.weight ≤ v.weight },
      (∀ y ∈ children.zipIdx.flatMap fun c ↦ g c.1.1 c.2, Accepted G y) ↔
        ∀ c ∈ children, c.1.isDict = true → P c.1 := by
    intro children
    constructor
    · intro h c hc
      obtain ⟨i, hi⟩ := List.mem_iff_getElem?.1 hc
      exact (hg c.1 c.2 i).1 fun y hy ↦
        h y (List.mem_flatMap.2 ⟨(c, i), List.mk_mem_zipIdx_iff_getElem?.2 hi, hy⟩)
    · intro h y hy
      obtain ⟨c, hc, hy⟩ := List.mem_flatMap.1 hy
      exact (hg c.1.1 c.1.2 c.2).2 (h c.1 (List.fst_mem_of_mem_zipIdx hc)) y hy
  have hstr : ∀ children : List { w : PyValue // w.weight ≤ v.weight },
      (∀ c ∈ children, ∃ s, c.1 = .str s) → ∀ c ∈ children, c.1.isDict = true → P c.1 := by
    intro children h c hc hdict
    obtain ⟨s, hs⟩ := h c hc
    rw [hs] at hdict
    exact absurd hdict (by simp [isDict])
  cases hitems : v.items with
  | error e =>
    exact iff_of_false (fun h ↦ h _ List.mem_cons_self) fun h ↦
      absurd h.1 (by simp [Except.isOk, Except.toBool])
  | ok children =>
    show (∀ y ∈ children.zipIdx.flatMap fun c ↦ g c.1.1 c.2, Accepted G y) ↔ _
    rw [hloop, and_iff_right (show (Except.ok children : Except PyError _).isOk = true from rfl)]
    cases v with
    | list l =>
      obtain rfl := Except.ok.inj hitems
      constructor
      · intro h items heq w hw
        obtain rfl := PyValue.list.inj heq
        exact h _ (List.mem_map.2 ⟨⟨w, hw⟩, List.mem_attach l ⟨w, hw⟩, rfl⟩)
      · intro h c hc
        obtain ⟨w, -, rfl⟩ := List.mem_map.1 hc
        exact h l rfl w.1 w.2
    | dict fields =>
      obtain rfl := Except.ok.inj hitems
      refine iff_of_true (hstr _ fun c hc ↦ ?_) fun items h ↦ absurd h (by simp)
      obtain ⟨f, -, rfl⟩ := List.mem_map.1 hc
      exact ⟨f.1, rfl⟩
    | str s =>
      obtain rfl := Except.ok.inj hitems
      refine iff_of_true (hstr _ fun c hc ↦ ?_) fun items h ↦ absurd h (by simp)
      obtain ⟨d, -, rfl⟩ := List.mem_map.1 hc
      exact ⟨[d], rfl⟩
    | _ => exact absurd hitems (by simp [items])

/-- What holds of an entry that is an object. -/
theorem forall_entry_iff {P : PyValue → Prop} {key : String} :
    (∀ w, node.entry key = some w → w.isDict = true → P w) ↔
      ((node.entryD key).isDict = true → P (node.entryD key)) := by
  rw [entryD]
  cases node.entry key with
  | none => exact iff_of_true (fun w h ↦ absurd h (by simp)) fun h ↦ absurd h (by simp [isDict])
  | some w =>
    constructor
    · exact fun h ↦ h w rfl
    · intro h x hx
      exact Option.some.inj hx ▸ h

/-- `node.get("children") or []` is what is iterated over. -/
theorem children_orNil_iff {P : PyValue → Prop} (ch : node.Part)
    (hch : ch.1 = node.entryD "children") :
    (ch.orNil.1.items.isOk = true ∧
        ∀ items, ch.orNil.1 = .list items → ∀ w ∈ items, w.isDict = true → P w) ↔
      ChildrenRegular node ∧ ∀ items, node.entry "children" = some (.list items) →
        ∀ w ∈ items, w.isDict = true → P w := by
  have hentry : ∀ items, node.entry "children" = some (.list items) ↔
      node.entryD "children" = .list items := by
    intro items
    rw [entryD]
    cases node.entry "children" with
    | none => simp
    | some w => simp
  simp only [hentry]
  rw [ChildrenRegular, ← hch]
  by_cases htruthy : ch.1.truthy = true
  · have horNil : ch.orNil = ch := if_pos htruthy
    rw [horNil, imp_iff_right htruthy]
  · have hfalsy := htruthy
    have horNil : ch.orNil.1 = .list [] := by rw [Part.orNil, if_neg htruthy]
    rw [horNil]
    refine iff_of_true ⟨rfl, fun items h w hw ↦ ?_⟩ ⟨fun h ↦ absurd h hfalsy, fun items h w hw ↦ ?_⟩
    · obtain rfl := PyValue.list.inj h
      exact absurd hw List.not_mem_nil
    · rw [h] at hfalsy
      cases items with
      | nil => exact absurd hw List.not_mem_nil
      | cons v items => exact absurd rfl hfalsy

/-- **The walk.** What is below a node is accepted exactly if every step from there on is. -/
theorem accepted_recurseSteps_iff (node : PyValue) (hdict : node.isDict = true) (path : PyStr) :
    (∀ y ∈ recurseSteps node path, Accepted G y) ↔
      ChildrenRegular node ∧ ∀ s, StepBelow node s → AllFrom G s := by
  have hchild : ∀ key, ∃ w : node.Part, node.child key Leaf.null = .ok w ∧
      w.1 = node.entryD key := by
    intro key
    cases node with
    | dict fields => exact ⟨_, rfl, rfl⟩
    | _ => exact absurd hdict (by simp [isDict])
  obtain ⟨next, hnext, hnext'⟩ := hchild "nextAction"
  obtain ⟨ch, hch, hch'⟩ := hchild "children"
  obtain ⟨first, hfirst, hfirst'⟩ := hchild "firstLoopAction"
  have hinto : ∀ w : PyValue, w.weight < node.weight → ∀ p,
      (∀ y ∈ (if w.isDict then (.ok (p, w) : Yield) :: recurseSteps w p else []), Accepted G y) ↔
        (w.isDict = true → AllFrom G w) := fun w hlt p ↦
    accepted_into_iff fun hdict ↦ accepted_recurseSteps_iff w hdict p
  rw [recurseSteps, hnext, hch, hfirst]
  show (∀ y ∈ ((if next.1.isDict then _ else _) ++ yieldFrom ch.orNil.1.items _) ++
    (if first.1.isDict then _ else _), Accepted G y) ↔ _
  have hitems : (∀ y ∈ yieldFrom ch.orNil.1.items fun children ↦ children.zipIdx.flatMap fun c ↦
        if c.1.1.isDict then
          (.ok (childPath path c.2, c.1.1) : Yield) :: recurseSteps c.1.1 (childPath path c.2)
        else [], Accepted G y) ↔ _ :=
    accepted_items_iff
      (g := fun w i ↦
        if w.isDict then .ok (childPath path i, w) :: recurseSteps w (childPath path i) else [])
      fun w hw i ↦ hinto w (Nat.lt_of_le_of_lt hw ch.orNil.2) (childPath path i)
  rw [List.forall_mem_append, List.forall_mem_append, hinto next.1 next.2, hinto first.1 first.2,
    hitems, children_orNil_iff ch hch', hnext', hfirst', ← forall_entry_iff, ← forall_entry_iff]
  constructor
  · rintro ⟨⟨hnext, hregular, hchildren⟩, hloop⟩
    refine ⟨hregular, fun s hs ↦ ?_⟩
    rcases hs with ⟨hdict, hn | ⟨items, hc, hmem⟩ | hl⟩
    · exact hnext s hn hdict
    · exact hchildren items hc s hmem hdict
    · exact hloop s hl hdict
  · rintro ⟨hregular, hbelow⟩
    exact ⟨⟨fun s hs hdict ↦ hbelow s ⟨hdict, .inl hs⟩, hregular,
      fun items hc s hs hdict ↦ hbelow s ⟨hdict, .inr (.inl ⟨items, hc, hs⟩)⟩⟩,
      fun s hs hdict ↦ hbelow s ⟨hdict, .inr (.inr hs)⟩⟩
termination_by node.weight

end Walk

/-! ### The validator -/

/-- What one step has to meet to be accepted. -/
def Passes (reg : PieceRegistry) (step : PyValue) : Prop :=
  step.isDict = true ∧
    ((step.entryD "settings").truthy = true → (step.entryD "settings").isDict = true) ∧
    StepInOrder reg step ∧ ¬ HasPlaceholder ((step.entryD "settings").entryD "input")

section Validator

variable {reg : PieceRegistry} {trigger step : PyValue}

/-- The steps of a tree are objects. -/
theorem isDict_of_reachable (hdict : trigger.isDict = true) (h : Reachable trigger step) :
    step.isDict = true := by
  rcases Relation.ReflTransGen.cases_tail h with rfl | ⟨s, -, hbelow⟩
  · exact hdict
  · exact hbelow.1

theorem passes_iff (hdict : step.isDict = true) : Passes reg step ∧ ChildrenRegular step ↔
    (StepInOrder reg step ∧ ¬ HasPlaceholder ((step.entryD "settings").entryD "input")) ∧
      Regular step := by
  constructor
  · rintro ⟨⟨-, hsettings, hstep⟩, hchildren⟩
    exact ⟨hstep, fun _ ↦ hdict, hsettings, hchildren⟩
  · rintro ⟨hstep, -, hsettings, hchildren⟩
    exact ⟨⟨hdict, hsettings, hstep⟩, hchildren⟩

/-- A falsy trigger has no entries, and so nothing that could be wrong. -/
theorem of_falsy (hfalsy : ¬ trigger.truthy = true) (h : Reachable trigger step) :
    (StepInOrder reg step ∧ ¬ HasPlaceholder ((step.entryD "settings").entryD "input")) ∧
      Regular step := by
  have hentry : ∀ key, trigger.entry key = none := by
    intro key
    by_contra hne
    obtain ⟨w, hw⟩ := Option.ne_none_iff_exists'.1 hne
    exact hfalsy (truthy_of_entry hw)
  have hentryD : ∀ key, trigger.entryD key = .null := by
    intro key
    rw [entryD, hentry]
    rfl
  rcases Relation.ReflTransGen.cases_head h with rfl | ⟨s, hbelow, -⟩
  · refine ⟨⟨⟨fun h ↦ ?_, fun h ↦ ?_⟩, ?_⟩, fun h ↦ absurd h hfalsy, fun h ↦ ?_, fun h ↦ ?_⟩
    · rw [hentryD] at h
      exact absurd h (by decide)
    · rw [hentryD] at h
      exact absurd h (by decide)
    · rw [hentryD, hasPlaceholder_iff]
      decide
    · rw [hentryD] at h
      exact absurd h (by decide)
    · rw [hentryD] at h
      exact absurd h (by decide)
  · rcases hbelow with ⟨-, hn | ⟨items, hc, -⟩ | hl⟩
    · exact absurd ((hentry _).symm.trans hn) (by simp)
    · exact absurd ((hentry _).symm.trans hc) (by simp)
    · exact absurd ((hentry _).symm.trans hl) (by simp)

/-- A placeholder is below the entry, or elsewhere. -/
theorem hasPlaceholder_iff_entry {v : PyValue} (key : String) :
    HasPlaceholder v ↔ HasPlaceholder (v.entryD key) ∨ HasPlaceholder (v.without key) := by
  rw [HasPlaceholder, HasPlaceholder, HasPlaceholder, ← exists_or]
  refine exists_congr fun s ↦ ?_
  rw [← or_and_right, ← leafOf_iff_entry]

end Validator

/-- **The validator accepts** a tree exactly if it can read every step, the steps that use a piece
are in order, and no input holds a placeholder. -/
theorem validateTrigger_eq_ok_iff (repr : PyValue → PyStr) (reg : PieceRegistry)
    (trigger : PyValue) :
    validateTrigger repr reg trigger = .ok [] ↔
      (∀ step, Reachable trigger step →
        StepInOrder reg step ∧ ¬ HasPlaceholder ((step.entryD "settings").entryD "input")) ∧
      ∀ step, Reachable trigger step → Regular step := by
  have hstep : ∀ y : Yield, (do let step ← y; checkStep repr reg step.1 step.2) = .ok [] ↔
      Accepted (Passes reg) y := by
    intro y
    cases y with
    | ok s => exact checkStep_eq_ok_iff
    | error e => exact iff_of_false (by simp [bind, Except.bind]) id
  have hloop : validateTrigger repr reg trigger = .ok [] ↔
      ∀ y ∈ walkSteps trigger, Accepted (Passes reg) y := by
    rw [validateTrigger, bind_eq_ok_iff]
    refine Iff.trans ?_ (mapM_flatten_eq_nil_iff.trans (forall₂_congr fun y _ ↦ hstep y))
    exact exists_congr fun ys ↦ and_congr_right fun _ ↦
      ⟨fun h ↦ Except.ok.inj h, fun h ↦ congrArg Except.ok h⟩
  rw [hloop, walkSteps]
  by_cases htruthy : trigger.truthy = true
  · rw [htruthy, if_neg (by simp), List.forall_mem_cons]
    by_cases hdict : trigger.isDict = true
    · rw [accepted_recurseSteps_iff trigger hdict]
      show Passes reg trigger ∧ _ ↔ _
      rw [← allFrom_iff, ← forall₂_and]
      exact forall₂_congr fun s hs ↦ passes_iff (isDict_of_reachable hdict hs)
    · exact iff_of_false (fun h ↦ hdict h.1.1) fun h ↦ hdict ((h.2 trigger .refl).object htruthy)
  · rw [if_pos (by simpa using htruthy)]
    refine iff_of_true (fun y hy ↦ absurd hy List.not_mem_nil) ?_
    rw [← forall₂_and]
    exact fun s hs ↦ of_falsy htruthy hs

/-- **Soundness and completeness of the validator.** Acceptance and the specification agree on a
tree, exactly if the tree has a step that is out of order or a placeholder in an input, or otherwise
has no placeholder anywhere else in the settings of its steps if and only if the walker can read
it. -/
theorem sniper_iff (repr : PyValue → PyStr) (reg : PieceRegistry) (trigger : PyValue) :
    (validateTrigger repr reg trigger = .ok [] ↔ Clean reg trigger) ↔
      ((∀ step, Reachable trigger step →
          StepInOrder reg step ∧ ¬ HasPlaceholder ((step.entryD "settings").entryD "input")) →
        ((∀ step, Reachable trigger step →
            ¬ HasPlaceholder ((step.entryD "settings").without "input")) ↔
          ∀ step, Reachable trigger step → Regular step)) := by
  have hclean : Clean reg trigger ↔
      (∀ step, Reachable trigger step →
        StepInOrder reg step ∧ ¬ HasPlaceholder ((step.entryD "settings").entryD "input")) ∧
      ∀ step, Reachable trigger step →
        ¬ HasPlaceholder ((step.entryD "settings").without "input") := by
    rw [Clean, ← forall₂_and]
    refine forall₂_congr fun step _ ↦ ?_
    rw [and_assoc, ← not_or, ← hasPlaceholder_iff_entry]
  rw [validateTrigger_eq_ok_iff, hclean]
  constructor
  · intro h hin
    exact ⟨fun hrest ↦ (h.2 ⟨hin, hrest⟩).2, fun hregular ↦ (h.1 ⟨hin, hregular⟩).2⟩
  · intro h
    exact and_congr_right fun hin ↦ (h hin).symm

/-- A loop over a placeholder. -/
def placeholderLoop : PyValue :=
  pyDict [("type", py "LOOP_ON_ITEMS"), ("settings", pyDict [("items", py "your_id_here")])]

/-- A webhook with that loop below it. -/
def placeholderTree : PyValue := pyDict [("type", py "WEBHOOK"), ("nextAction", placeholderLoop)]

/-- The items of the loop are not scanned. -/
theorem loop_items_unscanned :
    ¬ ∀ (repr : PyValue → PyStr) (reg : PieceRegistry) (trigger : PyValue),
      validateTrigger repr reg trigger = .ok [] ↔ Clean reg trigger := by
  intro h
  have haccepts : (validateTrigger (fun _ ↦ []) KeyedTable.empty placeholderTree).toOption.any
      List.isEmpty = true := by decide +kernel
  have hok : validateTrigger (fun _ ↦ []) KeyedTable.empty placeholderTree = .ok [] := by
    cases hrun : validateTrigger (fun _ ↦ []) KeyedTable.empty placeholderTree with
    | error e =>
      rw [hrun] at haccepts
      exact absurd haccepts (by simp [Except.toOption])
    | ok errors =>
      rw [hrun] at haccepts
      exact congrArg Except.ok (List.isEmpty_iff.1 haccepts)
  have hbelow : StepBelow placeholderTree placeholderLoop := ⟨rfl, .inl rfl⟩
  refine ((h _ _ _).1 hok placeholderLoop (.single hbelow)).2 ?_
  rw [hasPlaceholder_iff]
  decide

end Siyadah
