import SiyadahOrchestrator.Foundations.OrderedSearch
import SiyadahOrchestrator.Build.Steps

/-!
# The order of the catalogue

A name that is no exact name of a piece or an action is searched for: among the actions of a schema
by its end (`fuzzyName`), in the list of all pieces by any part of it (`autoResolvePiece`). Both
searches take the first match.

`resolvesInAnyOrder_iff` says when the order plays no part. Two matches that differ are enough for
it to do so, and the empty name matches everything.
-/

namespace Siyadah

open Dialogue PyValue

/-! ### A fixed catalogue -/

/-- What ActivePieces answers while names are resolved. -/
structure Catalogue where
  schemaOf : PyStr → Except EngineError PyValue
  pieces : List PyValue
  connections : Except EngineError PyValue

namespace Catalogue

/-- The answer to a lookup. -/
def answer (cat : Catalogue) : CatalogQuery → Except EngineError PyValue
  | .schema piece => cat.schemaOf piece
  | .pieces => .ok (.list cat.pieces)
  | .connections => cat.connections

/-- The schema of a piece, as it is fetched. -/
def schema (cat : Catalogue) (piece : PyStr) : PyValue :=
  match cat.schemaOf piece with
  | .ok data => if data.truthy && !data.isDict then .dict [] else data
  | .error _ => .dict []

/-- The piece has actions. -/
def offers (cat : Catalogue) (piece : PyStr) : Bool :=
  (cat.schema piece).truthy && ((cat.schema piece).entryD "actions").truthy

variable {cat : Catalogue} {piece : PyStr} {s : BuilderState}

theorem isDict_schema (h : (cat.schema piece).truthy = true) :
    (cat.schema piece).isDict = true := by
  rw [schema] at h ⊢
  cases hdata : cat.schemaOf piece with
  | error e => rfl
  | ok data =>
    rw [hdata] at h
    show (if data.truthy && !data.isDict then PyValue.dict [] else data).isDict = true
    replace h : (if data.truthy && !data.isDict then PyValue.dict [] else data).truthy = true := h
    split at h
    · exact absurd h (by simp [truthy])
    · rename_i hnot
      rw [if_neg hnot]
      rw [h, Bool.true_and, Bool.not_eq_true', Bool.not_eq_false] at hnot
      exact hnot

theorem hasActions_schema : hasActions (cat.schema piece) = .ok (cat.offers piece) := by
  rw [hasActions, offers]
  split
  · rename_i htruthy
    rw [get_of_isDict (isDict_schema htruthy), htruthy, Bool.true_and]
    rfl
  · rename_i hfalsy
    rw [eq_false_of_ne_true hfalsy, Bool.false_and]

theorem against_fetchPieceSchema :
    (fetchPieceSchema piece).against cat.answer s = .ok (cat.schema piece) := by
  rw [fetchPieceSchema, against_ask_bind, schema]
  show Dialogue.against _ _ _ = _
  cases hdata : cat.schemaOf piece with
  | error e => rw [show cat.answer (.schema piece) = _ from hdata]; rfl
  | ok data => rw [show cat.answer (.schema piece) = _ from hdata]; rfl

section Runtime

variable {R : PyRuntime} {query : PyStr}

/-- What the search among the candidates ends with at one of them, if it ends there. -/
def candidateOutcome (cat : Catalogue) (c : PyStr) : Option (Except EngineError Found) :=
  if cat.offers c then some (.ok (some (c, cat.schema c), cat.schema c)) else none

/-- The candidates are searched in their order. -/
theorem against_tryCandidates {names : List PyStr} {last : PyValue} :
    (tryCandidates names last).against cat.answer s =
      search cat.candidateOutcome (fun c ↦ some (cat.schema c)) (fun last ↦ .ok (none, last))
        names last := by
  induction names generalizing last with
  | nil => rfl
  | cons c cs ih =>
    rw [tryCandidates, against_bind (stateless_fetchPieceSchema c), against_fetchPieceSchema,
      search, candidateOutcome]
    show Dialogue.against (evalPy (hasActions (cat.schema c)) >>= _) _ _ = _
    rw [against_bind (stateless_evalPy _), hasActions_schema]
    cases hoffers : cat.offers c with
    | true => rfl
    | false => exact ih

variable (R)

/-- The query of the fallback is in the name, or begins it. -/
def inQuery (query short : PyStr) : Bool := short.contains query || query.isPrefixOf short

/-- What the fallback ends with at a listed piece, if it ends there. -/
def listedOutcome (cat : Catalogue) (query : PyStr) (p : PyValue) :
    Option (Except EngineError Found) :=
  match listedName R p with
  | .error e => some (.error (.py e))
  | .ok short =>
    if inQuery query short && cat.offers short then
      some (.ok (some (short, cat.schema short), cat.schema short))
    else none

/-- The schema that the fallback has fetched for a listed piece, where it goes on. -/
def listedNote (cat : Catalogue) (query : PyStr) (p : PyValue) : Option PyValue :=
  match listedName R p with
  | .error _ => none
  | .ok short => if inQuery query short then some (cat.schema short) else none

variable {R}

theorem listedOutcome_ok {p : PyValue} {short : PyStr} (h : listedName R p = .ok short) :
    listedOutcome R cat query p =
      if inQuery query short && cat.offers short then
        some (.ok (some (short, cat.schema short), cat.schema short))
      else none := by
  rw [listedOutcome, h]

theorem listedOutcome_error {p : PyValue} {e : PyError} (h : listedName R p = .error e) :
    listedOutcome R cat query p = some (.error (.py e)) := by
  rw [listedOutcome, h]

theorem listedNote_ok {p : PyValue} {short : PyStr} (h : listedName R p = .ok short) :
    listedNote R cat query p = if inQuery query short then some (cat.schema short) else none := by
  rw [listedNote, h]

/-- The listed pieces are searched in their order. -/
theorem against_tryListed {pieces : List PyValue} {last : PyValue} :
    (tryListed R query pieces last).against cat.answer s =
      search (listedOutcome R cat query) (listedNote R cat query) (fun last ↦ .ok (none, last))
        pieces last := by
  induction pieces generalizing last with
  | nil => rfl
  | cons p ps ih =>
    rw [tryListed, against_bind (stateless_evalPy _), search]
    cases hname : listedName R p with
    | error e =>
      rw [listedOutcome_error hname]
      rfl
    | ok short =>
      rw [listedOutcome_ok hname, listedNote_ok hname]
      show Dialogue.against (if inQuery query short then _ else _) _ _ = _
      cases hquery : inQuery query short with
      | false => exact ih
      | true =>
        show Dialogue.against (fetchPieceSchema short >>= _) _ _ = _
        rw [against_bind (stateless_fetchPieceSchema short), against_fetchPieceSchema]
        show Dialogue.against (evalPy (hasActions (cat.schema short)) >>= _) _ _ = _
        rw [against_bind (stateless_evalPy _), hasActions_schema]
        cases hoffers : cat.offers short with
        | true => rfl
        | false => exact ih

theorem against_getRawPiecesList :
    getRawPiecesList.against cat.answer s = .ok cat.pieces := by
  rw [getRawPiecesList, against_ask_bind]
  show Dialogue.against (evalPy (listOrData (.list cat.pieces)) >>= _) _ _ = _
  rw [against_bind (stateless_evalPy _)]
  show Dialogue.against (evalPy (PyValue.list cat.pieces).items >>= _) _ _ = _
  rw [against_bind (stateless_evalPy _)]
  exact congrArg Except.ok (map_val_of_items (v := .list cat.pieces) rfl)

end Runtime

end Catalogue

/-! ### Resolving a piece -/

section Resolve

variable (R : PyRuntime) (cat : Catalogue) (name : PyStr)

/-- What `auto_resolve_piece` returns. -/
def resolvePiece : Except EngineError (PyStr × PyValue) :=
  (autoResolvePiece R name).against cat.answer ⟨1, []⟩

/-- The name, or one of the names that are like it, is a piece with actions. -/
def Direct : Prop :=
  cat.offers name = true ∨ ∃ c ∈ (pieceCandidates R name).filter (· ≠ name), cat.offers c = true

/-- The catalogue in another order. -/
def Catalogue.reordered (pieces : List PyValue) : Catalogue := { cat with pieces := pieces }

variable {R cat name}

/-- The name as the fallback looks for it. -/
def queryOf (R : PyRuntime) (name : PyStr) : PyStr := shortName (R.lower name)

/-- The candidates, after the name itself has been tried. -/
theorem resolvePiece_of_not_offered (h : cat.offers name = false) :
    resolvePiece R cat name =
      search cat.candidateOutcome (fun c ↦ some (cat.schema c)) (fun last ↦ .ok (none, last))
        ((pieceCandidates R name).filter (· ≠ name)) (cat.schema name) >>= fun found ↦
      found.1.elim
        ((search (cat.listedOutcome R (queryOf R name)) (cat.listedNote R (queryOf R name))
          (fun last ↦ .ok (none, last)) cat.pieces found.2).map fun listed ↦
            listed.1.getD (name, listed.2.orElse (.dict []))) .ok := by
  rw [resolvePiece, autoResolvePiece, against_bind (stateless_fetchPieceSchema name),
    Catalogue.against_fetchPieceSchema]
  show Dialogue.against (evalPy (hasActions (cat.schema name)) >>= _) _ _ = _
  rw [against_bind (stateless_evalPy _), Catalogue.hasActions_schema, h]
  show Dialogue.against (tryCandidates _ _ >>= _) _ _ = _
  rw [against_bind (stateless_tryCandidates _ _), Catalogue.against_tryCandidates]
  refine congrArg _ (funext fun found ↦ ?_)
  rcases found with ⟨_ | resolved, last⟩
  · show Dialogue.against (getRawPiecesList >>= _) _ _ = _
    rw [against_bind stateless_getRawPiecesList, Catalogue.against_getRawPiecesList]
    show Dialogue.against (tryListed R (queryOf R name) cat.pieces last >>= _) _ _ = _
    rw [against_bind (stateless_tryListed _ _ _), Catalogue.against_tryListed, Option.elim_none]
    cases search (cat.listedOutcome R (queryOf R name)) (cat.listedNote R (queryOf R name))
        (fun last ↦ .ok (none, last)) cat.pieces last with
    | error e => rfl
    | ok listed =>
      rcases listed with ⟨_ | resolved, last'⟩
      · rfl
      · rfl
  · rfl

theorem resolvePiece_of_direct (h : Direct R cat name) :
    ∃ c, cat.offers c = true ∧ ∀ pieces,
      resolvePiece R (cat.reordered pieces) name = .ok (c, cat.schema c) := by
  cases hname : cat.offers name with
  | true =>
    refine ⟨name, hname, fun pieces ↦ ?_⟩
    have hactions : hasActions ((cat.reordered pieces).schema name) = .ok true :=
      Catalogue.hasActions_schema.trans (congrArg Except.ok hname)
    rw [resolvePiece, autoResolvePiece, against_bind (stateless_fetchPieceSchema name),
      Catalogue.against_fetchPieceSchema]
    show Dialogue.against (evalPy (hasActions ((cat.reordered pieces).schema name)) >>= _) _ _ = _
    rw [against_bind (stateless_evalPy _), hactions]
    rfl
  | false =>
    obtain ⟨c, hc, hoffers⟩ := h.resolve_left (ne_true_of_eq_false hname)
    have hsome : cat.candidateOutcome c ≠ none := by
      rw [Catalogue.candidateOutcome, if_pos hoffers]
      simp
    obtain ⟨c', -, heq⟩ := exists_search_eq (fun c ↦ some (cat.schema c))
      (fun last ↦ Except.ok (none, last)) (cat.schema name) ⟨c, hc, hsome⟩
    rw [Catalogue.candidateOutcome] at heq
    split at heq
    · rename_i hoffers'
      refine ⟨c', hoffers', fun pieces ↦ ?_⟩
      have hname' : (cat.reordered pieces).offers name = false := hname
      refine (resolvePiece_of_not_offered hname').trans ?_
      exact congrArg (fun x : Except EngineError Found ↦ x >>= _) (Option.some.inj heq).symm
    · exact absurd heq (by simp)

/-- What the whole resolution ends with at a listed piece, if it ends there. -/
def fallbackOutcome (R : PyRuntime) (cat : Catalogue) (name : PyStr) (p : PyValue) :
    Option (Except EngineError (PyStr × PyValue)) :=
  (cat.listedOutcome R (queryOf R name) p).map fun x ↦
    x.map fun found ↦ found.1.getD (name, found.2.orElse (.dict []))

theorem resolvePiece_of_not_direct (h : ¬ Direct R cat name) :
    ∃ last, hasActions last = .ok false ∧ ∀ pieces,
      resolvePiece R (cat.reordered pieces) name =
        search (fallbackOutcome R cat name) (cat.listedNote R (queryOf R name))
          (fun last ↦ .ok (name, last.orElse (.dict []))) pieces last := by
  obtain ⟨hname, hcands⟩ := not_or.1 h
  have hnone : ∀ c ∈ (pieceCandidates R name).filter (· ≠ name),
      cat.candidateOutcome c = none := fun c hc ↦ if_neg fun hoffers ↦ hcands ⟨c, hc, hoffers⟩
  obtain ⟨last, hlast, heq⟩ : ∃ last, hasActions last = .ok false ∧
      search cat.candidateOutcome (fun c ↦ some (cat.schema c)) (fun last ↦ .ok (none, last))
        ((pieceCandidates R name).filter (· ≠ name)) (cat.schema name) = .ok (none, last) := by
    rcases search_undecided (fun c ↦ some (cat.schema c)) (fun last ↦ Except.ok (none, last))
      (cat.schema name) hnone with ⟨c, hc, last, hlast, heq⟩ | ⟨-, heq⟩
    · obtain rfl := Option.some.inj hlast
      refine ⟨_, Catalogue.hasActions_schema.trans (congrArg Except.ok ?_), heq⟩
      exact eq_false_of_ne_true fun hoffers ↦ hcands ⟨c, hc, hoffers⟩
    · exact ⟨_, Catalogue.hasActions_schema.trans
        (congrArg Except.ok (eq_false_of_ne_true hname)), heq⟩
  refine ⟨last, hlast, fun pieces ↦ ?_⟩
  have hname' : (cat.reordered pieces).offers name = false := eq_false_of_ne_true hname
  refine (resolvePiece_of_not_offered hname').trans ?_
  refine (congrArg (fun x : Except EngineError Found ↦ x >>= _) heq).trans ?_
  exact map_search (Except.map fun found : Found ↦
    found.1.getD (name, found.2.orElse (.dict [])))

/-! ### The list of all pieces -/

/-- A listed piece that the fallback looks up, under its short name. -/
def Matches (R : PyRuntime) (name : PyStr) (p : PyValue) (short : PyStr) : Prop :=
  listedName R p = .ok short ∧ Catalogue.inQuery (queryOf R name) short = true

/-- The list of all pieces leaves no choice. -/
structure ListSettled (R : PyRuntime) (cat : Catalogue) (name : PyStr) : Prop where
  /-- The matches that have actions are the same piece. -/
  hits : ∀ p ∈ cat.pieces, ∀ p' ∈ cat.pieces, ∀ short short', Matches R name p short →
    cat.offers short = true → Matches R name p' short' → cat.offers short' = true → short = short'
  /-- If there is one, every listed piece has a name. -/
  named : ∀ p ∈ cat.pieces, ∀ short, Matches R name p short → cat.offers short = true →
    ∀ p' ∈ cat.pieces, ∃ short', listedName R p' = .ok short'
  /-- If there is none, and every listed piece has a name, the matches have the same schema. -/
  misses : (∀ p ∈ cat.pieces, ∃ short, listedName R p = .ok short ∧
      (Matches R name p short → cat.offers short = false)) →
    ∀ p ∈ cat.pieces, ∀ p' ∈ cat.pieces, ∀ short short', Matches R name p short →
      Matches R name p' short' →
        (cat.schema short).orElse (.dict []) = (cat.schema short').orElse (.dict [])

/-- An entry without a name is no dictionary, or its name is no string. -/
theorem listedName_error {p : PyValue} {e : PyError} (h : listedName R p = .error e) :
    e = .attributeError := by
  rw [listedName] at h
  rcases bind_eq_error_iff.1 h with h | ⟨w, -, h⟩
  · cases p with
    | dict fields => exact absurd h (by simp)
    | _ => exact (Except.error.inj h).symm
  · cases w with
    | str s => exact absurd h (by simp [pure, Except.pure])
    | _ => exact (Except.error.inj h).symm

theorem fallbackOutcome_hit {p : PyValue} {short : PyStr} (h : Matches R name p short)
    (hoffers : cat.offers short = true) :
    fallbackOutcome R cat name p = some (.ok (short, cat.schema short)) := by
  rw [fallbackOutcome, Catalogue.listedOutcome_ok h.1, h.2, hoffers]
  rfl

theorem fallbackOutcome_error {p : PyValue} {e : PyError} (h : listedName R p = .error e) :
    fallbackOutcome R cat name p = some (.error (.py .attributeError)) := by
  rw [fallbackOutcome, Catalogue.listedOutcome_error h, listedName_error h]
  rfl

theorem fallbackOutcome_none {p : PyValue} {short : PyStr} (h : listedName R p = .ok short)
    (hnot : Matches R name p short → cat.offers short = false) :
    fallbackOutcome R cat name p = none := by
  rw [fallbackOutcome, Catalogue.listedOutcome_ok h, if_neg]
  · rfl
  · intro hboth
    obtain ⟨hquery, hoffers⟩ := Bool.and_eq_true_iff.1 hboth
    exact absurd hoffers (ne_true_of_eq_false (hnot ⟨h, hquery⟩))

/-- An item of the list ends the search, or it does not. -/
theorem fallbackOutcome_cases (R : PyRuntime) (cat : Catalogue) (name : PyStr) (p : PyValue) :
    (∃ e, listedName R p = .error e) ∨
      (∃ short, Matches R name p short ∧ cat.offers short = true) ∨
        ∃ short, listedName R p = .ok short ∧
          (Matches R name p short → cat.offers short = false) := by
  cases hname : listedName R p with
  | error e => exact .inl ⟨e, rfl⟩
  | ok short =>
    by_cases hhit : Matches R name p short ∧ cat.offers short = true
    · exact .inr (.inl ⟨short, hhit⟩)
    · exact .inr (.inr ⟨short, rfl, fun hmatch ↦
        eq_false_of_ne_true fun hoffers ↦ hhit ⟨hmatch, hoffers⟩⟩)

/-- What ends the search is an entry without a name, or a match with actions. -/
theorem fallbackOutcome_eq_some {p : PyValue} {c : Except EngineError (PyStr × PyValue)}
    (h : fallbackOutcome R cat name p = some c) :
    ((∃ e, listedName R p = .error e) ∧ c = .error (.py .attributeError)) ∨
      ∃ short, Matches R name p short ∧ cat.offers short = true ∧
        c = .ok (short, cat.schema short) := by
  rcases fallbackOutcome_cases R cat name p with ⟨e, he⟩ | ⟨short, hm, ho⟩ | ⟨short, hname, hnot⟩
  · rw [fallbackOutcome_error he] at h
    exact .inl ⟨⟨e, he⟩, (Option.some.inj h).symm⟩
  · rw [fallbackOutcome_hit hm ho] at h
    exact .inr ⟨short, hm, ho, (Option.some.inj h).symm⟩
  · rw [fallbackOutcome_none hname hnot] at h
    exact absurd h (by simp)

theorem note_of_matches {p : PyValue} {short : PyStr} (h : Matches R name p short) :
    cat.listedNote R (queryOf R name) p = some (cat.schema short) := by
  rw [Catalogue.listedNote_ok h.1, if_pos h.2]

theorem exists_matches {p v : PyValue} (h : cat.listedNote R (queryOf R name) p = some v) :
    ∃ short, Matches R name p short ∧ v = cat.schema short := by
  cases hname : listedName R p with
  | error e =>
    rw [Catalogue.listedNote, hname] at h
    exact absurd h (by simp)
  | ok short =>
    rw [Catalogue.listedNote_ok hname] at h
    split at h
    · rename_i hquery
      exact ⟨short, ⟨hname, hquery⟩, (Option.some.inj h).symm⟩
    · exact absurd h (by simp)

theorem orderFree_iff_listSettled :
    OrderFree (fallbackOutcome R cat name) (cat.listedNote R (queryOf R name))
      (fun last ↦ .ok (name, last.orElse (.dict []))) cat.pieces ↔ ListSettled R cat name := by
  constructor
  · intro h
    refine ⟨?_, ?_, ?_⟩
    · intro p hp p' hp' short short' hm ho hm' ho'
      have hsame := h.decided p hp p' hp' _ _ (fallbackOutcome_hit hm ho)
        (fallbackOutcome_hit hm' ho')
      exact (Prod.mk.inj (Except.ok.inj hsame)).1
    · intro p hp short hm ho p' hp'
      cases hname : listedName R p' with
      | ok short' => exact ⟨short', rfl⟩
      | error e =>
        have hsame := h.decided p hp p' hp' _ _ (fallbackOutcome_hit hm ho)
          (fallbackOutcome_error hname)
        exact absurd hsame (by simp)
    · intro hnone p hp p' hp' short short' hm hm'
      have hundecided : ∀ p ∈ cat.pieces, fallbackOutcome R cat name p = none := by
        intro p hp
        obtain ⟨short, hname, hnot⟩ := hnone p hp
        exact fallbackOutcome_none hname hnot
      have hsame := h.noted hundecided p hp p' hp' _ _ (note_of_matches hm) (note_of_matches hm')
      exact (Prod.mk.inj (Except.ok.inj hsame)).2
  · intro h
    constructor
    · intro p hp p' hp' c c' hc hc'
      rcases fallbackOutcome_eq_some hc with ⟨⟨e, he⟩, rfl⟩ | ⟨short, hm, ho, rfl⟩
      · rcases fallbackOutcome_eq_some hc' with ⟨-, rfl⟩ | ⟨short', hm', ho', -⟩
        · rfl
        · obtain ⟨short, hname⟩ := h.named p' hp' short' hm' ho' p hp
          exact absurd (he.symm.trans hname) (by simp)
      · rcases fallbackOutcome_eq_some hc' with ⟨⟨e, he⟩, -⟩ | ⟨short', hm', ho', rfl⟩
        · obtain ⟨short', hname⟩ := h.named p hp short hm ho p' hp'
          exact absurd (he.symm.trans hname) (by simp)
        · rw [h.hits p hp p' hp' short short' hm ho hm' ho']
    · intro hnone p hp p' hp' v v' hv hv'
      obtain ⟨short, hm, rfl⟩ := exists_matches hv
      obtain ⟨short', hm', rfl⟩ := exists_matches hv'
      refine congrArg (fun w ↦ Except.ok (name, w))
        (h.misses (fun p hp ↦ ?_) p hp p' hp' _ _ hm hm')
      rcases fallbackOutcome_cases R cat name p with ⟨e, he⟩ | ⟨short, hm, ho⟩ | hmiss
      · have hsome := hnone p hp
        rw [fallbackOutcome_error he] at hsome
        exact absurd hsome (by simp)
      · have hsome := hnone p hp
        rw [fallbackOutcome_hit hm ho] at hsome
        exact absurd hsome (by simp)
      · exact hmiss

/-- **The order of the catalogue plays no part** in the resolution of a piece exactly when the
name, or one like it, is that of a piece, or the list leaves no choice. -/
theorem resolvePiece_perm_iff :
    (∀ pieces, cat.pieces.Perm pieces →
      resolvePiece R (cat.reordered pieces) name = resolvePiece R cat name) ↔
        Direct R cat name ∨ ListSettled R cat name := by
  by_cases hdirect : Direct R cat name
  · obtain ⟨c, -, hresolve⟩ := resolvePiece_of_direct hdirect
    exact iff_of_true (fun pieces _ ↦ (hresolve pieces).trans (hresolve cat.pieces).symm)
      (.inl hdirect)
  · obtain ⟨last, -, hresolve⟩ := resolvePiece_of_not_direct hdirect
    rw [or_iff_right hdirect, ← orderFree_iff_listSettled, ← search_perm_iff (b := last)]
    refine forall_congr' fun pieces ↦ imp_congr_right fun _ ↦ ?_
    rw [hresolve pieces, ← hresolve cat.pieces]
    rfl

/-- The empty name matches every listed piece. -/
theorem matches_nil {p : PyValue} {short : PyStr} (h : listedName R p = .ok short) :
    Matches R [] p short := by
  have hquery : queryOf R [] = [] := by
    rw [queryOf, R.lower_ascii [] fun c hc ↦ absurd hc List.not_mem_nil]
    rfl
  refine ⟨h, ?_⟩
  rw [hquery, Catalogue.inQuery, List.isPrefixOf, Bool.or_true]

theorem hasActions_orElse {v : PyValue} (h : hasActions v = .ok false) :
    hasActions (v.orElse (.dict [])) = .ok false := by
  rw [orElse]
  split
  · exact h
  · rfl

/-- Where the order plays no part, the empty name resolves to no piece exactly when no piece that is
tried has actions. -/
theorem resolvePiece_nil_iff (horder : Direct R cat [] ∨ ListSettled R cat []) :
    (∀ resolved, resolvePiece R cat [] = .ok resolved → hasActions resolved.2 = .ok false) ↔
      ¬ Direct R cat [] ∧
        ∀ p ∈ cat.pieces, ∀ short, listedName R p = .ok short → cat.offers short = false := by
  by_cases hdirect : Direct R cat []
  · refine iff_of_false (fun h ↦ ?_) fun h ↦ h.1 hdirect
    obtain ⟨c, hoffers, hresolve⟩ := resolvePiece_of_direct hdirect
    have hnone := h _ (hresolve cat.pieces)
    rw [Catalogue.hasActions_schema, hoffers] at hnone
    exact absurd hnone (by simp)
  · obtain ⟨last, hlast, hresolve⟩ := resolvePiece_of_not_direct hdirect
    have hsearch := hresolve cat.pieces
    rw [and_iff_right hdirect]
    constructor
    · intro h p hp short hname
      refine eq_false_of_ne_true fun hoffers ↦ ?_
      have hhit := fallbackOutcome_hit (matches_nil hname) hoffers
      obtain ⟨p', hp', heq⟩ := exists_search_eq (cat.listedNote R (queryOf R []))
        (fun last ↦ Except.ok ([], last.orElse (.dict []))) last
        ⟨p, hp, ne_of_eq_of_ne hhit (by simp)⟩
      have hsame := (orderFree_iff_listSettled.2 (horder.resolve_left hdirect)).decided p hp p' hp'
        _ _ hhit heq
      have hnone := h _ (hsearch.trans hsame.symm)
      rw [Catalogue.hasActions_schema, hoffers] at hnone
      exact absurd hnone (by simp)
    · intro h resolved hresolved
      rw [show resolvePiece R cat [] = _ from hsearch] at hresolved
      by_cases hdec : ∃ p ∈ cat.pieces, fallbackOutcome R cat [] p ≠ none
      · obtain ⟨p, hp, heq⟩ := exists_search_eq (cat.listedNote R (queryOf R []))
          (fun last ↦ Except.ok ([], last.orElse (.dict []))) last hdec
        rw [hresolved] at heq
        rcases fallbackOutcome_eq_some heq with ⟨-, herror⟩ | ⟨short, hm, hoffers, -⟩
        · exact absurd herror (by simp)
        · exact absurd hoffers (ne_true_of_eq_false (h p hp short hm.1))
      · have hnone : ∀ p ∈ cat.pieces, fallbackOutcome R cat [] p = none := fun p hp ↦
          by_contra fun hne ↦ hdec ⟨p, hp, hne⟩
        rcases search_undecided (cat.listedNote R (queryOf R []))
          (fun last ↦ Except.ok ([], last.orElse (.dict []))) last hnone with
          ⟨p, hp, v, hv, heq⟩ | ⟨-, heq⟩
        · obtain ⟨short, hm, rfl⟩ := exists_matches hv
          obtain rfl := Except.ok.inj (heq.symm.trans hresolved)
          refine hasActions_orElse (Catalogue.hasActions_schema.trans (congrArg Except.ok ?_))
          exact h p hp short hm.1
        · obtain rfl := Except.ok.inj (heq.symm.trans hresolved)
          exact hasActions_orElse hlast

/-! ### Resolving an action -/

/-- An action whose name ends in the requested one. -/
def endsIn (name key : PyStr) : Bool :=
  name.isSuffixOf key || (dashed name).isSuffixOf key || (underscored name).isSuffixOf key

/-- The actions leave no choice. -/
def ActionSettled (name : PyStr) (actions : Fields) : Prop :=
  (∃ key ∈ actions.map Prod.fst, key = name ∨ key = dashed name ∨ key = underscored name) ∨
    ∀ key ∈ actions.map Prod.fst, ∀ key' ∈ actions.map Prod.fst, endsIn name key = true →
      endsIn name key' = true → key = key'

/-- The first action whose name ends in the requested one. -/
theorem fuzzyName_of_not_exact {actions : Fields}
    (h : ¬ ∃ key ∈ actions.map Prod.fst, key = name ∨ key = dashed name ∨ key = underscored name) :
    fuzzyName name actions =
      search (fun f ↦ if endsIn name f.1 then some f.1 else none) (fun _ ↦ none) id actions
        name := by
  have hsearch : ∀ d : Fields, ((d.map Prod.fst).find? (endsIn name)).getD name =
      search (fun f ↦ if endsIn name f.1 then some f.1 else none) (fun _ ↦ none) id d name := by
    intro d
    induction d with
    | nil => rfl
    | cons f d ih =>
      rw [List.map_cons, List.find?_cons, search]
      cases endsIn name f.1 with
      | true => rfl
      | false => exact ih
  rw [fuzzyName, if_neg fun hmem ↦ h ⟨_, hmem, .inl rfl⟩,
    if_neg fun hmem ↦ h ⟨_, hmem, .inr (.inl rfl)⟩,
    if_neg fun hmem ↦ h ⟨_, hmem, .inr (.inr rfl)⟩]
  exact hsearch actions

/-- **The order of the actions plays no part** exactly when one of them has the name, or the ends of
their names leave no choice. -/
theorem fuzzyName_perm_iff {actions : Fields} :
    (∀ actions' : Fields, actions.Perm actions' →
      fuzzyName name actions' = fuzzyName name actions) ↔ ActionSettled name actions := by
  by_cases hexact : ∃ key ∈ actions.map Prod.fst,
      key = name ∨ key = dashed name ∨ key = underscored name
  · refine iff_of_true (fun actions' hperm ↦ ?_) (.inl hexact)
    have hmem : ∀ key, key ∈ actions'.map Prod.fst ↔ key ∈ actions.map Prod.fst := fun key ↦
      ((hperm.map Prod.fst).mem_iff).symm
    rw [fuzzyName, fuzzyName]
    simp only [hmem]
    obtain ⟨key, hkey, hname⟩ := hexact
    split
    · rfl
    · split
      · rfl
      · split
        · rfl
        · rename_i h₁ h₂ h₃
          rcases hname with rfl | rfl | rfl
          · exact absurd hkey h₁
          · exact absurd hkey h₂
          · exact absurd hkey h₃
  · have hperm : ∀ actions' : Fields, actions.Perm actions' → ¬ ∃ key ∈ actions'.map Prod.fst,
        key = name ∨ key = dashed name ∨ key = underscored name :=
      fun actions' hperm ⟨key, hkey, h⟩ ↦ hexact ⟨key, (hperm.map Prod.fst).mem_iff.2 hkey, h⟩
    have hfree : (∀ actions' : Fields, actions.Perm actions' →
        fuzzyName name actions' = fuzzyName name actions) ↔
          OrderFree (fun f : PyStr × PyValue ↦ if endsIn name f.1 then some f.1 else none)
            (fun _ ↦ none) id actions := by
      rw [← search_perm_iff (b := name)]
      refine forall_congr' fun actions' ↦ forall_congr' fun h ↦ ?_
      rw [fuzzyName_of_not_exact hexact, fuzzyName_of_not_exact (hperm actions' h)]
    rw [hfree, ActionSettled, or_iff_right hexact]
    constructor
    · intro h key hkey key' hkey' hends hends'
      obtain ⟨f, hf, rfl⟩ := List.mem_map.1 hkey
      obtain ⟨f', hf', rfl⟩ := List.mem_map.1 hkey'
      exact h.decided f hf f' hf' _ _ (if_pos hends) (if_pos hends')
    · intro h
      refine ⟨fun f hf f' hf' c c' hc hc' ↦ ?_, fun _ f _ f' _ v v' hv ↦ absurd hv (by simp)⟩
      obtain ⟨hends, hc⟩ := Option.ite_none_right_eq_some.1 hc
      obtain ⟨hends', hc'⟩ := Option.ite_none_right_eq_some.1 hc'
      rw [← Option.some.inj hc, ← Option.some.inj hc']
      exact h f.1 (List.mem_map_of_mem hf) f'.1 (List.mem_map_of_mem hf') hends hends'

/-- The empty name is the end of every name. -/
theorem fuzzyName_nil_iff {actions : Fields} :
    fuzzyName [] actions ∉ actions.map Prod.fst ↔ actions = [] := by
  cases actions with
  | nil => exact iff_of_true List.not_mem_nil rfl
  | cons f actions =>
    refine iff_of_false (fun hnot ↦ hnot ?_) (by simp)
    by_cases hexact : ∃ key ∈ (f :: actions).map Prod.fst,
        key = [] ∨ key = dashed [] ∨ key = underscored []
    · have hkey : ([] : PyStr) ∈ (f :: actions).map Prod.fst := by
        obtain ⟨key, hkey, rfl | rfl | rfl⟩ := hexact
        · exact hkey
        · exact hkey
        · exact hkey
      rw [fuzzyName, if_pos hkey]
      exact hkey
    · rw [fuzzyName_of_not_exact hexact]
      exact List.mem_cons_self

end Resolve

/-! ### The law -/

/-- The names of a piece and of an action are resolved the same way whatever the order of the
catalogue and of the actions; an empty name resolves to nothing. -/
structure ResolvesInAnyOrder (R : PyRuntime) (cat : Catalogue) (actions : Fields)
    (pieceName actionName : PyStr) : Prop where
  piece : ∀ pieces, cat.pieces.Perm pieces →
    resolvePiece R (cat.reordered pieces) pieceName = resolvePiece R cat pieceName
  action : ∀ actions' : Fields, actions.Perm actions' →
    fuzzyName actionName actions' = fuzzyName actionName actions
  noPiece : pieceName = [] → ∀ resolved, resolvePiece R cat pieceName = .ok resolved →
    hasActions resolved.2 = .ok false
  noAction : actionName = [] → fuzzyName actionName actions ∉ actions.map Prod.fst

/-- **Names resolve in any order** exactly when neither search has a choice, and an empty name finds
nothing to match. -/
theorem resolvesInAnyOrder_iff (R : PyRuntime) (cat : Catalogue) (actions : Fields)
    (pieceName actionName : PyStr) :
    ResolvesInAnyOrder R cat actions pieceName actionName ↔
      (Direct R cat pieceName ∨ ListSettled R cat pieceName) ∧ ActionSettled actionName actions ∧
        (pieceName = [] → ¬ Direct R cat [] ∧
          ∀ p ∈ cat.pieces, ∀ short, listedName R p = .ok short → cat.offers short = false) ∧
        (actionName = [] → actions = []) := by
  constructor
  · rintro ⟨hpiece, haction, hnoPiece, hnoAction⟩
    have horder := resolvePiece_perm_iff.1 hpiece
    refine ⟨horder, fuzzyName_perm_iff.1 haction, ?_, ?_⟩
    · rintro rfl
      exact (resolvePiece_nil_iff horder).1 (hnoPiece rfl)
    · rintro rfl
      exact fuzzyName_nil_iff.1 (hnoAction rfl)
  · rintro ⟨horder, haction, hnoPiece, hnoAction⟩
    refine ⟨resolvePiece_perm_iff.2 horder, fuzzyName_perm_iff.2 haction, ?_, ?_⟩
    · rintro rfl
      exact (resolvePiece_nil_iff horder).2 (hnoPiece rfl)
    · rintro rfl
      exact fuzzyName_nil_iff.2 (hnoAction rfl)

/-! ### Two matches -/

/-- ActivePieces without a piece. -/
def emptyCatalogue : Catalogue := ⟨fun _ ↦ .ok (.dict []), [], .ok (.list [])⟩

/-- Two actions whose names end alike. -/
def recordActions : Fields :=
  [(text "create_record", .dict []), (text "update_record", .dict [])]

/-- The first of two matches is taken, so the order decides. -/
theorem not_resolvesInAnyOrder_record :
    ¬ ResolvesInAnyOrder plainRuntime emptyCatalogue recordActions (text "crm")
      (text "record") := by
  intro h
  have hperm := h.action [(text "update_record", .dict []), (text "create_record", .dict [])]
    (List.Perm.swap _ _ _)
  exact absurd hperm (by decide)

end Siyadah
