import SiyadahOrchestrator.OAuth.Settlement

/-!
# What a saga has left in the world

A handshake leaves two traces outside `oauth_sagas`: a vault row and a connection on ActivePieces.
The No-Ghost law is about them. `RowOf` and `ConnectionOf` say that a trace is there, and the four
predicates below say how far the handshake of a saga has come:

* `Bare` — no trace yet;
* `Stored` — the vault row is there, and nothing else;
* `Linked` — the vault row and the connection are there;
* `Settled` — nobody works on the saga: `COMPLETED` with both traces, or without any.

All but the traces themselves speak about a saga that is in the table: the rollback of an initiation
may delete it under a callback that has raced ahead.

`Keeps sagaId w w'` is the frame: what a step does that is not about this saga, or is a failure mark
on it before it is `COMPLETED`. Each effect keeps every saga but its own, and all four predicates
survive it.
-/

namespace Siyadah

namespace OAuthWorld

variable (w : OAuthWorld)

/-! ### Traces -/

/-- The vault row `tokenId` exists and was inserted for the saga. -/
def RowOf (sagaId tokenId : String) : Prop :=
  (w.tokens.find? tokenId).isSome ∧ w.originOf tokenId = some sagaId

/-- The connection exists and was created for the saga. -/
def ConnectionOf (sagaId : String) (c : ApConnection) : Prop := c ∈ w.ap ∧ c.sagaId = sagaId

/-- The saga has no traces. -/
def NoTrace (sagaId : String) : Prop :=
  (∀ tokenId, ¬ w.RowOf sagaId tokenId) ∧ ∀ c, ¬ w.ConnectionOf sagaId c

/-! ### Stages of a handshake -/

/-- Nothing has been done for the saga yet. -/
def Bare (sagaId : String) : Prop :=
  ∀ s, w.sagas.find? sagaId = some s → s.status ≠ .completed ∧ w.NoTrace sagaId

/-- The saga points to its vault row, the only one. -/
def Holds (sagaId tokenId : String) (s : OAuthSaga) : Prop :=
  s.status ≠ .completed ∧ s.encryptedTokenId = some tokenId ∧
    ∀ tokenId', w.RowOf sagaId tokenId' → tokenId' = tokenId

/-- The vault row has been stored. -/
def Stored (sagaId tokenId : String) : Prop :=
  w.RowOf sagaId tokenId ∧
    ∀ s, w.sagas.find? sagaId = some s →
      w.Holds sagaId tokenId s ∧ ∀ c, ¬ w.ConnectionOf sagaId c

/-- The vault row has been stored and the connection created. -/
def Linked (sagaId tokenId : String) : Prop :=
  w.RowOf sagaId tokenId ∧ (∃ c, w.ConnectionOf sagaId c) ∧
    ∀ s, w.sagas.find? sagaId = some s → w.Holds sagaId tokenId s

/-- The saga is `COMPLETED` with both traces, or has none. -/
def Settled (sagaId : String) : Prop :=
  ∀ s, w.sagas.find? sagaId = some s →
    (s.status = .completed →
      (∃ tokenId, s.encryptedTokenId = some tokenId ∧ w.RowOf sagaId tokenId) ∧
        ∃ c, w.ConnectionOf sagaId c) ∧
    (s.status ≠ .completed → w.NoTrace sagaId)

/-! ### The frame -/

/-- The saga is the same, or it is gone, or it was and is something else than `COMPLETED`. -/
def KeepsSaga (sagaId : String) (w w' : OAuthWorld) : Prop :=
  w'.sagas.find? sagaId = w.sagas.find? sagaId ∨ w'.sagas.find? sagaId = none ∨
    ∃ s s', w.sagas.find? sagaId = some s ∧ w'.sagas.find? sagaId = some s' ∧
      s.status ≠ .completed ∧ s'.status ≠ .completed ∧ s'.encryptedTokenId = s.encryptedTokenId

/-- The traces of the saga are the same, and so is the saga as far as they go. -/
structure Keeps (sagaId : String) (w w' : OAuthWorld) : Prop where
  rows : ∀ tokenId, w'.RowOf sagaId tokenId ↔ w.RowOf sagaId tokenId
  connections : ∀ c, w'.ConnectionOf sagaId c ↔ w.ConnectionOf sagaId c
  saga : KeepsSaga sagaId w w'

variable {w} {w' : OAuthWorld} {sagaId tokenId : String}

theorem Keeps.rfl' : Keeps sagaId w w := ⟨fun _ ↦ Iff.rfl, fun _ ↦ Iff.rfl, .inl rfl⟩

theorem Keeps.noTrace (h : Keeps sagaId w w') : w'.NoTrace sagaId ↔ w.NoTrace sagaId := by
  simp only [NoTrace, h.rows, h.connections]

/-- A property of sagas that are not `COMPLETED`, and that reads nothing but the pointer to the
vault row, survives. -/
theorem Keeps.forall_saga {p : OAuthSaga → Prop} (h : Keeps sagaId w w')
    (hp : ∀ s, w.sagas.find? sagaId = some s → s.status ≠ .completed ∧ p s)
    (hread : ∀ s s' : OAuthSaga, s'.encryptedTokenId = s.encryptedTokenId → p s → p s') :
    ∀ s, w'.sagas.find? sagaId = some s → s.status ≠ .completed ∧ p s := by
  intro s' hs'
  rcases h.saga with heq | hnone | ⟨s, s'', hs, hs'', -, hst, hptr⟩
  · exact hp s' (heq ▸ hs')
  · exact absurd (hnone.symm.trans hs') (by simp)
  · obtain rfl : s'' = s' := Option.some.inj (hs''.symm.trans hs')
    exact ⟨hst, hread s s'' hptr (hp s hs).2⟩

theorem Bare.keeps (hb : w.Bare sagaId) (h : Keeps sagaId w w') : w'.Bare sagaId := by
  have hnew := h.forall_saga hb fun _ _ _ hp ↦ hp
  exact fun s hs ↦ ⟨(hnew s hs).1, h.noTrace.2 (hnew s hs).2⟩

theorem Stored.keeps (hb : w.Stored sagaId tokenId) (h : Keeps sagaId w w') :
    w'.Stored sagaId tokenId := by
  have hnew := h.forall_saga (p := fun s ↦ s.encryptedTokenId = some tokenId ∧
      (∀ t, w.RowOf sagaId t → t = tokenId) ∧ ∀ c, ¬ w.ConnectionOf sagaId c)
    (fun s hs ↦ ⟨(hb.2 s hs).1.1, (hb.2 s hs).1.2.1, (hb.2 s hs).1.2.2, (hb.2 s hs).2⟩)
    fun _ _ hptr hp ↦ ⟨hptr.trans hp.1, hp.2⟩
  refine ⟨(h.rows _).2 hb.1, fun s hs ↦ ?_⟩
  obtain ⟨hst, hptr, honly, hconn⟩ := hnew s hs
  exact ⟨⟨hst, hptr, fun t ht ↦ honly t ((h.rows t).1 ht)⟩,
    fun c hc ↦ hconn c ((h.connections c).1 hc)⟩

theorem Linked.keeps (hb : w.Linked sagaId tokenId) (h : Keeps sagaId w w') :
    w'.Linked sagaId tokenId := by
  have hnew := h.forall_saga (p := fun s ↦ s.encryptedTokenId = some tokenId ∧
      ∀ t, w.RowOf sagaId t → t = tokenId)
    (fun s hs ↦ ⟨(hb.2.2 s hs).1, (hb.2.2 s hs).2.1, (hb.2.2 s hs).2.2⟩)
    fun _ _ hptr hp ↦ ⟨hptr.trans hp.1, hp.2⟩
  obtain ⟨c, hc⟩ := hb.2.1
  refine ⟨(h.rows _).2 hb.1, ⟨c, (h.connections c).2 hc⟩, fun s hs ↦ ?_⟩
  obtain ⟨hst, hptr, honly⟩ := hnew s hs
  exact ⟨hst, hptr, fun t ht ↦ honly t ((h.rows t).1 ht)⟩

theorem Settled.keeps (hb : w.Settled sagaId) (h : Keeps sagaId w w') : w'.Settled sagaId := by
  intro s' hs'
  rcases h.saga with heq | hnone | ⟨s, s'', hs, hs'', hst, hst', -⟩
  · obtain ⟨hdone, hopen⟩ := hb s' (heq ▸ hs')
    refine ⟨fun hc ↦ ?_, fun hc ↦ h.noTrace.2 (hopen hc)⟩
    obtain ⟨⟨t, hptr, ht⟩, c, hconn⟩ := hdone hc
    exact ⟨⟨t, hptr, (h.rows t).2 ht⟩, c, (h.connections c).2 hconn⟩
  · exact absurd (hnone.symm.trans hs') (by simp)
  · obtain rfl : s'' = s' := Option.some.inj (hs''.symm.trans hs')
    exact ⟨fun hc ↦ absurd hc hst', fun _ ↦ h.noTrace.2 ((hb s hs).2 hst)⟩

/-- A saga without traces is settled unless it is `COMPLETED`. -/
theorem Bare.settled (h : w.Bare sagaId) : w.Settled sagaId := fun s hs ↦
  ⟨fun hc ↦ absurd hc (h s hs).1, fun _ ↦ (h s hs).2⟩

/-- A settled saga that is not `COMPLETED` has no traces. -/
theorem Settled.bare (h : w.Settled sagaId)
    (hst : ∀ s, w.sagas.find? sagaId = some s → s.status ≠ .completed) : w.Bare sagaId :=
  fun s hs ↦ ⟨hst s hs, (h s hs).2 (hst s hs)⟩

/-! ### What each effect keeps -/

section Effects

variable {step reason externalId apId token newId : String} {row : EncryptedToken} {other : String}

/-- Traces live in the vault, in `origin` and on ActivePieces. -/
theorem Keeps.of_eq (htokens : w'.tokens = w.tokens) (horigin : w'.origin = w.origin)
    (hap : w'.ap = w.ap) (hsaga : KeepsSaga sagaId w w') : Keeps sagaId w w' := by
  refine ⟨fun t ↦ ?_, fun c ↦ ?_, hsaga⟩
  · rw [RowOf, RowOf, originOf, originOf, htokens, horigin]
  · rw [ConnectionOf, ConnectionOf, hap]

theorem keeps_dropNonce (nonce : String) : Keeps sagaId w (w.dropNonce nonce) :=
  .of_eq rfl rfl rfl (.inl rfl)

theorem keeps_registerNonce {nonce tenantId : String}
    (h : w.registerNonce nonce tenantId = some w') : Keeps sagaId w w' := by
  obtain ⟨redis, -, rfl⟩ := Option.map_eq_some_iff.1 h
  exact .of_eq rfl rfl rfl (.inl rfl)

/-- A failure mark keeps every saga as long as it does not hit a `COMPLETED` one. -/
theorem keeps_failSaga (h : w.statusOf other ≠ some .completed) :
    Keeps sagaId w (w.failSaga other step reason) := by
  refine .of_eq rfl rfl rfl ?_
  have hfind : (w.failSaga other step reason).sagas.find? sagaId = _ :=
    SagaTable.find?_fail sagaId
  rcases eq_or_ne sagaId other with rfl | hne
  · rw [if_pos rfl] at hfind
    rcases hs : w.sagas.find? sagaId with - | s
    · rw [hs, Option.map_none] at hfind
      exact .inr (.inl hfind)
    · rw [hs, Option.map_some] at hfind
      refine .inr (.inr ⟨s, _, hs, hfind, fun hst ↦ h ?_, by simp [OAuthSaga.fail], rfl⟩)
      rw [statusOf, hs, Option.map_some, hst]
  · rw [if_neg hne] at hfind
    exact .inl hfind

theorem keeps_insertSaga {saga : OAuthSaga} (h : w.insertSaga saga = some w')
    (hne : sagaId ≠ saga.id) : Keeps sagaId w w' := by
  obtain ⟨sagas, hins, rfl⟩ := Option.map_eq_some_iff.1 h
  refine .of_eq rfl rfl rfl (.inl ?_)
  have hfind := KeyedTable.find?_insert hins sagaId
  rwa [if_neg hne] at hfind

theorem keeps_dropSaga : Keeps sagaId w (w.dropSaga other) := by
  refine .of_eq rfl rfl rfl ?_
  have hfind : (w.dropSaga other).sagas.find? sagaId = _ := KeyedTable.find?_delete sagaId
  rcases hs : w.sagas.find? sagaId with - | s
  · rw [hs, Option.filter_none] at hfind
    exact .inr (.inl hfind)
  · rw [hs, Option.filter_some] at hfind
    split at hfind
    · exact .inl (hfind.trans hs.symm)
    · exact .inr (.inl hfind)

/-- A stored row is new: it gets the saga it is stored for and leaves every other row to its own. -/
theorem rowOf_persistTokens (h : w.persistTokens other row = some w') (sagaId t : String) :
    w'.RowOf sagaId t ↔ if t = row.id then sagaId = other else w.RowOf sagaId t := by
  obtain ⟨tokens, htokens, rfl⟩ := Option.map_eq_some_iff.1 h
  have hfind := TokenTable.find?_persistTokens htokens t
  rw [RowOf, originOf, hfind, List.find?_cons]
  rcases eq_or_ne t row.id with rfl | hne
  · simp [eq_comm]
  · rw [if_neg hne, if_neg hne, Option.isSome_map, RowOf, originOf]
    simp [Ne.symm hne]

theorem keeps_persistTokens (h : w.persistTokens other row = some w') (hne : sagaId ≠ other) :
    Keeps sagaId w w' := by
  have hrow := rowOf_persistTokens h sagaId
  obtain ⟨tokens, htokens, rfl⟩ := Option.map_eq_some_iff.1 h
  have hnone := TokenTable.find?_eq_none_of_persistTokens htokens
  refine ⟨fun t ↦ ?_, fun c ↦ Iff.rfl, .inl ?_⟩
  · rw [hrow t]
    split
    · rename_i ht
      refine iff_of_false hne fun hold ↦ ?_
      rw [RowOf, ht, hnone] at hold
      exact absurd hold.1 (by simp)
    · exact Iff.rfl
  · exact (SagaTable.find?_obtain sagaId).trans (if_neg hne)

/-- Under a new external id, ActivePieces makes a connection. -/
theorem createAp_ap (h : ∀ c ∈ w.ap, c.externalId ≠ apExternalId other) :
    (w.createAp other token newId).ap = w.ap ++ [⟨newId, apExternalId other, token, other⟩] := by
  have hnew : (w.ap.any fun c ↦ c.externalId = apExternalId other) = false := by
    rw [List.any_eq_false]
    exact fun c hc ↦ by simpa using h c hc
  rw [createAp, hnew]
  rfl

theorem connectionOf_createAp (h : ∀ c ∈ w.ap, c.externalId ≠ apExternalId other)
    (c : ApConnection) :
    (w.createAp other token newId).ConnectionOf sagaId c ↔
      w.ConnectionOf sagaId c ∨
        c = ⟨newId, apExternalId other, token, other⟩ ∧ other = sagaId := by
  rw [ConnectionOf, createAp_ap h, List.mem_append, List.mem_singleton, or_and_right]
  refine or_congr Iff.rfl (and_congr_right ?_)
  rintro rfl
  exact Iff.rfl

theorem keeps_createAp (h : ∀ c ∈ w.ap, c.externalId ≠ apExternalId other)
    (hne : sagaId ≠ other) : Keeps sagaId w (w.createAp other token newId) := by
  refine ⟨fun t ↦ Iff.rfl, fun c ↦ ?_, .inl rfl⟩
  rw [connectionOf_createAp h]
  exact or_iff_left fun hc ↦ hne hc.2.symm

theorem keeps_deleteAp (h : ∀ c ∈ w.ap, c.id = apId → c.sagaId = other) (hne : sagaId ≠ other) :
    Keeps sagaId w (w.deleteAp apId) := by
  refine ⟨fun t ↦ Iff.rfl, fun c ↦ ?_, .inl rfl⟩
  rw [ConnectionOf, deleteAp, List.mem_filter, decide_eq_true_eq]
  constructor
  · exact fun hc ↦ ⟨hc.1.1, hc.2⟩
  · exact fun hc ↦ ⟨⟨hc.1, fun hid ↦ hne (hc.2.symm.trans (h c hc.1 hid))⟩, hc.2⟩

theorem rowOf_finalize (t : String) :
    (w.finalize other tokenId externalId).RowOf sagaId t ↔ w.RowOf sagaId t := by
  have hfind : (w.finalize other tokenId externalId).tokens.find? t = _ :=
    TokenTable.find?_setApConnection t
  rw [RowOf, RowOf, hfind]
  split
  · rw [Option.isSome_map]
    exact Iff.rfl
  · exact Iff.rfl

theorem keeps_finalize (hne : sagaId ≠ other) :
    Keeps sagaId w (w.finalize other tokenId externalId) :=
  ⟨rowOf_finalize, fun _ ↦ Iff.rfl, .inl ((SagaTable.find?_complete sagaId).trans (if_neg hne))⟩

theorem rowOf_compensate (t : String) :
    (w.compensate other tokenId reason).RowOf sagaId t ↔ t ≠ tokenId ∧ w.RowOf sagaId t := by
  have hfind : (w.compensate other tokenId reason).tokens.find? t = _ :=
    TokenTable.find?_deleteToken t
  rw [RowOf, RowOf, hfind]
  split
  · rename_i ht
    exact iff_of_false (fun hc ↦ absurd hc.1 (by simp)) fun hc ↦ hc.1 ht
  · rename_i ht
    exact (and_iff_right ht).symm

/-- The compensation clears no other saga's pointer when pointers name rows of their own saga. -/
theorem keeps_compensate (hrow : w.RowOf other tokenId)
    (hptr : ∀ s t, w.sagas.find? sagaId = some s → s.encryptedTokenId = some t → w.RowOf sagaId t)
    (hne : sagaId ≠ other) : Keeps sagaId w (w.compensate other tokenId reason) := by
  have hforeign : ¬ w.RowOf sagaId tokenId := fun h ↦
    hne (Option.some.inj (h.2.symm.trans hrow.2))
  refine ⟨fun t ↦ ?_, fun _ ↦ Iff.rfl, .inl ?_⟩
  · rw [rowOf_compensate]
    exact and_iff_right_of_imp fun ht heq ↦ hforeign (heq ▸ ht)
  · have hfind : (w.compensate other tokenId reason).sagas.find? sagaId = _ :=
      SagaTable.find?_compensate sagaId
    rw [hfind, if_neg hne, SagaTable.find?_forgetToken]
    rcases hs : w.sagas.find? sagaId with - | s
    · rfl
    · have hs' : s.encryptedTokenId ≠ some tokenId := fun h ↦ hforeign (hptr s tokenId hs h)
      rw [Option.map_some, if_neg hs']

/-! ### What each effect does for its own saga -/

theorem Bare.stored (hb : w.Bare sagaId) (h : w.persistTokens sagaId row = some w') :
    w'.Stored sagaId row.id := by
  have hrow := rowOf_persistTokens h sagaId
  obtain ⟨tokens, htokens, rfl⟩ := Option.map_eq_some_iff.1 h
  refine ⟨(hrow row.id).2 (by rw [if_pos rfl]), fun s' hs' ↦ ?_⟩
  have hfind := (SagaTable.find?_obtain sagaId).symm.trans hs'
  rw [if_pos rfl] at hfind
  obtain ⟨s, hs, rfl⟩ := Option.map_eq_some_iff.1 hfind
  obtain ⟨-, hrows, hconns⟩ := hb s hs
  refine ⟨⟨by simp [OAuthSaga.obtain], rfl, fun t ht ↦ ?_⟩, hconns⟩
  by_contra hne
  rw [hrow t, if_neg hne] at ht
  exact hrows t ht

theorem Stored.linked (hb : w.Stored sagaId tokenId)
    (h : ∀ c ∈ w.ap, c.externalId ≠ apExternalId sagaId) :
    (w.createAp sagaId token newId).Linked sagaId tokenId :=
  ⟨hb.1, ⟨_, (connectionOf_createAp h _).2 (.inr ⟨rfl, rfl⟩)⟩, fun s hs ↦ (hb.2 s hs).1⟩

theorem Linked.settled_finalize (hb : w.Linked sagaId tokenId) :
    (w.finalize sagaId tokenId externalId).Settled sagaId := by
  intro s' hs'
  have hfind := (SagaTable.find?_complete sagaId).symm.trans hs'
  rw [if_pos rfl] at hfind
  obtain ⟨s, hs, rfl⟩ := Option.map_eq_some_iff.1 hfind
  refine ⟨fun _ ↦ ⟨⟨tokenId, (hb.2.2 s hs).2.1, (rowOf_finalize tokenId).2 hb.1⟩, hb.2.1⟩, ?_⟩
  exact fun hne ↦ absurd rfl hne

theorem Linked.stored_deleteAp (hb : w.Linked sagaId tokenId)
    (h : ∀ c ∈ w.ap, c.sagaId = sagaId → c.id = apId) :
    (w.deleteAp apId).Stored sagaId tokenId := by
  refine ⟨hb.1, fun s hs ↦ ⟨hb.2.2 s hs, fun c hc ↦ ?_⟩⟩
  rw [ConnectionOf, deleteAp, List.mem_filter, decide_eq_true_eq] at hc
  exact hc.1.2 (h c hc.1.1 hc.2)

theorem Stored.settled_compensate (hb : w.Stored sagaId tokenId) :
    (w.compensate sagaId tokenId reason).Settled sagaId := by
  intro s' hs'
  have hfind := (SagaTable.find?_compensate sagaId).symm.trans hs'
  rw [if_pos rfl, SagaTable.find?_forgetToken] at hfind
  obtain ⟨s₁, hs₁, rfl⟩ := Option.map_eq_some_iff.1 hfind
  obtain ⟨s, hs, -⟩ := Option.map_eq_some_iff.1 hs₁
  obtain ⟨⟨-, -, honly⟩, hconns⟩ := hb.2 s hs
  refine ⟨fun hc ↦ absurd hc (by simp [OAuthSaga.compensate]), fun _ ↦ ⟨fun t ht ↦ ?_, hconns⟩⟩
  obtain ⟨hne, ht⟩ := (rowOf_compensate t).1 ht
  exact hne (honly t ht)

end Effects

end OAuthWorld

end Siyadah
