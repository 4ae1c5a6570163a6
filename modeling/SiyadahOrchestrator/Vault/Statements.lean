import SiyadahOrchestrator.Vault.Rotation

/-!
# The statements the handlers run on `encrypted_tokens`

Each definition is the SQL of one handler as a function on the table, inside one transaction; `none`
is `IntegrityError`, after which the transaction is rolled back. Handlers that run at different
times share them: the callback, the refresh worker and the webhooks all write `status`, and all
through `setStatus`.

The reading lemmas say what `find?` returns afterwards, so that no handler unfolds a statement.
-/

namespace Siyadah

namespace EncryptedToken

/-- `SET status = …`. -/
def setStatus (status : TokenStatus) (r : EncryptedToken) : EncryptedToken :=
  { r with status := status }

variable (r : EncryptedToken) (st : TokenStatus)

@[simp] theorem setStatus_id : (r.setStatus st).id = r.id := rfl

@[simp] theorem setStatus_status : (r.setStatus st).status = st := rfl

@[simp] theorem setStatus_tenantId : (r.setStatus st).tenantId = r.tenantId := rfl

@[simp] theorem setStatus_provider : (r.setStatus st).provider = r.provider := rfl

@[simp] theorem setStatus_providerAccountId :
    (r.setStatus st).providerAccountId = r.providerAccountId := rfl

@[simp] theorem setStatus_apConnectionExternalId :
    (r.setStatus st).apConnectionExternalId = r.apConnectionExternalId := rfl

@[simp] theorem accountStatus_eq_some_iff {r : EncryptedToken} {tenant provider account : String}
    {st : TokenStatus} :
    r.accountStatus = some (tenant, provider, account, st) ↔
      r.tenantId = tenant ∧ r.provider = provider ∧ r.providerAccountId = some account ∧
        r.status = st := by
  unfold accountStatus
  cases r.providerAccountId with
  | none => simp
  | some a =>
    simp only [Option.map_some, Option.some.injEq, Prod.mk.injEq]

theorem setStatus_accountStatus_eq_some_iff {r : EncryptedToken}
    {tenant provider account : String} {st st' : TokenStatus} :
    (r.setStatus st).accountStatus = some (tenant, provider, account, st') ↔
      r.tenantId = tenant ∧ r.provider = provider ∧ r.providerAccountId = some account ∧
        st = st' :=
  accountStatus_eq_some_iff

/-- `SET ap_connection_external_id = …`. -/
def setApConnection (externalId : String) (r : EncryptedToken) : EncryptedToken :=
  { r with apConnectionExternalId := some externalId }

/-- The `WHERE` clause that selects the live credential of an account. -/
def IsActiveOf (tenant provider account : String) (r : EncryptedToken) : Bool :=
  r.tenantId = tenant ∧ r.provider = provider ∧ r.providerAccountId = some account ∧
    r.status = .active

theorem isActiveOf_iff {r : EncryptedToken} {tenant provider account : String} :
    r.IsActiveOf tenant provider account = true ↔
      r.accountStatus = some (tenant, provider, account, .active) := by
  simp [IsActiveOf]

end EncryptedToken

namespace TokenTable

variable (t : TokenTable)

/-- `UPDATE … SET status WHERE id = …`. -/
def setStatus (id : String) (status : TokenStatus) : Option TokenTable :=
  t.updateKey id (EncryptedToken.setStatus status)

/-- Some row of the account has the status. -/
def Holds (tenant provider account : String) (status : TokenStatus) : Prop :=
  ∃ r ∈ t.rows, r.accountStatus = some (tenant, provider, account, status)

instance (tenant provider account : String) (status : TokenStatus) :
    Decidable (t.Holds tenant provider account status) :=
  inferInstanceAs (Decidable (∃ r ∈ t.rows, _))

/-- The first statement of `_persist_tokens`: retire the account's live row, if the answer names an
account. -/
def retireLive (row : EncryptedToken) : Option TokenTable :=
  match truthy row.providerAccountId with
  | some account =>
    t.update (fun r ↦ r.IsActiveOf row.tenantId row.provider account)
      (EncryptedToken.setStatus .revoked)
  | none => some t

/-- The vault's part of the transaction of `_persist_tokens`: retire, then insert the new row. -/
def persistTokens (row : EncryptedToken) : Option TokenTable :=
  (t.retireLive row).bind fun t' ↦ t'.insert row

/-- The ids of an account's live rows, over all tenants. -/
def liveIds (provider account : String) : List String :=
  (t.rows.filter fun r ↦
    r.provider = provider ∧ r.providerAccountId = some account ∧ r.status = .active).map
      EncryptedToken.id

/-- The transaction shared by `_revoke_slack_team` and `_revoke_google_user`: select the account's
live rows, then retire them one by one. -/
def revokeAccount (provider account : String) : Option TokenTable :=
  (t.liveIds provider account).foldlM (fun t' id ↦ setStatus t' id .revoked) t

/-- `_revoke_slack_team`. -/
def revokeSlackTeam (teamId : String) : Option TokenTable := t.revokeAccount "slack" teamId

/-- `_revoke_google_user`. -/
def revokeGoogleUser (googleSub : String) : Option TokenTable := t.revokeAccount "google" googleSub

/-- The vault's part of the transaction of `_finalize_saga_completed`. -/
def setApConnection (id externalId : String) : TokenTable :=
  t.modifyKey id (EncryptedToken.setApConnection externalId) (fun _ ↦ rfl) fun _ ↦ rfl

/-- The `UPDATE` of `_refresh_one_token` on a row without a refresh token. -/
def setRefreshAt (id : String) (at' : Time) : TokenTable :=
  t.modifyKey id (fun r ↦ { r with refreshAt := some at' }) (fun _ ↦ rfl) fun _ ↦ rfl

/-- The rotation `UPDATE` of `_refresh_one_token`. -/
def rotate (id : String) (loaded : EncryptedToken) (parsed : ParsedTokenResponse)
    (sealed : SealedTokens) (now : Time) : TokenTable :=
  t.modifyKey id (fun r ↦ r.rotate loaded parsed sealed now) (fun _ ↦ rfl) fun _ ↦ rfl

/-- `SET ap_sync_pending = …`. -/
def setApSyncPending (id : String) (pending : Bool) : TokenTable :=
  t.modifyKey id (fun r ↦ { r with apSyncPending := pending }) (fun _ ↦ rfl) fun _ ↦ rfl

/-- The `UPDATE` of `_claim_due_tokens`. -/
def lease (ids : List String) (leaseUntil : Time) : TokenTable :=
  t.modify (fun r ↦ r.id ∈ ids) (fun r ↦ { r with processingUntil := some leaseUntil })
    (fun _ ↦ rfl) fun _ ↦ rfl

/-- The `UPDATE` of `_release_lease`. -/
def releaseLease (id : String) : TokenTable :=
  t.modifyKey id (fun r ↦ { r with processingUntil := none }) (fun _ ↦ rfl) fun _ ↦ rfl

/-- `DELETE … WHERE id = …`, of the compensation. -/
def deleteToken (id : String) : TokenTable := t.delete fun r ↦ r.id = id

variable {t} {t' : TokenTable} {row : EncryptedToken} {id id' tenant provider account : String}
  {st : TokenStatus}

/-! ### Reading after a statement -/

theorem find?_setStatus (h : t.setStatus id st = some t') (id' : String) :
    t'.find? id' = if id' = id then (t.find? id').map (EncryptedToken.setStatus st)
      else t.find? id' :=
  KeyedTable.find?_updateKey (fun r ↦ r.setStatus_id st) h id'

theorem find?_setApConnection {externalId : String} (id' : String) :
    (t.setApConnection id externalId).find? id' =
      if id' = id then (t.find? id').map (EncryptedToken.setApConnection externalId)
      else t.find? id' :=
  KeyedTable.find?_modifyKey id'

theorem find?_setRefreshAt (t : TokenTable) (id : String) (at' : Time) (id' : String) :
    (t.setRefreshAt id at').find? id' =
      if id' = id then (t.find? id').map fun r ↦ { r with refreshAt := some at' }
      else t.find? id' :=
  KeyedTable.find?_modifyKey id'

theorem find?_rotate (t : TokenTable) (id : String) (loaded : EncryptedToken)
    (parsed : ParsedTokenResponse) (sealed : SealedTokens) (now : Time) (id' : String) :
    (t.rotate id loaded parsed sealed now).find? id' =
      if id' = id then (t.find? id').map fun r ↦ r.rotate loaded parsed sealed now
      else t.find? id' :=
  KeyedTable.find?_modifyKey id'

theorem find?_setApSyncPending (t : TokenTable) (id : String) (pending : Bool) (id' : String) :
    (t.setApSyncPending id pending).find? id' =
      if id' = id then (t.find? id').map fun r ↦ { r with apSyncPending := pending }
      else t.find? id' :=
  KeyedTable.find?_modifyKey id'

theorem find?_lease (t : TokenTable) (ids : List String) (leaseUntil : Time) (id' : String) :
    (t.lease ids leaseUntil).find? id' = (t.find? id').map fun r ↦
      if decide (r.id ∈ ids) then { r with processingUntil := some leaseUntil } else r :=
  KeyedTable.find?_modify id'

theorem find?_releaseLease (t : TokenTable) (id id' : String) :
    (t.releaseLease id).find? id' =
      if id' = id then (t.find? id').map fun r ↦ { r with processingUntil := none }
      else t.find? id' :=
  KeyedTable.find?_modifyKey id'

theorem find?_deleteToken (id' : String) :
    (t.deleteToken id).find? id' = if id' = id then none else t.find? id' := by
  rw [deleteToken, KeyedTable.find?_delete]
  cases hf : t.find? id' with
  | none => simp
  | some r =>
    have hk := KeyedTable.key_of_find? hf
    rcases eq_or_ne id' id with rfl | hne
    · simp [hk]
    · simp [hk, hne]

/-- After `_persist_tokens`, the new row is there and every other row is what it was, or retired. -/
theorem find?_persistTokens (h : t.persistTokens row = some t') (id' : String) :
    t'.find? id' = if id' = row.id then some row
      else (t.find? id').map fun r ↦
        if ∃ account, truthy row.providerAccountId = some account ∧
            r.IsActiveOf row.tenantId row.provider account = true
        then r.setStatus .revoked else r := by
  obtain ⟨mid, hmid, hins⟩ := Option.bind_eq_some_iff.1 h
  rw [KeyedTable.find?_insert hins]
  congr 1
  cases htr : truthy row.providerAccountId with
  | none =>
    rw [retireLive, htr, Option.some.injEq] at hmid
    subst hmid
    simp
  | some account =>
    rw [retireLive, htr] at hmid
    rw [KeyedTable.find?_update (fun r ↦ r.setStatus_id .revoked) hmid]
    simp

theorem find?_eq_none_of_persistTokens (h : t.persistTokens row = some t') :
    t.find? row.id = none := by
  obtain ⟨mid, hmid, hins⟩ := Option.bind_eq_some_iff.1 h
  have hnone := KeyedTable.find?_eq_none_of_insert hins
  unfold retireLive at hmid
  split at hmid
  · rw [KeyedTable.find?_update (fun r ↦ r.setStatus_id .revoked) hmid,
      Option.map_eq_none_iff] at hnone
    exact hnone
  · rw [Option.some.injEq] at hmid
    exact hmid ▸ hnone

/-- Retiring a list of rows changes only their status, and only to `REVOKED`. -/
theorem find?_foldlM_setStatus {ids : List String}
    (h : ids.foldlM (fun t' id ↦ setStatus t' id .revoked) t = some t') (id' : String) :
    t'.find? id' = if id' ∈ ids then (t.find? id').map (EncryptedToken.setStatus .revoked)
      else t.find? id' := by
  induction ids generalizing t with
  | nil =>
    obtain rfl : t = t' := Option.some.inj h
    simp
  | cons id ids ih =>
    rw [List.foldlM_cons] at h
    obtain ⟨mid, hmid, hrest⟩ := Option.bind_eq_some_iff.1 h
    rw [ih hrest, find?_setStatus hmid]
    rcases eq_or_ne id' id with rfl | hne
    · by_cases hin : id' ∈ ids
      · simp only [hin, if_true, List.mem_cons, or_true, Option.map_map]
        rfl
      · simp [hin]
    · simp [hne]

/-- After a webhook's revocation, the account's live rows are retired and no other row changed. -/
theorem find?_revokeAccount (h : t.revokeAccount provider account = some t') (id' : String) :
    t'.find? id' = (t.find? id').map fun r ↦
      if r.provider = provider ∧ r.providerAccountId = some account ∧ r.status = .active
      then r.setStatus .revoked else r := by
  rw [find?_foldlM_setStatus h]
  cases hf : t.find? id' with
  | none => simp
  | some r =>
    obtain ⟨hr, hk⟩ := KeyedTable.find?_eq_some_iff.1 hf
    have hiff : id' ∈ t.liveIds provider account ↔
        r.provider = provider ∧ r.providerAccountId = some account ∧ r.status = .active := by
      rw [liveIds, List.mem_map]
      constructor
      · rintro ⟨r', hr', hid⟩
        rw [List.mem_filter, decide_eq_true_eq] at hr'
        rw [← t.eq_of_key_eq hr'.1 hr (hid.trans hk.symm)]
        exact hr'.2
      · intro hsel
        exact ⟨r, List.mem_filter.2 ⟨hr, decide_eq_true hsel⟩, hk⟩
    by_cases hsel : r.provider = provider ∧ r.providerAccountId = some account ∧ r.status = .active
    · rw [if_pos (hiff.2 hsel)]; simp [hsel]
    · rw [if_neg (fun hmem ↦ hsel (hiff.1 hmem))]; simp [hsel]

/-! ### Columns that the statements keep -/

/-- A claim writes nothing but the lease. -/
theorem column_lease {β : Type*} {proj : EncryptedToken → β} {ids : List String}
    {leaseUntil : Time}
    (hproj : ∀ t (r : EncryptedToken), proj { r with processingUntil := t } = proj r)
    (id' : String) : (t.lease ids leaseUntil).column proj id' = t.column proj id' :=
  KeyedTable.column_modify (hproj _) id'

theorem column_releaseLease {β : Type*} {proj : EncryptedToken → β}
    (hproj : ∀ t (r : EncryptedToken), proj { r with processingUntil := t } = proj r)
    (id' : String) : (t.releaseLease id).column proj id' = t.column proj id' :=
  KeyedTable.column_modifyKey (hproj _) id'

theorem column_setApSyncPending {β : Type*} {proj : EncryptedToken → β} {pending : Bool}
    (hproj : ∀ b (r : EncryptedToken), proj { r with apSyncPending := b } = proj r)
    (id' : String) : (t.setApSyncPending id pending).column proj id' = t.column proj id' :=
  KeyedTable.column_modifyKey (hproj _) id'

/-- A webhook's revocation writes nothing but `status`. -/
theorem column_revokeAccount {β : Type*} {proj : EncryptedToken → β}
    (hproj : ∀ r, proj (EncryptedToken.setStatus .revoked r) = proj r)
    (h : t.revokeAccount provider account = some t') (id' : String) :
    t'.column proj id' = t.column proj id' := by
  rw [KeyedTable.column, find?_revokeAccount h, Option.map_map, KeyedTable.column]
  congr 1
  funext r
  show proj (if _ then _ else _) = proj r
  split
  · exact hproj r
  · rfl

/-! ### When a status write is refused -/

/-- A status write is refused exactly when another row of the account already has that status. -/
theorem isSome_setStatus_iff :
    (t.setStatus id st).isSome ↔
      ∀ r, t.find? id = some r → ∀ account, r.providerAccountId = some account →
        ∀ r' ∈ t.rows, r'.id ≠ id →
          r'.accountStatus ≠ some (r.tenantId, r.provider, account, st) := by
  rw [setStatus, KeyedTable.isSome_updateKey_iff fun r ↦ r.setStatus_id st]
  constructor
  · intro h r hr account ha r' hr' hne
    exact h r hr _ (EncryptedToken.setStatus_accountStatus_eq_some_iff.2 ⟨rfl, rfl, ha, rfl⟩) r' hr'
      hne
  · rintro h r hr ⟨tenant, provider, account, st'⟩ hu r' hr' hne
    obtain ⟨rfl, rfl, ha, rfl⟩ := EncryptedToken.setStatus_accountStatus_eq_some_iff.1 hu
    exact h r hr account ha r' hr' hne

/-- For a row that is to leave `ACTIVE`, that is: the account has no row with the new status. -/
theorem isSome_setStatus_iff_of_active {r : EncryptedToken} (hr : t.find? id = some r)
    (hactive : r.status = .active) (hst : st ≠ .active) :
    (t.setStatus id st).isSome ↔
      ∀ account, r.providerAccountId = some account →
        ¬ t.Holds r.tenantId r.provider account st := by
  rw [isSome_setStatus_iff]
  constructor
  · rintro h account ha ⟨r', hr', hu⟩
    refine h r hr account ha r' hr' (fun hid ↦ ?_) hu
    obtain ⟨hmem, hk⟩ := KeyedTable.find?_eq_some_iff.1 hr
    rw [t.eq_of_key_eq hr' hmem (hid.trans hk.symm)] at hu
    exact hst ((EncryptedToken.accountStatus_eq_some_iff.1 hu).2.2.2.symm.trans hactive)
  · intro h r₁ hr₁ account ha r' hr' _ hu
    rw [hr, Option.some.injEq] at hr₁
    subst hr₁
    exact h account ha ⟨r', hr', hu⟩

end TokenTable

end Siyadah
