import SiyadahOrchestrator.Foundations.TransitionSystem
import SiyadahOrchestrator.Vault.Statements

/-!
# Status writes and the unique constraint

`uq_et_tenant_provider_account_status` covers the `status` column, so an account may have one row
per status and no more. Retired rows are never deleted: they keep their `REVOKED` (or `CORRUPTED`),
and the next row of the account that is to be retired the same way finds the place taken.

`Vault.step` runs one operation as one transaction, rolled back on `IntegrityError`. For every
table, `isSome_apply_iff` says exactly when an operation commits: `Admissible` reads the table
before the operation and asks that the account has no row with the status about to be written.

* an authorization needs no `REVOKED` row if the account has a live one;
* a refresh needs no `REVOKED` row if the provider reports the grant gone, no `CORRUPTED` row if the
  stored token does not open; of a provider that the registry does not know it writes nothing;
* a webhook needs it for every tenant with a live row at once — they share one transaction.

An account with the empty string as its id is live without ever being retired, because
`_persist_tokens` tests its truth value: a second authorization of it is refused outright.
-/

namespace Siyadah

/-! ### Operations on the vault -/

/-- What changes the vault. -/
inductive VaultOp where
  /-- `_persist_tokens`, with the row id it generates. -/
  | persistTokens (id tenantId provider : String) (parsed : ParsedTokenResponse)
      (rand : SealRandomness) (now : Time)
  /-- `_refresh_one_token`. -/
  | refreshOneToken (id : String) (input : RefreshInput)
  /-- `_revoke_slack_team`. -/
  | revokeSlackTeam (teamId : String)
  /-- `_revoke_google_user`. -/
  | revokeGoogleUser (googleSub : String)
deriving DecidableEq

namespace Vault

variable (c : CryptoProvider)

/-- The operation's transaction; `none` is `IntegrityError`. -/
def apply (t : TokenTable) : VaultOp → Option TokenTable
  | .persistTokens id tenantId provider parsed rand now =>
    match EncryptedToken.ofAnswer c rand id tenantId provider parsed now with
    | .ok row => t.persistTokens row
    | .error _ => some t
  | .refreshOneToken id input => t.updateKey id fun r ↦ (Siyadah.refreshOneToken c r input).2
  | .revokeSlackTeam teamId => t.revokeSlackTeam teamId
  | .revokeGoogleUser googleSub => t.revokeGoogleUser googleSub

/-- The vault under any sequence of operations; a refused one is rolled back. -/
def system : TransitionSystem TokenTable VaultOp where
  step t op := some ((apply c t op).getD t)

/-- The operation commits. -/
def Commits (t : TokenTable) (op : VaultOp) : Prop := (apply c t op).isSome

instance (t : TokenTable) (op : VaultOp) : Decidable (Commits c t op) :=
  inferInstanceAs (Decidable (_ = true))

/-- The id of a new row is new to the table: `uuid4` does not repeat. -/
def FreshId (t : TokenTable) : VaultOp → Prop
  | .persistTokens id _ _ _ _ _ => t.find? id = none
  | _ => True

instance (t : TokenTable) : ∀ op, Decidable (FreshId t op)
  | .persistTokens id _ _ _ _ _ => inferInstanceAs (Decidable (t.find? id = none))
  | .refreshOneToken _ _ => .isTrue trivial
  | .revokeSlackTeam _ => .isTrue trivial
  | .revokeGoogleUser _ => .isTrue trivial

/-- A live account has no retired row yet, for every tenant that shares it. -/
def NoneRetired (t : TokenTable) (provider account : String) : Prop :=
  ∀ tenant, t.Holds tenant provider account .active → ¬ t.Holds tenant provider account .revoked

/-- The place the operation is about to write is free. -/
def Admissible (t : TokenTable) : VaultOp → Prop
  | .persistTokens _ tenantId provider parsed _ _ =>
    ∀ account, parsed.providerAccountId = some account →
      t.Holds tenantId provider account .active →
        account ≠ "" ∧ ¬ t.Holds tenantId provider account .revoked
  | .refreshOneToken id input =>
    ∀ row, t.find? id = some row → row.status = .active → row.encryptedRefreshToken ≠ none →
      getProvider row.provider ≠ none → ∀ account, row.providerAccountId = some account →
        ((∀ token, c.decryptRefresh row ≠ .ok token) →
          ¬ t.Holds row.tenantId row.provider account .corrupted) ∧
        (∀ token code, c.decryptRefresh row = .ok token →
          input.answer = .tokenExchangeError code → code ∈ terminalCodes →
            ¬ t.Holds row.tenantId row.provider account .revoked)
  | .revokeSlackTeam teamId => NoneRetired t "slack" teamId
  | .revokeGoogleUser googleSub => NoneRetired t "google" googleSub

/-! ### When each operation commits -/

section Commit

variable {c} {t t' : TokenTable} {row r : EncryptedToken} {id tenant provider account : String}
  {st : TokenStatus}

/-- Retiring the live row of an account is an update of that one row. -/
theorem retireLive_of_live (ha : truthy row.providerAccountId = some account) (hr : r ∈ t.rows)
    (hlive : r.accountStatus = some (row.tenantId, row.provider, account, .active)) :
    t.retireLive row = t.setStatus r.id .revoked := by
  rw [TokenTable.retireLive, ha, TokenTable.setStatus, KeyedTable.updateKey]
  refine KeyedTable.update_congr fun r' hr' ↦ ?_
  rw [Bool.eq_iff_iff, EncryptedToken.isActiveOf_iff, decide_eq_true_iff]
  constructor
  · intro h
    rw [t.eq_of_uniq_eq hr' hr h hlive]
  · intro h
    rw [t.eq_of_key_eq hr' hr h]
    exact hlive

/-- Without a live row there is nothing to retire. -/
theorem retireLive_of_not_live (ha : truthy row.providerAccountId = some account)
    (hlive : ¬ t.Holds row.tenantId row.provider account .active) : t.retireLive row = some t := by
  rw [TokenTable.retireLive, ha]
  refine KeyedTable.update_of_forall_false fun r hr ↦ ?_
  rw [Bool.eq_false_iff, ne_eq, EncryptedToken.isActiveOf_iff]
  exact fun h ↦ hlive ⟨r, hr, h⟩

/-- The insertion of a live row is refused exactly when the account has one. -/
theorem isSome_insert_iff (hfresh : t.find? row.id = none) (hactive : row.status = .active) :
    (t.insert row).isSome ↔
      ∀ account, row.providerAccountId = some account →
        ¬ t.Holds row.tenantId row.provider account .active := by
  rw [KeyedTable.isSome_insert_iff, and_iff_right (KeyedTable.find?_eq_none_iff.1 hfresh)]
  constructor
  · rintro h account ha ⟨r, hr, hu⟩
    exact h _ (EncryptedToken.accountStatus_eq_some_iff.2 ⟨rfl, rfl, ha, hactive⟩) r hr hu
  · rintro h ⟨tenant, provider, account, st⟩ hu r hr hu'
    obtain ⟨rfl, rfl, ha, hst⟩ := EncryptedToken.accountStatus_eq_some_iff.1 hu
    rw [← hst, hactive] at hu'
    exact h account ha ⟨r, hr, hu'⟩

/-- **When an authorization commits.** -/
theorem isSome_persistTokens_iff (hfresh : t.find? row.id = none) (hactive : row.status = .active) :
    (t.persistTokens row).isSome ↔
      ∀ account, row.providerAccountId = some account →
        t.Holds row.tenantId row.provider account .active →
          account ≠ "" ∧ ¬ t.Holds row.tenantId row.provider account .revoked := by
  cases htr : truthy row.providerAccountId with
  | none =>
    -- The account is `NULL` or empty: nothing is retired, so a live row is in the way.
    have hret : t.retireLive row = some t := by rw [TokenTable.retireLive, htr]
    rw [TokenTable.persistTokens, hret, Option.bind_some, isSome_insert_iff hfresh hactive]
    refine forall_congr' fun account ↦ imp_congr_right fun ha ↦ ?_
    have hempty : account = "" := by
      by_contra hne
      rw [truthy_eq_some_iff.2 ⟨ha, hne⟩] at htr
      exact absurd htr (by simp)
    simp [hempty]
  | some account =>
    obtain ⟨ha, hne⟩ := truthy_eq_some_iff.1 htr
    have hred : (∀ a, row.providerAccountId = some a →
        t.Holds row.tenantId row.provider a .active →
          a ≠ "" ∧ ¬ t.Holds row.tenantId row.provider a .revoked) ↔
        (t.Holds row.tenantId row.provider account .active →
          ¬ t.Holds row.tenantId row.provider account .revoked) := by
      simp only [ha, Option.some.injEq, forall_eq', ne_eq, hne, not_false_eq_true, true_and]
    rw [hred]
    by_cases hlive : t.Holds row.tenantId row.provider account .active
    · obtain ⟨r, hr, hu⟩ := hlive
      obtain ⟨ht, hp, hacc, hst⟩ := EncryptedToken.accountStatus_eq_some_iff.1 hu
      rw [TokenTable.persistTokens, retireLive_of_live htr hr hu]
      have hset := TokenTable.isSome_setStatus_iff_of_active
        (KeyedTable.find?_eq_some_iff.2 ⟨hr, rfl⟩) hst
        (show TokenStatus.revoked ≠ .active by decide)
      rw [ht, hp] at hset
      simp only [hacc, Option.some.injEq, forall_eq'] at hset
      rw [← hset]
      constructor
      · intro h _
        cases hs : t.setStatus r.id .revoked with
        | none => rw [hs] at h; exact absurd h (by simp)
        | some t' => rfl
      · intro h
        obtain ⟨t', ht'⟩ := Option.isSome_iff_exists.1 (h ⟨r, hr, hu⟩)
        rw [ht', Option.bind_some]
        refine (isSome_insert_iff ?_ hactive).2 ?_
        · rw [TokenTable.find?_setStatus ht', hfresh]
          simp
        · -- The live row was the account's only one, and it is retired now.
          rintro a ha' ⟨r', hr', hu'⟩
          rw [ha, Option.some.injEq] at ha'
          subst ha'
          have hf := KeyedTable.find?_eq_some_iff.2 ⟨hr', rfl⟩
          rw [TokenTable.find?_setStatus ht'] at hf
          split_ifs at hf with hid
          · obtain ⟨r₀, -, rfl⟩ := Option.map_eq_some_iff.1 hf
            exact absurd (EncryptedToken.accountStatus_eq_some_iff.1 hu').2.2.2 (by simp)
          · obtain ⟨hmem, -⟩ := KeyedTable.find?_eq_some_iff.1 hf
            exact hid (congrArg EncryptedToken.id (t.eq_of_uniq_eq hmem hr hu' hu))
    · rw [TokenTable.persistTokens, retireLive_of_not_live htr hlive, Option.bind_some,
        isSome_insert_iff hfresh hactive]
      refine iff_of_true (fun a ha' ↦ ?_) fun h ↦ absurd h hlive
      rw [ha, Option.some.injEq] at ha'
      exact ha' ▸ hlive

/-- What a refresh does to the columns of the constraint: it may change the status. -/
theorem refreshOneToken_accountStatus (c : CryptoProvider) (row : EncryptedToken)
    (input : RefreshInput) :
    (refreshOneToken c row input).2.accountStatus =
      (row.setStatus (refreshOneToken c row input).2.status).accountStatus := by
  unfold refreshOneToken
  split_ifs
  · rfl
  · rfl
  · rfl
  · cases c.decryptRefresh row with
    | error e => rfl
    | ok token =>
      simp only
      cases input.answer with
      | tokenExchangeError code => simp only; split_ifs <;> rfl
      | otherError => rfl
      | tokens parsed =>
        simp only
        cases c.sealTokens input.rand row.aad parsed <;> rfl

theorem refreshOneToken_id (c : CryptoProvider) (row : EncryptedToken) (input : RefreshInput) :
    (refreshOneToken c row input).2.id = row.id := by
  unfold refreshOneToken
  split_ifs
  · rfl
  · rfl
  · rfl
  · cases c.decryptRefresh row with
    | error e => rfl
    | ok token =>
      simp only
      cases input.answer with
      | tokenExchangeError code => simp only; split_ifs <;> rfl
      | otherError => rfl
      | tokens parsed =>
        simp only
        cases c.sealTokens input.rand row.aad parsed <;> rfl

/-- **The status a refresh leaves**: a live row with a refresh token of a known provider becomes
`CORRUPTED` when the token does not open, `REVOKED` when it opens and the provider reports the grant
gone; every other refresh leaves the status alone. -/
theorem refreshOneToken_status (c : CryptoProvider) (row : EncryptedToken) (input : RefreshInput) :
    ((refreshOneToken c row input).2.status = .corrupted ∧ row.status = .active ∧
        row.encryptedRefreshToken ≠ none ∧ getProvider row.provider ≠ none ∧
          ∀ token, c.decryptRefresh row ≠ .ok token) ∨
    ((refreshOneToken c row input).2.status = .revoked ∧ row.status = .active ∧
        row.encryptedRefreshToken ≠ none ∧ getProvider row.provider ≠ none ∧
          ∃ token code, c.decryptRefresh row = .ok token ∧
            input.answer = .tokenExchangeError code ∧ code ∈ terminalCodes) ∨
    ((refreshOneToken c row input).2.status = row.status ∧
      (row.status = .active → row.encryptedRefreshToken ≠ none → getProvider row.provider ≠ none →
        (∃ token, c.decryptRefresh row = .ok token) ∧
          ∀ code, input.answer = .tokenExchangeError code → code ∉ terminalCodes)) := by
  unfold refreshOneToken
  by_cases hactive : row.status = .active
  · by_cases hnone : row.encryptedRefreshToken = none
    · simp [hactive, hnone]
    · by_cases hprovider : getProvider row.provider = none
      · simp [hactive, hnone, hprovider]
      · rw [if_neg (not_not.2 hactive), if_neg hnone, if_neg hprovider]
        cases c.decryptRefresh row with
        | error e => simp [hactive, hnone, hprovider]
        | ok token =>
          simp only
          cases input.answer with
          | tokenExchangeError code =>
            by_cases hcode : code ∈ terminalCodes <;> simp [hactive, hnone, hprovider, hcode]
          | otherError => simp [hactive]
          | tokens parsed =>
            simp only
            cases c.sealTokens input.rand row.aad parsed <;> simp [hactive]
  · simp [hactive]

/-- **When a refresh commits.** -/
theorem isSome_refresh_iff (id : String) (input : RefreshInput) :
    (t.updateKey id fun r ↦ (refreshOneToken c r input).2).isSome ↔
      Admissible c t (.refreshOneToken id input) := by
  rw [KeyedTable.isSome_updateKey_iff fun r ↦ refreshOneToken_id c r input]
  refine forall_congr' fun row ↦ imp_congr_right fun hrow ↦ ?_
  have hmem : row ∈ t.rows := (KeyedTable.find?_eq_some_iff.1 hrow).1
  -- A write of `status` is refused exactly when the account has a row with it.
  have hwrite : ∀ st, st ≠ .active → row.status = .active →
      ((∀ u, (row.setStatus st).accountStatus = some u →
          ∀ r' ∈ t.rows, r'.id ≠ id → r'.accountStatus ≠ some u) ↔
        ∀ account, row.providerAccountId = some account →
          ¬ t.Holds row.tenantId row.provider account st) := by
    intro st hst hactive
    rw [← TokenTable.isSome_setStatus_iff_of_active hrow hactive hst, TokenTable.setStatus,
      KeyedTable.isSome_updateKey_iff fun r ↦ r.setStatus_id st]
    simp only [hrow, Option.some.injEq, forall_eq']
  rw [refreshOneToken_accountStatus]
  rcases refreshOneToken_status c row input with
    ⟨hst, hactive, hne, hprovider, hclosed⟩ |
      ⟨hst, hactive, hne, hprovider, token, code, hopen, hans, hcode⟩ | ⟨hst, hquiet⟩
  · rw [hst, hwrite _ (by decide) hactive]
    constructor
    · exact fun h _ _ _ account ha ↦
        ⟨fun _ ↦ h account ha, fun token _ hok ↦ absurd hok (hclosed token)⟩
    · exact fun h account ha ↦ (h hactive hne hprovider account ha).1 hclosed
  · rw [hst, hwrite _ (by decide) hactive]
    constructor
    · exact fun h _ _ _ account ha ↦
        ⟨fun hclosed ↦ absurd hopen (hclosed token), fun _ _ _ _ _ ↦ h account ha⟩
    · exact fun h account ha ↦ (h hactive hne hprovider account ha).2 token code hopen hans hcode
  · rw [hst]
    refine iff_of_true ?_ ?_
    · intro u hu r' hr' hid hu'
      have hself : row.setStatus row.status = row := rfl
      rw [hself] at hu
      have heq := t.eq_of_uniq_eq hr' hmem hu' hu
      exact hid (heq ▸ (KeyedTable.find?_eq_some_iff.1 hrow).2)
    · intro hactive hne hprovider account _
      obtain ⟨⟨token, hopen⟩, hans⟩ := hquiet hactive hne hprovider
      exact ⟨fun hclosed ↦ absurd hopen (hclosed token),
        fun _ code _ hcode hterm ↦ absurd hterm (hans code hcode)⟩

/-- Retiring live rows of one account, one after the other, is refused exactly when some tenant of
them already has a retired one. The rows belong to different tenants, so no write of this
transaction stands in the way of a later one. -/
theorem isSome_foldlM_setStatus_iff (provider account : String) {ids : List String}
    (hnd : ids.Nodup)
    (hlive : ∀ id ∈ ids, ∃ r, t.find? id = some r ∧ r.provider = provider ∧
      r.providerAccountId = some account ∧ r.status = .active) :
    (ids.foldlM (fun t' id ↦ TokenTable.setStatus t' id .revoked) t).isSome ↔
      ∀ id ∈ ids, ∀ r, t.find? id = some r → ¬ t.Holds r.tenantId provider account .revoked := by
  induction ids generalizing t with
  | nil => simp
  | cons id ids ih =>
    obtain ⟨r, hr, hp, ha, hst⟩ := hlive id List.mem_cons_self
    have hset := TokenTable.isSome_setStatus_iff_of_active hr hst
      (show TokenStatus.revoked ≠ .active by decide)
    rw [hp] at hset
    simp only [ha, Option.some.injEq, forall_eq'] at hset
    rw [List.foldlM_cons, List.forall_mem_cons]
    simp only [hr, Option.some.injEq, forall_eq']
    rw [← hset]
    cases hs : t.setStatus id .revoked with
    | none => simp
    | some t₁ =>
      have hnotin : id ∉ ids := (List.nodup_cons.1 hnd).1
      have hother : ∀ id' ∈ ids, t₁.find? id' = t.find? id' := fun id' hid' ↦ by
        rw [TokenTable.find?_setStatus hs, if_neg]
        rintro rfl
        exact hnotin hid'
      simp only [Option.bind_eq_bind, Option.bind_some, Option.isSome_some, true_and]
      rw [ih (List.nodup_cons.1 hnd).2 fun id' hid' ↦ by
        rw [hother id' hid']
        exact hlive id' (List.mem_cons_of_mem _ hid')]
      refine forall_congr' fun id' ↦ imp_congr_right fun hid' ↦ ?_
      rw [hother id' hid']
      refine forall_congr' fun r' ↦ imp_congr_right fun hr' ↦ not_congr ?_
      -- The row just retired belongs to another tenant.
      have htenant : r'.tenantId ≠ r.tenantId := by
        obtain ⟨r'', hr'', hp', ha', hst'⟩ := hlive id' (List.mem_cons_of_mem _ hid')
        rw [hr', Option.some.injEq] at hr''
        subst hr''
        intro htt
        have hu : r'.accountStatus = some (r.tenantId, provider, account, .active) :=
          EncryptedToken.accountStatus_eq_some_iff.2 ⟨htt, hp', ha', hst'⟩
        have hu' : r.accountStatus = some (r.tenantId, provider, account, .active) :=
          EncryptedToken.accountStatus_eq_some_iff.2 ⟨rfl, hp, ha, hst⟩
        obtain ⟨hm, hk⟩ := KeyedTable.find?_eq_some_iff.1 hr
        obtain ⟨hm', hk'⟩ := KeyedTable.find?_eq_some_iff.1 hr'
        have heq := t.eq_of_uniq_eq hm' hm hu hu'
        exact hnotin (hk ▸ heq ▸ hk' ▸ hid')
      constructor
      · rintro ⟨x, hx, hu⟩
        have hf := KeyedTable.find?_eq_some_iff.2 ⟨hx, rfl⟩
        rw [TokenTable.find?_setStatus hs] at hf
        split_ifs at hf with hid
        · rw [hid, hr, Option.map_some, Option.some.injEq] at hf
          rw [← hf] at hu
          exact absurd (EncryptedToken.setStatus_accountStatus_eq_some_iff.1 hu).1.symm htenant
        · exact ⟨x, (KeyedTable.find?_eq_some_iff.1 hf).1, hu⟩
      · rintro ⟨x, hx, hu⟩
        have hxid : x.id ≠ id := by
          intro hid
          have heq := t.eq_of_key_eq hx (KeyedTable.find?_eq_some_iff.1 hr).1
            (hid.trans (KeyedTable.find?_eq_some_iff.1 hr).2.symm)
          rw [heq] at hu
          exact htenant (EncryptedToken.accountStatus_eq_some_iff.1 hu).1.symm
        refine ⟨x, (KeyedTable.find?_eq_some_iff (k := x.id).1 ?_).1, hu⟩
        rw [TokenTable.find?_setStatus hs, if_neg hxid]
        exact KeyedTable.find?_eq_some_iff.2 ⟨hx, rfl⟩

/-- **When a webhook's revocation commits.** -/
theorem isSome_revokeAccount_iff (provider account : String) :
    (t.revokeAccount provider account).isSome ↔ NoneRetired t provider account := by
  rw [TokenTable.revokeAccount, isSome_foldlM_setStatus_iff provider account]
  · constructor
    · rintro h tenant ⟨r, hr, hu⟩
      obtain ⟨rfl, hp, ha, hst⟩ := EncryptedToken.accountStatus_eq_some_iff.1 hu
      refine h r.id (List.mem_map.2 ⟨r, ?_, rfl⟩) r (KeyedTable.find?_eq_some_iff.2 ⟨hr, rfl⟩)
      exact List.mem_filter.2 ⟨hr, by simp [hp, ha, hst]⟩
    · intro h id hid r hr
      obtain ⟨r', hr', rfl⟩ := List.mem_map.1 hid
      obtain ⟨hmem, hsel⟩ := List.mem_filter.1 hr'
      rw [decide_eq_true_eq] at hsel
      rw [KeyedTable.find?_eq_some_iff.2 ⟨hmem, rfl⟩, Option.some.injEq] at hr
      subst hr
      exact h _ ⟨r', hmem, EncryptedToken.accountStatus_eq_some_iff.2 ⟨rfl, hsel⟩⟩
  · exact t.nodup_key.sublist (List.filter_sublist.map _)
  · intro id hid
    obtain ⟨r, hr, rfl⟩ := List.mem_map.1 hid
    obtain ⟨hmem, hsel⟩ := List.mem_filter.1 hr
    rw [decide_eq_true_eq] at hsel
    exact ⟨r, KeyedTable.find?_eq_some_iff.2 ⟨hmem, rfl⟩, hsel⟩

/-- Every operation commits exactly when the place it writes is free. -/
theorem isSome_apply_iff {op : VaultOp} (hfresh : FreshId t op) :
    Commits c t op ↔ Admissible c t op := by
  cases op with
  | persistTokens id tenantId provider parsed rand now =>
    obtain ⟨sealed, -, hrow⟩ :=
      EncryptedToken.exists_ofAnswer c rand id tenantId provider parsed now
    rw [Commits, apply, hrow]
    exact isSome_persistTokens_iff hfresh rfl
  | refreshOneToken id input => exact isSome_refresh_iff id input
  | revokeSlackTeam teamId => exact isSome_revokeAccount_iff "slack" teamId
  | revokeGoogleUser googleSub => exact isSome_revokeAccount_iff "google" googleSub

end Commit

/-! ### Sequences of operations -/

/-- **A sequence of operations commits throughout exactly when each of them finds its place free.**
From any table, with new ids for new rows. -/
theorem meets_commits_iff {t : TokenTable} {ops : List VaultOp}
    (hfresh : (system c).Meets FreshId t ops) :
    (system c).Meets (Commits c) t ops ↔ (system c).Meets (Admissible c) t ops :=
  hfresh.congr_of fun _ _ ↦ isSome_apply_iff

/-! ### Concrete sequences -/

section Example

/-- An authorization of Slack team `T1` by a tenant. -/
def authorize (id tenantId : String) (b : UInt8) : VaultOp :=
  .persistTokens id tenantId "slack" firstAnswer (constantRandomness b) 0

/-- Authorizing twice commits: the first row is retired, the second is live. -/
theorem meets_commits_example :
    (system framedProvider).Meets (Commits framedProvider) .empty
        [authorize "r1" "t1" 1, authorize "r2" "t1" 2] ∧
      (system framedProvider).Meets (Admissible framedProvider) .empty
        [authorize "r1" "t1" 1, authorize "r2" "t1" 2] :=
  ⟨by decide, (meets_commits_iff framedProvider (by decide)).1 (by decide)⟩

/-- **The third authorization of an account is refused**, and the second revocation of a team aborts
for every tenant of the team: here `t2`, which was never revoked before, keeps its live row. -/
theorem status_write_collides :
    ((system framedProvider).Meets FreshId .empty
        [authorize "r1" "t1" 1, authorize "r2" "t1" 2, authorize "r3" "t1" 3] ∧
      ¬ (system framedProvider).Meets (Commits framedProvider) .empty
        [authorize "r1" "t1" 1, authorize "r2" "t1" 2, authorize "r3" "t1" 3]) ∧
    ∃ t, (system framedProvider).run .empty [authorize "r1" "t1" 1, .revokeSlackTeam "T1",
        authorize "r2" "t1" 2, authorize "r3" "t2" 3, .revokeSlackTeam "T1"] = some t ∧
      t.Holds "t2" "slack" "T1" .active := by
  refine ⟨by decide, _, rfl, by decide⟩

end Example

end Vault

end Siyadah
