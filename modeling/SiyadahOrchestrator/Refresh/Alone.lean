import Mathlib.Logic.Relation
import SiyadahOrchestrator.Refresh.Worker
import SiyadahOrchestrator.Vault.StatusConstraint

/-!
# A refresh that nothing disturbs

`_refresh_one_token` is modelled twice: as the function `refreshOneToken` on a row, which the
results about the vault use, and as a machine with a step for every await, which the results about
interleavings use. Here the machine runs alone, with every awaited call answered, and ends as the
function says.

The two columns that the function leaves out, `ap_sync_pending` and `processing_until`, are the
worker's own bookkeeping; `credential` is the row without them, and `Ends` compares tables up to it.
A refresh whose status write the unique constraint refuses is not a refresh of the vault, so the
theorem is about the ones that commit (`Vault.apply`).
-/

namespace Siyadah

/-- The row without the columns of the worker's bookkeeping. -/
def EncryptedToken.credential (r : EncryptedToken) : EncryptedToken :=
  { r with apSyncPending := false, processingUntil := none }

/-- Every awaited call is answered, and every transaction commits that the constraint allows. -/
structure RefreshEnv.Quiet (env : RefreshEnv) : Prop where
  redisReady : env.redisReady = true
  loads : env.loads = true
  bumps : env.bumps = true
  lock : env.lock = .answered
  marks : env.marks = true
  rotates : env.rotates = true
  push : env.push.returns = true
  flags : env.flags = true
  releases : env.releases = true

namespace RefreshPc

section Alone

variable (c : CryptoProvider) (env : RefreshEnv) (tokenId : String)

/-- One step of the task, and nothing else. -/
def Next (x y : RefreshWorld × RefreshPc) : Prop := step c env tokenId x.1 x.2 = some y

/-- From `pc` on, alone, the task reports `action` and leaves the credentials of `t`. -/
def Ends (w : RefreshWorld) (pc : RefreshPc) (action : TaskAction) (t : TokenTable) : Prop :=
  ∃ w', Relation.ReflTransGen (Next c env tokenId) (w, pc) (w', done action) ∧
    ∀ id, w'.tokens.column EncryptedToken.credential id = t.column EncryptedToken.credential id

variable {c env tokenId} {w w' : RefreshWorld} {pc pc' : RefreshPc} {action : TaskAction}
  {t t' : TokenTable}

theorem Ends.step (h : step c env tokenId w pc = some (w', pc'))
    (hend : Ends c env tokenId w' pc' action t) : Ends c env tokenId w pc action t := by
  obtain ⟨w'', hrun, hcol⟩ := hend
  exact ⟨w'', .head h hrun, hcol⟩

theorem Ends.congr (h : Ends c env tokenId w pc action t)
    (hcol : ∀ id, t.column EncryptedToken.credential id = t'.column EncryptedToken.credential id) :
    Ends c env tokenId w pc action t' := by
  obtain ⟨w', hrun, hcol'⟩ := h
  exact ⟨w', hrun, fun id ↦ (hcol' id).trans (hcol id)⟩

/-! ### The tail of a task -/

/-- `_release_lease` ends the task. -/
theorem ends_release (hq : env.Quiet) : Ends c env tokenId w (release action) action w.tokens := by
  have hstep : step c env tokenId w (release action) =
      some (w.releaseLease tokenId, done action) := by
    rw [RefreshPc.step, if_pos hq.releases]
  exact ⟨w.releaseLease tokenId, .single hstep, TokenTable.column_releaseLease fun _ _ ↦ rfl⟩

/-- The `finally` gives the mutex back, or fails to. -/
theorem ends_unlock (hq : env.Quiet) : Ends c env tokenId w (unlock action) action w.tokens := by
  have hstep : step c env tokenId w (unlock action) =
      some (if env.unlocks then w.unlock tokenId else w, release action) := rfl
  refine .step hstep ((ends_release hq).congr fun id ↦ ?_)
  split <;> rfl

/-- The flag is written last. -/
theorem ends_flag (hq : env.Quiet) :
    Ends c env tokenId w (flag true) (.refresh .rotated) w.tokens := by
  have hstep : step c env tokenId w (flag true) =
      some (w.setApSyncPending tokenId false, unlock (.refresh .rotated)) := by
    rw [RefreshPc.step, if_pos hq.flags]
    rfl
  exact .step hstep ((ends_unlock hq).congr (TokenTable.column_setApSyncPending fun _ _ ↦ rfl))

/-- A push that returns is followed by the flag. -/
theorem ends_push (hq : env.Quiet) {ext access : String} :
    Ends c env tokenId w (push ext access) (.refresh .rotated) w.tokens := by
  have hstep : step c env tokenId w (push ext access) =
      some (w.pushAp env.push tokenId ext access, flag true) := by
    rw [RefreshPc.step, hq.push]
  exact .step hstep ((ends_flag hq).congr fun _ ↦ rfl)

/-! ### The four ways a refresh writes -/

/-- The rotation. -/
theorem ends_rotate (hq : env.Quiet) {loaded : EncryptedToken} {parsed : ParsedTokenResponse}
    {sealed : SealedTokens} {sealedAt : Time} :
    Ends c env tokenId w (rotate loaded parsed sealed sealedAt) (.refresh .rotated)
      (w.tokens.rotate tokenId loaded parsed sealed sealedAt) := by
  rcases hext : truthy loaded.apConnectionExternalId with - | ext
  · have hstep : step c env tokenId w (rotate loaded parsed sealed sealedAt) =
        some (w.rotate c tokenId loaded parsed sealed sealedAt, flag true) := by
      rw [RefreshPc.step, if_pos hq.rotates, hext]
    exact .step hstep (ends_flag hq)
  · have hstep : step c env tokenId w (rotate loaded parsed sealed sealedAt) =
        some (w.rotate c tokenId loaded parsed sealed sealedAt, push ext parsed.accessToken) := by
      rw [RefreshPc.step, if_pos hq.rotates, hext]
    exact .step hstep (ends_push hq)

/-- A mark that the constraint allows. -/
theorem ends_mark (hq : env.Quiet) {status : TokenStatus}
    (h : w.tokens.setStatus tokenId status = some t) :
    Ends c env tokenId w (mark status) (markAction status) t := by
  have hmark : w.mark tokenId status = some { w with tokens := t } := by
    rw [RefreshWorld.mark, h]
    rfl
  have hstep : step c env tokenId w (mark status) =
      some ({ w with tokens := t }, unlock (markAction status)) := by
    rw [RefreshPc.step, if_pos hq.marks, hmark]
  exact .step hstep (ends_unlock hq)

/-- A row without a refresh token is not polled any more. -/
theorem ends_bump (hq : env.Quiet) :
    Ends c env tokenId w bump (.refresh .noRefreshTokenSkip)
      (w.tokens.setRefreshAt tokenId (w.now + days 365)) := by
  have hstep : step c env tokenId w bump =
      some (w.bump tokenId, release (.refresh .noRefreshTokenSkip)) := by
    rw [RefreshPc.step, if_pos hq.bumps]
  exact .step hstep (ends_release hq)

end Alone

end RefreshPc

namespace Vault

variable {c : CryptoProvider} {t t' t'' : TokenTable} {id : String} {row : EncryptedToken}
  {input : RefreshInput}

/-- The refresh of the vault, as the write of one row. -/
theorem apply_refreshOneToken_eq (hrow : t.find? id = some row)
    {f : EncryptedToken → EncryptedToken} (hf : (refreshOneToken c row input).2 = f row) :
    apply c t (.refreshOneToken id input) = t.updateKey id f := by
  refine KeyedTable.updateKey_congr fun r hr hk ↦ ?_
  have heq : r = row := by
    obtain ⟨hmem, hid⟩ := KeyedTable.find?_eq_some_iff.1 hrow
    exact t.eq_of_key_eq hr hmem (hk.trans hid.symm)
  rw [heq, hf]

/-- Tables with the row that the function computes, and the other rows as they were, agree with the
vault's. -/
theorem column_credential_of_apply (h : apply c t (.refreshOneToken id input) = some t')
    (hrow : t.find? id = some row) {f : EncryptedToken → EncryptedToken}
    (hfind : ∀ id', t''.find? id' = if id' = id then (t.find? id').map f else t.find? id')
    (hf : (f row).credential = (refreshOneToken c row input).2.credential) (id' : String) :
    t''.column EncryptedToken.credential id' = t'.column EncryptedToken.credential id' := by
  have hfind' := KeyedTable.find?_updateKey (fun r ↦ refreshOneToken_id c r input) h id'
  rw [KeyedTable.column, KeyedTable.column, hfind', hfind]
  rcases eq_or_ne id' id with rfl | hne
  · rw [if_pos rfl, if_pos rfl, hrow]
    exact congrArg some hf
  · rw [if_neg hne, if_neg hne]

/-- A refresh that writes nothing. -/
theorem column_credential_of_apply_self (h : apply c t (.refreshOneToken id input) = some t')
    (hrow : t.find? id = some row) (hself : (refreshOneToken c row input).2 = row) (id' : String) :
    t.column EncryptedToken.credential id' = t'.column EncryptedToken.credential id' := by
  refine column_credential_of_apply h hrow (f := fun r ↦ r) (fun id'' ↦ ?_)
    (congrArg _ hself.symm) id'
  rw [Option.map_id', ite_self]

end Vault

/-! ### The whole refresh -/

section Function

variable {c : CryptoProvider} {row : EncryptedToken} {refresh : String}

/-- The function on a row that cannot be read. -/
theorem refreshOneToken_of_error (input : RefreshInput) (hactive : row.status = .active)
    (hrefresh : row.encryptedRefreshToken ≠ none) (hprovider : getProvider row.provider ≠ none)
    {e : CryptoError} (hdec : c.decryptRefresh row = .error e) :
    refreshOneToken c row input = (.corrupted, row.setStatus .corrupted) := by
  rw [refreshOneToken, if_neg (not_not.2 hactive), if_neg hrefresh, if_neg hprovider, hdec]
  rfl

/-- The function on a row that can be read. -/
theorem refreshOneToken_of_ok (input : RefreshInput) (hactive : row.status = .active)
    (hrefresh : row.encryptedRefreshToken ≠ none) (hprovider : getProvider row.provider ≠ none)
    (hdec : c.decryptRefresh row = .ok refresh) :
    refreshOneToken c row input =
      match input.answer with
      | .tokenExchangeError code =>
        if code ∈ terminalCodes then (.revoked, row.setStatus .revoked)
        else (.transientProviderFailure, row)
      | .otherError => (.unhandledError, row)
      | .tokens parsed =>
        match c.sealTokens input.rand row.aad parsed with
        | .error _ => (.unhandledError, row)
        | .ok sealed => (.rotated, row.rotate row parsed sealed input.now) := by
  rw [refreshOneToken, if_neg (not_not.2 hactive), if_neg hrefresh, if_neg hprovider, hdec]
  rfl

end Function

namespace RefreshPc

variable {c : CryptoProvider} {env : RefreshEnv} {tokenId : String} {w : RefreshWorld}
  {row : EncryptedToken} {t : TokenTable}

/-- A mark, where the function marks. -/
theorem ends_mark_of_apply (hq : env.Quiet) {input : RefreshInput} {st : TokenStatus}
    (hrow : w.tokens.find? tokenId = some row)
    (hfun : (refreshOneToken c row input).2 = row.setStatus st)
    (happly : Vault.apply c w.tokens (.refreshOneToken tokenId input) = some t) :
    Ends c env tokenId w (mark st) (markAction st) t := by
  have hset : Vault.apply c w.tokens (.refreshOneToken tokenId input) =
      w.tokens.setStatus tokenId st := Vault.apply_refreshOneToken_eq hrow hfun
  exact ends_mark hq (hset.symm.trans happly)

/-- The provider has been called. -/
theorem ends_awaitProvider (hq : env.Quiet) {input : RefreshInput} {refresh : String}
    (hinput : input = ⟨env.answer, env.rand, w.now⟩) (hrow : w.tokens.find? tokenId = some row)
    (hactive : row.status = .active) (hrefresh : row.encryptedRefreshToken ≠ none)
    (hprovider : getProvider row.provider ≠ none) (hdec : c.decryptRefresh row = .ok refresh)
    (happly : Vault.apply c w.tokens (.refreshOneToken tokenId input) = some t) :
    Ends c env tokenId w (awaitProvider row refresh) (.refresh (refreshOneToken c row input).1)
      t := by
  have hfun := refreshOneToken_of_ok input hactive hrefresh hprovider hdec
  obtain ⟨answer, rand, now⟩ := input
  obtain ⟨hans, rfl, rfl⟩ := RefreshInput.mk.inj hinput
  rcases answer with parsed | code | -
  · obtain ⟨sealed, hseal⟩ := c.exists_sealTokens env.rand row.aad parsed
    have hstep : step c env tokenId w (awaitProvider row refresh) =
        some (w, rotate row parsed sealed w.now) := by
      rw [RefreshPc.step, ← hans]
      dsimp only
      rw [hseal]
    dsimp only at hfun
    rw [hseal] at hfun
    rw [hfun]
    refine .step hstep ((ends_rotate hq).congr (Vault.column_credential_of_apply happly hrow
      (TokenTable.find?_rotate w.tokens tokenId row parsed sealed w.now) ?_))
    rw [hfun]
  · by_cases hterminal : code ∈ terminalCodes
    · -- The provider says that the grant is gone.
      have hstep : step c env tokenId w (awaitProvider row refresh) = some (w, mark .revoked) := by
        rw [RefreshPc.step, ← hans]
        exact if_pos hterminal
      have hval := hfun.trans (if_pos hterminal)
      rw [hval]
      exact .step hstep (ends_mark_of_apply hq hrow (congrArg Prod.snd hval) happly)
    · have hstep : step c env tokenId w (awaitProvider row refresh) =
          some (w, unlock (.refresh .transientProviderFailure)) := by
        rw [RefreshPc.step, ← hans]
        exact if_neg hterminal
      have hval := hfun.trans (if_neg hterminal)
      rw [hval]
      exact .step hstep ((ends_unlock hq).congr
        (Vault.column_credential_of_apply_self happly hrow (congrArg Prod.snd hval)))
  · have hstep : step c env tokenId w (awaitProvider row refresh) = some (w, unlock unhandled) := by
      rw [RefreshPc.step, ← hans]
    rw [hfun]
    exact .step hstep ((ends_unlock hq).congr
      (Vault.column_credential_of_apply_self happly hrow (congrArg Prod.snd hfun)))

/-- **A refresh that nothing disturbs ends as the function says**: it reports the function's action,
and leaves the credentials that the vault's refresh leaves. -/
theorem ends_refreshOneToken (hq : env.Quiet) (hrow : w.tokens.find? tokenId = some row)
    (hfree : w.acquire tokenId ≠ none)
    (happly : Vault.apply c w.tokens (.refreshOneToken tokenId ⟨env.answer, env.rand, w.now⟩) =
      some t) :
    Ends c env tokenId w load
      (.refresh (refreshOneToken c row ⟨env.answer, env.rand, w.now⟩).1) t := by
  have hload : ¬ (env.redisReady = false ∨ env.loads = false) := by
    rw [hq.redisReady, hq.loads]
    decide
  by_cases hactive : row.status = .active
  · rcases hct : row.encryptedRefreshToken with - | ct
    · have hfun : refreshOneToken c row ⟨env.answer, env.rand, w.now⟩ =
          (.noRefreshTokenSkip, { row with refreshAt := some (w.now + days 365) }) := by
        rw [refreshOneToken, if_neg (not_not.2 hactive), if_pos hct]
      have hstep : step c env tokenId w load = some (w, bump) := by
        rw [RefreshPc.step, if_neg hload, hrow]
        exact (if_neg (not_not.2 hactive)).trans (if_pos hct)
      rw [hfun]
      refine .step hstep ((ends_bump hq).congr (Vault.column_credential_of_apply happly hrow
        (TokenTable.find?_setRefreshAt w.tokens tokenId (w.now + days 365)) ?_))
      rw [hfun]
    · have hrefresh : row.encryptedRefreshToken ≠ none := by
        rw [hct]
        exact Option.some_ne_none ct
      have hstep : step c env tokenId w load = some (w, lock row) := by
        rw [RefreshPc.step, if_neg hload, hrow]
        exact (if_neg (not_not.2 hactive)).trans (if_neg hrefresh)
      obtain ⟨w', hw'⟩ := Option.ne_none_iff_exists'.1 hfree
      have hlock : step c env tokenId w (lock row) = some (w', decrypt row) := by
        rw [RefreshPc.step, tryLock, hq.lock, hw']
      -- The mutex is all that has changed.
      obtain ⟨redis, -, rfl⟩ := Option.map_eq_some_iff.1 hw'
      refine .step hstep (.step hlock ?_)
      rcases hcfg : getProvider row.provider with - | cfg
      · -- The registry does not know the provider; nothing is written.
        have hfun : refreshOneToken c row ⟨env.answer, env.rand, w.now⟩ =
            (.unhandledError, row) := by
          rw [refreshOneToken, if_neg (not_not.2 hactive), if_neg hrefresh, if_pos hcfg]
        have hraise : step c env tokenId { w with redis := redis } (decrypt row) =
            some ({ w with redis := redis }, unlock unhandled) := by
          rw [RefreshPc.step, hcfg]
        rw [hfun]
        exact .step hraise ((ends_unlock hq).congr
          (Vault.column_credential_of_apply_self happly hrow (congrArg Prod.snd hfun)))
      have hprovider : getProvider row.provider ≠ none := by
        rw [hcfg]
        exact Option.some_ne_none cfg
      rcases hdec : c.decryptRefresh row with e | refresh
      · have hfun := refreshOneToken_of_error ⟨env.answer, env.rand, w.now⟩ hactive hrefresh
          hprovider hdec
        have hmark : step c env tokenId { w with redis := redis } (decrypt row) =
            some ({ w with redis := redis }, mark .corrupted) := by
          rw [RefreshPc.step, hcfg, hdec]
        rw [hfun]
        exact .step hmark (ends_mark_of_apply hq hrow (congrArg Prod.snd hfun) happly)
      · have hsend : step c env tokenId { w with redis := redis } (decrypt row) =
            some (RefreshWorld.send { w with redis := redis } tokenId refresh,
              awaitProvider row refresh) := by
          rw [RefreshPc.step, hcfg, hdec]
        exact .step hsend (ends_awaitProvider hq rfl hrow hactive hrefresh hprovider hdec happly)
  · have hfun : refreshOneToken c row ⟨env.answer, env.rand, w.now⟩ = (.skipStatus, row) := by
      rw [refreshOneToken, if_pos hactive]
    have hstep : step c env tokenId w load = some (w, release (.refresh .skipStatus)) := by
      rw [RefreshPc.step, if_neg hload, hrow]
      exact if_pos hactive
    rw [hfun]
    exact .step hstep ((ends_release hq).congr
      (Vault.column_credential_of_apply_self happly hrow (congrArg Prod.snd hfun)))

/-- The task of the sample row rotates it. -/
theorem ends_refreshOneToken_sample : ∃ t,
    Vault.apply framedProvider Refresh.demoWorld.tokens (.refreshOneToken "r1"
      ⟨(Refresh.quietRefreshEnv 2).answer, (Refresh.quietRefreshEnv 2).rand,
        Refresh.demoWorld.now⟩) = some t ∧
    t.column EncryptedToken.refreshCount "r1" = some 1 ∧
    Ends framedProvider (Refresh.quietRefreshEnv 2) "r1" Refresh.demoWorld load (.refresh .rotated)
      t := by
  have hfound : (Refresh.demoWorld.tokens.find? "r1").any (fun row ↦ (refreshOneToken framedProvider
      row ⟨(Refresh.quietRefreshEnv 2).answer, (Refresh.quietRefreshEnv 2).rand,
        Refresh.demoWorld.now⟩).1 = .rotated) = true := by decide +kernel
  have hcommits : (Vault.apply framedProvider Refresh.demoWorld.tokens (.refreshOneToken "r1"
      ⟨(Refresh.quietRefreshEnv 2).answer, (Refresh.quietRefreshEnv 2).rand,
        Refresh.demoWorld.now⟩)).any (fun t ↦
          t.column EncryptedToken.refreshCount "r1" = some 1) = true := by decide +kernel
  obtain ⟨row, hrow, hrotated⟩ := (Option.any_eq_true _ _).1 hfound
  obtain ⟨t, happly, hcount⟩ := (Option.any_eq_true _ _).1 hcommits
  have hquiet : (Refresh.quietRefreshEnv 2).Quiet := ⟨rfl, rfl, rfl, rfl, rfl, rfl, rfl, rfl, rfl⟩
  refine ⟨t, happly, of_decide_eq_true hcount, ?_⟩
  have hends := ends_refreshOneToken hquiet hrow (by decide +kernel) happly
  rwa [of_decide_eq_true hrotated] at hends

end RefreshPc

end Siyadah
