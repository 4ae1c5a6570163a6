import SiyadahOrchestrator.Refresh.Effects

/-!
# Revocation

A row leaves `ACTIVE` by a webhook, or by a worker that finds the grant gone or the row unreadable.
`status` never goes back (`never_active_again`), but the workers read it once: `_refresh_one_token`
and `_retry_ap_only` check it when they load the row, and neither the rotation `UPDATE`, which
selects by `id` alone, nor the push to ActivePieces looks again.

`actsOnActive` is the stretch between the load and the end of the push. `RevocationSafe` asks that
no task is in it for a row that leaves `ACTIVE`; then the row is left alone for good
(`revocation_wins`). A provider call lasts up to thirty seconds, so the stretch is easily hit.
-/

namespace Siyadah

/-- The columns that hold the two tokens. -/
structure Ciphertexts where
  access : Bytes
  ivAccess : Bytes
  refresh : Option Bytes
  ivRefresh : Option Bytes
  wrapped : WrappedDek
deriving DecidableEq

/-- The ciphertext columns of a row. -/
def EncryptedToken.ciphertexts (r : EncryptedToken) : Ciphertexts :=
  ⟨r.encryptedAccessToken, r.ivAccess, r.encryptedRefreshToken, r.ivRefresh, r.wrapped⟩

theorem onlyRotated_ciphertexts : OnlyRotated EncryptedToken.ciphertexts :=
  ⟨fun _ _ ↦ rfl, fun _ _ ↦ rfl, fun _ _ ↦ rfl, fun _ _ ↦ rfl⟩

/-- The pushes of the row's access tokens, newest first. -/
def RefreshWorld.pushesOf (w : RefreshWorld) (tokenId : String) : List RefreshEvent :=
  w.history.filter fun
    | .pushed id _ _ => id = tokenId
    | _ => false

namespace RefreshPc

/-- The task has found the row `ACTIVE` and has not finished acting on it. -/
def actsOnActive : RefreshPc → Bool
  | lock _ | decrypt _ | awaitProvider _ _ | rotate _ _ _ _ | push _ _ | apPush _ _ => true
  | _ => false

/-- The task is about to write a status. -/
def isMark : RefreshPc → Bool
  | mark _ => true
  | _ => false

variable {c : CryptoProvider} {env : RefreshEnv} {tokenId : String} {w w' : RefreshWorld}
  {pc pc' : RefreshPc} {t t' : TokenTable} {id : String} {st : TokenStatus}

/-- Only a mark writes `status`. -/
theorem Writes.column_status (h : Writes tokenId t pc t')
    (hmark : ∀ st, pc = .mark st → id ≠ tokenId) :
    t'.column EncryptedToken.status id = t.column EncryptedToken.status id := by
  rcases eq_or_ne id tokenId with rfl | hne
  · cases h with
    | nothing => rfl
    | refreshAt | rotation | flag | clear | lease =>
      exact KeyedTable.column_modifyKey (by intro; rfl) id
    | status st t' h => exact absurd rfl (hmark st rfl)
  · exact h.column_of_ne hne

/-- A row that is not `ACTIVE` does not become `ACTIVE`. -/
theorem Writes.status_ne_active (h : Writes tokenId t pc t')
    (hmark : ∀ st, pc = .mark st → st ≠ .active)
    (hst : t.column EncryptedToken.status id = some st) (hne : st ≠ .active) :
    ∃ st', t'.column EncryptedToken.status id = some st' ∧ st' ≠ .active := by
  cases h with
  | status st₁ t' h =>
    obtain ⟨r, hr, rfl⟩ := KeyedTable.column_eq_some_iff.1 hst
    have hfind := TokenTable.find?_setStatus h id
    split at hfind
    · rw [hr] at hfind
      exact ⟨st₁, KeyedTable.column_of_find? hfind, hmark st₁ rfl⟩
    · rw [hr] at hfind
      exact ⟨r.status, KeyedTable.column_of_find? hfind, hne⟩
  | nothing => exact ⟨st, hst, hne⟩
  | refreshAt | rotation | flag | clear | lease =>
    exact ⟨st, Eq.trans (KeyedTable.column_modifyKey (by intro; rfl) id) hst, hne⟩

/-- A mark whose transaction fails writes nothing. -/
theorem Effect.tokens_of_not_marks (heff : Effect c env tokenId w (.mark st) w' pc')
    (hmarks : env.marks = false) : w'.tokens = w.tokens := by
  cases heff with
  | skipped | left | condemned => rfl
  | orphaned hpc => exact absurd hpc Bool.false_ne_true
  | marked status w' hm => exact absurd (hm.symm.trans hmarks) (by decide)

/-- Who does not act on the row pushes none of its tokens. -/
theorem Effect.pushesOf (heff : Effect c env tokenId w pc w' pc')
    (hidle : pc.actsOnActive = true → id ≠ tokenId) : w'.pushesOf id = w.pushesOf id := by
  have hpush : ∀ ext access, id ≠ tokenId →
      (w.pushAp env.push tokenId ext access).pushesOf id = w.pushesOf id := fun ext access hne ↦ by
    rw [RefreshWorld.pushesOf, RefreshWorld.pushAp]
    cases env.push with
    | notSent => rfl
    | accepted | lost | rejected =>
      exact List.filter_cons_of_neg (fun h ↦ hne (of_decide_eq_true h).symm)
  cases heff with
  | skipped | left | loaded | loadedBare | bumped | condemned | answered | flagged => rfl
  | flagFailed | apLoaded | apLoadedBare | cleared => rfl
  | locked row w' _ h | apLocked w' h | orphaned _ w' h | marked status w' _ h =>
    obtain ⟨x, -, rfl⟩ := Option.map_eq_some_iff.1 h
    rfl
  | sent => rfl
  | rotated row parsed sealed | rotatedBare row parsed sealed =>
    rw [RefreshWorld.pushesOf, RefreshWorld.rotate, List.filter_append, List.filter_map]
    have hnone : ∀ l : List String, l.filter ((fun
        | .pushed id' _ _ => decide (id' = id)
        | _ => false) ∘ RefreshEvent.replaced tokenId) = [] := fun l ↦
      List.filter_eq_nil_iff.2 fun _ _ h ↦ Bool.false_ne_true h
    rw [hnone]
    rfl
  | pushed | apPushed | apPushFailed => exact hpush _ _ (hidle rfl)
  | unlocked | released => split <;> rfl

end RefreshPc

/-- What happens outside the tasks does not make a row `ACTIVE`. -/
theorem RefreshWorld.Outside.status_ne_active {w w' : RefreshWorld} {id : String} {st : TokenStatus}
    (h : w.Outside w') (hst : w.tokens.column EncryptedToken.status id = some st)
    (hne : st ≠ .active) :
    ∃ st', w'.tokens.column EncryptedToken.status id = some st' ∧ st' ≠ .active := by
  cases h with
  | tick => exact ⟨st, hst, hne⟩
  | claim => exact ⟨st, (TokenTable.column_lease (fun _ _ ↦ rfl) id).trans hst, hne⟩
  | revoke provider account tokens h =>
    obtain ⟨r, hr, rfl⟩ := KeyedTable.column_eq_some_iff.1 hst
    have hfind := TokenTable.find?_revokeAccount h id
    rw [hr, Option.map_some, if_neg fun hsel ↦ hne hsel.2.2] at hfind
    exact ⟨r.status, KeyedTable.column_of_find? hfind, hne⟩

namespace RefreshTask

/-- A task that acts on an `ACTIVE` row acts on an `ACTIVE` row. -/
def Reliant (w : RefreshWorld) (t : RefreshTask) : Prop :=
  t.pc.actsOnActive = true → w.tokens.column EncryptedToken.status t.tokenId = some .active

end RefreshTask

namespace Refresh

/-- No task acts on an `ACTIVE` row of the account. -/
def Untouched (P : RefreshState) (provider account : String) : Prop :=
  ∀ row ∈ P.store.tokens.rows, row.provider = provider → row.providerAccountId = some account →
    row.status = .active → ∀ t ∈ P.procs, t.pc.actsOnActive = true → t.tokenId ≠ row.id

/-- No row leaves `ACTIVE` while a task acts on it. -/
def RevocationSafe (P : RefreshState) : SweepAction → Prop
  | .step i => ∀ t ∈ P.procs[i]?, t.env.marks = true →
      t.pc.isMark = true → ∀ t' ∈ P.procs, t'.pc.actsOnActive = true → t'.tokenId ≠ t.tokenId
  | .revokeSlackTeam teamId => Untouched P "slack" teamId
  | .revokeGoogleUser googleSub => Untouched P "google" googleSub
  | _ => True

instance (P : RefreshState) (provider account : String) :
    Decidable (Untouched P provider account) :=
  inferInstanceAs (Decidable (∀ row ∈ P.store.tokens.rows, _))

instance (P : RefreshState) : ∀ a, Decidable (RevocationSafe P a)
  | .step i => inferInstanceAs (Decidable (∀ t ∈ P.procs[i]?, t.env.marks = true → _))
  | .revokeSlackTeam teamId => inferInstanceAs (Decidable (Untouched P "slack" teamId))
  | .revokeGoogleUser googleSub => inferInstanceAs (Decidable (Untouched P "google" googleSub))
  | .tick _ => .isTrue trivial
  | .sweep _ _ _ => .isTrue trivial
  | .crash _ => .isTrue trivial

variable {c : CryptoProvider} {P Q : RefreshState} {a : SweepAction} {id : String}

/-! ### The status of a row over a run -/

/-- The row is there, and it is not `ACTIVE`. -/
def Inactive (id : String) (P : RefreshState) : Prop :=
  ∃ st, P.store.tokens.column EncryptedToken.status id = some st ∧ st ≠ .active

/-- Not `ACTIVE` now, not `ACTIVE` later: the step lemma. -/
theorem inactive_step (hcopies : Copies c P) (h : Inactive id P)
    (hstep : (system c).step P a = some Q) : Inactive id Q := by
  obtain ⟨st, hst, hne⟩ := h
  rcases step_cases hstep with ⟨i, -, hadv⟩ | ⟨i, t, -, -, rfl⟩ | ⟨w', ps, hout, -, rfl⟩
  · obtain ⟨t, w', t', ht, hnext, rfl⟩ := ProcessPool.advance_eq_some.1 hadv
    obtain ⟨heff, -, -, -⟩ := RefreshTask.effect_of_step hnext
    refine heff.writes.status_ne_active (fun st₁ hpc ↦ ?_) hst hne
    have hcopy := hcopies.each i t ht
    rwa [RefreshTask.Copy, hpc] at hcopy
  · exact ⟨st, hst, hne⟩
  · exact hout.status_ne_active hst hne

/-- **The status never becomes `ACTIVE` again**, in any run. -/
theorem never_active_again {as : List SweepAction} (hcopies : Copies c P) (h : Inactive id P)
    (hrun : (system c).run P as = some Q) : Inactive id Q := by
  have hinv : Copies c Q ∧ Inactive id Q := TransitionSystem.invariant_of_run'
    (fun R a R' (hR : Copies c R ∧ Inactive id R) hstep ↦
      ⟨copies_step hR.1 hstep, inactive_step hR.1 hR.2 hstep⟩) ⟨hcopies, h⟩ hrun
  exact hinv.2

/-! ### The invariant -/

/-- Whoever acts on an `ACTIVE` row is right. -/
structure RevocationInv (c : CryptoProvider) (P : RefreshState) : Prop where
  copies : Copies c P
  reliant : P.Holds (fun _ ↦ True) RefreshTask.Reliant fun _ _ ↦ True

/-- Nobody acts on a row that is not `ACTIVE`. -/
theorem RevocationInv.idle (h : RevocationInv c P) {i : ℕ} {t : RefreshTask} {st : TokenStatus}
    (ht : P.procs[i]? = some t) (hst : P.store.tokens.column EncryptedToken.status id = some st)
    (hne : st ≠ .active) (hacts : t.pc.actsOnActive = true) : id ≠ t.tokenId := by
  rintro rfl
  have hactive := h.reliant.each i t ht hacts
  exact hne (Option.some.inj (hst.symm.trans hactive))

/-- A revocation that touches no row somebody acts on. -/
theorem reliant_revoke {w : RefreshWorld} {provider account : String} {tokens : TokenTable}
    {t : RefreshTask} (h : w.tokens.revokeAccount provider account = some tokens)
    (huntouched : ∀ row ∈ w.tokens.rows, row.provider = provider →
      row.providerAccountId = some account → row.status = .active →
        t.pc.actsOnActive = true → t.tokenId ≠ row.id)
    (hrel : t.Reliant w) : t.Reliant { w with tokens := tokens } := by
  intro hacts
  obtain ⟨r, hr, hactive⟩ := KeyedTable.column_eq_some_iff.1 (hrel hacts)
  obtain ⟨hmem, hid⟩ := KeyedTable.find?_eq_some_iff.1 hr
  have hfind := TokenTable.find?_revokeAccount h t.tokenId
  rw [hr, Option.map_some, if_neg fun hsel ↦
    huntouched r hmem hsel.1 hsel.2.1 hsel.2.2 hacts hid.symm] at hfind
  exact (KeyedTable.column_of_find? hfind).trans (congrArg some hactive)

/-- What the stepping task relies on after its step. -/
theorem reliant_of_effect {w w' : RefreshWorld} {t t' : RefreshTask}
    (heff : t.pc.Effect c t.env t.tokenId w w' t'.pc) (hid : t'.tokenId = t.tokenId)
    (hrel : t.Reliant w) : t'.Reliant w' := by
  have hcol : (∀ st, t.pc ≠ .mark st) → w'.tokens.column EncryptedToken.status t.tokenId =
      w.tokens.column EncryptedToken.status t.tokenId := fun hmark ↦
    heff.writes.column_status fun st hpc ↦ absurd hpc (hmark st)
  rw [RefreshTask.Reliant, hid]
  rw [RefreshTask.Reliant] at hrel
  generalize t.pc = pc at *
  generalize t'.pc = pc' at *
  cases heff with
  | loaded row hrow hactive =>
    exact fun _ ↦ (KeyedTable.column_of_find? hrow).trans (congrArg some hactive)
  | apLoaded row ext access hrow hactive =>
    exact fun _ ↦ (KeyedTable.column_of_find? hrow).trans (congrArg some hactive)
  | locked | sent | answered | rotated =>
    exact fun _ ↦ (hcol fun _ hpc ↦ RefreshPc.noConfusion hpc).trans (hrel rfl)
  | skipped | left | loadedBare | bumped | apLocked | orphaned | condemned | marked | rotatedBare
    | pushed | flagged | flagFailed | apLoadedBare | apPushed | apPushFailed | cleared | unlocked
    | released => exact fun hacts ↦ absurd hacts Bool.false_ne_true

/-- **The step lemma.** -/
theorem revocationInv_step (h : RevocationInv c P) (hsafe : RevocationSafe P a)
    (hstep : (system c).step P a = some Q) : RevocationInv c Q := by
  refine ⟨copies_step h.copies hstep, ?_⟩
  have hrevoke : ∀ {provider account : String} {tokens : Option TokenTable},
      P.store.tokens.revokeAccount provider account = tokens → Untouched P provider account →
        revoke P tokens = some Q →
          Q.Holds (fun _ ↦ True) RefreshTask.Reliant fun _ _ ↦ True := by
    intro provider account tokens hrev huntouched hQ
    obtain ⟨tokens', rfl, rfl⟩ := Option.map_eq_some_iff.1 hQ
    exact h.reliant.touch trivial fun i t ht hrel ↦ reliant_revoke hrev
      (fun row hrow hp ha hst hacts ↦ huntouched row hrow hp ha hst t (List.mem_of_getElem? ht)
        hacts) hrel
  cases a with
  | tick elapsed =>
    obtain rfl := Option.some.inj hstep
    exact h.reliant.touch trivial fun _ _ _ hrel ↦ hrel
  | sweep limit skip env =>
    obtain rfl := Option.some.inj hstep
    refine h.reliant.spawn trivial (fun _ t _ hrel hacts ↦ ?_) (fun t ht hacts ↦ ?_)
      (fun _ _ _ _ _ ↦ ⟨trivial, trivial⟩) fun _ _ _ _ _ _ _ ↦ trivial
    · exact Eq.trans (TokenTable.column_lease (by intros; rfl) t.tokenId) (hrel hacts)
    · obtain ⟨row, -, rfl⟩ := List.mem_map.1 ht
      have hfirst : (P.store.firstPc row).actsOnActive = true := hacts
      rw [RefreshWorld.firstPc] at hfirst
      split at hfirst <;> exact absurd hfirst Bool.false_ne_true
  | step i =>
    refine h.reliant.advance hstep (fun t w' t' ht hnext ↦ ⟨trivial, ?_⟩)
      (fun t w' t' j r ht hnext hne hr hrel _ _ hacts ↦ ?_)
      fun _ _ _ _ _ _ _ _ _ _ _ _ ↦ ⟨trivial, trivial⟩
    · obtain ⟨heff, hid, -, -⟩ := RefreshTask.effect_of_step hnext
      exact reliant_of_effect heff hid (h.reliant.each i t ht)
    · obtain ⟨heff, -, -, -⟩ := RefreshTask.effect_of_step hnext
      rcases hm : t.env.marks with - | -
      · -- Without a commit, no status changes.
        rcases hpc : t.pc with _ | _ | _ | _ | _ | st
        case mark =>
          rw [hpc] at heff
          rw [heff.tokens_of_not_marks hm]
          exact hrel hacts
        all_goals
          exact (heff.writes.column_status fun st h ↦
            RefreshPc.noConfusion (hpc.symm.trans h)).trans (hrel hacts)
      · refine (heff.writes.column_status fun st hpc ↦ ?_).trans (hrel hacts)
        have hmark : t.pc.isMark = true := by
          rw [hpc]
          rfl
        exact hsafe t ht hm hmark r (List.mem_of_getElem? hr) hacts
  | crash i =>
    obtain ⟨t, ht, rfl⟩ := Option.map_eq_some_iff.1 hstep
    exact h.reliant.kill (fun hacts ↦ absurd hacts Bool.false_ne_true) fun _ _ _ ↦
      ⟨trivial, trivial⟩
  | revokeSlackTeam teamId => exact hrevoke rfl hsafe hstep
  | revokeGoogleUser googleSub => exact hrevoke rfl hsafe hstep

theorem revocationInv_initial (w : RefreshWorld) : RevocationInv c (initial w) :=
  ⟨copies_initial w, trivial, fun _ _ h ↦ absurd h (by simp [initial]), fun _ _ _ _ _ _ _ ↦ trivial⟩

/-! ### Revocation wins -/

/-- The row is as it was when it left `ACTIVE`. -/
structure LeftAlone (id : String) (row : EncryptedToken) (pushes : List RefreshEvent)
    (P : RefreshState) : Prop where
  status : Inactive id P
  ciphertexts : P.store.tokens.column EncryptedToken.ciphertexts id = some row.ciphertexts
  pushes : P.store.pushesOf id = pushes

theorem leftAlone_step {row : EncryptedToken} {pushes : List RefreshEvent}
    (hinv : RevocationInv c P) (h : LeftAlone id row pushes P)
    (hstep : (system c).step P a = some Q) : LeftAlone id row pushes Q := by
  obtain ⟨st, hst, hne⟩ := h.status
  refine ⟨inactive_step hinv.copies h.status hstep, ?_, ?_⟩
  · rw [← h.ciphertexts]
    rcases step_cases hstep with ⟨i, -, hadv⟩ | ⟨i, t, -, -, rfl⟩ | ⟨w', ps, hout, -, rfl⟩
    · obtain ⟨t, w', t', ht, hnext, rfl⟩ := ProcessPool.advance_eq_some.1 hadv
      obtain ⟨heff, -, -, -⟩ := RefreshTask.effect_of_step hnext
      refine heff.writes.column_of_not_rotate onlyRotated_ciphertexts
        fun row parsed sealed sealedAt hpc ↦ hinv.idle ht hst hne ?_
      rw [hpc]
      rfl
    · rfl
    · exact hout.column onlyRotated_ciphertexts id
  · rw [← h.pushes]
    rcases step_cases hstep with ⟨i, -, hadv⟩ | ⟨i, t, -, -, rfl⟩ | ⟨w', ps, hout, -, rfl⟩
    · obtain ⟨t, w', t', ht, hnext, rfl⟩ := ProcessPool.advance_eq_some.1 hadv
      obtain ⟨heff, -, -, -⟩ := RefreshTask.effect_of_step hnext
      exact heff.pushesOf (hinv.idle ht hst hne)
    · rfl
    · cases hout <;> rfl

/-- **Revocation wins.** In every run in which no row leaves `ACTIVE` while a task acts on it: from
the moment a row is not `ACTIVE`, its ciphertexts stay, none of its access tokens is pushed, and it
is not `ACTIVE` again. -/
theorem revocation_wins {w : RefreshWorld} {as bs : List SweepAction} {row : EncryptedToken}
    (hrun : (system c).run (initial w) as = some P) (hrow : P.store.tokens.find? id = some row)
    (hst : row.status ≠ .active) (hrest : (system c).run P bs = some Q)
    (hsafe : (system c).Meets RevocationSafe (initial w) (as ++ bs)) :
    ∃ row', Q.store.tokens.find? id = some row' ∧ row'.status ≠ .active ∧
      row'.ciphertexts = row.ciphertexts ∧ Q.store.pushesOf id = P.store.pushesOf id := by
  obtain ⟨hsafeAs, hsafeBs⟩ := hsafe.of_append hrun
  have hinv : RevocationInv c P := TransitionSystem.invariant_of_run
    (fun _ _ _ ↦ revocationInv_step) (revocationInv_initial w) hsafeAs hrun
  have hleft : LeftAlone id row (P.store.pushesOf id) P :=
    ⟨⟨row.status, KeyedTable.column_of_find? hrow, hst⟩, KeyedTable.column_of_find? hrow, rfl⟩
  have hend : LeftAlone id row (P.store.pushesOf id) Q :=
    TransitionSystem.relative_invariant_of_run (fun _ _ _ ↦ revocationInv_step)
      (fun _ _ _ hi hl _ ↦ leftAlone_step hi hl) hinv hleft hsafeBs hrest
  obtain ⟨st, hst', hne⟩ := hend.status
  obtain ⟨row', hrow', rfl⟩ := KeyedTable.column_eq_some_iff.1 hst'
  exact ⟨row', hrow', hne, KeyedTable.proj_eq_of_column hend.ciphertexts hrow', hend.pushes⟩

/-! ### Concrete schedules -/

section Example

/-- A whole refresh, up to the lease. -/
def refreshed : List SweepAction := demoSweep 2 :: List.replicate 8 (.step 0)

/-- A refresh whose provider call is in flight, and then the workspace removes the app. -/
def revokedInFlight : List SweepAction :=
  demoSweep 2 :: List.replicate 3 (.step 0) ++ [.revokeSlackTeam "T1"]

/-- A revocation after the push is final. -/
theorem revocation_wins_example :
    ∃ P Q row row', (system framedProvider).run (initial demoWorld)
          (refreshed ++ [.revokeSlackTeam "T1"]) = some P ∧
        P.store.tokens.find? "r1" = some row ∧ row.status = .revoked ∧
        (system framedProvider).run P [.step 0, .tick 1000000, demoSweep 3] = some Q ∧
        Q.store.tokens.find? "r1" = some row' ∧ row'.status ≠ .active ∧
        row'.ciphertexts = row.ciphertexts := by
  have hsome : ((system framedProvider).run (initial demoWorld)
      (refreshed ++ [.revokeSlackTeam "T1"])).any (fun P ↦
        (P.store.tokens.find? "r1").any (fun row ↦ row.status = .revoked) ∧
          ((system framedProvider).run P [.step 0, .tick 1000000, demoSweep 3]).isSome) = true := by
    decide +kernel
  obtain ⟨P, hrun, hP⟩ := (Option.any_eq_true _ _).1 hsome
  obtain ⟨hany, hrest⟩ := of_decide_eq_true hP
  obtain ⟨row, hrow, hst⟩ := (Option.any_eq_true _ _).1 hany
  obtain ⟨Q, hQ⟩ := Option.isSome_iff_exists.1 hrest
  have hrevoked : row.status = .revoked := of_decide_eq_true hst
  have hsafe : (system framedProvider).Meets RevocationSafe (initial demoWorld)
      (refreshed ++ [.revokeSlackTeam "T1"] ++ [.step 0, .tick 1000000, demoSweep 3]) := by
    decide +kernel
  obtain ⟨row', hrow', hne, hct, -⟩ := revocation_wins hrun hrow
    (by rw [hrevoked]; decide) hQ hsafe
  exact ⟨P, Q, row, row', hrun, hrow, hrevoked, hQ, hrow', hne, hct⟩

/-- **A refresh in flight overrides a revocation.** The workspace removes the app while the provider
call is in flight; the answer is stored in the `REVOKED` row, and its access token is pushed. -/
theorem revoked_row_is_rotated :
    ∃ (P Q : RefreshState) (row row' : EncryptedToken),
      (system framedProvider).run (initial demoWorld) revokedInFlight = some P ∧
      P.store.tokens.find? "r1" = some row ∧ row.status = .revoked ∧
      (system framedProvider).run P [.step 0, .step 0, .step 0] = some Q ∧
      Q.store.tokens.find? "r1" = some row' ∧ row'.ciphertexts ≠ row.ciphertexts ∧
      Q.store.pushesOf "r1" = [.pushed "r1" "ext-1" "xoxb-2"] ∧ P.store.pushesOf "r1" = [] := by
  have hsome : ((system framedProvider).run (initial demoWorld) revokedInFlight).any (fun P ↦
      (P.store.tokens.find? "r1").any fun (row : EncryptedToken) ↦ row.status = .revoked ∧
        ((system framedProvider).run P [.step 0, .step 0, .step 0]).any fun (Q : RefreshState) ↦
          (Q.store.tokens.find? "r1").any fun (row' : EncryptedToken) ↦
            row'.ciphertexts ≠ row.ciphertexts ∧
              Q.store.pushesOf "r1" = [.pushed "r1" "ext-1" "xoxb-2"] ∧
                P.store.pushesOf "r1" = []) = true := by decide +kernel
  obtain ⟨P, hrun, hP⟩ := (Option.any_eq_true _ _).1 hsome
  obtain ⟨row, hrow, hR⟩ := (Option.any_eq_true _ _).1 hP
  obtain ⟨hst, hany⟩ := of_decide_eq_true hR
  obtain ⟨Q, hQ, hQrow⟩ := (Option.any_eq_true _ _).1 hany
  obtain ⟨row', hrow', hR'⟩ := (Option.any_eq_true _ _).1 hQrow
  obtain ⟨hct, hpushes, hnone⟩ := of_decide_eq_true hR'
  exact ⟨P, Q, row, row', hrun, hrow, hst, hQ, hrow', hct, hpushes, hnone⟩

end Example

end Refresh

end Siyadah
