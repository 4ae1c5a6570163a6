import SiyadahOrchestrator.Refresh.Worker

/-!
# What one step of a task can do

`RefreshPc.Effect` has one constructor for each kind of step, with what the step has checked, and
`RefreshPc.effect_of_step` says that there is no other kind. Proofs about interleavings split on
this relation and never unfold the worker.

`Outside` is the same for what happens without a task, and `Refresh.step_cases` puts the two
together: a step of the system is a step of one task, a crash, or an event outside that may bring
new tasks.

The rest is about the rows. `RefreshPc.Writes` is the effect on the table alone, and `OnlyRotated`
singles out the columns that nothing but a rotation writes. `Copies` is what a task knows of the row
it has loaded, whatever happens in between: the associated data and the connection of a row never
change.
-/

namespace Siyadah

namespace RefreshPc

/-- A rotation of the task is committed, and the flag does not account for it yet. -/
def owesFlag : RefreshPc → Bool
  | push _ _ | flag _ => true
  | _ => false

/-- What a step of a task on row `tokenId` does, by the world before, the program counters and the
world after. -/
inductive Effect (c : CryptoProvider) (env : RefreshEnv) (tokenId : String) (w : RefreshWorld) :
    RefreshPc → RefreshWorld → RefreshPc → Prop
  /-- The task gives up before it has the mutex. -/
  | skipped {pc} (hpc : pc.inSection = false) (action : TaskAction) :
      Effect c env tokenId w pc w (.release action)
  /-- The task gives up with the mutex. -/
  | left {pc} (hpc : pc.inSection = true) (howes : pc.owesFlag = false) (action : TaskAction) :
      Effect c env tokenId w pc w (.unlock action)
  /-- The row is `ACTIVE` and has a refresh token. -/
  | loaded (row : EncryptedToken) (hrow : w.tokens.find? tokenId = some row)
      (hactive : row.status = .active) (hrefresh : row.encryptedRefreshToken ≠ none) :
      Effect c env tokenId w .load w (.lock row)
  /-- The row is `ACTIVE` and has no refresh token. -/
  | loadedBare (row : EncryptedToken) (hrow : w.tokens.find? tokenId = some row)
      (hrefresh : row.encryptedRefreshToken = none) : Effect c env tokenId w .load w .bump
  /-- The polling of the row is stopped. -/
  | bumped (action : TaskAction) : Effect c env tokenId w .bump (w.bump tokenId) (.release action)
  /-- The mutex is taken, for a full refresh. -/
  | locked (row : EncryptedToken) (w' : RefreshWorld) (hlock : env.lock = .answered)
      (h : w.acquire tokenId = some w') : Effect c env tokenId w (.lock row) w' (.decrypt row)
  /-- The mutex is taken, for the connection alone. -/
  | apLocked (w' : RefreshWorld) (h : w.acquire tokenId = some w') :
      Effect c env tokenId w .apLock w' .apLoad
  /-- The mutex is taken, and the task does not learn it. -/
  | orphaned {pc} (hpc : pc.locks = true) (w' : RefreshWorld) (h : w.acquire tokenId = some w')
      (action : TaskAction) : Effect c env tokenId w pc w' (.release action)
  /-- The refresh token opens, and leaves for the provider. -/
  | sent (row : EncryptedToken) (refresh : String) (h : c.decryptRefresh row = .ok refresh) :
      Effect c env tokenId w (.decrypt row) (w.send tokenId refresh) (.awaitProvider row refresh)
  /-- The row is to leave `ACTIVE`. -/
  | condemned {pc} (hpc : pc.inSection = true) (howes : pc.owesFlag = false) (status : TokenStatus)
      (hne : status ≠ .active) : Effect c env tokenId w pc w (.mark status)
  /-- The row has left `ACTIVE`. -/
  | marked (status : TokenStatus) (w' : RefreshWorld) (hmarks : env.marks = true)
      (h : w.mark tokenId status = some w') (action : TaskAction) :
      Effect c env tokenId w (.mark status) w' (.unlock action)
  /-- The provider has answered with tokens, which are sealed. -/
  | answered (row : EncryptedToken) (refresh : String) (parsed : ParsedTokenResponse)
      (sealed : SealedTokens) (h : c.sealTokens env.rand row.aad parsed = .ok sealed) :
      Effect c env tokenId w (.awaitProvider row refresh) w (.rotate row parsed sealed w.now)
  /-- The rotation is committed, and the connection is next. -/
  | rotated (row : EncryptedToken) (parsed : ParsedTokenResponse) (sealed : SealedTokens)
      (sealedAt : Time) (ext : String) (hext : truthy row.apConnectionExternalId = some ext) :
      Effect c env tokenId w (.rotate row parsed sealed sealedAt)
        (w.rotate c tokenId row parsed sealed sealedAt) (.push ext parsed.accessToken)
  /-- The rotation is committed, and there is no connection. -/
  | rotatedBare (row : EncryptedToken) (parsed : ParsedTokenResponse) (sealed : SealedTokens)
      (sealedAt : Time) (hext : truthy row.apConnectionExternalId = none) :
      Effect c env tokenId w (.rotate row parsed sealed sealedAt)
        (w.rotate c tokenId row parsed sealed sealedAt) (.flag true)
  /-- The new access token goes to ActivePieces. -/
  | pushed (ext access : String) :
      Effect c env tokenId w (.push ext access) (w.pushAp env.push tokenId ext access)
        (.flag env.push.returns)
  /-- The flag says whether the connection is behind. -/
  | flagged (synced : Bool) (action : TaskAction) :
      Effect c env tokenId w (.flag synced) (w.setApSyncPending tokenId (!synced)) (.unlock action)
  /-- The flag is lost. -/
  | flagFailed (synced : Bool) (action : TaskAction) (hflags : env.flags = false) :
      Effect c env tokenId w (.flag synced) w (.unlock action)
  /-- The connection is behind, and the access token opens. -/
  | apLoaded (row : EncryptedToken) (ext access : String)
      (hrow : w.tokens.find? tokenId = some row) (hactive : row.status = .active)
      (hext : truthy row.apConnectionExternalId = some ext)
      (h : c.decryptAccess row = .ok access) : Effect c env tokenId w .apLoad w (.apPush ext access)
  /-- There is no connection to be behind. -/
  | apLoadedBare (row : EncryptedToken) (action : TaskAction)
      (hrow : w.tokens.find? tokenId = some row)
      (hext : truthy row.apConnectionExternalId = none) :
      Effect c env tokenId w .apLoad w (.clear action)
  /-- The stored access token goes to ActivePieces. -/
  | apPushed (ext access : String) (action : TaskAction) (hreturns : env.push.returns = true) :
      Effect c env tokenId w (.apPush ext access) (w.pushAp env.push tokenId ext access)
        (.clear action)
  /-- The call to ActivePieces raises. -/
  | apPushFailed (ext access : String) (action : TaskAction) :
      Effect c env tokenId w (.apPush ext access) (w.pushAp env.push tokenId ext access)
        (.unlock action)
  /-- The flag is taken down. -/
  | cleared (action : TaskAction) :
      Effect c env tokenId w (.clear action) (w.setApSyncPending tokenId false) (.unlock action)
  /-- The mutex is given back, if the request gets through. -/
  | unlocked (action : TaskAction) :
      Effect c env tokenId w (.unlock action) (if env.unlocks then w.unlock tokenId else w)
        (.release action)
  /-- The lease is given back, if the transaction commits. -/
  | released (action : TaskAction) :
      Effect c env tokenId w (.release action) (if env.releases then w.releaseLease tokenId else w)
        (.done action)

section Effect

variable {c : CryptoProvider} {env : RefreshEnv} {tokenId : String} {w w' : RefreshWorld}
  {pc pc' entered : RefreshPc}

/-- The mutex is taken, or it is not. -/
theorem effect_of_tryLock (hpc : pc.locks = true) (hout : pc.inSection = false)
    (hentered : env.lock = .answered → ∀ w', w.acquire tokenId = some w' →
      Effect c env tokenId w pc w' entered)
    (h : tryLock env tokenId w entered = (w', pc')) : Effect c env tokenId w pc w' pc' := by
  rw [tryLock] at h
  rcases hacq : w.acquire tokenId with - | w₁
  · rw [hacq] at h
    split at h
    · rename_i applied _
      obtain ⟨rfl, rfl⟩ := Prod.mk.inj h
      have hw : (if applied then (none : Option RefreshWorld).getD w else w) = w := by
        split <;> rfl
      rw [hw]
      exact .skipped hout _
    · obtain ⟨rfl, rfl⟩ := Prod.mk.inj h
      exact .skipped hout _
  · rw [hacq] at h
    split at h
    · rename_i applied _
      obtain ⟨rfl, rfl⟩ := Prod.mk.inj h
      cases applied with
      | true => exact .orphaned hpc w₁ hacq _
      | false => exact .skipped hout _
    · rename_i hlock
      obtain ⟨rfl, rfl⟩ := Prod.mk.inj h
      exact hentered hlock w₁ hacq

/-- **There is no other kind of step.** -/
theorem effect_of_step (h : step c env tokenId w pc = some (w', pc')) :
    Effect c env tokenId w pc w' pc' := by
  cases pc with
  | load =>
    rw [step] at h
    split at h
    · obtain ⟨rfl, rfl⟩ := Prod.mk.inj (Option.some.inj h)
      exact .skipped rfl _
    · split at h
      · obtain ⟨rfl, rfl⟩ := Prod.mk.inj (Option.some.inj h)
        exact .skipped rfl _
      · rename_i row hrow
        split at h
        · obtain ⟨rfl, rfl⟩ := Prod.mk.inj (Option.some.inj h)
          exact .skipped rfl _
        · rename_i hactive
          split at h
          · rename_i hrefresh
            obtain ⟨rfl, rfl⟩ := Prod.mk.inj (Option.some.inj h)
            exact .loadedBare row hrow hrefresh
          · rename_i hrefresh
            obtain ⟨rfl, rfl⟩ := Prod.mk.inj (Option.some.inj h)
            exact .loaded row hrow (not_not.1 hactive) hrefresh
  | bump =>
    rw [step] at h
    split at h <;> obtain ⟨rfl, rfl⟩ := Prod.mk.inj (Option.some.inj h)
    · exact .bumped _
    · exact .skipped rfl _
  | lock row =>
    exact effect_of_tryLock rfl rfl (fun hlock w₁ h₁ ↦ .locked row w₁ hlock h₁) (Option.some.inj h)
  | decrypt row =>
    rw [step] at h
    split at h
    · obtain ⟨rfl, rfl⟩ := Prod.mk.inj (Option.some.inj h)
      exact .left rfl rfl _
    · split at h
      · obtain ⟨rfl, rfl⟩ := Prod.mk.inj (Option.some.inj h)
        exact .condemned rfl rfl .corrupted (by decide)
      · rename_i refresh hdec
        obtain ⟨rfl, rfl⟩ := Prod.mk.inj (Option.some.inj h)
        exact .sent row refresh hdec
  | awaitProvider row refresh =>
    rw [step] at h
    split at h
    · split at h <;> obtain ⟨rfl, rfl⟩ := Prod.mk.inj (Option.some.inj h)
      · exact .condemned rfl rfl .revoked (by decide)
      · exact .left rfl rfl _
    · obtain ⟨rfl, rfl⟩ := Prod.mk.inj (Option.some.inj h)
      exact .left rfl rfl _
    · split at h
      · obtain ⟨rfl, rfl⟩ := Prod.mk.inj (Option.some.inj h)
        exact .left rfl rfl _
      · rename_i sealed hseal
        obtain ⟨rfl, rfl⟩ := Prod.mk.inj (Option.some.inj h)
        exact .answered row refresh _ sealed hseal
  | mark status =>
    rw [step] at h
    split at h
    · rename_i hmarks
      split at h
      · rename_i w₁ hmark
        obtain ⟨rfl, rfl⟩ := Prod.mk.inj (Option.some.inj h)
        exact .marked status _ hmarks hmark _
      · obtain ⟨rfl, rfl⟩ := Prod.mk.inj (Option.some.inj h)
        exact .left rfl rfl _
    · obtain ⟨rfl, rfl⟩ := Prod.mk.inj (Option.some.inj h)
      exact .left rfl rfl _
  | rotate row parsed sealed sealedAt =>
    rw [step] at h
    split at h
    · rcases hext : truthy row.apConnectionExternalId with - | ext
      · rw [hext] at h
        obtain ⟨rfl, rfl⟩ := Prod.mk.inj (Option.some.inj h)
        exact .rotatedBare row parsed sealed sealedAt hext
      · rw [hext] at h
        obtain ⟨rfl, rfl⟩ := Prod.mk.inj (Option.some.inj h)
        exact .rotated row parsed sealed sealedAt ext hext
    · obtain ⟨rfl, rfl⟩ := Prod.mk.inj (Option.some.inj h)
      exact .left rfl rfl _
  | push ext access =>
    obtain ⟨rfl, rfl⟩ := Prod.mk.inj (Option.some.inj h)
    exact .pushed ext access
  | flag synced =>
    rw [step] at h
    split at h
    · obtain ⟨rfl, rfl⟩ := Prod.mk.inj (Option.some.inj h)
      exact .flagged synced _
    · rename_i hflags
      obtain ⟨rfl, rfl⟩ := Prod.mk.inj (Option.some.inj h)
      exact .flagFailed synced _ (Bool.not_eq_true _ ▸ hflags)
  | apLock =>
    rw [step] at h
    split at h
    · obtain ⟨rfl, rfl⟩ := Prod.mk.inj (Option.some.inj h)
      exact .skipped rfl _
    · exact effect_of_tryLock rfl rfl (fun _ w₁ h₁ ↦ .apLocked w₁ h₁) (Option.some.inj h)
  | apLoad =>
    rw [step] at h
    split at h
    · obtain ⟨rfl, rfl⟩ := Prod.mk.inj (Option.some.inj h)
      exact .left rfl rfl _
    · split at h
      · obtain ⟨rfl, rfl⟩ := Prod.mk.inj (Option.some.inj h)
        exact .left rfl rfl _
      · rename_i row hrow
        split at h
        · obtain ⟨rfl, rfl⟩ := Prod.mk.inj (Option.some.inj h)
          exact .left rfl rfl _
        · rename_i hstate
          split at h
          · obtain ⟨rfl, rfl⟩ := Prod.mk.inj (Option.some.inj h)
            exact .left rfl rfl _
          · rcases hext : truthy row.apConnectionExternalId with - | ext
            · rw [hext] at h
              obtain ⟨rfl, rfl⟩ := Prod.mk.inj (Option.some.inj h)
              exact .apLoadedBare row _ hrow hext
            · rw [hext] at h
              rcases hdec : c.decryptAccess row with e | access
              · rw [hdec] at h
                obtain ⟨rfl, rfl⟩ := Prod.mk.inj (Option.some.inj h)
                exact .left rfl rfl _
              · rw [hdec] at h
                obtain ⟨rfl, rfl⟩ := Prod.mk.inj (Option.some.inj h)
                exact .apLoaded row ext access hrow (not_not.1 (not_or.1 hstate).1) hext hdec
  | apPush ext access =>
    obtain ⟨rfl, rfl⟩ := Prod.mk.inj (Option.some.inj h)
    split
    · rename_i hreturns
      exact .apPushed ext access _ hreturns
    · exact .apPushFailed ext access _
  | clear action =>
    rw [step] at h
    split at h <;> obtain ⟨rfl, rfl⟩ := Prod.mk.inj (Option.some.inj h)
    · exact .cleared action
    · exact .left rfl rfl _
  | unlock action =>
    obtain ⟨rfl, rfl⟩ := Prod.mk.inj (Option.some.inj h)
    exact .unlocked action
  | release action =>
    obtain ⟨rfl, rfl⟩ := Prod.mk.inj (Option.some.inj h)
    exact .released action
  | done action => exact absurd h (by simp [step])
  | crashed => exact absurd h (by simp [step])

end Effect

end RefreshPc

/-- A step of a task is a step of its machine; the rest of the task stays. -/
theorem RefreshTask.effect_of_step {c : CryptoProvider} {w w' : RefreshWorld} {t t' : RefreshTask}
    (h : t.step c w = some (w', t')) :
    t.pc.Effect c t.env t.tokenId w w' t'.pc ∧ t'.tokenId = t.tokenId ∧ t'.env = t.env ∧
      t'.lockedAt = if t.pc.locks then w.now else t.lockedAt := by
  obtain ⟨⟨w₁, pc'⟩, hpc, heq⟩ := Option.map_eq_some_iff.1 h
  obtain ⟨rfl, rfl⟩ := Prod.mk.inj heq
  exact ⟨RefreshPc.effect_of_step hpc, rfl, rfl, rfl⟩

/-! ### What happens outside the tasks -/

/-- What happens to the stores without a task. -/
inductive RefreshWorld.Outside (w : RefreshWorld) : RefreshWorld → Prop
  | tick (elapsed : ℕ) : Outside w { w with now := w.now + elapsed }
  | claim (limit : ℕ) (skip : List String) : Outside w (w.claim limit skip)
  | revoke (provider account : String) (tokens : TokenTable)
      (h : w.tokens.revokeAccount provider account = some tokens) :
      Outside w { w with tokens := tokens }

namespace Refresh

variable {c : CryptoProvider} {P Q : RefreshState} {a : SweepAction}

/-- **A step of the system** is a step of one task, a crash of one, or an event outside, which may
bring new tasks. -/
theorem step_cases (h : (system c).step P a = some Q) :
    (∃ i, a = .step i ∧ P.advance (RefreshTask.step c) i = some Q) ∨
      (∃ i t, a = .crash i ∧ P.procs[i]? = some t ∧ Q = P.kill i { t with pc := .crashed }) ∨
      ∃ w' ps, P.store.Outside w' ∧ (∀ t ∈ ps, t.pc = .load ∨ t.pc = .apLock) ∧
        Q = P.spawn w' ps := by
  have htouch : ∀ w', P.touch w' = P.spawn w' [] := fun w' ↦ by
    rw [ProcessPool.touch, ProcessPool.spawn, List.append_nil]
  cases a with
  | tick elapsed =>
    obtain rfl := Option.some.inj h
    exact .inr (.inr ⟨_, [], .tick elapsed, fun _ ht ↦ absurd ht List.not_mem_nil, htouch _⟩)
  | sweep limit skip env =>
    obtain rfl := Option.some.inj h
    refine .inr (.inr ⟨_, _, .claim limit skip, fun t ht ↦ ?_, rfl⟩)
    obtain ⟨row, -, rfl⟩ := List.mem_map.1 ht
    show RefreshWorld.firstPc _ row = .load ∨ RefreshWorld.firstPc _ row = .apLock
    rw [RefreshWorld.firstPc]
    split
    · exact .inl rfl
    · exact .inr rfl
  | step i => exact .inl ⟨i, rfl, h⟩
  | crash i =>
    obtain ⟨t, ht, rfl⟩ := Option.map_eq_some_iff.1 h
    exact .inr (.inl ⟨i, t, rfl, ht, rfl⟩)
  | revokeSlackTeam teamId =>
    obtain ⟨tokens, hrev, rfl⟩ := Option.map_eq_some_iff.1 h
    exact .inr (.inr ⟨_, [], .revoke _ _ tokens hrev, fun _ ht ↦ absurd ht List.not_mem_nil,
      htouch _⟩)
  | revokeGoogleUser googleSub =>
    obtain ⟨tokens, hrev, rfl⟩ := Option.map_eq_some_iff.1 h
    exact .inr (.inr ⟨_, [], .revoke _ _ tokens hrev, fun _ ht ↦ absurd ht List.not_mem_nil,
      htouch _⟩)

end Refresh

/-! ### What is written to the rows -/

/-- The column is written by nothing but a rotation. -/
structure OnlyRotated {β : Type*} (proj : EncryptedToken → β) : Prop where
  status : ∀ st r, proj (EncryptedToken.setStatus st r) = proj r
  refreshAt : ∀ t (r : EncryptedToken), proj { r with refreshAt := t } = proj r
  apSyncPending : ∀ b (r : EncryptedToken), proj { r with apSyncPending := b } = proj r
  processingUntil : ∀ t (r : EncryptedToken), proj { r with processingUntil := t } = proj r

namespace RefreshPc

/-- The effect of a step on the table alone. -/
inductive Writes (tokenId : String) (t : TokenTable) : RefreshPc → TokenTable → Prop
  | nothing (pc) : Writes tokenId t pc t
  | refreshAt (at' : Time) : Writes tokenId t .bump (t.setRefreshAt tokenId at')
  | status (status : TokenStatus) (t' : TokenTable) (h : t.setStatus tokenId status = some t') :
      Writes tokenId t (.mark status) t'
  | rotation (row : EncryptedToken) (parsed : ParsedTokenResponse) (sealed : SealedTokens)
      (sealedAt : Time) :
      Writes tokenId t (.rotate row parsed sealed sealedAt)
        (t.rotate tokenId row parsed sealed sealedAt)
  | flag (synced : Bool) :
      Writes tokenId t (.flag synced) (t.setApSyncPending tokenId (!synced))
  | clear (action : TaskAction) :
      Writes tokenId t (.clear action) (t.setApSyncPending tokenId false)
  | lease (action : TaskAction) : Writes tokenId t (.release action) (t.releaseLease tokenId)

variable {c : CryptoProvider} {env : RefreshEnv} {tokenId : String} {w w' : RefreshWorld}
  {pc pc' : RefreshPc} {t t' : TokenTable} {β : Type*} {proj : EncryptedToken → β}

theorem Effect.writes (heff : Effect c env tokenId w pc w' pc') :
    Writes tokenId w.tokens pc w'.tokens := by
  have hacquire : ∀ {w₁}, w.acquire tokenId = some w₁ → w₁.tokens = w.tokens := fun h ↦ by
    obtain ⟨redis, -, rfl⟩ := Option.map_eq_some_iff.1 h
    rfl
  cases heff with
  | skipped | left | loaded | loadedBare | sent | condemned | answered | flagFailed =>
    exact .nothing _
  | apLoaded | apLoadedBare | pushed | apPushed | apPushFailed => exact .nothing _
  | locked row w' hlock h | apLocked w' h | orphaned hpc w' h =>
    rw [hacquire h]
    exact .nothing _
  | bumped => exact .refreshAt _
  | marked status w' _ h =>
    obtain ⟨tokens, htok, rfl⟩ := Option.map_eq_some_iff.1 h
    exact .status status tokens htok
  | rotated | rotatedBare => exact .rotation _ _ _ _
  | flagged => exact .flag _
  | cleared => exact .clear _
  | unlocked => split <;> exact .nothing _
  | released =>
    split
    · exact .lease _
    · exact .nothing _

/-- The row of another task is left alone. -/
theorem Writes.column_of_ne (h : Writes tokenId t pc t') {id : String} (hne : id ≠ tokenId) :
    t'.column proj id = t.column proj id := by
  cases h with
  | nothing => rfl
  | refreshAt | rotation | flag | clear | lease => exact KeyedTable.column_modifyKey_of_ne hne
  | status st t' h => exact KeyedTable.column_updateKey_of_ne (fun r ↦ r.setStatus_id st) h hne

/-- A step keeps what its rotation, if it is one, keeps. -/
theorem Writes.column (h : Writes tokenId t pc t') (hproj : OnlyRotated proj)
    (hrot : ∀ row parsed sealed sealedAt, pc = .rotate row parsed sealed sealedAt →
      ∀ r : EncryptedToken, proj (r.rotate row parsed sealed sealedAt) = proj r) (id : String) :
    t'.column proj id = t.column proj id := by
  cases h with
  | nothing => rfl
  | refreshAt => exact KeyedTable.column_modifyKey (hproj.refreshAt _) id
  | status st t' h =>
    exact KeyedTable.column_update (fun r ↦ r.setStatus_id st) (hproj.status st) h id
  | rotation row parsed sealed sealedAt =>
    exact KeyedTable.column_modifyKey (hrot row parsed sealed sealedAt rfl) id
  | flag | clear => exact KeyedTable.column_modifyKey (hproj.apSyncPending _) id
  | lease => exact KeyedTable.column_modifyKey (hproj.processingUntil _) id

/-- A step that is not the rotation of the row keeps what only a rotation writes. -/
theorem Writes.column_of_not_rotate (h : Writes tokenId t pc t') (hproj : OnlyRotated proj)
    {id : String} (hrot : ∀ row parsed sealed sealedAt, pc = .rotate row parsed sealed sealedAt →
      id ≠ tokenId) : t'.column proj id = t.column proj id := by
  rcases eq_or_ne id tokenId with rfl | hne
  · exact h.column hproj (fun row parsed sealed sealedAt hpc ↦
      absurd rfl (hrot row parsed sealed sealedAt hpc)) id
  · exact h.column_of_ne hne

end RefreshPc

/-- What happens outside the tasks keeps the columns that only a rotation writes. -/
theorem RefreshWorld.Outside.column {w w' : RefreshWorld} {β : Type*} {proj : EncryptedToken → β}
    (h : w.Outside w') (hproj : OnlyRotated proj) (id : String) :
    w'.tokens.column proj id = w.tokens.column proj id := by
  cases h with
  | tick => rfl
  | claim => exact TokenTable.column_lease hproj.processingUntil id
  | revoke provider account tokens h => exact TokenTable.column_revokeAccount (hproj.status _) h id

/-! ### What a task knows of its copy -/

namespace EncryptedToken

/-- What the ciphertexts of a row and its connection hang on. -/
def binding (r : EncryptedToken) : Bytes × Option String := (r.aad, r.apConnectionExternalId)

theorem onlyRotated_binding : OnlyRotated binding :=
  ⟨fun _ _ ↦ rfl, fun _ _ ↦ rfl, fun _ _ ↦ rfl, fun _ _ ↦ rfl⟩

theorem binding_rotate (r row : EncryptedToken) (parsed : ParsedTokenResponse)
    (sealed : SealedTokens) (now : Time) : (r.rotate row parsed sealed now).binding = r.binding :=
  rfl

end EncryptedToken

namespace RefreshTask

/-- What a task knows of the row it has loaded: its associated data, its connection, and what has
been sealed for it; and that a mark is not a way back to `ACTIVE`. -/
def Copy (c : CryptoProvider) (w : RefreshWorld) (t : RefreshTask) : Prop :=
  match t.pc with
  | .lock row | .decrypt row | .awaitProvider row _ =>
    w.tokens.column EncryptedToken.binding t.tokenId = some row.binding
  | .rotate row parsed sealed _ =>
    w.tokens.column EncryptedToken.binding t.tokenId = some row.binding ∧
      c.sealTokens t.env.rand row.aad parsed = .ok sealed
  | .mark status => status ≠ .active
  | _ => True

/-- The copy stays what it is while the bindings do. -/
theorem Copy.of_column {c : CryptoProvider} {w w' : RefreshWorld} {t : RefreshTask}
    (h : t.Copy c w)
    (hcol : w'.tokens.column EncryptedToken.binding t.tokenId =
      w.tokens.column EncryptedToken.binding t.tokenId) : t.Copy c w' := by
  rw [Copy] at h ⊢
  rw [hcol]
  exact h

end RefreshTask

namespace Refresh

/-- Every task knows its copy. -/
def Copies (c : CryptoProvider) (P : RefreshState) : Prop :=
  P.Holds (fun _ ↦ True) (RefreshTask.Copy c) fun _ _ ↦ True

variable {c : CryptoProvider} {P Q : RefreshState} {a : SweepAction}

/-- The bindings of all rows survive a step of a task. -/
theorem binding_of_effect {env : RefreshEnv} {tokenId : String} {w w' : RefreshWorld}
    {pc pc' : RefreshPc} (heff : pc.Effect c env tokenId w w' pc') (id : String) :
    w'.tokens.column EncryptedToken.binding id = w.tokens.column EncryptedToken.binding id :=
  heff.writes.column EncryptedToken.onlyRotated_binding
    (fun _ _ _ _ _ r ↦ r.binding_rotate _ _ _ _) id

/-- **A task knows its copy in every reachable state**: the step lemma. -/
theorem copies_step (h : Copies c P) (hstep : (system c).step P a = some Q) : Copies c Q := by
  rcases step_cases hstep with ⟨i, -, hadv⟩ | ⟨i, t, -, -, rfl⟩ | ⟨w', ps, hout, hps, rfl⟩
  · refine h.advance hadv (fun t w' t' ht hnext ↦ ⟨trivial, ?_⟩)
      (fun t w' t' j r ht hnext hne hr hcopy _ _ ↦ ?_)
      fun _ _ _ _ _ _ _ _ _ _ _ _ ↦ ⟨trivial, trivial⟩
    · obtain ⟨heff, hid, henv, -⟩ := RefreshTask.effect_of_step hnext
      have hcopy := h.each i t ht
      have hbind := binding_of_effect heff t.tokenId
      rw [RefreshTask.Copy] at hcopy ⊢
      rw [hid, henv, hbind]
      generalize t.pc = pc at heff hcopy
      generalize t'.pc = pc' at heff
      cases heff with
      | loaded row hrow => exact KeyedTable.column_of_find? hrow
      | locked | sent => exact hcopy
      | answered row refresh parsed sealed hseal => exact ⟨hcopy, hseal⟩
      | condemned hpc howes status hne => exact hne
      | skipped | left | loadedBare | bumped | apLocked | orphaned => trivial
      | marked | rotated | rotatedBare | pushed | flagged | flagFailed | apLoaded => trivial
      | apLoadedBare | apPushed | apPushFailed | cleared | unlocked | released => trivial
    · obtain ⟨heff, -, -, -⟩ := RefreshTask.effect_of_step hnext
      exact hcopy.of_column (binding_of_effect heff r.tokenId)
  · exact h.kill trivial fun _ _ _ ↦ ⟨trivial, trivial⟩
  · refine h.spawn trivial (fun j r _ hcopy ↦ ?_) (fun t ht ↦ ?_)
      (fun _ _ _ _ _ ↦ ⟨trivial, trivial⟩) fun _ _ _ _ _ _ _ ↦ trivial
    · exact hcopy.of_column (hout.column EncryptedToken.onlyRotated_binding r.tokenId)
    · rw [RefreshTask.Copy]
      rcases hps t ht with hpc | hpc <;> rw [hpc] <;> trivial

theorem copies_initial (w : RefreshWorld) : Copies c (initial w) :=
  ⟨trivial, fun _ _ h ↦ absurd h (by simp [initial]), fun _ _ _ _ _ _ _ ↦ trivial⟩

end Refresh

end Siyadah
