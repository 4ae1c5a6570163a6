import SiyadahOrchestrator.Refresh.Lock

/-!
# Single flight

At most one provider call is in flight for a row, and a refresh token that a rotation has replaced
is not sent again. The first is the mutex; the second is about what the holder of the mutex sends,
which is its copy of the row, and the copy is loaded *before* the mutex is taken.

`Current` is the invariant of the stores: no refresh column carries a replaced token. A task inside
its section keeps the column it has loaded (`Fresh`), so what it sends is current.

Three things break the law, and `FlightSafe` excludes them in the state before the step:

* a holder that overstays its mutex (`Punctual`);
* a worker that finds the mutex free after another has rotated the row, and goes on with its old
  copy. `_retry_ap_only` loads after the lock; `_refresh_one_token` does not;
* a provider that issues a replaced refresh token again.
-/

namespace Siyadah

/-- No `sent` comes after a `replaced` of the same token; the newest event is first. -/
def NoResend : List RefreshEvent → Prop
  | [] => True
  | .sent tokenId refresh :: events => .replaced tokenId refresh ∉ events ∧ NoResend events
  | .replaced _ _ :: events => NoResend events
  | .pushed _ _ _ :: events => NoResend events

instance NoResend.instDecidable : ∀ events, Decidable (NoResend events)
  | [] => .isTrue trivial
  | .sent tokenId refresh :: events =>
    have := NoResend.instDecidable events
    inferInstanceAs (Decidable (.replaced tokenId refresh ∉ events ∧ NoResend events))
  | .replaced _ _ :: events => NoResend.instDecidable events
  | .pushed _ _ _ :: events => NoResend.instDecidable events

/-- Rotations do not send. -/
theorem NoResend.append_replaced {events : List RefreshEvent} (h : NoResend events)
    (tokenId : String) (tokens : List String) :
    NoResend (tokens.map (.replaced tokenId) ++ events) := by
  induction tokens with
  | nil => exact h
  | cons token tokens ih => exact ih

namespace RefreshPc

/-- The copy of the row with which the task is about to try the mutex. -/
def trying : RefreshPc → Option EncryptedToken
  | lock loaded => some loaded
  | _ => none

/-- The answer that the task is about to store. -/
def storing : RefreshPc → Option ParsedTokenResponse
  | rotate _ parsed _ _ => some parsed
  | _ => none

end RefreshPc

namespace RefreshTask

theorem inSection_of_inFlight {t : RefreshTask} (h : t.pc.inFlight = true) :
    t.pc.inSection = true := by
  rcases hpc : t.pc <;> rw [hpc] at h <;> first | rfl | exact absurd h Bool.false_ne_true

/-- A task that finds the mutex free has a copy that is still current. -/
def CopyCurrent (w : RefreshWorld) (t : RefreshTask) : Prop :=
  ∀ loaded ∈ t.pc.trying, t.env.lock = .answered → w.acquire t.tokenId ≠ none →
    ∀ r ∈ w.tokens.find? t.tokenId, r.encryptedRefreshToken = loaded.encryptedRefreshToken

/-- The provider has not issued a replaced refresh token. -/
def AnswerNew (w : RefreshWorld) (t : RefreshTask) : Prop :=
  ∀ parsed ∈ t.pc.storing, ∀ next ∈ truthy parsed.refreshToken, .replaced t.tokenId next ∉ w.history

instance (w : RefreshWorld) (t : RefreshTask) : Decidable (CopyCurrent w t) :=
  have : Decidable (w.acquire t.tokenId ≠ none) :=
    decidable_of_iff ((w.acquire t.tokenId).isSome = true) Option.isSome_iff_ne_none
  inferInstanceAs (Decidable (∀ loaded ∈ t.pc.trying, _))

instance (w : RefreshWorld) (t : RefreshTask) : Decidable (AnswerNew w t) :=
  inferInstanceAs (Decidable (∀ parsed ∈ t.pc.storing, _))

/-- A task inside the section of a full refresh still finds the refresh column it has loaded. -/
def Fresh (w : RefreshWorld) (t : RefreshTask) : Prop :=
  match t.pc with
  | .decrypt row | .awaitProvider row _ | .rotate row _ _ _ =>
    w.tokens.column EncryptedToken.encryptedRefreshToken t.tokenId = some row.encryptedRefreshToken
  | _ => True

theorem Fresh.of_column {w w' : RefreshWorld} {t : RefreshTask} (h : t.Fresh w)
    (hcol : t.pc.inSection = true →
      w'.tokens.column EncryptedToken.encryptedRefreshToken t.tokenId =
        w.tokens.column EncryptedToken.encryptedRefreshToken t.tokenId) : t.Fresh w' := by
  rw [Fresh] at h ⊢
  split
  · rename_i hpc
    rw [hpc] at h hcol
    exact (hcol rfl).trans h
  · rename_i hpc
    rw [hpc] at h hcol
    exact (hcol rfl).trans h
  · rename_i hpc
    rw [hpc] at h hcol
    exact (hcol rfl).trans h
  · trivial

end RefreshTask

theorem onlyRotated_encryptedRefreshToken : OnlyRotated EncryptedToken.encryptedRefreshToken :=
  ⟨fun _ _ ↦ rfl, fun _ _ ↦ rfl, fun _ _ ↦ rfl, fun _ _ ↦ rfl⟩

namespace RefreshWorld

/-- Nothing has been sent after its replacement, and no column carries a replaced token. -/
structure Current (c : CryptoProvider) (w : RefreshWorld) : Prop where
  noResend : NoResend w.history
  column : ∀ id ct token, w.tokens.column EncryptedToken.encryptedRefreshToken id = some (some ct) →
    c.Carries ct token → .replaced id token ∉ w.history

variable {c : CryptoProvider} {w w' : RefreshWorld} {tokenId : String} {row : EncryptedToken}

/-- A step that writes neither the history nor a refresh column. -/
theorem Current.of_column (h : Current c w) (hhistory : w'.history = w.history)
    (hcol : ∀ id, w'.tokens.column EncryptedToken.encryptedRefreshToken id =
      w.tokens.column EncryptedToken.encryptedRefreshToken id) : Current c w' := by
  refine ⟨hhistory ▸ h.noResend, fun id ct token hct hcarries ↦ ?_⟩
  rw [hhistory]
  exact h.column id ct token ((hcol id).symm.trans hct) hcarries

theorem Current.pushAp (h : Current c w) (outcome : PushOutcome) (tokenId ext access : String) :
    Current c (w.pushAp outcome tokenId ext access) := by
  cases outcome with
  | notSent => exact ⟨h.noResend, h.column⟩
  | accepted | lost | rejected =>
    refine ⟨h.noResend, fun id ct token hct hcarries hmem ↦ ?_⟩
    rcases List.mem_cons.1 hmem with heq | hold
    · exact absurd heq (by simp)
    · exact h.column id ct token hct hcarries hold

/-- **What a fresh copy sends has not been replaced.** -/
theorem Current.send (h : Current c w) {refresh : String}
    (hcol : w.tokens.column EncryptedToken.encryptedRefreshToken tokenId =
      some row.encryptedRefreshToken)
    (hdec : c.decryptRefresh row = .ok refresh) : Current c (w.send tokenId refresh) := by
  obtain ⟨ct, hct, hcarries⟩ := c.carries_of_decryptRefresh hdec
  rw [hct] at hcol
  refine ⟨⟨h.column tokenId ct refresh hcol hcarries, h.noResend⟩,
    fun id ct' token hct' hcarries' hmem ↦ ?_⟩
  rcases List.mem_cons.1 hmem with heq | hold
  · exact absurd heq (by simp)
  · exact h.column id ct' token hct' hcarries' hold

/-- The token a rotation replaces is not the one it stores. -/
theorem ne_of_mem_replacedBy {loaded : EncryptedToken} {parsed : ParsedTokenResponse}
    {refresh : String} (h : refresh ∈ replacedBy c loaded parsed) :
    ∃ next, truthy parsed.refreshToken = some next ∧ next ≠ refresh := by
  rw [replacedBy] at h
  split at h
  · rename_i sent next _ hnext
    split at h
    · exact absurd h (by simp)
    · rename_i hne
      obtain rfl := Option.some.inj h
      exact ⟨next, hnext, hne⟩
  · exact absurd h (by simp)

/-- **A rotation from a fresh copy leaves no replaced token in a column.** With a new refresh token,
the column carries that one; without, it carries what it has carried. -/
theorem Current.rotate (h : Current c w) {parsed : ParsedTokenResponse} {sealed : SealedTokens}
    {sealedAt : Time} {rand : SealRandomness} {aad : Bytes}
    (hseal : c.sealTokens rand aad parsed = .ok sealed)
    (hcol : w.tokens.column EncryptedToken.encryptedRefreshToken tokenId =
      some row.encryptedRefreshToken)
    (hnew : ∀ next ∈ truthy parsed.refreshToken, .replaced tokenId next ∉ w.history) :
    Current c (w.rotate c tokenId row parsed sealed sealedAt) := by
  refine ⟨h.noResend.append_replaced tokenId _, fun id ct token hct hcarries hmem ↦ ?_⟩
  have hmem' : (∃ refresh ∈ replacedBy c row parsed, tokenId = id ∧ refresh = token) ∨
      .replaced id token ∈ w.history := by
    rcases List.mem_append.1 hmem with hrep | hold
    · obtain ⟨refresh, hrefresh, heq⟩ := List.mem_map.1 hrep
      obtain ⟨rfl, rfl⟩ := RefreshEvent.replaced.inj heq
      exact .inl ⟨refresh, Option.mem_toList.1 hrefresh, rfl, rfl⟩
    · exact .inr hold
  rcases eq_or_ne id tokenId with rfl | hne
  · obtain ⟨r, hr, -⟩ := KeyedTable.column_eq_some_iff.1 hcol
    have hfind : (w.rotate c id row parsed sealed sealedAt).tokens.find? id =
        some (r.rotate row parsed sealed sealedAt) := by
      have hrot := TokenTable.find?_rotate w.tokens id row parsed sealed sealedAt id
      rw [if_pos rfl, hr] at hrot
      exact hrot
    have hval := KeyedTable.proj_eq_of_column hct hfind
    have hcarry := c.carries_of_sealTokens hseal
    rcases htr : truthy parsed.refreshToken with - | next
    · -- The old ciphertext is written back.
      rw [htr] at hcarry
      have hnone : sealed.refresh = none := hcarry
      have hct' : row.encryptedRefreshToken = some ct := by
        rw [← hval, EncryptedToken.rotate, hnone]
      rw [hct'] at hcol
      rcases hmem' with ⟨refresh, hrefresh, -, -⟩ | hold
      · obtain ⟨next, hnext, -⟩ := ne_of_mem_replacedBy hrefresh
        exact absurd (htr.symm.trans hnext) (by simp)
      · exact h.column id ct token hcol hcarries hold
    · rw [htr] at hcarry
      obtain ⟨s, hs, hnext⟩ := hcarry
      have hct' : s.ciphertext = ct := by
        rw [EncryptedToken.rotate, hs] at hval
        exact Option.some.inj hval
      obtain rfl := hcarries.unique (hct' ▸ hnext)
      rcases hmem' with ⟨refresh, hrefresh, -, rfl⟩ | hold
      · obtain ⟨next, hnext', hne⟩ := ne_of_mem_replacedBy hrefresh
        exact hne (Option.some.inj (hnext'.symm.trans htr))
      · exact hnew token htr hold
  · have hcol' : (w.rotate c tokenId row parsed sealed sealedAt).tokens.column
        EncryptedToken.encryptedRefreshToken id =
          w.tokens.column EncryptedToken.encryptedRefreshToken id :=
      (RefreshPc.Writes.rotation row parsed sealed sealedAt).column_of_ne hne
    rcases hmem' with ⟨refresh, -, hid, -⟩ | hold
    · exact hne hid.symm
    · exact h.column id ct token (hcol'.symm.trans hct) hcarries hold

end RefreshWorld

namespace Refresh

/-- The step does not break the law. -/
def FlightSafe (P : RefreshState) (a : SweepAction) : Prop :=
  Punctual P a ∧
    match a with
    | .step i => ∀ t ∈ P.procs[i]?, t.CopyCurrent P.store ∧ t.AnswerNew P.store
    | _ => True

instance (P : RefreshState) : ∀ a, Decidable (FlightSafe P a)
  | .step i => inferInstanceAs (Decidable (Punctual P (.step i) ∧
      ∀ t ∈ P.procs[i]?, t.CopyCurrent P.store ∧ t.AnswerNew P.store))
  | .tick elapsed => inferInstanceAs (Decidable (Punctual P (.tick elapsed) ∧ True))
  | .sweep limit skip env => inferInstanceAs (Decidable (Punctual P (.sweep limit skip env) ∧ True))
  | .crash i => inferInstanceAs (Decidable (Punctual P (.crash i) ∧ True))
  | .revokeSlackTeam teamId =>
    inferInstanceAs (Decidable (Punctual P (.revokeSlackTeam teamId) ∧ True))
  | .revokeGoogleUser googleSub =>
    inferInstanceAs (Decidable (Punctual P (.revokeGoogleUser googleSub) ∧ True))

/-- The law: calls in flight are for different rows, and no token is sent after its replacement. -/
structure SingleFlight (P : RefreshState) : Prop where
  alone : ∀ (i j : ℕ) t t', i ≠ j → P.procs[i]? = some t → P.procs[j]? = some t' →
    t.pc.inFlight = true → t'.pc.inFlight = true → t.tokenId ≠ t'.tokenId
  noResend : NoResend P.store.history

/-- The invariant behind it. -/
structure FlightInv (c : CryptoProvider) (P : RefreshState) : Prop where
  copies : Copies c P
  exclusive : Exclusive P
  current : P.Holds (RefreshWorld.Current c) RefreshTask.Fresh fun _ _ ↦ True

variable {c : CryptoProvider} {P Q : RefreshState} {a : SweepAction}

theorem FlightInv.singleFlight (h : FlightInv c P) : SingleFlight P :=
  ⟨fun _ _ _ _ hne ht ht' hin hin' ↦ h.exclusive.apart hne ht ht'
      (RefreshTask.inSection_of_inFlight hin) (RefreshTask.inSection_of_inFlight hin'),
    h.current.store.noResend⟩

/-- The stores after a step of a task that respects the law. -/
theorem current_of_effect {w w' : RefreshWorld} {t : RefreshTask} {pc' : RefreshPc}
    (heff : t.pc.Effect c t.env t.tokenId w w' pc') (h : RefreshWorld.Current c w)
    (hcopy : t.Copy c w) (hfresh : t.Fresh w) (hnew : t.AnswerNew w) :
    RefreshWorld.Current c w' := by
  have hwrites := heff.writes
  have hquiet : (∀ row parsed sealed sealedAt, t.pc ≠ .rotate row parsed sealed sealedAt) →
      w'.history = w.history → RefreshWorld.Current c w' := fun hrot hhistory ↦
    h.of_column hhistory fun id ↦ hwrites.column_of_not_rotate onlyRotated_encryptedRefreshToken
      fun row parsed sealed sealedAt hpc ↦ absurd hpc (hrot row parsed sealed sealedAt)
  rw [RefreshTask.Copy] at hcopy
  rw [RefreshTask.Fresh] at hfresh
  rw [RefreshTask.AnswerNew] at hnew
  generalize t.pc = pc at *
  cases heff with
  | skipped | left | condemned => exact h
  | loaded | loadedBare | answered | flagFailed | apLoaded | apLoadedBare => exact h
  | bumped => exact hquiet (fun _ _ _ _ hpc ↦ RefreshPc.noConfusion hpc) rfl
  | locked row w' _ hacq | apLocked w' hacq =>
    obtain ⟨redis, -, rfl⟩ := Option.map_eq_some_iff.1 hacq
    exact h.of_column rfl fun _ ↦ rfl
  | orphaned hpc w' hacq =>
    obtain ⟨redis, -, rfl⟩ := Option.map_eq_some_iff.1 hacq
    exact h.of_column rfl fun _ ↦ rfl
  | sent row refresh hdec => exact h.send hfresh hdec
  | marked status w' _ hmark =>
    obtain ⟨tokens, -, rfl⟩ := Option.map_eq_some_iff.1 hmark
    exact hquiet (fun _ _ _ _ hpc ↦ RefreshPc.noConfusion hpc) rfl
  | rotated | rotatedBare => exact h.rotate hcopy.2 hfresh (hnew _ rfl)
  | pushed | apPushed | apPushFailed => exact h.pushAp _ _ _ _
  | flagged | cleared => exact hquiet (fun _ _ _ _ hpc ↦ RefreshPc.noConfusion hpc) rfl
  | unlocked => split <;> exact h.of_column rfl fun _ ↦ rfl
  | released => exact hquiet (fun _ _ _ _ hpc ↦ RefreshPc.noConfusion hpc) (by split <;> rfl)

/-- The copy of the stepping task after its step. -/
theorem fresh_of_effect {w w' : RefreshWorld} {t t' : RefreshTask}
    (heff : t.pc.Effect c t.env t.tokenId w w' t'.pc) (hid : t'.tokenId = t.tokenId)
    (hcopy : t.Copy c w) (hfresh : t.Fresh w) (hcur : t.CopyCurrent w) : t'.Fresh w' := by
  rw [RefreshTask.Fresh, hid]
  rw [RefreshTask.Copy] at hcopy
  rw [RefreshTask.Fresh] at hfresh
  rw [RefreshTask.CopyCurrent] at hcur
  generalize t.pc = pc at *
  generalize t'.pc = pc' at *
  cases heff with
  | locked row w' hlock hacq =>
    -- The row has been loaded before, so it is still there, and its column has not moved.
    obtain ⟨r, hr, -⟩ := KeyedTable.column_eq_some_iff.1 hcopy
    have hsame := hcur row rfl hlock (by rw [hacq]; exact Option.some_ne_none _) r hr
    obtain ⟨redis, -, rfl⟩ := Option.map_eq_some_iff.1 hacq
    exact (KeyedTable.column_of_find? hr).trans (congrArg some hsame)
  | sent => exact hfresh
  | answered => exact hfresh
  | skipped | left | loaded | loadedBare | bumped | apLocked | orphaned | condemned => trivial
  | marked | rotated | rotatedBare | pushed | flagged | flagFailed | apLoaded => trivial
  | apLoadedBare | apPushed | apPushFailed | cleared | unlocked | released => trivial

/-- **The step lemma.** -/
theorem flightInv_step (h : FlightInv c P) (hsafe : FlightSafe P a)
    (hstep : (system c).step P a = some Q) : FlightInv c Q := by
  refine ⟨copies_step h.copies hstep, exclusive_step h.exclusive hsafe.1 hstep, ?_⟩
  rcases step_cases hstep with ⟨i, rfl, hadv⟩ | ⟨i, t, -, -, rfl⟩ | ⟨w', ps, hout, hps, rfl⟩
  · refine h.current.advance hadv (fun t w' t' ht hnext ↦ ?_)
      (fun t w' t' j r ht hnext hne hr hfresh _ _ ↦ ?_)
      fun _ _ _ _ _ _ _ _ _ _ _ _ ↦ ⟨trivial, trivial⟩
    · obtain ⟨heff, hid, -, -⟩ := RefreshTask.effect_of_step hnext
      obtain ⟨hcur, hnew⟩ := hsafe.2 t ht
      have hcopy := h.copies.each i t ht
      have hfresh := h.current.each i t ht
      exact ⟨current_of_effect heff h.current.store hcopy hfresh hnew,
        fresh_of_effect heff hid hcopy hfresh hcur⟩
    · obtain ⟨heff, -, -, -⟩ := RefreshTask.effect_of_step hnext
      refine hfresh.of_column fun hin ↦ heff.writes.column_of_not_rotate
        onlyRotated_encryptedRefreshToken fun row parsed sealed sealedAt hpc ↦ ?_
      have hin' : t.pc.inSection = true := by rw [hpc]; rfl
      exact h.exclusive.apart hne hr ht hin hin'
  · exact h.current.kill trivial fun _ _ _ ↦ ⟨trivial, trivial⟩
  · have hcol := fun id ↦ hout.column onlyRotated_encryptedRefreshToken id
    have hhistory : w'.history = P.store.history := by cases hout <;> rfl
    refine h.current.spawn (h.current.store.of_column hhistory hcol)
      (fun j r _ hfresh ↦ hfresh.of_column fun _ ↦ hcol r.tokenId) (fun t ht ↦ ?_)
      (fun _ _ _ _ _ ↦ ⟨trivial, trivial⟩) fun _ _ _ _ _ _ _ ↦ trivial
    rw [RefreshTask.Fresh]
    rcases hps t ht with hpc | hpc <;> rw [hpc] <;> trivial

theorem flightInv_initial (w : RefreshWorld) : FlightInv c (initial w) :=
  ⟨copies_initial w, exclusive_initial w,
    ⟨⟨trivial, fun _ _ _ _ _ ↦ List.not_mem_nil⟩, fun _ _ h ↦ absurd h (by simp [initial]),
      fun _ _ _ _ _ _ _ ↦ trivial⟩⟩

/-- **Single flight.** In every run, over any stores, in which no holder overstays its mutex while
another task tries it, no worker enters with an outdated copy, and the provider issues no replaced
token again: no two provider calls for one row are in flight, and no replaced token is sent. -/
theorem single_flight {w : RefreshWorld} {as : List SweepAction}
    (hrun : (system c).run (initial w) as = some P)
    (hsafe : (system c).Meets FlightSafe (initial w) as) : SingleFlight P :=
  (TransitionSystem.invariant_of_run (fun _ _ _ ↦ flightInv_step) (flightInv_initial w) hsafe
    hrun).singleFlight

/-! ### Concrete schedules -/

section Example

/-- Two passes, twelve hours apart, each to its end. -/
def twoPasses : List SweepAction :=
  demoSweep 2 :: List.replicate 9 (.step 0) ++ .tick (43200 * 1000000) :: demoSweep 3 ::
    List.replicate 9 (.step 1)

/-- The first worker loads the row and stalls; the second refreshes it; the first goes on. -/
def staleCopy : List SweepAction :=
  [demoSweep 2, .step 0, .tick (301 * 1000000), demoSweep 3] ++ List.replicate 9 (.step 1) ++
    List.replicate 2 (.step 0)

/-- The first worker's provider call outlives its mutex and its lease. -/
def slowProvider : List SweepAction :=
  [demoSweep 2] ++ List.replicate 3 (.step 0) ++ [.tick (301 * 1000000), demoSweep 3] ++
    List.replicate 3 (.step 1)

/-- Two passes obey the law, and rotate the row twice. -/
theorem single_flight_example :
    ∃ P, (system framedProvider).run (initial demoWorld) twoPasses = some P ∧ SingleFlight P ∧
      .replaced "r1" "xoxe-2" ∈ P.store.history := by
  have hsome : ((system framedProvider).run (initial demoWorld) twoPasses).any (fun P ↦
      .replaced "r1" "xoxe-2" ∈ P.store.history) = true := by decide +kernel
  obtain ⟨P, hrun, hP⟩ := (Option.any_eq_true _ _).1 hsome
  have hsafe : (system framedProvider).Meets FlightSafe (initial demoWorld) twoPasses := by
    decide +kernel
  exact ⟨P, hrun, single_flight hrun hsafe, of_decide_eq_true hP⟩

/-- **Two schedules break the law.** A worker that has loaded the row before another one refreshed
it sends the replaced refresh token; and a call that outlives its mutex is in flight together with
another one. -/
theorem slow_worker_breaks_single_flight :
    (∃ P, (system framedProvider).run (initial demoWorld) staleCopy = some P ∧
        ¬ NoResend P.store.history ∧ ¬ SingleFlight P) ∧
      ∃ P, (system framedProvider).run (initial demoWorld) slowProvider = some P ∧
        (∃ t t', P.procs[0]? = some t ∧ P.procs[1]? = some t' ∧ t.pc.inFlight = true ∧
          t'.pc.inFlight = true ∧ t.tokenId = t'.tokenId) ∧ ¬ SingleFlight P := by
  constructor
  · have hsome : ((system framedProvider).run (initial demoWorld) staleCopy).any (fun P ↦
        ¬ NoResend P.store.history) = true := by decide +kernel
    obtain ⟨P, hrun, hP⟩ := (Option.any_eq_true _ _).1 hsome
    have hresend : ¬ NoResend P.store.history := of_decide_eq_true hP
    exact ⟨P, hrun, hresend, fun h ↦ hresend h.noResend⟩
  · have hsome : ((system framedProvider).run (initial demoWorld) slowProvider).any (fun P ↦
        ∃ t ∈ P.procs[0]?, ∃ t' ∈ P.procs[1]?, t.pc.inFlight = true ∧ t'.pc.inFlight = true ∧
          t.tokenId = t'.tokenId) = true := by decide +kernel
    obtain ⟨P, hrun, hP⟩ := (Option.any_eq_true _ _).1 hsome
    obtain ⟨t, ht, t', ht', hin, hin', hid⟩ := of_decide_eq_true hP
    exact ⟨P, hrun, ⟨t, t', ht, ht', hin, hin', hid⟩,
      fun h ↦ h.alone 0 1 t t' (by decide) ht ht' hin hin' hid⟩

end Example

end Refresh

end Siyadah
