import SiyadahOrchestrator.Refresh.Effects

/-!
# The mutex of a row

`oauth:refresh:lock:{id}` is taken with `SET … NX EX 300` and given back with a `DEL` that does not
ask whose it is. It excludes a second task as long as it is in the store, and it leaves the store
after 300 seconds whether or not its holder has finished.

`Exclusive` says that no two tasks are inside the section of one row, and carries what makes it
inductive: a holder whose time is not up still has its key. `Punctual` is the condition under which
it is kept, and it is about the slow holder: nobody tries the mutex of a row in whose section
another task has stayed for 300 seconds or more. The lease of `_claim_due_tokens` does not help: it
runs out after the same 300 seconds, and is released without asking as well.
-/

namespace Siyadah

namespace RefreshPc

variable {c : CryptoProvider} {env : RefreshEnv} {tokenId : String} {w w' : RefreshWorld}
  {pc pc' : RefreshPc}

/-- What a step does to the mutex: nothing, and then the section is entered by nobody; a `SET … NX`
that finds the key free; or the `DEL` of a task inside. -/
theorem Effect.mutex (heff : Effect c env tokenId w pc w' pc') :
    w'.now = w.now ∧
      ((w'.redis = w.redis ∧
          (pc'.inSection = true → pc.inSection = true ∧ pc.locks = false)) ∨
        (pc.locks = true ∧ w.acquire tokenId = some w') ∨
        (pc.inSection = true ∧ pc'.inSection = false ∧
          w'.redis = w.redis.delete (lockKey tokenId))) := by
  have hlocks : ∀ {pc : RefreshPc}, pc.inSection = true → pc.locks = false := fun {pc} h ↦ by
    cases pc <;> first | rfl | exact absurd h Bool.false_ne_true
  have hacquire : ∀ {w₁}, w.acquire tokenId = some w₁ → w₁.now = w.now := fun h ↦ by
    obtain ⟨redis, -, rfl⟩ := Option.map_eq_some_iff.1 h
    rfl
  cases heff with
  | skipped | loaded | loadedBare | bumped =>
    exact ⟨rfl, .inl ⟨rfl, fun h ↦ absurd h Bool.false_ne_true⟩⟩
  | left hpc | condemned hpc => exact ⟨rfl, .inl ⟨rfl, fun _ ↦ ⟨hpc, hlocks hpc⟩⟩⟩
  | locked row w' hlock h | apLocked w' h => exact ⟨hacquire h, .inr (.inl ⟨rfl, h⟩)⟩
  | orphaned hpc w' h => exact ⟨hacquire h, .inr (.inl ⟨hpc, h⟩)⟩
  | sent | answered | rotated | rotatedBare | pushed | flagged | flagFailed =>
    exact ⟨rfl, .inl ⟨rfl, fun _ ↦ ⟨rfl, rfl⟩⟩⟩
  | apLoaded | apLoadedBare | apPushed | apPushFailed | cleared =>
    exact ⟨rfl, .inl ⟨rfl, fun _ ↦ ⟨rfl, rfl⟩⟩⟩
  | marked status w' _ h =>
    obtain ⟨tokens, -, rfl⟩ := Option.map_eq_some_iff.1 h
    exact ⟨rfl, .inl ⟨rfl, fun _ ↦ ⟨rfl, rfl⟩⟩⟩
  | unlocked =>
    split
    · exact ⟨rfl, .inr (.inr ⟨rfl, rfl, rfl⟩)⟩
    · exact ⟨rfl, .inl ⟨rfl, fun h ↦ absurd h Bool.false_ne_true⟩⟩
  | released =>
    split <;> exact ⟨rfl, .inl ⟨rfl, fun h ↦ absurd h Bool.false_ne_true⟩⟩

end RefreshPc

namespace RefreshTask

/-- A task inside its section has overstayed its mutex, or its key is in the store. -/
def Guarded (w : RefreshWorld) (t : RefreshTask) : Prop :=
  t.pc.inSection = true → w.redis.Guards w.now (lockKey t.tokenId) "1" t.lockExpiry

/-- Two tasks are not inside the section of one row. -/
def Apart (t t' : RefreshTask) : Prop :=
  t.pc.inSection = true → t'.pc.inSection = true → t.tokenId ≠ t'.tokenId

end RefreshTask

namespace Refresh

/-- Nobody tries the mutex of a row in whose section another task has overstayed it. -/
def Punctual (P : RefreshState) : SweepAction → Prop
  | .step i => ∀ t ∈ P.procs[i]?, t.pc.locks = true → ∀ t' ∈ P.procs, t'.pc.inSection = true →
      t'.tokenId = t.tokenId → P.store.now < t'.lockExpiry
  | _ => True

instance (P : RefreshState) : ∀ a, Decidable (Punctual P a)
  | .step i => inferInstanceAs (Decidable (∀ t ∈ P.procs[i]?, _ → ∀ t' ∈ P.procs, _))
  | .tick _ | .sweep _ _ _ | .crash _ | .revokeSlackTeam _ | .revokeGoogleUser _ => .isTrue trivial

/-- No two tasks are inside the section of one row. -/
def Exclusive (P : RefreshState) : Prop :=
  P.Holds (fun _ ↦ True) RefreshTask.Guarded RefreshTask.Apart

variable {c : CryptoProvider} {P Q : RefreshState} {a : SweepAction}

theorem Exclusive.apart (h : Exclusive P) {i j : ℕ} {t t' : RefreshTask} (hne : i ≠ j)
    (ht : P.procs[i]? = some t) (ht' : P.procs[j]? = some t') (hin : t.pc.inSection = true)
    (hin' : t'.pc.inSection = true) : t.tokenId ≠ t'.tokenId :=
  h.pair i j t t' hne ht ht' hin hin'

/-- Nobody enters a section that somebody punctual is in. -/
theorem acquire_eq_none {w : RefreshWorld} {t : RefreshTask} (h : t.Guarded w)
    (hin : t.pc.inSection = true) (hlt : w.now < t.lockExpiry) : w.acquire t.tokenId = none := by
  rw [RefreshWorld.acquire, (h hin).setNx_eq_none hlt, Option.map_none]

/-- What the events outside do to the mutex: nothing, though time may pass. -/
theorem guarded_of_outside {w w' : RefreshWorld} {t : RefreshTask} (hout : w.Outside w')
    (h : t.Guarded w) : t.Guarded w' := by
  intro hin
  cases hout with
  | tick elapsed =>
    have hle : w.now ≤ w.now + elapsed := Int.le.intro elapsed rfl
    exact (h hin).mono hle
  | claim | revoke => exact h hin

/-- **Mutual exclusion**: the step lemma. -/
theorem exclusive_step (h : Exclusive P) (hpunctual : Punctual P a)
    (hstep : (system c).step P a = some Q) : Exclusive Q := by
  rcases step_cases hstep with ⟨i, rfl, hadv⟩ | ⟨i, t, -, -, rfl⟩ | ⟨w', ps, hout, hps, rfl⟩
  · refine h.advance hadv (fun t w' t' ht hnext ↦ ⟨trivial, fun hin ↦ ?_⟩)
      (fun t w' t' j r ht hnext hne hr hguard hapart _ hin ↦ ?_)
      (fun t w' t' j r ht hnext hne hr hguard hapart _ ↦ ?_)
    · obtain ⟨heff, hid, -, hat⟩ := RefreshTask.effect_of_step hnext
      obtain ⟨hnow, ⟨hredis, hsec⟩ | ⟨hlocks, hacq⟩ | ⟨-, hleft, -⟩⟩ := heff.mutex
      · obtain ⟨hin₀, hlocks⟩ := hsec hin
        have hexp : t'.lockExpiry = t.lockExpiry := by
          rw [RefreshTask.lockExpiry, hat, hlocks]
          rfl
        rw [hnow, hredis, hid, hexp]
        exact h.each i t ht hin₀
      · -- The key that has just been written carries the expiry that the task remembers.
        have hexp : t'.lockExpiry = P.store.now + seconds refreshLockTtl := by
          rw [RefreshTask.lockExpiry, hat, hlocks]
          rfl
        obtain ⟨redis, hset, rfl⟩ := Option.map_eq_some_iff.1 hacq
        rw [hid, hexp]
        exact ExpiringStore.Guards.of_setNx hset
      · exact absurd (hin.symm.trans hleft) (by decide)
    · obtain ⟨heff, -, -, -⟩ := RefreshTask.effect_of_step hnext
      obtain ⟨hnow, ⟨hredis, -⟩ | ⟨-, hacq⟩ | ⟨hin₀, -, hredis⟩⟩ := heff.mutex
      · rw [hnow, hredis]
        exact hguard hin
      · obtain ⟨redis, hset, rfl⟩ := Option.map_eq_some_iff.1 hacq
        exact (hguard hin).setNx hset
      · -- The `DEL` is harmless because its author is alone in its section.
        have hkey : lockKey r.tokenId ≠ lockKey t.tokenId := fun hk ↦
          hapart hin₀ hin (lockKey_injective hk.symm)
        rw [hnow, hredis]
        exact (hguard hin).delete hkey
    · obtain ⟨heff, hid, -, -⟩ := RefreshTask.effect_of_step hnext
      have hmain : t'.pc.inSection = true → r.pc.inSection = true → t.tokenId ≠ r.tokenId := by
        intro hin hinr
        obtain ⟨-, ⟨-, hsec⟩ | ⟨hlocks, hacq⟩ | ⟨-, hleft, -⟩⟩ := heff.mutex
        · exact hapart (hsec hin).1 hinr
        · intro hsame
          have hlt := hpunctual t ht hlocks r (List.mem_of_getElem? hr) hinr hsame.symm
          rw [hsame, acquire_eq_none hguard hinr hlt] at hacq
          exact absurd hacq (by simp)
        · exact absurd (hin.symm.trans hleft) (by decide)
      refine ⟨fun hin hinr ↦ ?_, fun hinr hin ↦ ?_⟩
      · rw [hid]
        exact hmain hin hinr
      · rw [hid]
        exact (hmain hin hinr).symm
  · refine h.kill (fun hin ↦ absurd hin Bool.false_ne_true) fun _ _ _ ↦ ⟨?_, ?_⟩
    · exact fun hin ↦ absurd hin Bool.false_ne_true
    · exact fun _ hin ↦ absurd hin Bool.false_ne_true
  · have hfresh : ∀ t ∈ ps, t.pc.inSection = false := fun t ht ↦ by
      rcases hps t ht with hpc | hpc <;> rw [hpc] <;> rfl
    have houtside : ∀ t ∈ ps, ¬ t.pc.inSection = true := fun t ht hin ↦
      absurd (hin.symm.trans (hfresh t ht)) (by decide)
    refine h.spawn trivial (fun _ _ _ hguard ↦ guarded_of_outside hout hguard)
      (fun t ht hin ↦ absurd hin (houtside t ht)) (fun _ _ t _ ht ↦ ⟨?_, ?_⟩)
      fun _ _ t _ _ ht _ ↦ ?_
    · exact fun _ hin ↦ absurd hin (houtside t ht)
    · exact fun hin ↦ absurd hin (houtside t ht)
    · exact fun hin ↦ absurd hin (houtside t (List.mem_of_getElem? ht))

theorem exclusive_initial (w : RefreshWorld) : Exclusive (initial w) :=
  ⟨trivial, fun _ _ h ↦ absurd h (by simp [initial]),
    fun _ _ _ _ _ h ↦ absurd h (by simp [initial])⟩

end Refresh

end Siyadah
