import SiyadahOrchestrator.Refresh.Lock

/-!
# Synchronisation with ActivePieces

A rotation writes the vault, then the connection, then `ap_sync_pending`; the three are separate
durable steps. A row whose connection lacks its access token (`Stale`) must be found again: by the
flag, or because it is due.

While a task stands between its rotation and its flag (`owesFlag`), the row is its responsibility;
the invariant says that every stale row is flagged, due, or somebody's responsibility. What a task
may rely on meanwhile (`SyncLocal`) is that nobody else rotates the row or writes its connection,
which is the mutex (`Exclusive`), and that no other row has the connection (`Linked.unique`).

The law breaks where a responsibility ends without the flag: a crash, or a failed write of the flag,
after the rotation. The flag starts out `false`, and nothing sets it before the rotation.
`SyncSafe` excludes exactly that, and holders that overstay their mutex.
-/

namespace Siyadah

namespace EncryptedToken

variable (c : CryptoProvider)

/-- The connection of a row and the access token it should have. -/
def view (r : EncryptedToken) : Option String × Except CryptoError String :=
  (truthy r.apConnectionExternalId, c.decryptAccess r)

/-- The connection of a row. -/
def link (r : EncryptedToken) : Option String := truthy r.apConnectionExternalId

/-- The row has a refresh token. -/
def hasRefresh (r : EncryptedToken) : Bool := r.encryptedRefreshToken.isSome

theorem onlyRotated_view : OnlyRotated (view c) :=
  ⟨fun _ _ ↦ rfl, fun _ _ ↦ rfl, fun _ _ ↦ rfl, fun _ _ ↦ rfl⟩

theorem onlyRotated_link : OnlyRotated link :=
  ⟨fun _ _ ↦ rfl, fun _ _ ↦ rfl, fun _ _ ↦ rfl, fun _ _ ↦ rfl⟩

theorem onlyRotated_hasRefresh : OnlyRotated hasRefresh :=
  ⟨fun _ _ ↦ rfl, fun _ _ ↦ rfl, fun _ _ ↦ rfl, fun _ _ ↦ rfl⟩

end EncryptedToken

/-- The connection lacks the access token. -/
def Behind (ap : String → Option String) : Option String × Except CryptoError String → Prop
  | (some ext, .ok access) => ap ext ≠ some access
  | _ => False

instance (ap : String → Option String) : ∀ v, Decidable (Behind ap v)
  | (some ext, .ok access) => inferInstanceAs (Decidable (ap ext ≠ some access))
  | (some _, .error _) => .isFalse id
  | (none, _) => .isFalse id

theorem behind_congr {ap ap' : String → Option String}
    {v : Option String × Except CryptoError String}
    (h : ∀ ext, v.1 = some ext → ap' ext = ap ext) : Behind ap' v ↔ Behind ap v := by
  rcases v with ⟨_ | ext, e | access⟩
  · exact Iff.rfl
  · exact Iff.rfl
  · exact Iff.rfl
  · rw [Behind, Behind, h ext rfl]

/-- The row's connection lacks the row's access token. -/
def EncryptedToken.Stale (c : CryptoProvider) (ap : String → Option String) (r : EncryptedToken) :
    Prop := Behind ap (r.view c)

instance (c : CryptoProvider) (ap : String → Option String) (r : EncryptedToken) :
    Decidable (r.Stale c ap) :=
  inferInstanceAs (Decidable (Behind ap _))

/-- The next sweep that finds the row unleased repairs it. -/
def EncryptedToken.Repairable (now : Time) (r : EncryptedToken) : Prop :=
  r.apSyncPending = true ∨ r.IsDue now

instance (now : Time) (r : EncryptedToken) : Decidable (r.Repairable now) :=
  inferInstanceAs (Decidable (_ ∨ _))

namespace RefreshWorld

variable (c : CryptoProvider) (w : RefreshWorld)

/-- The row, if it is `ACTIVE` and its connection is behind, will be repaired. -/
def Accounted (id : String) : Prop :=
  ∀ row ∈ w.tokens.find? id, row.status = .active → row.Stale c w.ap → row.Repairable w.now

instance (id : String) : Decidable (w.Accounted c id) :=
  inferInstanceAs (Decidable (∀ row ∈ w.tokens.find? id, _))

/-- A connection belongs to one row. -/
def LinksUnique : Prop :=
  ∀ id id' ext, w.tokens.column EncryptedToken.link id = some (some ext) →
    w.tokens.column EncryptedToken.link id' = some (some ext) → id = id'

/-- The row's connection has the row's access token. -/
def InSync (id : String) : Prop := ∀ v ∈ w.tokens.column (EncryptedToken.view c) id, ¬ Behind w.ap v

/-- Two worlds agree about the connection of a row and what it should have. -/
def SameView (id : String) (w w' : RefreshWorld) : Prop :=
  w'.tokens.column (EncryptedToken.view c) id = w.tokens.column (EncryptedToken.view c) id ∧
    ∀ ext, w.tokens.column EncryptedToken.link id = some (some ext) → w'.ap ext = w.ap ext

variable {c w} {w' : RefreshWorld} {id : String}

theorem link_of_view {v : Option String × Except CryptoError String}
    (h : w.tokens.column (EncryptedToken.view c) id = some v) :
    w.tokens.column EncryptedToken.link id = some v.1 := by
  obtain ⟨r, hr, rfl⟩ := KeyedTable.column_eq_some_iff.1 h
  exact KeyedTable.column_of_find? hr

theorem InSync.of_sameView (h : w.InSync c id) (hsame : SameView c id w w') : w'.InSync c id := by
  intro v hv hbehind
  have hv' : w.tokens.column (EncryptedToken.view c) id = some v := hsame.1.symm.trans hv
  refine h v hv' ((behind_congr fun ext hext ↦ hsame.2 ext ?_).1 hbehind)
  rw [link_of_view hv', hext]

/-- A connection that has accepted the row's access token is in sync. -/
theorem inSync_of_view {ext access : String}
    (hview : w.tokens.column (EncryptedToken.view c) id = some (some ext, .ok access))
    (hap : w.ap ext = some access) : w.InSync c id := by
  intro v hv hbehind
  obtain rfl := Option.some.inj (hview.symm.trans hv)
  exact hbehind hap

/-- A row without a connection is in sync. -/
theorem inSync_of_link_none (hlink : w.tokens.column EncryptedToken.link id = some none) :
    w.InSync c id := by
  intro v hv hbehind
  have hnone := Option.some.inj ((link_of_view hv).symm.trans hlink)
  rcases v with ⟨_ | ext, access⟩
  · exact hbehind
  · exact absurd hnone (by simp)

/-- A row in sync is not stale. -/
theorem InSync.not_stale (h : w.InSync c id) {r : EncryptedToken}
    (hr : w.tokens.find? id = some r) : ¬ r.Stale c w.ap :=
  h (r.view c) (KeyedTable.column_of_find? hr)

end RefreshWorld

namespace RefreshTask

/-- What a task relies on between its steps: whether its row has a refresh token, and what the
connection should have, or has. -/
def SyncLocal (c : CryptoProvider) (w : RefreshWorld) (t : RefreshTask) : Prop :=
  match t.pc with
  | .bump => w.tokens.column EncryptedToken.hasRefresh t.tokenId = some false
  | .lock row | .decrypt row | .awaitProvider row _ | .rotate row _ _ _ =>
    w.tokens.column EncryptedToken.hasRefresh t.tokenId = some true ∧ row.hasRefresh = true
  | .push ext access =>
    w.tokens.column EncryptedToken.hasRefresh t.tokenId = some true ∧
      w.tokens.column (EncryptedToken.view c) t.tokenId = some (some ext, .ok access)
  | .flag synced =>
    w.tokens.column EncryptedToken.hasRefresh t.tokenId = some true ∧
      (synced = true → w.InSync c t.tokenId)
  | .apPush ext access =>
    w.tokens.column (EncryptedToken.view c) t.tokenId = some (some ext, .ok access)
  | .clear _ => w.InSync c t.tokenId
  | _ => True

/-- The task's reliance survives what keeps the refresh column and, inside the section, the view. -/
theorem SyncLocal.of_same {c : CryptoProvider} {w w' : RefreshWorld} {t : RefreshTask}
    (h : t.SyncLocal c w)
    (hrefresh : w'.tokens.column EncryptedToken.hasRefresh t.tokenId =
      w.tokens.column EncryptedToken.hasRefresh t.tokenId)
    (hview : t.pc.inSection = true → RefreshWorld.SameView c t.tokenId w w') :
    t.SyncLocal c w' := by
  rw [SyncLocal] at h ⊢
  generalize t.pc = pc at *
  cases pc with
  | bump => exact hrefresh.trans h
  | lock | decrypt | awaitProvider | rotate => exact ⟨hrefresh.trans h.1, h.2⟩
  | push => exact ⟨hrefresh.trans h.1, (hview rfl).1.trans h.2⟩
  | flag => exact ⟨hrefresh.trans h.1, fun hsynced ↦ (h.2 hsynced).of_sameView (hview rfl)⟩
  | apPush => exact (hview rfl).1.trans h
  | clear => exact RefreshWorld.InSync.of_sameView h (hview rfl)
  | load | mark | apLock | apLoad | unlock | release | done | crashed => trivial

/-- Who owes a flag has a refresh token to repair the row with. -/
theorem SyncLocal.hasRefresh {c : CryptoProvider} {w : RefreshWorld} {t : RefreshTask}
    (h : t.SyncLocal c w) (howes : t.pc.owesFlag = true) :
    w.tokens.column EncryptedToken.hasRefresh t.tokenId = some true := by
  rw [SyncLocal] at h
  generalize t.pc = pc at *
  cases pc with
  | push | flag => exact h.1
  | load | bump | lock | decrypt | awaitProvider | mark | rotate | apLock | apLoad | apPush | clear
    | unlock | release | done | crashed => exact absurd howes Bool.false_ne_true

end RefreshTask

/-! ### What a step of a task does to the connections -/

namespace RefreshPc

/-- The task is about to write the flag. -/
def isFlag : RefreshPc → Bool
  | flag _ => true
  | _ => false

theorem owesFlag_of_inSection {pc : RefreshPc} (h : pc.inSection = false) :
    pc.owesFlag = false := by
  cases pc <;> first | rfl | exact absurd h.symm Bool.false_ne_true

theorem owesFlag_of_locks {pc : RefreshPc} (h : pc.locks = true) : pc.owesFlag = false := by
  cases pc <;> first | rfl | exact absurd h Bool.false_ne_true

variable {c : CryptoProvider} {env : RefreshEnv} {tokenId : String} {w w' : RefreshWorld}
  {pc pc' : RefreshPc}

/-- Connections are written by pushes. -/
theorem Effect.ap (heff : Effect c env tokenId w pc w' pc') :
    w'.ap = w.ap ∨ ∃ ext access, (pc = .push ext access ∨ pc = .apPush ext access) ∧
      w' = w.pushAp env.push tokenId ext access := by
  cases heff with
  | skipped | left | loaded | loadedBare | bumped | sent | condemned | answered => exact .inl rfl
  | rotated | rotatedBare | flagged | flagFailed | apLoaded | apLoadedBare | cleared =>
    exact .inl rfl
  | locked row w' _ h | apLocked w' h | orphaned _ w' h | marked status w' _ h =>
    obtain ⟨x, -, rfl⟩ := Option.map_eq_some_iff.1 h
    exact .inl rfl
  | pushed ext access => exact .inr ⟨ext, access, .inl rfl, rfl⟩
  | apPushed ext access | apPushFailed ext access => exact .inr ⟨ext, access, .inr rfl, rfl⟩
  | unlocked | released => split <;> exact .inl rfl

theorem Effect.now (heff : Effect c env tokenId w pc w' pc') : w'.now = w.now := heff.mutex.1

end RefreshPc

namespace RefreshWorld

theorem pushAp_of_ne {w : RefreshWorld} {outcome : PushOutcome} {tokenId ext access ext' : String}
    (hne : ext' ≠ ext) : (w.pushAp outcome tokenId ext access).ap ext' = w.ap ext' := by
  rw [pushAp]
  show (if outcome.applied then Function.update w.ap ext (some access) else w.ap) ext' = w.ap ext'
  split
  · exact Function.update_of_ne hne _ _
  · rfl

theorem pushAp_of_applied {w : RefreshWorld} {outcome : PushOutcome} {tokenId ext access : String}
    (h : outcome.applied = true) : (w.pushAp outcome tokenId ext access).ap ext = some access := by
  rw [pushAp]
  show (if outcome.applied then Function.update w.ap ext (some access) else w.ap) ext = some access
  rw [if_pos h, Function.update_self]

theorem pushAp_of_not_applied {w : RefreshWorld} {outcome : PushOutcome}
    {tokenId ext access : String} (h : outcome.applied = false) :
    (w.pushAp outcome tokenId ext access).ap = w.ap := by
  rw [pushAp]
  show (if outcome.applied then Function.update w.ap ext (some access) else w.ap) = w.ap
  rw [h]
  rfl

end RefreshWorld

namespace Refresh

variable {c : CryptoProvider}

section Effect

variable {w w' : RefreshWorld} {t : RefreshTask} {pc' : RefreshPc}

/-- The connections of all rows stay. -/
theorem link_of_effect (heff : t.pc.Effect c t.env t.tokenId w w' pc') (id : String) :
    w'.tokens.column EncryptedToken.link id = w.tokens.column EncryptedToken.link id :=
  heff.writes.column EncryptedToken.onlyRotated_link (fun _ _ _ _ _ _ ↦ rfl) id

/-- Whether a row has a refresh token never changes: a rotation needs one and leaves one. -/
theorem hasRefresh_of_effect (heff : t.pc.Effect c t.env t.tokenId w w' pc')
    (hlocal : t.SyncLocal c w) (id : String) :
    w'.tokens.column EncryptedToken.hasRefresh id =
      w.tokens.column EncryptedToken.hasRefresh id := by
  have hwrites := heff.writes
  rcases eq_or_ne id t.tokenId with rfl | hne
  · have hother : (∀ row parsed sealed sealedAt, t.pc ≠ .rotate row parsed sealed sealedAt) →
        w'.tokens.column EncryptedToken.hasRefresh t.tokenId =
          w.tokens.column EncryptedToken.hasRefresh t.tokenId := fun hrot ↦
      hwrites.column EncryptedToken.onlyRotated_hasRefresh
        (fun row parsed sealed sealedAt hpc ↦ absurd hpc (hrot row parsed sealed sealedAt))
        t.tokenId
    clear heff
    rw [RefreshTask.SyncLocal] at hlocal
    generalize t.pc = pc at *
    generalize w'.tokens = tokens at *
    cases hwrites with
    | rotation row parsed sealed sealedAt =>
      obtain ⟨hcol, hrow⟩ := hlocal
      obtain ⟨r, hr, -⟩ := KeyedTable.column_eq_some_iff.1 hcol
      have hfind := TokenTable.find?_rotate w.tokens t.tokenId row parsed sealed sealedAt
        t.tokenId
      rw [if_pos rfl, hr] at hfind
      have hsome : (r.rotate row parsed sealed sealedAt).hasRefresh = true := by
        rw [EncryptedToken.hasRefresh, EncryptedToken.rotate]
        rcases sealed.refresh with - | s
        · exact hrow
        · rfl
      exact (KeyedTable.column_of_find? hfind).trans ((congrArg some hsome).trans hcol.symm)
    | nothing => rfl
    | refreshAt | status | flag | clear | lease =>
      exact hother fun _ _ _ _ hpc ↦ RefreshPc.noConfusion hpc
  · exact hwrites.column_of_ne hne

/-- A step leaves the view of a row alone that is not its own, or not to be written now. -/
theorem sameView_of_effect (heff : t.pc.Effect c t.env t.tokenId w w' pc')
    (hunique : w.LinksUnique) (hlocal : t.SyncLocal c w) {id : String}
    (h : id ≠ t.tokenId ∨ t.pc.inSection = false) : RefreshWorld.SameView c id w w' := by
  refine ⟨heff.writes.column_of_not_rotate (EncryptedToken.onlyRotated_view c)
    fun row parsed sealed sealedAt hpc ↦ h.resolve_right ?_, fun ext hext ↦ ?_⟩
  · rw [hpc]
    exact fun hsec ↦ absurd hsec.symm Bool.false_ne_true
  · rcases heff.ap with hap | ⟨ext', access, hpc, rfl⟩
    · rw [hap]
    · have hne : id ≠ t.tokenId := h.resolve_right (by
        rcases hpc with hpc | hpc <;> rw [hpc] <;>
          exact fun hsec ↦ absurd hsec.symm Bool.false_ne_true)
      have hlink : w.tokens.column EncryptedToken.link t.tokenId = some (some ext') := by
        rw [RefreshTask.SyncLocal] at hlocal
        rcases hpc with hpc | hpc <;> rw [hpc] at hlocal
        · exact RefreshWorld.link_of_view hlocal.2
        · exact RefreshWorld.link_of_view hlocal
      refine RefreshWorld.pushAp_of_ne fun he ↦ hne (hunique id t.tokenId ext hext ?_)
      rw [hlink, he]

/-- What the stepping task relies on after its step. -/
theorem syncLocal_of_effect {t' : RefreshTask}
    (heff : t.pc.Effect c t.env t.tokenId w w' t'.pc) (hid : t'.tokenId = t.tokenId)
    (hcopy : t.Copy c w) (hlocal : t.SyncLocal c w) : t'.SyncLocal c w' := by
  have hrefresh := hasRefresh_of_effect heff hlocal t.tokenId
  have hlink := link_of_effect heff t.tokenId
  rw [RefreshTask.SyncLocal, hid]
  rw [RefreshTask.SyncLocal] at hlocal
  rw [RefreshTask.Copy] at hcopy
  generalize t.pc = pc at *
  generalize t'.pc = pc' at *
  cases heff with
  | loaded row hrow hactive hsome =>
    have hrow' : row.hasRefresh = true := Option.isSome_iff_ne_none.2 hsome
    exact ⟨(KeyedTable.column_of_find? hrow).trans (congrArg some hrow'), hrow'⟩
  | loadedBare row hrow hnone =>
    have hrow' : row.hasRefresh = false := by rw [EncryptedToken.hasRefresh, hnone]; rfl
    exact (KeyedTable.column_of_find? hrow).trans (congrArg some hrow')
  | locked | sent | answered => exact ⟨hrefresh.trans hlocal.1, hlocal.2⟩
  | rotated row parsed sealed sealedAt ext hext =>
    obtain ⟨hbind, hseal⟩ := hcopy
    obtain ⟨r, hr, hrow⟩ := KeyedTable.column_eq_some_iff.1 hbind
    obtain ⟨haad, hconn⟩ := Prod.mk.inj hrow
    have hfind := TokenTable.find?_rotate w.tokens t.tokenId row parsed sealed sealedAt
      t.tokenId
    rw [if_pos rfl, hr] at hfind
    -- The rotated row opens to the access token that is about to be pushed.
    have hopen : c.decryptAccess (r.rotate row parsed sealed sealedAt) = .ok parsed.accessToken :=
      decryptAccess_rotate (haad ▸ hseal)
    have hview : (r.rotate row parsed sealed sealedAt).view c =
        (some ext, .ok parsed.accessToken) := by
      rw [EncryptedToken.view, hopen, EncryptedToken.rotate_apConnectionExternalId, hconn, hext]
    exact ⟨hrefresh.trans hlocal.1, (KeyedTable.column_of_find? hfind).trans (congrArg some hview)⟩
  | rotatedBare row parsed sealed sealedAt hext =>
    obtain ⟨hbind, -⟩ := hcopy
    obtain ⟨r, hr, hrow⟩ := KeyedTable.column_eq_some_iff.1 hbind
    have hnone : r.link = none := by rw [EncryptedToken.link, (Prod.mk.inj hrow).2, hext]
    refine ⟨hrefresh.trans hlocal.1, fun _ ↦ RefreshWorld.inSync_of_link_none (hlink.trans ?_)⟩
    exact (KeyedTable.column_of_find? hr).trans (congrArg some hnone)
  | pushed ext access =>
    exact ⟨hrefresh.trans hlocal.1, fun hreturns ↦ RefreshWorld.inSync_of_view hlocal.2
      (RefreshWorld.pushAp_of_applied (PushOutcome.applied_of_returns hreturns))⟩
  | apLoaded row ext access hrow hactive hext hopen =>
    refine (KeyedTable.column_of_find? hrow).trans (congrArg some ?_)
    rw [EncryptedToken.view, hext, hopen]
  | apLoadedBare row action hrow hext =>
    exact RefreshWorld.inSync_of_link_none
      ((KeyedTable.column_of_find? hrow).trans (congrArg some hext))
  | apPushed ext access action hreturns =>
    exact RefreshWorld.inSync_of_view hlocal
      (RefreshWorld.pushAp_of_applied (PushOutcome.applied_of_returns hreturns))
  | skipped | left | bumped | apLocked | orphaned | condemned | marked | flagged | flagFailed
    | apPushFailed | cleared | unlocked | released => trivial

/-- **The row of the stepping task stays accounted for**, unless the flag is lost: the cases are
those in which the row is stale afterwards and the task does not owe the flag. `R` stands for the
responsibility of another task. -/
theorem accounted_of_effect {R : Prop} (heff : t.pc.Effect c t.env t.tokenId w w' pc')
    (hcopy : t.Copy c w) (hlocal : t.SyncLocal c w)
    (hlost : t.pc.isFlag = true → t.env.flags = false → w.Accounted c t.tokenId)
    (hold : ∀ row, w.tokens.find? t.tokenId = some row → row.status = .active →
      row.Stale c w.ap → t.pc.owesFlag = false →
        row.apSyncPending = true ∨ row.IsDue w.now ∧ row.hasRefresh = true ∨ R)
    (howes : pc'.owesFlag = false) {row' : EncryptedToken}
    (hrow' : w'.tokens.find? t.tokenId = some row') (hactive : row'.status = .active)
    (hstale : row'.Stale c w'.ap) :
    row'.apSyncPending = true ∨ row'.IsDue w'.now ∧ row'.hasRefresh = true ∨ R := by
  have hpushed : ∀ ext access outcome,
      w.tokens.column (EncryptedToken.view c) t.tokenId = some (some ext, .ok access) →
        w' = w.pushAp outcome t.tokenId ext access → t.pc.owesFlag = false →
          row'.apSyncPending = true ∨ row'.IsDue w'.now ∧ row'.hasRefresh = true ∨ R := by
    rintro ext access outcome hview rfl howed
    rcases happ : outcome.applied with - | -
    · rw [RefreshWorld.pushAp_of_not_applied happ] at hstale
      exact hold row' hrow' hactive hstale howed
    · have hsync : (w.pushAp outcome t.tokenId ext access).InSync c t.tokenId :=
        RefreshWorld.inSync_of_view hview (RefreshWorld.pushAp_of_applied happ)
      exact absurd hstale (hsync.not_stale hrow')
  have hflagged : ∀ b, w' = w.setApSyncPending t.tokenId b → w.InSync c t.tokenId → False := by
    rintro b rfl hsync
    have hfind := TokenTable.find?_setApSyncPending w.tokens t.tokenId b t.tokenId
    rw [if_pos rfl] at hfind
    obtain ⟨row, hrow, rfl⟩ := Option.map_eq_some_iff.1 (hfind.symm.trans hrow')
    exact hsync.not_stale hrow hstale
  have hrefresh := fun howed ↦ hlocal.hasRefresh howed
  rw [RefreshTask.SyncLocal] at hlocal
  rw [RefreshTask.Copy] at hcopy
  generalize t.pc = pc at *
  cases heff with
  | rotated | rotatedBare | pushed => exact absurd howes.symm Bool.false_ne_true
  | flagged synced action =>
    rcases synced with - | -
    · left
      have hfind := TokenTable.find?_setApSyncPending w.tokens t.tokenId true t.tokenId
      rw [if_pos rfl] at hfind
      obtain ⟨row, -, rfl⟩ := Option.map_eq_some_iff.1 (hfind.symm.trans hrow')
      rfl
    · exact (hflagged _ rfl (hlocal.2 rfl)).elim
  | flagFailed synced action hflags =>
    rcases hlost rfl hflags row' hrow' hactive hstale with hpending | hdue
    · exact .inl hpending
    · exact .inr (.inl ⟨hdue, KeyedTable.proj_eq_of_column (hrefresh rfl) hrow'⟩)
  | cleared => exact (hflagged _ rfl hlocal).elim
  | apPushed ext access | apPushFailed ext access => exact hpushed ext access _ hlocal rfl rfl
  | bumped =>
    have hfind := TokenTable.find?_setRefreshAt w.tokens t.tokenId (w.now + days 365) t.tokenId
    rw [if_pos rfl] at hfind
    obtain ⟨row, hrow, rfl⟩ := Option.map_eq_some_iff.1 (hfind.symm.trans hrow')
    rcases hold row hrow hactive hstale rfl with hpending | ⟨-, hsome⟩ | hR
    · exact .inl hpending
    · -- A row without a refresh token has never been rotated.
      have hnone : row.hasRefresh = false := KeyedTable.proj_eq_of_column hlocal hrow
      exact absurd (hnone.symm.trans hsome) Bool.false_ne_true
    · exact .inr (.inr hR)
  | marked status w' _ h =>
    obtain ⟨tokens, htok, rfl⟩ := Option.map_eq_some_iff.1 h
    have hfind := TokenTable.find?_setStatus htok t.tokenId
    rw [if_pos rfl] at hfind
    obtain ⟨row, -, rfl⟩ := Option.map_eq_some_iff.1 (hfind.symm.trans hrow')
    exact absurd hactive hcopy
  | released =>
    split at hrow'
    · rename_i hreleases
      rw [if_pos hreleases] at hstale ⊢
      have hfind := TokenTable.find?_releaseLease w.tokens t.tokenId t.tokenId
      rw [if_pos rfl] at hfind
      obtain ⟨row, hrow, rfl⟩ := Option.map_eq_some_iff.1 (hfind.symm.trans hrow')
      exact hold row hrow hactive hstale rfl
    · rename_i hreleases
      rw [if_neg hreleases] at hstale ⊢
      exact hold row' hrow' hactive hstale rfl
  | unlocked =>
    split at hrow'
    · rename_i hunlocks
      rw [if_pos hunlocks] at hstale ⊢
      exact hold row' hrow' hactive hstale rfl
    · rename_i hunlocks
      rw [if_neg hunlocks] at hstale ⊢
      exact hold row' hrow' hactive hstale rfl
  | locked row w' _ h | apLocked w' h =>
    obtain ⟨redis, -, rfl⟩ := Option.map_eq_some_iff.1 h
    exact hold row' hrow' hactive hstale rfl
  | orphaned hpc w' h =>
    obtain ⟨redis, -, rfl⟩ := Option.map_eq_some_iff.1 h
    exact hold row' hrow' hactive hstale (RefreshPc.owesFlag_of_locks hpc)
  | skipped hpc => exact hold row' hrow' hactive hstale (RefreshPc.owesFlag_of_inSection hpc)
  | left hpc howed | condemned hpc howed => exact hold row' hrow' hactive hstale howed
  | loaded | loadedBare | sent | answered | apLoaded | apLoadedBare =>
    exact hold row' hrow' hactive hstale rfl

end Effect

/-! ### The law and its invariant -/

/-- The step strands no connection: it is no crash and no lost flag between a rotation and the flag,
while the row is not accounted for; and no holder overstays its mutex. -/
def SyncSafe (c : CryptoProvider) (P : RefreshState) (a : SweepAction) : Prop :=
  Punctual P a ∧
    match a with
    | .crash i => ∀ t ∈ P.procs[i]?, t.pc.owesFlag = true → P.store.Accounted c t.tokenId
    | .step i => ∀ t ∈ P.procs[i]?, t.pc.isFlag = true → t.env.flags = false →
        P.store.Accounted c t.tokenId
    | _ => True

instance (P : RefreshState) : ∀ a, Decidable (SyncSafe c P a)
  | .crash i => inferInstanceAs (Decidable (Punctual P (.crash i) ∧
      ∀ t ∈ P.procs[i]?, t.pc.owesFlag = true → P.store.Accounted c t.tokenId))
  | .step i => inferInstanceAs (Decidable (Punctual P (.step i) ∧
      ∀ t ∈ P.procs[i]?, t.pc.isFlag = true → t.env.flags = false →
        P.store.Accounted c t.tokenId))
  | .tick elapsed => inferInstanceAs (Decidable (Punctual P (.tick elapsed) ∧ True))
  | .sweep limit skip env => inferInstanceAs (Decidable (Punctual P (.sweep limit skip env) ∧ True))
  | .revokeSlackTeam teamId =>
    inferInstanceAs (Decidable (Punctual P (.revokeSlackTeam teamId) ∧ True))
  | .revokeGoogleUser googleSub =>
    inferInstanceAs (Decidable (Punctual P (.revokeGoogleUser googleSub) ∧ True))

/-- **The law**: an `ACTIVE` row that nobody processes and whose connection lacks its access token
will be repaired. -/
def ApSynced (c : CryptoProvider) (P : RefreshState) : Prop :=
  ∀ row ∈ P.store.tokens.rows, row.status = .active → row.Stale c P.store.ap →
    (∀ t ∈ P.procs, t.tokenId = row.id → t.pc.isDone = true) → row.Repairable P.store.now

instance (P : RefreshState) : Decidable (ApSynced c P) :=
  inferInstanceAs (Decidable (∀ row ∈ P.store.tokens.rows, _))

/-- Stores from which the law is kept: a connection belongs to one row, and a row that is behind is
flagged, or due and refreshable. -/
structure SyncStart (c : CryptoProvider) (w : RefreshWorld) : Prop where
  unique : ∀ r ∈ w.tokens.rows, ∀ r' ∈ w.tokens.rows, r.link ≠ none → r.link = r'.link →
    r.id = r'.id
  accounted : ∀ r ∈ w.tokens.rows, r.status = .active → r.Stale c w.ap →
    r.apSyncPending = true ∨ r.IsDue w.now ∧ r.hasRefresh = true

/-- Some task owes the flag of the row. -/
def Responsible (P : RefreshState) (id : String) : Prop :=
  ∃ (i : ℕ) (t : RefreshTask), P.procs[i]? = some t ∧ t.tokenId = id ∧ t.pc.owesFlag = true

/-- The invariant behind the law. -/
structure SyncInv (c : CryptoProvider) (P : RefreshState) : Prop where
  copies : Copies c P
  exclusive : Exclusive P
  reliance : P.Holds RefreshWorld.LinksUnique (RefreshTask.SyncLocal c) fun _ _ ↦ True
  accounted : ∀ id row, P.store.tokens.find? id = some row → row.status = .active →
    row.Stale c P.store.ap →
      row.apSyncPending = true ∨ row.IsDue P.store.now ∧ row.hasRefresh = true ∨ Responsible P id

variable {P Q : RefreshState} {a : SweepAction}

theorem SyncInv.apSynced (h : SyncInv c P) : ApSynced c P := by
  intro row hrow hactive hstale hidle
  have hfind : P.store.tokens.find? row.id = some row := KeyedTable.find?_eq_some_iff.2 ⟨hrow, rfl⟩
  rcases h.accounted row.id row hfind hactive hstale with
    hpending | ⟨hdue, -⟩ | ⟨i, t, ht, hid, howes⟩
  · exact .inl hpending
  · exact .inr hdue
  · -- Who owes a flag is not done.
    have hdone := hidle t (List.mem_of_getElem? ht) hid
    rcases hpc : t.pc <;> rw [hpc] at howes hdone <;>
      first | exact absurd howes Bool.false_ne_true | exact absurd hdone Bool.false_ne_true

theorem linksUnique_of_column {w w' : RefreshWorld} (h : w.LinksUnique)
    (hcol : ∀ id,
      w'.tokens.column EncryptedToken.link id = w.tokens.column EncryptedToken.link id) :
    w'.LinksUnique := fun id id' ext hid hid' ↦
  h id id' ext ((hcol id).symm.trans hid) ((hcol id').symm.trans hid')

/-- The responsibility of the others survives a step, or a crash, of task `i`. -/
theorem responsible_set {i : ℕ} {t t' : RefreshTask} {w' : RefreshWorld} {id : String}
    (ht : P.procs[i]? = some t) (h : Responsible P id)
    (hother : t.tokenId ≠ id ∨ t.pc.owesFlag = false) :
    Responsible ⟨w', P.procs.set i t'⟩ id := by
  obtain ⟨j, r, hr, hid, howes⟩ := h
  rcases eq_or_ne j i with rfl | hne
  · obtain rfl := Option.some.inj (ht.symm.trans hr)
    rcases hother with hne | hno
    · exact absurd hid hne
    · exact absurd (hno.symm.trans howes) Bool.false_ne_true
  · refine ⟨j, r, ?_, hid, howes⟩
    rw [List.getElem?_set_ne hne.symm]
    exact hr

/-- A row that the step of another row's task leaves alone. -/
theorem find?_of_ne {env : RefreshEnv} {tokenId id : String} {w w' : RefreshWorld}
    {pc pc' : RefreshPc} (heff : pc.Effect c env tokenId w w' pc') (hne : id ≠ tokenId) :
    w'.tokens.find? id = w.tokens.find? id := by
  have hcol : w'.tokens.column (fun r ↦ r) id = w.tokens.column (fun r ↦ r) id :=
    heff.writes.column_of_ne hne
  rwa [KeyedTable.column, KeyedTable.column, Option.map_id', Option.map_id'] at hcol

/-- What happens outside the tasks keeps everything the law reads, but for rows that leave
`ACTIVE`. -/
theorem exists_row_of_outside {w w' : RefreshWorld} (hout : w.Outside w') {id : String}
    {row' : EncryptedToken} (hrow' : w'.tokens.find? id = some row')
    (hactive : row'.status = .active) :
    w'.ap = w.ap ∧ w.now ≤ w'.now ∧ ∃ row, w.tokens.find? id = some row ∧ row.status = .active ∧
      row'.view c = row.view c ∧ row'.apSyncPending = row.apSyncPending ∧
      row'.refreshAt = row.refreshAt ∧ row'.hasRefresh = row.hasRefresh := by
  cases hout with
  | tick elapsed =>
    exact ⟨rfl, Int.le.intro elapsed rfl, row', hrow', hactive, rfl, rfl, rfl, rfl⟩
  | claim limit skip =>
    have hfind := (TokenTable.find?_lease w.tokens _ _ id).symm.trans hrow'
    obtain ⟨row, hrow, rfl⟩ := Option.map_eq_some_iff.1 hfind
    refine ⟨rfl, le_rfl, row, hrow, ?_⟩
    split at hactive
    · rename_i hin
      rw [if_pos hin]
      exact ⟨hactive, rfl, rfl, rfl, rfl⟩
    · rename_i hin
      rw [if_neg hin]
      exact ⟨hactive, rfl, rfl, rfl, rfl⟩
  | revoke provider account tokens h =>
    have hfind := (TokenTable.find?_revokeAccount h id).symm.trans hrow'
    obtain ⟨row, hrow, rfl⟩ := Option.map_eq_some_iff.1 hfind
    refine ⟨rfl, le_rfl, row, hrow, ?_⟩
    split at hactive
    · exact absurd hactive (show TokenStatus.revoked ≠ .active by decide)
    · rename_i hsel
      rw [if_neg hsel]
      exact ⟨hactive, rfl, rfl, rfl, rfl⟩

/-- The reliance of every task survives every step that no holder disturbs. -/
theorem reliance_step (h : SyncInv c P) (hstep : (system c).step P a = some Q) :
    Q.Holds RefreshWorld.LinksUnique (RefreshTask.SyncLocal c) fun _ _ ↦ True := by
  rcases step_cases hstep with ⟨i, -, hadv⟩ | ⟨i, t, -, -, rfl⟩ | ⟨w', ps, hout, hps, rfl⟩
  · refine h.reliance.advance hadv (fun t w' t' ht hnext ↦ ?_)
      (fun t w' t' j r ht hnext hne hr hlocal _ _ ↦ ?_)
      fun _ _ _ _ _ _ _ _ _ _ _ _ ↦ ⟨trivial, trivial⟩
    · obtain ⟨heff, hid, -, -⟩ := RefreshTask.effect_of_step hnext
      exact ⟨linksUnique_of_column h.reliance.store (link_of_effect heff),
        syncLocal_of_effect heff hid (h.copies.each i t ht) (h.reliance.each i t ht)⟩
    · obtain ⟨heff, -, -, -⟩ := RefreshTask.effect_of_step hnext
      have hown := h.reliance.each i t ht
      refine hlocal.of_same (hasRefresh_of_effect heff hown r.tokenId) fun hin ↦
        sameView_of_effect heff h.reliance.store hown ?_
      rcases hsec : t.pc.inSection with - | -
      · exact .inr rfl
      · exact .inl (h.exclusive.apart hne hr ht hin hsec)
  · exact h.reliance.kill trivial fun _ _ _ ↦ ⟨trivial, trivial⟩
  · have hap : w'.ap = P.store.ap := by cases hout <;> rfl
    refine h.reliance.spawn
      (linksUnique_of_column h.reliance.store (hout.column EncryptedToken.onlyRotated_link))
      (fun j r _ hlocal ↦ ?_) (fun t ht ↦ ?_) (fun _ _ _ _ _ ↦ ⟨trivial, trivial⟩)
      fun _ _ _ _ _ _ _ ↦ trivial
    · exact hlocal.of_same (hout.column EncryptedToken.onlyRotated_hasRefresh r.tokenId) fun _ ↦
        ⟨hout.column (EncryptedToken.onlyRotated_view c) r.tokenId, fun _ _ ↦ by rw [hap]⟩
    · rw [RefreshTask.SyncLocal]
      rcases hps t ht with hpc | hpc <;> rw [hpc] <;> trivial

/-- **The step lemma.** -/
theorem syncInv_step (h : SyncInv c P) (hsafe : SyncSafe c P a)
    (hstep : (system c).step P a = some Q) : SyncInv c Q := by
  refine ⟨copies_step h.copies hstep, exclusive_step h.exclusive hsafe.1 hstep,
    reliance_step h hstep, fun id row' hrow' hactive hstale ↦ ?_⟩
  rcases step_cases hstep with ⟨i, rfl, hadv⟩ | ⟨i, t, rfl, ht, rfl⟩ | ⟨w', ps, hout, -, rfl⟩
  · obtain ⟨t, w', t', ht, hnext, rfl⟩ := ProcessPool.advance_eq_some.1 hadv
    obtain ⟨heff, hid, -, -⟩ := RefreshTask.effect_of_step hnext
    have hlocal := h.reliance.each i t ht
    rcases eq_or_ne id t.tokenId with rfl | hne
    · rcases howes : t'.pc.owesFlag with - | -
      · exact accounted_of_effect heff (h.copies.each i t ht) hlocal (hsafe.2 t ht)
          (fun row hrow hst hsta hno ↦ (h.accounted _ row hrow hst hsta).imp_right
            fun hrest ↦ hrest.imp_right fun hresp ↦ responsible_set ht hresp (.inr hno))
          howes hrow' hactive hstale
      · -- The rotation has made the task responsible.
        have hlt : i < P.procs.length := (List.getElem?_eq_some_iff.1 ht).1
        exact .inr (.inr ⟨i, t', List.getElem?_set_self hlt, hid, howes⟩)
    · have hrow : P.store.tokens.find? id = some row' := (find?_of_ne heff hne).symm.trans hrow'
      have hsame := sameView_of_effect heff h.reliance.store hlocal (.inl hne)
      have hstale' : row'.Stale c P.store.ap := (behind_congr fun ext hext ↦ hsame.2 ext
        ((KeyedTable.column_of_find? hrow).trans (congrArg some hext))).1 hstale
      have hnow : w'.now = P.store.now := heff.now
      show row'.apSyncPending = true ∨ row'.IsDue w'.now ∧ row'.hasRefresh = true ∨ _
      rw [hnow]
      exact (h.accounted id row' hrow hactive hstale').imp_right fun hrest ↦
        hrest.imp_right fun hresp ↦ responsible_set ht hresp (.inl hne.symm)
  · rcases h.accounted id row' hrow' hactive hstale with hpending | hdue | hresp
    · exact .inl hpending
    · exact .inr (.inl hdue)
    · rcases howes : t.pc.owesFlag with - | -
      · exact .inr (.inr (responsible_set ht hresp (.inr howes)))
      · rcases eq_or_ne t.tokenId id with rfl | hne
        · -- The task that dies owes the flag: the row must be accounted for without it.
          rcases hsafe.2 t ht howes row' hrow' hactive hstale with hpending | hdue
          · exact .inl hpending
          · exact .inr (.inl ⟨hdue, KeyedTable.proj_eq_of_column
              ((h.reliance.each i t ht).hasRefresh howes) hrow'⟩)
        · exact .inr (.inr (responsible_set ht hresp (.inl hne)))
  · obtain ⟨hap, hle, row, hrow, hst, hview, hpend, hat, hhas⟩ :=
      exists_row_of_outside (c := c) hout hrow' hactive
    have hstale' : row.Stale c P.store.ap := by
      rw [EncryptedToken.Stale, ← hview]
      exact hap ▸ hstale
    rcases h.accounted id row hrow hst hstale' with hpending | ⟨⟨at', hmem, hdue⟩, hsome⟩ |
      ⟨j, r, hr, hid, howes⟩
    · exact .inl (hpend.trans hpending)
    · exact .inr (.inl ⟨⟨at', hat ▸ hmem, hdue.trans hle⟩, hhas.trans hsome⟩)
    · have hlt : j < P.procs.length := (List.getElem?_eq_some_iff.1 hr).1
      exact .inr (.inr ⟨j, r, (List.getElem?_append_left hlt).trans hr, hid, howes⟩)

theorem syncInv_initial {w : RefreshWorld} (h : SyncStart c w) : SyncInv c (initial w) := by
  refine ⟨copies_initial w, exclusive_initial w,
    ⟨fun id id' ext hid hid' ↦ ?_, fun _ _ h ↦ absurd h (by simp [initial]),
      fun _ _ _ _ _ _ _ ↦ trivial⟩, fun id row hrow hactive hstale ↦ ?_⟩
  · obtain ⟨r, hr, hlink⟩ := KeyedTable.column_eq_some_iff.1 hid
    obtain ⟨r', hr', hlink'⟩ := KeyedTable.column_eq_some_iff.1 hid'
    obtain ⟨hmem, rfl⟩ := KeyedTable.find?_eq_some_iff.1 hr
    obtain ⟨hmem', rfl⟩ := KeyedTable.find?_eq_some_iff.1 hr'
    exact h.unique r hmem r' hmem' (by rw [hlink]; exact Option.some_ne_none _)
      (hlink.trans hlink'.symm)
  · exact (h.accounted row (KeyedTable.find?_eq_some_iff.1 hrow).1 hactive hstale).imp_right .inl

/-- **Every connection that lacks its access token will be repaired**, in every run from
synchronised stores in which no task dies, and no flag is lost, between a rotation and the flag
while the row is not accounted for, and no holder overstays its mutex while another task tries it.
-/
theorem ap_synced {w : RefreshWorld} {as : List SweepAction} (hstart : SyncStart c w)
    (hsafe : (system c).Meets (SyncSafe c) (initial w) as)
    (hrun : (system c).run (initial w) as = some P) : ApSynced c P :=
  (TransitionSystem.invariant_of_run (fun _ _ _ ↦ syncInv_step) (syncInv_initial hstart) hsafe
    hrun).apSynced

/-! ### Concrete schedules -/

section Example

theorem syncStart_demoWorld : SyncStart framedProvider demoWorld :=
  ⟨by decide +kernel, by decide +kernel⟩

/-- A refresh whose push is refused, a crash of an idle worker, and the retry of the push alone. -/
def refusedAndRetried : List SweepAction :=
  .sweep 50 [] (fun _ ↦ { quietRefreshEnv 2 with push := .rejected }) ::
    List.replicate 8 (.step 0) ++ [.step 0, .tick 60000000, demoSweep 3, .step 1, .step 1, .crash 1]

/-- The process dies between the rotation and the push. -/
def crashAfterRotation : List SweepAction :=
  demoSweep 2 :: List.replicate 5 (.step 0) ++ [.crash 0]

/-- A refused push is accounted for, even if the retry dies. -/
theorem ap_synced_example :
    ∃ P, (system framedProvider).run (initial demoWorld) refusedAndRetried = some P ∧
      ApSynced framedProvider P ∧
      ∃ row ∈ P.store.tokens.rows,
        row.Stale framedProvider P.store.ap ∧ row.apSyncPending = true := by
  have hsome : ((system framedProvider).run (initial demoWorld) refusedAndRetried).any (fun P ↦
      ∃ row ∈ P.store.tokens.rows, row.Stale framedProvider P.store.ap ∧
        row.apSyncPending = true) = true := by decide +kernel
  obtain ⟨P, hrun, hP⟩ := (Option.any_eq_true _ _).1 hsome
  have hsafe : (system framedProvider).Meets (SyncSafe framedProvider) (initial demoWorld)
      refusedAndRetried := by decide +kernel
  exact ⟨P, hrun, ap_synced syncStart_demoWorld hsafe hrun, of_decide_eq_true hP⟩

/-- **A crash after the rotation strands the connection**: the row has the new access token, the
connection the old one, the flag is down and the row is not due for twelve hours. -/
theorem crash_after_rotation_strands :
    SyncStart framedProvider demoWorld ∧
      ∃ P, (system framedProvider).run (initial demoWorld) crashAfterRotation = some P ∧
        ¬ ApSynced framedProvider P := by
  refine ⟨⟨by decide +kernel, by decide +kernel⟩, ?_⟩
  have hsome : ((system framedProvider).run (initial demoWorld) crashAfterRotation).any (fun P ↦
      ¬ ApSynced framedProvider P) = true := by decide +kernel
  obtain ⟨P, hrun, hP⟩ := (Option.any_eq_true _ _).1 hsome
  exact ⟨P, hrun, of_decide_eq_true hP⟩

end Example

end Refresh

end Siyadah
