import SiyadahOrchestrator.Vault.Statements

/-!
# What a ciphertext of the vault is bound to

Everything that is sealed for a row of `encrypted_tokens` carries associated data that names the
format version, the tenant, the provider, the row and what is sealed: the DEK, the access token or
the refresh token. The names are joined with `|`, and a tenant may contain that character; the
string is unambiguous all the same, because it can be read from its end, where row ids have a fixed
length and providers have no separator (`sealAad_inj`).

So a ciphertext opens nowhere but in its own row and column, whatever else is moved along with it
(`swapped_columns_do_not_open`). No assumption about the keys is needed, not even that two rows have
different DEKs: the associated data alone tells the places apart.
-/

/-! ### Reading a joined string from its end -/

/-- What follows the last separator, and what precedes it, can be read off a list. -/
theorem List.append_cons_inj_of_notMem_right {α : Type*} [DecidableEq α] {sep : α}
    {x y a b : List α} (ha : sep ∉ a) (hb : sep ∉ b) (h : x ++ sep :: a = y ++ sep :: b) :
    x = y ∧ a = b := by
  have hrev : a.reverse ++ sep :: x.reverse = b.reverse ++ sep :: y.reverse := by
    have h' := congrArg List.reverse h
    simpa only [List.reverse_append, List.reverse_cons, List.append_assoc, List.singleton_append]
      using h'
  have hsplit := congrArg (List.splitOn sep) hrev
  rw [List.splitOn_append_cons_self_of_not_mem (fun hm ↦ ha (List.mem_reverse.1 hm)),
    List.splitOn_append_cons_self_of_not_mem (fun hm ↦ hb (List.mem_reverse.1 hm))] at hsplit
  have hab : a = b := List.reverse_injective (List.cons.inj hsplit).1
  subst hab
  exact ⟨List.append_cancel_right h, rfl⟩

namespace Siyadah

/-! ### Associated data -/

/-- What is sealed for a row. -/
inductive SealPurpose where
  | dek
  | access
  | refresh
deriving DecidableEq, Repr

/-- What the associated data of the row is followed by. -/
def SealPurpose.suffix : SealPurpose → String
  | .dek => ""
  | .access => "|access"
  | .refresh => "|refresh"

/-- The associated data of one ciphertext, with the version in front. -/
def sealAad (version : ℤ) (tenantId provider rowId : String) (purpose : SealPurpose) :
    Except CryptoError Bytes :=
  buildAad (utf8 (tenantId ++ "|" ++ provider ++ "|" ++ rowId) ++ utf8 purpose.suffix) version

theorem IsUuid.notMem {s : String} (h : IsUuid s) : '|' ∉ s.toList := fun hm ↦
  absurd (h.2 '|' hm) (by decide)

theorem utf8_append (s t : String) : utf8 (s ++ t) = utf8 s ++ utf8 t := by
  rw [utf8, String.toByteArray_append, ByteArray.toList_data_append]
  rfl

theorem versionBytes_inj {v v' : ℤ} (hv : ¬(v < 0 ∨ v > 0xFFFF)) (hv' : ¬(v' < 0 ∨ v' > 0xFFFF))
    (h : versionBytes v = versionBytes v') : v = v' := by
  obtain ⟨hhigh, hlow⟩ := List.cons.inj h
  have hhigh' := congrArg UInt8.toNat hhigh
  have hlow' := congrArg UInt8.toNat (List.cons.inj hlow).1
  rw [UInt8.toNat_ofNat', UInt8.toNat_ofNat'] at hhigh' hlow'
  omega

theorem buildAad_eq_ok {aad out : Bytes} {v : ℤ} (h : buildAad aad v = .ok out) :
    ¬(v < 0 ∨ v > 0xFFFF) ∧ out = versionBytes v ++ utf8 "|" ++ aad := by
  rw [buildAad] at h
  split at h
  · exact absurd h (by simp)
  · exact ⟨‹_›, (Except.ok.inj h).symm⟩

/-- The row id and the purpose can be read off the end. -/
theorem rowId_suffix_inj {front front' rowId rowId' : List Char} {purpose purpose' : SealPurpose}
    (hid : '|' ∉ rowId) (hid' : '|' ∉ rowId') (hlen : rowId.length = 36)
    (hlen' : rowId'.length = 36)
    (h : front ++ '|' :: rowId ++ purpose.suffix.toList =
      front' ++ '|' :: rowId' ++ purpose'.suffix.toList) :
    front = front' ∧ rowId = rowId' ∧ purpose = purpose' := by
  have hdek : SealPurpose.dek.suffix.toList = [] := rfl
  have haccess : SealPurpose.access.suffix.toList = '|' :: "access".toList := rfl
  have hrefresh : SealPurpose.refresh.suffix.toList = '|' :: "refresh".toList := rfl
  have hpipe : '|' ∉ "access".toList ∧ '|' ∉ "refresh".toList := by decide
  have hsame : front ++ '|' :: rowId = front' ++ '|' :: rowId' →
      front = front' ∧ rowId = rowId' := List.append_cons_inj_of_notMem_right hid hid'
  rcases purpose with - | - | - <;> rcases purpose' with - | - | - <;>
    simp only [hdek, haccess, hrefresh, List.append_nil] at h
  · exact ⟨(hsame h).1, (hsame h).2, rfl⟩
  · have hlast := (List.append_cons_inj_of_notMem_right hid hpipe.1 h).2
    exact absurd (hlen.symm.trans (congrArg List.length hlast)) (by decide)
  · have hlast := (List.append_cons_inj_of_notMem_right hid hpipe.2 h).2
    exact absurd (hlen.symm.trans (congrArg List.length hlast)) (by decide)
  · have hlast := (List.append_cons_inj_of_notMem_right hpipe.1 hid' h).2
    exact absurd (hlen'.symm.trans (congrArg List.length hlast.symm)) (by decide)
  · have hrest := (List.append_cons_inj_of_notMem_right hpipe.1 hpipe.1 h).1
    exact ⟨(hsame hrest).1, (hsame hrest).2, rfl⟩
  · have hlast := (List.append_cons_inj_of_notMem_right hpipe.1 hpipe.2 h).2
    exact absurd (congrArg List.length hlast) (by decide)
  · have hlast := (List.append_cons_inj_of_notMem_right hpipe.2 hid' h).2
    exact absurd (hlen'.symm.trans (congrArg List.length hlast.symm)) (by decide)
  · have hlast := (List.append_cons_inj_of_notMem_right hpipe.2 hpipe.1 h).2
    exact absurd (congrArg List.length hlast) (by decide)
  · have hrest := (List.append_cons_inj_of_notMem_right hpipe.2 hpipe.2 h).1
    exact ⟨(hsame hrest).1, (hsame hrest).2, rfl⟩

/-- **Associated data determines what it names.** -/
theorem sealAad_inj {version version' : ℤ}
    {tenantId tenantId' provider provider' rowId rowId' : String} {purpose purpose' : SealPurpose}
    {aad : Bytes} (hprovider : '|' ∉ provider.toList)
    (hprovider' : '|' ∉ provider'.toList) (hid : IsUuid rowId) (hid' : IsUuid rowId')
    (h : sealAad version tenantId provider rowId purpose = .ok aad)
    (h' : sealAad version' tenantId' provider' rowId' purpose' = .ok aad) :
    version = version' ∧ tenantId = tenantId' ∧ provider = provider' ∧ rowId = rowId' ∧
      purpose = purpose' := by
  obtain ⟨hv, rfl⟩ := buildAad_eq_ok h
  obtain ⟨hv', heq⟩ := buildAad_eq_ok h'
  rw [List.append_assoc, List.append_assoc] at heq
  obtain ⟨hversion, hrest⟩ := List.append_inj heq rfl
  have htext := List.append_cancel_left hrest
  rw [← utf8_append, ← utf8_append] at htext
  have hchars := congrArg String.toList (utf8_injective htext)
  have hpipe : "|".toList = ['|'] := rfl
  simp only [String.toList_append, hpipe, List.append_assoc, List.singleton_append] at hchars
  have hfront : (tenantId.toList ++ '|' :: provider.toList) ++ '|' :: rowId.toList ++
        purpose.suffix.toList =
      (tenantId'.toList ++ '|' :: provider'.toList) ++ '|' :: rowId'.toList ++
        purpose'.suffix.toList := by
    simpa only [List.append_assoc, List.cons_append] using hchars
  obtain ⟨hnames, hids, rfl⟩ := rowId_suffix_inj hid.notMem hid'.notMem hid.1 hid'.1 hfront
  obtain ⟨htenant, hprov⟩ := List.append_cons_inj_of_notMem_right hprovider hprovider' hnames
  exact ⟨versionBytes_inj hv hv' hversion, String.toList_inj.1 htenant, String.toList_inj.1 hprov,
    String.toList_inj.1 hids, rfl⟩

/-! ### What the operations do with associated data -/

namespace CryptoProvider

variable {c : CryptoProvider} {iv : TokenBytes gcmIvBytes} {plain dek aad out : Bytes}
  {w : WrappedDek} {s : Sealed} {version : ℤ}

theorem encrypt_of_wrapDek (h : c.wrapDek iv dek aad = .ok w) :
    ∃ full, buildAad aad w.version = .ok full ∧
      c.gcm.encrypt c.masterKey w.iv dek full = w.ciphertext := by
  by_cases hlen : dek.length = dekBytes
  · rw [wrapDek_of_length hlen] at h
    obtain rfl := Except.ok.inj h
    exact ⟨_, buildAad_current aad, rfl⟩
  · rw [wrapDek, if_pos hlen] at h
    exact absurd h (by simp)

theorem encrypt_of_encryptWithDek (h : c.encryptWithDek iv plain dek aad = .ok s) :
    ∃ full, buildAad aad currentEncryptionVersion = .ok full ∧
      c.gcm.encrypt dek s.iv plain full = s.ciphertext := by
  by_cases hlen : dek.length = dekBytes
  · rw [encryptWithDek_of_length hlen] at h
    obtain rfl := Except.ok.inj h
    exact ⟨_, buildAad_current aad, rfl⟩
  · rw [encryptWithDek, if_pos hlen] at h
    exact absurd h (by simp)

theorem encrypt_of_unwrapDek (h : c.unwrapDek w aad = .ok dek) :
    ∃ full, buildAad aad w.version = .ok full ∧
      c.gcm.encrypt c.masterKey w.iv dek full = w.ciphertext := by
  rw [unwrapDek] at h
  split at h
  · exact absurd h (by simp)
  · rcases hb : buildAad aad w.version with e | full
    · rw [hb] at h
      exact absurd h (by simp [bind, Except.bind])
    · rw [hb] at h
      simp only [bind, Except.bind] at h
      split at h
      · rename_i m hm
        obtain rfl : m = dek := Except.ok.inj h
        exact ⟨full, rfl, c.gcm.decrypt_eq_some_iff.1 hm⟩
      · exact absurd h (by simp)

theorem encrypt_of_decryptWithDek (h : c.decryptWithDek s dek version aad = .ok out) :
    ∃ full, buildAad aad version = .ok full ∧
      c.gcm.encrypt dek s.iv out full = s.ciphertext := by
  rw [decryptWithDek] at h
  split_ifs at h
  rcases hb : buildAad aad version with e | full
  · rw [hb] at h
    exact absurd h (by simp [bind, Except.bind])
  · rw [hb] at h
    simp only [bind, Except.bind] at h
    split at h
    · rename_i m hm
      obtain rfl : m = out := Except.ok.inj h
      exact ⟨full, rfl, c.gcm.decrypt_eq_some_iff.1 hm⟩
    · exact absurd h (by simp)

end CryptoProvider

/-! ### Columns -/

namespace EncryptedToken

/-- A ciphertext of the row with its nonce; `none` is `NULL`. -/
def column (row : EncryptedToken) : SealPurpose → Option (Bytes × Bytes)
  | .dek => some (row.ivDek, row.wrappedDek)
  | .access => some (row.ivAccess, row.encryptedAccessToken)
  | .refresh => row.ivRefresh.bind fun iv ↦ row.encryptedRefreshToken.map fun ct ↦ (iv, ct)

/-- The associated data of a column of the row. -/
def columnAad (row : EncryptedToken) (purpose : SealPurpose) : Except CryptoError Bytes :=
  sealAad row.encryptionVersion row.tenantId row.provider row.id purpose

/-- The column carries a ciphertext that was sealed with the associated data `aad`. -/
def SealedWith (c : CryptoProvider) (row : EncryptedToken) (purpose : SealPurpose)
    (aad : Except CryptoError Bytes) : Prop :=
  ∃ full k iv m ct, aad = .ok full ∧ row.column purpose = some (iv, ct) ∧
    c.gcm.encrypt k iv m full = ct

/-- Every ciphertext of the row has been sealed with the associated data of its place. -/
structure Bound (c : CryptoProvider) (row : EncryptedToken) : Prop where
  provider : '|' ∉ row.provider.toList
  id : IsUuid row.id
  column : ∀ purpose, row.column purpose ≠ none →
    row.SealedWith c purpose (row.columnAad purpose)

variable {c : CryptoProvider} {row : EncryptedToken} {id tenantId provider : String}
  {rand : SealRandomness} {parsed : ParsedTokenResponse} {now : Time} {token : String}

theorem column_setStatus (row : EncryptedToken) (status : TokenStatus) (purpose : SealPurpose) :
    (row.setStatus status).column purpose = row.column purpose := by
  cases purpose <;> rfl

/-- The status of a row binds nothing. -/
theorem Bound.setStatus (h : row.Bound c) (status : TokenStatus) :
    (row.setStatus status).Bound c := by
  refine ⟨h.provider, h.id, fun purpose hcol ↦ ?_⟩
  rw [column_setStatus] at hcol
  obtain ⟨full, k, iv, m, ct, haad, hpair, hct⟩ := h.column purpose hcol
  exact ⟨full, k, iv, m, ct, haad, (column_setStatus row status purpose).trans hpair, hct⟩

/-- A ciphertext was sealed with one associated data. -/
theorem SealedWith.unique {row' : EncryptedToken} {purpose purpose' : SealPurpose}
    {aad aad' : Except CryptoError Bytes} (h : row.SealedWith c purpose aad)
    (h' : row'.SealedWith c purpose' aad') (hsame : row.column purpose = row'.column purpose') :
    ∃ full, aad = .ok full ∧ aad' = .ok full := by
  obtain ⟨full, k, iv, m, ct, rfl, hpair, rfl⟩ := h
  obtain ⟨full', k', iv', m', ct', rfl, hpair', rfl⟩ := h'
  have hpairs := Option.some.inj (hpair.symm.trans (hsame.trans hpair'))
  obtain ⟨-, rfl, -⟩ := c.gcm.encrypt_inj (Prod.mk.inj hpairs).2
  exact ⟨full, rfl, rfl⟩

/-- **What `_persist_tokens` seals is bound to its place.** -/
theorem bound_of_ofAnswer (hprovider : '|' ∉ provider.toList) (hid : IsUuid id)
    (h : ofAnswer c rand id tenantId provider parsed now = .ok row) : row.Bound c := by
  obtain ⟨sealed, hseal, hrow⟩ := exists_ofAnswer c rand id tenantId provider parsed now
  obtain rfl := Except.ok.inj (hrow.symm.trans h)
  obtain ⟨hdek, haccess, hrefresh⟩ := c.sealTokens_parts hseal
  have hversion := c.sealTokens_version hseal
  have hcurrent : (ofSealed id tenantId provider parsed sealed now).encryptionVersion =
      currentEncryptionVersion := hversion
  refine ⟨hprovider, hid, fun purpose hcol ↦ ?_⟩
  cases purpose with
  | dek =>
    obtain ⟨full, haad, hct⟩ := CryptoProvider.encrypt_of_wrapDek hdek
    refine ⟨full, c.masterKey, _, rand.dek.bytes, _, ?_, rfl, hct⟩
    have hsuffix : utf8 SealPurpose.dek.suffix = [] := rfl
    rw [columnAad, sealAad, hsuffix, List.append_nil]
    exact haad
  | access =>
    obtain ⟨full, haad, hct⟩ := CryptoProvider.encrypt_of_encryptWithDek haccess
    refine ⟨full, rand.dek.bytes, _, _, _, ?_, rfl, hct⟩
    rw [columnAad, hcurrent]
    exact haad
  | refresh =>
    rcases htoken : truthy parsed.refreshToken with - | token
    · rw [htoken] at hrefresh
      refine absurd ?_ hcol
      show (sealed.refresh.map Sealed.iv).bind _ = none
      rw [hrefresh]
      rfl
    · rw [htoken] at hrefresh
      obtain ⟨s, hs, henc⟩ := hrefresh
      obtain ⟨full, haad, hct⟩ := CryptoProvider.encrypt_of_encryptWithDek henc
      refine ⟨full, rand.dek.bytes, s.iv, _, s.ciphertext, ?_, ?_, hct⟩
      · rw [columnAad, hcurrent]
        exact haad
      · show (sealed.refresh.map Sealed.iv).bind (fun iv ↦
          (sealed.refresh.map Sealed.ciphertext).map fun ct ↦ (iv, ct)) = _
        rw [hs]
        rfl

theorem parts_of_new {iv ct : Bytes} {s : Sealed} (h : Sealed.new iv ct = .ok s) :
    s.iv = iv ∧ s.ciphertext = ct := by
  rw [Sealed.new] at h
  split at h
  · obtain rfl := Except.ok.inj h
    exact ⟨rfl, rfl⟩
  · exact absurd h (by simp)

/-- The DEK column of a row whose DEK opens. -/
theorem sealedWith_of_unwrapDek {dek : Bytes} (h : c.unwrapDek row.wrapped row.aad = .ok dek) :
    row.SealedWith c .dek (row.columnAad .dek) := by
  obtain ⟨full, haad, hct⟩ := CryptoProvider.encrypt_of_unwrapDek h
  refine ⟨full, c.masterKey, _, dek, _, ?_, rfl, hct⟩
  have hsuffix : utf8 SealPurpose.dek.suffix = [] := rfl
  rw [columnAad, sealAad, hsuffix, List.append_nil]
  exact haad

/-- A row whose access token opens has both columns sealed for their places. -/
theorem sealedWith_of_decryptAccess (h : c.decryptAccess row = .ok token) :
    row.SealedWith c .dek (row.columnAad .dek) ∧
      row.SealedWith c .access (row.columnAad .access) := by
  rw [CryptoProvider.decryptAccess] at h
  rcases hdek : c.unwrapDek row.wrapped row.aad with e | dek
  · rw [hdek] at h
    exact absurd h (by simp [bind, Except.bind])
  · rw [hdek] at h
    refine ⟨sealedWith_of_unwrapDek hdek, ?_⟩
    simp only [bind, Except.bind] at h
    rcases hs : Sealed.new row.ivAccess row.encryptedAccessToken with e | s
    · rw [hs] at h
      exact absurd h (by simp)
    · rw [hs] at h
      simp only at h
      rcases hdec : c.decryptWithDek s dek row.encryptionVersion (row.aad ++ utf8 "|access")
        with e | plain
      · rw [hdec] at h
        exact absurd h (by simp)
      · obtain ⟨hiv, hciphertext⟩ := parts_of_new hs
        obtain ⟨full, haad, hct⟩ := CryptoProvider.encrypt_of_decryptWithDek hdec
        exact ⟨full, dek, _, plain, _, haad, rfl, hiv ▸ hciphertext ▸ hct⟩

/-- A row whose refresh token opens has both columns sealed for their places. -/
theorem sealedWith_of_decryptRefresh (h : c.decryptRefresh row = .ok token) :
    row.SealedWith c .dek (row.columnAad .dek) ∧
      row.SealedWith c .refresh (row.columnAad .refresh) := by
  rw [CryptoProvider.decryptRefresh] at h
  rcases hdek : c.unwrapDek row.wrapped row.aad with e | dek
  · rw [hdek] at h
    exact absurd h (by simp [bind, Except.bind])
  · rw [hdek] at h
    refine ⟨sealedWith_of_unwrapDek hdek, ?_⟩
    simp only [bind, Except.bind] at h
    split at h
    · rename_i iv ct hiv hct
      rcases hs : Sealed.new iv ct with e | s
      · rw [hs] at h
        exact absurd h (by simp)
      · rw [hs] at h
        simp only at h
        rcases hdec : c.decryptWithDek s dek row.encryptionVersion (row.aad ++ utf8 "|refresh")
          with e | plain
        · rw [hdec] at h
          exact absurd h (by simp)
        · obtain ⟨rfl, rfl⟩ := parts_of_new hs
          obtain ⟨full, haad, hseal⟩ := CryptoProvider.encrypt_of_decryptWithDek hdec
          refine ⟨full, dek, _, plain, _, haad, ?_, hseal⟩
          rw [column, hiv, hct]
          rfl
    · exact absurd h (by simp)

end EncryptedToken

/-! ### Moving columns -/

/-- A content of the vault that `_persist_tokens` has produced, for any tenants and providers. -/
inductive Persisted (c : CryptoProvider) : TokenTable → Prop
  | empty : Persisted c .empty
  | persist {t t' : TokenTable} (h : Persisted c t) (rand : SealRandomness)
      (id tenantId provider : String) (parsed : ParsedTokenResponse) (now : Time)
      (hprovider : '|' ∉ provider.toList) (hid : IsUuid id) {row : EncryptedToken}
      (hrow : EncryptedToken.ofAnswer c rand id tenantId provider parsed now = .ok row)
      (ht : t.persistTokens row = some t') : Persisted c t'

/-- The row's ciphertexts have been moved there from the vault: `source` says from which row and
which column. Its other columns are anything. -/
structure AssembledFrom (vault : TokenTable) (row : EncryptedToken)
    (source : SealPurpose → EncryptedToken × SealPurpose) : Prop where
  mem : ∀ purpose, (source purpose).1 ∈ vault.rows
  column : ∀ purpose, row.column purpose = (source purpose).1.column (source purpose).2

section Swap

variable {c : CryptoProvider} {vault : TokenTable} {row : EncryptedToken}
  {source : SealPurpose → EncryptedToken × SealPurpose}

/-- Every row of the vault is bound to its place. -/
theorem Persisted.bound (h : Persisted c vault) : ∀ row ∈ vault.rows, row.Bound c := by
  induction h with
  | empty => exact fun row hrow ↦ absurd hrow List.not_mem_nil
  | @persist t t' _ rand id tenantId provider parsed now hprovider hid new hnew ht ih =>
    intro row hrow
    have hfind : t'.find? row.id = some row := KeyedTable.find?_eq_some_iff.2 ⟨hrow, rfl⟩
    rw [TokenTable.find?_persistTokens ht] at hfind
    split at hfind
    · obtain rfl := Option.some.inj hfind
      exact EncryptedToken.bound_of_ofAnswer hprovider hid hnew
    · obtain ⟨old, hold, rfl⟩ := Option.map_eq_some_iff.1 hfind
      have hbound := ih old (KeyedTable.find?_eq_some_iff.1 hold).1
      split
      · exact hbound.setStatus .revoked
      · exact hbound

/-- A column that is sealed for its place comes from the row of that place, and from that column. -/
theorem source_eq_of_sealedWith (hvault : Persisted c vault) (hrow : AssembledFrom vault row source)
    (hprovider : '|' ∉ row.provider.toList) (hid : IsUuid row.id) {purpose : SealPurpose}
    (h : row.SealedWith c purpose (row.columnAad purpose)) :
    (source purpose).2 = purpose ∧ (source purpose).1.id = row.id ∧
      (source purpose).1.tenantId = row.tenantId ∧ (source purpose).1.provider = row.provider ∧
      (source purpose).1.encryptionVersion = row.encryptionVersion := by
  have hbound := hvault.bound _ (hrow.mem purpose)
  have hcolumn := hrow.column purpose
  have hne : (source purpose).1.column (source purpose).2 ≠ none := by
    obtain ⟨full, k, iv, m, ct, -, hpair, -⟩ := h
    rw [← hcolumn, hpair]
    simp
  obtain ⟨full, haad, haad'⟩ := h.unique (hbound.column _ hne) hcolumn
  obtain ⟨hversion, htenant, hprov, hids, hpurpose⟩ :=
    sealAad_inj hprovider hbound.provider hid hbound.id haad haad'
  exact ⟨hpurpose.symm, hids.symm, htenant.symm, hprov.symm, hversion.symm⟩

/-- **Swapped columns do not open.** When a field of a row assembled from the vault decrypts, its
DEK and the field come from one row of the vault, the one whose place they are put in, and from
their own columns. -/
theorem swapped_columns_do_not_open (hvault : Persisted c vault)
    (hrow : AssembledFrom vault row source) (hprovider : '|' ∉ row.provider.toList)
    (hid : IsUuid row.id) {field : SealPurpose} {token : String}
    (h : field = .access ∧ c.decryptAccess row = .ok token ∨
      field = .refresh ∧ c.decryptRefresh row = .ok token) :
    ∃ r ∈ vault.rows, source .dek = (r, .dek) ∧ source field = (r, field) ∧ r.id = row.id ∧
      r.tenantId = row.tenantId ∧ r.provider = row.provider ∧
      r.encryptionVersion = row.encryptionVersion := by
  have hsealed : row.SealedWith c .dek (row.columnAad .dek) ∧
      row.SealedWith c field (row.columnAad field) := by
    rcases h with ⟨rfl, hopen⟩ | ⟨rfl, hopen⟩
    · exact EncryptedToken.sealedWith_of_decryptAccess hopen
    · exact EncryptedToken.sealedWith_of_decryptRefresh hopen
  obtain ⟨hdekCol, hdekId, hnames⟩ := source_eq_of_sealedWith hvault hrow hprovider hid hsealed.1
  obtain ⟨hfieldCol, hfieldId, -⟩ := source_eq_of_sealedWith hvault hrow hprovider hid hsealed.2
  -- The id is the primary key of the vault.
  have hsame : (source field).1 = (source .dek).1 := by
    have hfind := KeyedTable.find?_eq_some_iff.2 ⟨hrow.mem .dek, hdekId⟩
    have hfind' := KeyedTable.find?_eq_some_iff.2 ⟨hrow.mem field, hfieldId⟩
    exact Option.some.inj (hfind'.symm.trans hfind)
  exact ⟨(source .dek).1, hrow.mem .dek, Prod.ext rfl hdekCol, Prod.ext hsame hfieldCol, hdekId,
    hnames⟩

variable (c) in
/-- **The binding resists swapping.** Associated data determines the version, the tenant, the
provider, the row and the purpose it was built for; hence a field of a row assembled from the vault
decrypts only where its DEK and its ciphertext stand in the row and the column they were sealed
for. -/
theorem aad_binding :
    (∀ version version' tenantId tenantId' provider provider' rowId rowId' purpose purpose' aad,
      '|' ∉ provider.toList → '|' ∉ provider'.toList → IsUuid rowId → IsUuid rowId' →
      sealAad version tenantId provider rowId purpose = .ok aad →
      sealAad version' tenantId' provider' rowId' purpose' = .ok aad →
      version = version' ∧ tenantId = tenantId' ∧ provider = provider' ∧ rowId = rowId' ∧
        purpose = purpose') ∧
    ∀ vault row source, Persisted c vault → AssembledFrom vault row source →
      '|' ∉ row.provider.toList → IsUuid row.id → ∀ field token,
        (field = .access ∧ c.decryptAccess row = .ok token ∨
          field = .refresh ∧ c.decryptRefresh row = .ok token) →
        ∃ r ∈ vault.rows, source .dek = (r, .dek) ∧ source field = (r, field) ∧ r.id = row.id ∧
          r.tenantId = row.tenantId ∧ r.provider = row.provider ∧
          r.encryptionVersion = row.encryptionVersion :=
  ⟨fun _ _ _ _ _ _ _ _ _ _ _ hprovider hprovider' hid hid' h h' ↦
      sealAad_inj hprovider hprovider' hid hid' h h',
    fun _ _ _ hvault hrow hprovider hid _ _ h ↦
      swapped_columns_do_not_open hvault hrow hprovider hid h⟩

/-- The access token copied into the refresh columns. -/
def misplaced (r : EncryptedToken) : EncryptedToken :=
  { r with
    encryptedRefreshToken := some r.encryptedAccessToken
    ivRefresh := some r.ivAccess }

theorem eq_ok_of_toOption {ε α : Type} {x : Except ε α} {a : α} (h : x.toOption = some a) :
    x = .ok a := by
  rcases x with e | b
  · exact absurd h (by simp [Except.toOption])
  · exact congrArg Except.ok (Option.some.inj h)

/-- In the row of a new authorization the access token opens where it belongs, and not where it has
been copied to. -/
theorem aad_binding_example :
    ∃ vault r, Persisted framedProvider vault ∧ r ∈ vault.rows ∧
      framedProvider.decryptAccess (misplaced r) = .ok "xoxb-1" ∧
      (∃ r' ∈ vault.rows, r'.id = r.id) ∧
      ∀ token, framedProvider.decryptRefresh (misplaced r) ≠ .ok token := by
  have hsome : (EncryptedToken.ofAnswer framedProvider (constantRandomness 1)
      "00000000-0000-4000-8000-000000000001" "t|1" "slack" firstAnswer 0).toOption.any (fun r ↦
        (TokenTable.persistTokens .empty r).any (fun vault ↦ r ∈ vault.rows) ∧
          (framedProvider.decryptAccess (misplaced r)).toOption = some "xoxb-1" ∧
          '|' ∉ r.provider.toList ∧ IsUuid r.id) = true := by decide +kernel
  obtain ⟨r, hr, hprops⟩ := (Option.any_eq_true _ _).1 hsome
  obtain ⟨hvault, hopen, hprovider, hid⟩ := of_decide_eq_true hprops
  obtain ⟨vault, ht, hmem⟩ := (Option.any_eq_true _ _).1 hvault
  have hpersisted : Persisted framedProvider vault :=
    .persist .empty _ _ _ _ _ _ (by decide) (by decide) (eq_ok_of_toOption hr) ht
  -- The refresh columns hold the access column of the same row.
  let source : SealPurpose → EncryptedToken × SealPurpose :=
    fun purpose ↦ (r, if purpose = .refresh then .access else purpose)
  have hrow : AssembledFrom vault (misplaced r) source :=
    ⟨fun _ ↦ of_decide_eq_true hmem, fun purpose ↦ by cases purpose <;> rfl⟩
  have hbound := (aad_binding framedProvider).2 vault (misplaced r) source hpersisted hrow hprovider
    hid
  refine ⟨vault, r, hpersisted, of_decide_eq_true hmem, eq_ok_of_toOption hopen, ?_,
    fun token hrefresh ↦ ?_⟩
  · obtain ⟨r', hr', -, -, hsame, -⟩ :=
      hbound .access "xoxb-1" (.inl ⟨rfl, eq_ok_of_toOption hopen⟩)
    exact ⟨r', hr', hsame⟩
  · obtain ⟨r', -, -, hsource, -⟩ := hbound .refresh token (.inr ⟨rfl, hrefresh⟩)
    exact absurd (Prod.mk.inj hsource).2 (by decide)

end Swap

end Siyadah
