import SiyadahOrchestrator.OAuth.StateIssue

/-!
# What the base64 decoder accepts

`_b64url_dec` is meant to be strict: it looks at the alphabet first, since the decoder of the
standard library passes over what it does not know. A string of the alphabet is decoded by its six
bit values (`b64urlDec_of_sextets`), and two of them decode to the same bytes only if they agree but
for the bits of the last character that no byte takes.

The `$` of the pattern lets one more kind of string through: whole groups of four characters and a
newline behind them (`EndsInNewline`). The newline shifts the padding, which the decoder then takes
no notice of. Strings of this kind are accepted although they are not of the alphabet, and they
decode as they do without the newline; apart from them the decoder is strict (`strictInverse_iff`).
-/

namespace Siyadah

/-! ### Six-bit values -/

/-- The bytes of a list of six-bit values; a single value that is left over is none. -/
def sextetBytes : List ℕ → Option Bytes
  | [] => some []
  | [_] => none
  | [v, w] => some [UInt8.ofNat (v * 4 + w / 16)]
  | [v, w, x] => some [UInt8.ofNat (v * 4 + w / 16), UInt8.ofNat (w % 16 * 16 + x / 4)]
  | v :: w :: x :: y :: rest => (sextetBytes rest).map fun bytes ↦
      UInt8.ofNat (v * 4 + w / 16) :: UInt8.ofNat (w % 16 * 16 + x / 4) ::
        UInt8.ofNat (x % 4 * 64 + y) :: bytes

/-- The bits of the last of so many characters that no byte takes. -/
def unusedBits (n : ℕ) : ℕ := if n % 4 = 2 then 4 else if n % 4 = 3 then 2 else 0

section Sextets

variable {v w : ℕ} {vs ws : List ℕ} {s : PyStr} {bytes : Bytes}

theorem exists_sextetBytes_iff : (∃ bytes, sextetBytes vs = some bytes) ↔ vs.length % 4 ≠ 1 := by
  induction vs using sextetBytes.induct with
  | case1 => exact iff_of_true ⟨[], rfl⟩ (by decide)
  | case2 v => exact iff_of_false (fun ⟨_, h⟩ ↦ nomatch h) fun h ↦ h rfl
  | case3 v w => exact iff_of_true ⟨_, rfl⟩ (by show 2 % 4 ≠ 1; decide)
  | case4 v w x => exact iff_of_true ⟨_, rfl⟩ (by show 3 % 4 ≠ 1; decide)
  | case5 v w x y rest ih =>
    have hlength : (v :: w :: x :: y :: rest).length % 4 = rest.length % 4 := by
      simp only [List.length_cons]
      omega
    rw [hlength, ← ih, sextetBytes]
    constructor
    · rintro ⟨bytes, h⟩
      obtain ⟨tail, htail, -⟩ := Option.map_eq_some_iff.1 h
      exact ⟨tail, htail⟩
    · rintro ⟨tail, htail⟩
      exact ⟨_, by rw [htail]; rfl⟩

theorem length_of_sextetBytes (h : sextetBytes vs = some bytes) :
    bytes.length = vs.length * 3 / 4 := by
  induction vs using sextetBytes.induct generalizing bytes with
  | case1 =>
    obtain rfl := Option.some.inj h
    rfl
  | case2 v => exact nomatch h
  | case3 v w =>
    obtain rfl := Option.some.inj h
    show 1 = 2 * 3 / 4
    decide
  | case4 v w x =>
    obtain rfl := Option.some.inj h
    show 2 = 3 * 3 / 4
    decide
  | case5 v w x y rest ih =>
    obtain ⟨tail, htail, rfl⟩ := Option.map_eq_some_iff.1 h
    have hlength := ih htail
    simp only [List.length_cons]
    omega

theorem ofNat_inj {m n : ℕ} (hm : m < 256) (hn : n < 256) (h : UInt8.ofNat m = UInt8.ofNat n) :
    m = n := by
  have htoNat := congrArg UInt8.toNat h
  rwa [UInt8.toNat_ofNat_of_lt' hm, UInt8.toNat_ofNat_of_lt' hn] at htoNat

/-- Bytes that are the same were made of the same bits. -/
theorem firstByte_inj {v w v' w' : ℕ} (hv : v < 64) (hw : w < 64) (hv' : v' < 64) (hw' : w' < 64)
    (h : UInt8.ofNat (v * 4 + w / 16) = UInt8.ofNat (v' * 4 + w' / 16)) :
    v = v' ∧ w / 16 = w' / 16 := by
  have heq := ofNat_inj (by omega) (by omega) h
  omega

theorem secondByte_inj {w x w' x' : ℕ} (hx : x < 64) (hx' : x' < 64)
    (h : UInt8.ofNat (w % 16 * 16 + x / 4) = UInt8.ofNat (w' % 16 * 16 + x' / 4)) :
    w % 16 = w' % 16 ∧ x / 4 = x' / 4 := by
  have heq := ofNat_inj (by omega) (by omega) h
  omega

theorem thirdByte_inj {x y x' y' : ℕ} (hy : y < 64) (hy' : y' < 64)
    (h : UInt8.ofNat (x % 4 * 64 + y) = UInt8.ofNat (x' % 4 * 64 + y')) :
    x % 4 = x' % 4 ∧ y = y' := by
  have heq := ofNat_inj (by omega) (by omega) h
  omega

/-- The two lists agree but for the bits of the last value that no byte takes. -/
def SameSextets (vs ws : List ℕ) : Prop :=
  vs = ws ∨ ∃ init v w, vs = init ++ [v] ∧ ws = init ++ [w] ∧
    v / 2 ^ unusedBits vs.length = w / 2 ^ unusedBits vs.length

/-- **The values are the bytes'**, but for the bits of the last one that no byte takes. -/
theorem sameSextets_of_sextetBytes (hvs : ∀ v ∈ vs, v < 64) (hws : ∀ w ∈ ws, w < 64)
    (hv : sextetBytes vs = some bytes) (hw : sextetBytes ws = some bytes) :
    SameSextets vs ws := by
  have hlength : vs.length = ws.length := by
    have hv' := length_of_sextetBytes hv
    have hw' := length_of_sextetBytes hw
    have hvmod := exists_sextetBytes_iff.1 ⟨bytes, hv⟩
    have hwmod := exists_sextetBytes_iff.1 ⟨bytes, hw⟩
    have hvcases : vs.length % 4 = 0 ∨ vs.length % 4 = 2 ∨ vs.length % 4 = 3 := by omega
    rcases hvcases with h | h | h <;> omega
  induction vs using sextetBytes.induct generalizing ws bytes with
  | case1 => exact .inl (List.length_eq_zero_iff.1 hlength.symm).symm
  | case2 v => exact nomatch hv
  | case3 v w =>
    obtain ⟨v', w', rfl⟩ := List.length_eq_two.1 hlength.symm
    simp only [List.forall_mem_cons] at hvs hws
    obtain ⟨hv₀, hw₀, -⟩ := hvs
    obtain ⟨hv₁, hw₁, -⟩ := hws
    obtain ⟨hbyte, -⟩ := List.cons.inj (Option.some.inj (hv.trans hw.symm))
    obtain ⟨rfl, hlast⟩ := firstByte_inj hv₀ hw₀ hv₁ hw₁ hbyte
    exact .inr ⟨[v], w, w', rfl, rfl, hlast⟩
  | case4 v w x =>
    obtain ⟨v', w', x', rfl⟩ := List.length_eq_three.1 hlength.symm
    simp only [List.forall_mem_cons] at hvs hws
    obtain ⟨hv₀, hw₀, hx₀, -⟩ := hvs
    obtain ⟨hv₁, hw₁, hx₁, -⟩ := hws
    obtain ⟨hbyte, hrest⟩ := List.cons.inj (Option.some.inj (hv.trans hw.symm))
    obtain ⟨hbyte', -⟩ := List.cons.inj hrest
    obtain ⟨rfl, hhigh⟩ := firstByte_inj hv₀ hw₀ hv₁ hw₁ hbyte
    obtain ⟨hlow, hlast⟩ := secondByte_inj hx₀ hx₁ hbyte'
    obtain rfl : w = w' := by omega
    exact .inr ⟨[v, w], x, x', rfl, rfl, hlast⟩
  | case5 v w x y rest ih =>
    obtain ⟨v', w', x', y', rest', rfl⟩ :
        ∃ v' w' x' y' rest', ws = v' :: w' :: x' :: y' :: rest' := by
      rcases ws with _ | ⟨v', _ | ⟨w', _ | ⟨x', _ | ⟨y', rest'⟩⟩⟩⟩
      · exact absurd hlength (by simp)
      · exact absurd hlength (by simp)
      · exact absurd hlength (by simp)
      · exact absurd hlength (by simp)
      · exact ⟨v', w', x', y', rest', rfl⟩
    simp only [List.forall_mem_cons] at hvs hws
    obtain ⟨hv₀, hw₀, hx₀, hy₀, hvs⟩ := hvs
    obtain ⟨hv₁, hw₁, hx₁, hy₁, hws⟩ := hws
    obtain ⟨tail, htail, rfl⟩ := Option.map_eq_some_iff.1 hv
    obtain ⟨tail', htail', heq⟩ := Option.map_eq_some_iff.1 hw
    obtain ⟨hbyte, hrest⟩ := List.cons.inj heq
    obtain ⟨hbyte', hrest⟩ := List.cons.inj hrest
    obtain ⟨hbyte'', rfl⟩ := List.cons.inj hrest
    obtain ⟨rfl, hhigh⟩ := firstByte_inj hv₁ hw₁ hv₀ hw₀ hbyte
    obtain ⟨hlow, hhigh'⟩ := secondByte_inj hx₁ hx₀ hbyte'
    obtain ⟨hlow', rfl⟩ := thirdByte_inj hy₁ hy₀ hbyte''
    obtain rfl : w' = w := by omega
    obtain rfl : x' = x := by omega
    have hlength' : rest.length = rest'.length := by simpa using hlength
    have hunused : unusedBits (v' :: w' :: x' :: y' :: rest).length = unusedBits rest.length := by
      have hmod : (v' :: w' :: x' :: y' :: rest).length % 4 = rest.length % 4 := by
        simp only [List.length_cons]
        omega
      rw [unusedBits, unusedBits, hmod]
    -- the groups agree, so the rest decides
    rcases ih hvs hws htail htail' hlength' with rfl | ⟨init, p, q, rfl, rfl, hlast⟩
    · exact .inl rfl
    · refine .inr ⟨v' :: w' :: x' :: y' :: init, p, q, rfl, rfl, ?_⟩
      rwa [hunused]

end Sextets

/-! ### Strings -/

/-- The string consists of characters of the URL-safe alphabet. -/
def OfAlphabet (s : PyStr) : Prop := ∀ c ∈ s, isB64url c = true

/-- Whole groups of four characters, and a newline behind them. -/
def EndsInNewline (s : PyStr) : Prop :=
  ∃ body, OfAlphabet body ∧ body.length % 4 = 0 ∧ s = body ++ [10]

/-- The two strings have the same length and differ at most in the bits of the last character that
no byte takes. -/
def SameButUnused (s t : PyStr) : Prop :=
  s = t ∨ ∃ init c d, s = init ++ [c] ∧ t = init ++ [d] ∧
    (sextet? c).map (· / 2 ^ unusedBits s.length) = (sextet? d).map (· / 2 ^ unusedBits s.length)

section Strings

variable {vs ws : List ℕ} {s t : PyStr} {bytes : Bytes}

theorem exists_b64Char {c : ℕ} (h : isB64url c = true) : ∃ v < 64, b64Char v = c := by
  simp only [isB64url, decide_eq_true_eq] at h
  rcases h with h | h | h | rfl | rfl
  · refine ⟨c - 65, by omega, ?_⟩
    rw [b64Char, if_pos (by omega)]
    omega
  · refine ⟨c - 71, by omega, ?_⟩
    rw [b64Char, if_neg (by omega), if_pos (by omega)]
    omega
  · refine ⟨c + 4, by omega, ?_⟩
    rw [b64Char, if_neg (by omega), if_neg (by omega), if_pos (by omega)]
    omega
  · exact ⟨63, by decide, rfl⟩
  · exact ⟨62, by decide, rfl⟩

/-- A string of the alphabet is spelled by six-bit values. -/
theorem exists_sextets (h : OfAlphabet s) :
    ∃ vs : List ℕ, (∀ v ∈ vs, v < 64) ∧ s = vs.map b64Char := by
  induction s with
  | nil => exact ⟨[], fun v hv ↦ absurd hv List.not_mem_nil, rfl⟩
  | cons c cs ih =>
    obtain ⟨hc, hcs⟩ := List.forall_mem_cons.1 h
    obtain ⟨v, hv, rfl⟩ := exists_b64Char hc
    obtain ⟨vs, hvs, rfl⟩ := ih hcs
    exact ⟨v :: vs, List.forall_mem_cons.2 ⟨hv, hvs⟩, rfl⟩

theorem ofAlphabet_map (hvs : ∀ v ∈ vs, v < 64) : OfAlphabet (vs.map b64Char) := by
  intro c hc
  obtain ⟨v, hv, rfl⟩ := List.mem_map.1 hc
  exact isB64url_b64Char (hvs v hv)

theorem not_ofAlphabet_newline (body : PyStr) : ¬ OfAlphabet (body ++ [10]) := fun h ↦
  absurd (h 10 (List.mem_append_right _ List.mem_cons_self)) (by decide)

theorem EndsInNewline.not_ofAlphabet (h : EndsInNewline s) : ¬ OfAlphabet s := by
  obtain ⟨body, -, -, rfl⟩ := h
  exact not_ofAlphabet_newline body

/-! ### Decoding -/

/-- Four values make three bytes. -/
theorem a2bBase64_four {v w x y : ℕ} (hv : v < 64) (hw : w < 64) (hx : x < 64) (hy : y < 64)
    (left pads : ℕ) (cs : PyStr) :
    a2bBase64 0 left pads (b64Char v :: b64Char w :: b64Char x :: b64Char y :: cs) =
      (a2bBase64 0 0 0 cs).map fun bytes ↦ UInt8.ofNat (v * 4 + w / 16) ::
        UInt8.ofNat (w % 16 * 16 + x / 4) :: UInt8.ofNat (x % 4 * 64 + y) :: bytes := by
  rw [a2bBase64_zero hv, a2bBase64_one hw, a2bBase64_two hx, a2bBase64_three hy, Option.map_map,
    Option.map_map]
  rfl

theorem b64Pad_congr (h : s.length % 4 = t.length % 4) : b64Pad s = b64Pad t := by
  rw [b64Pad, b64Pad, h]

/-- Values with their padding decode to their bytes. -/
theorem a2bBase64_sextets (hvs : ∀ v ∈ vs, v < 64) (left pads : ℕ) :
    a2bBase64 0 left pads (vs.map b64Char ++ b64Pad (vs.map b64Char)) = sextetBytes vs := by
  induction vs using sextetBytes.induct generalizing left pads with
  | case1 => rfl
  | case2 v =>
    simp only [List.forall_mem_cons] at hvs
    show a2bBase64 0 left pads (b64Char v :: [61, 61, 61]) = none
    rw [a2bBase64_zero hvs.1]
    rfl
  | case3 v w =>
    simp only [List.forall_mem_cons] at hvs
    show a2bBase64 0 left pads (b64Char v :: b64Char w :: [61, 61]) = _
    rw [a2bBase64_zero hvs.1, a2bBase64_one hvs.2.1]
    rfl
  | case4 v w x =>
    simp only [List.forall_mem_cons] at hvs
    show a2bBase64 0 left pads (b64Char v :: b64Char w :: b64Char x :: [61]) = _
    rw [a2bBase64_zero hvs.1, a2bBase64_one hvs.2.1, a2bBase64_two hvs.2.2.1]
    rfl
  | case5 v w x y rest ih =>
    simp only [List.forall_mem_cons] at hvs
    obtain ⟨hv, hw, hx, hy, hrest⟩ := hvs
    have hpad : b64Pad ((v :: w :: x :: y :: rest).map b64Char) = b64Pad (rest.map b64Char) := by
      refine b64Pad_congr ?_
      simp only [List.length_map, List.length_cons]
      omega
    rw [hpad]
    show a2bBase64 0 left pads (b64Char v :: b64Char w :: b64Char x :: b64Char y ::
      (rest.map b64Char ++ b64Pad (rest.map b64Char))) = _
    rw [a2bBase64_four hv hw hx hy, ih hrest]
    rfl

/-- Behind a newline the padding is that of a longer string; only whole groups do without it. -/
theorem a2bBase64_newline (hvs : ∀ v ∈ vs, v < 64) (left pads : ℕ) :
    a2bBase64 0 left pads (vs.map b64Char ++ 10 :: b64Pad (vs.map b64Char ++ [10])) =
      if vs.length % 4 = 0 then sextetBytes vs else none := by
  induction vs using sextetBytes.induct generalizing left pads with
  | case1 => rfl
  | case2 v =>
    simp only [List.forall_mem_cons] at hvs
    show a2bBase64 0 left pads (b64Char v :: 10 :: [61, 61]) = none
    rw [a2bBase64_zero hvs.1]
    rfl
  | case3 v w =>
    simp only [List.forall_mem_cons] at hvs
    show a2bBase64 0 left pads (b64Char v :: b64Char w :: 10 :: [61]) = none
    rw [a2bBase64_zero hvs.1, a2bBase64_one hvs.2.1]
    rfl
  | case4 v w x =>
    simp only [List.forall_mem_cons] at hvs
    have hpad : b64Pad ([v, w, x].map b64Char ++ [10]) = [] := by simp [b64Pad]
    rw [hpad, if_neg (by show ¬ 3 % 4 = 0; decide)]
    show a2bBase64 0 left pads (b64Char v :: b64Char w :: b64Char x :: [10]) = none
    rw [a2bBase64_zero hvs.1, a2bBase64_one hvs.2.1, a2bBase64_two hvs.2.2.1]
    rfl
  | case5 v w x y rest ih =>
    simp only [List.forall_mem_cons] at hvs
    obtain ⟨hv, hw, hx, hy, hrest⟩ := hvs
    have hmod : (v :: w :: x :: y :: rest).length % 4 = rest.length % 4 := by
      simp only [List.length_cons]
      omega
    have hpad : b64Pad ((v :: w :: x :: y :: rest).map b64Char ++ [10]) =
        b64Pad (rest.map b64Char ++ [10]) := by
      refine b64Pad_congr ?_
      simp only [List.length_append, List.length_map, List.length_cons, List.length_nil]
      omega
    rw [hpad, hmod]
    show a2bBase64 0 left pads (b64Char v :: b64Char w :: b64Char x :: b64Char y ::
      (rest.map b64Char ++ 10 :: b64Pad (rest.map b64Char ++ [10]))) = _
    rw [a2bBase64_four hv hw hx hy, ih hrest]
    split
    · rfl
    · rfl

theorem lt_of_ofAlphabet (h : OfAlphabet s) : ∀ c ∈ s, c < 128 := by
  intro c hc
  have hurl := h c hc
  simp only [isB64url, decide_eq_true_eq] at hurl
  omega

theorem urlsafeB64decode_of_lt (h : ∀ c ∈ s, c < 128) :
    urlsafeB64decode s = a2bBase64 0 0 0 s := by
  rw [urlsafeB64decode, if_pos]
  exact List.all_eq_true.2 fun c hc ↦ decide_eq_true (h c hc)

theorem lt_of_mem_b64Pad : ∀ c ∈ b64Pad s, c < 128 := by
  intro c hc
  rw [List.eq_of_mem_replicate hc]
  decide

/-- **A string of the alphabet** is decoded by its values. -/
theorem b64urlDec_of_sextets (hvs : ∀ v ∈ vs, v < 64) :
    b64urlDec (vs.map b64Char) = sextetBytes vs := by
  have halphabet := ofAlphabet_map hvs
  have hre : b64urlRe (vs.map b64Char) = true := by
    rw [b64urlRe, List.all_eq_true.2 halphabet]
    rfl
  rw [b64urlDec, if_pos hre, urlsafeB64decode_of_lt, a2bBase64_sextets hvs]
  exact List.forall_mem_append.2 ⟨lt_of_ofAlphabet halphabet, lt_of_mem_b64Pad⟩

/-- **A string with a newline at its end** passes the pattern. -/
theorem b64urlDec_newline (hvs : ∀ v ∈ vs, v < 64) : b64urlDec (vs.map b64Char ++ [10]) =
    if vs.length % 4 = 0 then sextetBytes vs else none := by
  have halphabet := ofAlphabet_map hvs
  have hre : b64urlRe (vs.map b64Char ++ [10]) = true := by
    rw [b64urlRe, List.getLast?_concat, List.dropLast_concat, List.all_eq_true.2 halphabet]
    simp
  rw [b64urlDec, if_pos hre, urlsafeB64decode_of_lt, List.append_assoc]
  · exact a2bBase64_newline hvs 0 0
  · refine List.forall_mem_append.2 ⟨List.forall_mem_append.2 ⟨lt_of_ofAlphabet halphabet, ?_⟩,
      lt_of_mem_b64Pad⟩
    intro c hc
    rw [List.mem_singleton.1 hc]
    decide

/-- Every other string is refused. -/
theorem b64urlDec_cases (s : PyStr) :
    (∃ vs : List ℕ, (∀ v ∈ vs, v < 64) ∧ s = vs.map b64Char) ∨
      (∃ vs : List ℕ, (∀ v ∈ vs, v < 64) ∧ s = vs.map b64Char ++ [10]) ∨
      (¬ OfAlphabet s ∧ ¬ EndsInNewline s ∧ b64urlDec s = none) := by
  by_cases hs : OfAlphabet s
  · exact .inl (exists_sextets hs)
  by_cases hbody : ∃ body, OfAlphabet body ∧ s = body ++ [10]
  · obtain ⟨body, hbody, rfl⟩ := hbody
    obtain ⟨vs, hvs, rfl⟩ := exists_sextets hbody
    exact .inr (.inl ⟨vs, hvs, rfl⟩)
  refine .inr (.inr ⟨hs, fun h ↦ ?_, if_neg fun hre ↦ ?_⟩)
  · obtain ⟨body, halphabet, -, rfl⟩ := h
    exact hbody ⟨body, halphabet, rfl⟩
  · rw [b64urlRe, Bool.or_eq_true, Bool.and_eq_true, decide_eq_true_eq] at hre
    rcases hre with hall | ⟨hlast, hall⟩
    · exact hs (List.all_eq_true.1 hall)
    · refine hbody ⟨s.dropLast, List.all_eq_true.1 hall, ?_⟩
      exact (List.dropLast_append_getLast? 10 hlast).symm

/-- **What is accepted**: the strings of the alphabet with no character left over, and whole groups
with a newline behind them. -/
theorem exists_b64urlDec_iff : (∃ bytes, b64urlDec s = some bytes) ↔
    (OfAlphabet s ∧ s.length % 4 ≠ 1) ∨ EndsInNewline s := by
  rcases b64urlDec_cases s with ⟨vs, hvs, rfl⟩ | ⟨vs, hvs, rfl⟩ | ⟨hs, hnewline, hnone⟩
  · have halphabet := ofAlphabet_map hvs
    rw [b64urlDec_of_sextets hvs, exists_sextetBytes_iff, List.length_map]
    exact ⟨fun h ↦ .inl ⟨halphabet, h⟩, fun h ↦ h.elim (fun h ↦ h.2)
      fun h ↦ absurd halphabet h.not_ofAlphabet⟩
  · rw [b64urlDec_newline hvs]
    by_cases hlength : vs.length % 4 = 0
    · rw [if_pos hlength, exists_sextetBytes_iff]
      refine iff_of_true (by omega) (.inr ⟨_, ofAlphabet_map hvs, ?_, rfl⟩)
      rwa [List.length_map]
    · rw [if_neg hlength]
      refine iff_of_false (fun ⟨_, h⟩ ↦ nomatch h) ?_
      rintro (h | ⟨body, -, hbody, heq⟩)
      · exact not_ofAlphabet_newline _ h.1
      · rw [← (List.append_inj' heq rfl).1, List.length_map] at hbody
        exact hlength hbody
  · rw [hnone]
    exact iff_of_false (fun ⟨_, h⟩ ↦ nomatch h) fun h ↦ h.elim (fun h ↦ hs h.1) hnewline

/-- Two strings of the alphabet that decode to the same bytes agree but for the bits that no byte
takes. -/
theorem sameButUnused_of_b64urlDec (hs : OfAlphabet s) (ht : OfAlphabet t)
    (hdecs : b64urlDec s = some bytes) (hdect : b64urlDec t = some bytes) : SameButUnused s t := by
  obtain ⟨vs, hvs, rfl⟩ := exists_sextets hs
  obtain ⟨ws, hws, rfl⟩ := exists_sextets ht
  rw [b64urlDec_of_sextets hvs] at hdecs
  rw [b64urlDec_of_sextets hws] at hdect
  rcases sameSextets_of_sextetBytes hvs hws hdecs hdect with rfl | ⟨init, v, w, rfl, rfl, hlast⟩
  · exact .inl rfl
  · have hv : v < 64 := hvs v (List.mem_append_right _ List.mem_cons_self)
    have hw : w < 64 := hws w (List.mem_append_right _ List.mem_cons_self)
    refine .inr ⟨init.map b64Char, b64Char v, b64Char w, List.map_append, List.map_append, ?_⟩
    rw [sextet?_b64Char hv, sextet?_b64Char hw, List.length_map]
    exact congrArg some hlast

end Strings

/-! ### The strict inverse -/

/-- The decoder is a strict inverse of the encoder, as far as these bytes and these strings show. -/
structure StrictInverse (b : Bytes) (s t : PyStr) : Prop where
  /-- It gives back what was encoded. -/
  roundTrip : b64urlDec (b64urlEnc b) = some b
  /-- It accepts the strings of the alphabet that have no character left over, and no others. -/
  accepts : ∀ u ∈ [s, t],
    ((∃ bytes, b64urlDec u = some bytes) ↔ OfAlphabet u ∧ u.length % 4 ≠ 1)
  /-- It gives the same bytes for the same strings only, but for the bits that no byte takes. -/
  apart : ∀ bytes, b64urlDec s = some bytes → b64urlDec t = some bytes → SameButUnused s t

theorem accepts_iff {u : PyStr} :
    ((∃ bytes, b64urlDec u = some bytes) ↔ OfAlphabet u ∧ u.length % 4 ≠ 1) ↔
      ¬ EndsInNewline u := by
  rw [exists_b64urlDec_iff]
  constructor
  · exact fun h hnewline ↦ hnewline.not_ofAlphabet (h.1 (.inr hnewline)).1
  · exact fun hnewline ↦ or_iff_left hnewline

/-- **The decoder is strict** exactly on the strings that are not whole groups of four characters
with a newline behind them. -/
theorem strictInverse_iff (b : Bytes) (s t : PyStr) :
    StrictInverse b s t ↔ ¬ EndsInNewline s ∧ ¬ EndsInNewline t := by
  constructor
  · intro h
    have hs := h.accepts s List.mem_cons_self
    have ht := h.accepts t (List.mem_cons_of_mem _ List.mem_cons_self)
    exact ⟨accepts_iff.1 hs, accepts_iff.1 ht⟩
  · rintro ⟨hs, ht⟩
    refine ⟨b64urlDec_b64urlEnc b, ?_, fun bytes hdecs hdect ↦ ?_⟩
    · simp only [List.forall_mem_cons]
      exact ⟨accepts_iff.2 hs, accepts_iff.2 ht, fun _ h ↦ absurd h List.not_mem_nil⟩
    · have hs' := (exists_b64urlDec_iff.1 ⟨bytes, hdecs⟩).resolve_right hs
      have ht' := (exists_b64urlDec_iff.1 ⟨bytes, hdect⟩).resolve_right ht
      exact sameButUnused_of_b64urlDec hs'.1 ht'.1 hdecs hdect

/-- Four characters and a newline. -/
def groupAndNewline : PyStr := .ofString "QUJD\n"

/-- The newline is no character of the alphabet, and the string decodes all the same. -/
theorem not_strictInverse_groupAndNewline : ¬ StrictInverse [] groupAndNewline [] := by
  intro h
  have haccepts := h.accepts groupAndNewline List.mem_cons_self
  have hdecodes : b64urlDec groupAndNewline = some (utf8 "ABC") := by decide
  exact not_ofAlphabet_newline (.ofString "QUJD") (haccepts.1 ⟨_, hdecodes⟩).1

end Siyadah
