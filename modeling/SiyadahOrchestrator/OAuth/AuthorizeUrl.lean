import SiyadahOrchestrator.Foundations.FormUrlencoded
import SiyadahOrchestrator.OAuth.Saga
import SiyadahOrchestrator.OAuth.StateIssue

/-!
# The authorization URL

`oauth_initiate` sends the user to the provider with a URL. It carries the state token, and the
challenge of a PKCE pair where the provider supports that; the scopes in it are the caller's.

A provider reads the parameters that `_build_authorize_url` has put together and no others, whatever
the scopes are (`parse_buildAuthorizeUrl`). So the state that comes back from it is the token that
was issued, and the verifier that is kept in the saga is, up to collisions of the hash, the only one
that answers the challenge (`handshake_of_authorize`). SHA-256 is a parameter.
-/

namespace Siyadah

open FormUrlencoded

/-! ### Providers -/

/-- What `ProviderConfig` says about authorization. -/
structure AuthorizeConfig extends ProviderConfig where
  authorizeUrl : String
  scopeSeparator : String
  extraAuthorizeParams : List (String × String)
  clientIdEnv : String
  redirectUriEnv : String
  /-- The extra parameters are a dictionary. -/
  nodup : (extraAuthorizeParams.map Prod.fst).Nodup

/-- The entry of Slack in `PROVIDERS`. -/
def slackAuthorize : AuthorizeConfig where
  name := "slack"
  usesPkce := false
  authorizeUrl := "https://slack.com/oauth/v2/authorize"
  scopeSeparator := ","
  extraAuthorizeParams := [("user_scope", "")]
  clientIdEnv := "SLACK_CLIENT_ID"
  redirectUriEnv := "SLACK_REDIRECT_URI"
  nodup := List.nodup_singleton _

/-- `PLACEHOLDER_CLIENT_ID`. -/
def placeholderClientId : String := "<SLACK_CLIENT_ID_NOT_SET>"

/-- `PLACEHOLDER_REDIRECT`. -/
def placeholderRedirect : String := "<SLACK_REDIRECT_URI_NOT_SET>"

/-- `os.getenv(name, "") or placeholder`. -/
def envOr (getenv : String → Option String) (name placeholder : String) : String :=
  if (getenv name).getD "" = "" then placeholder else (getenv name).getD ""

/-! ### The URL -/

section Url

variable (getenv : String → Option String) (cfg : AuthorizeConfig)
  (stateToken pkceChallenge : String) (scopes : List String)

/-- The parameters that every provider gets. -/
def standardParams : List (String × String) :=
  [("client_id", envOr getenv cfg.clientIdEnv placeholderClientId),
    ("scope", cfg.scopeSeparator.intercalate scopes), ("state", stateToken),
    ("redirect_uri", envOr getenv cfg.redirectUriEnv placeholderRedirect),
    ("response_type", "code")]

/-- The parameters of a provider that supports PKCE. -/
def withChallenge : List (String × String) :=
  upsert (upsert (standardParams getenv cfg stateToken scopes) "code_challenge" pkceChallenge)
    "code_challenge_method" "S256"

/-- `params`, when `params.update(cfg.extra_authorize_params)` has run. -/
def authorizeParams : List (String × String) :=
  cfg.extraAuthorizeParams.foldl (fun d e ↦ upsert d e.1 e.2)
    (if cfg.usesPkce then withChallenge getenv cfg stateToken pkceChallenge scopes
      else standardParams getenv cfg stateToken scopes)

/-- A parameter in UTF-8. -/
def utf8Pair (p : String × String) : Bytes × Bytes := (utf8 p.1, utf8 p.2)

/-- `_build_authorize_url`, in UTF-8. -/
def buildAuthorizeUrl : Bytes :=
  utf8 cfg.authorizeUrl ++
    63 :: urlencode ((authorizeParams getenv cfg stateToken pkceChallenge scopes).map utf8Pair)

end Url

/-- A parameter as a server reads it from a URL. -/
def readParam (url : Bytes) (key : String) : Option String :=
  ((parse (query url)).lookup (utf8 key)).bind utf8Decode

/-- The URL has neither a query nor a fragment. -/
def IsBareUrl (url : String) : Prop := ∀ b ∈ utf8 url, b ≠ 63 ∧ b ≠ 35

/-! ### What the provider reads -/

section Reading

variable {getenv : String → Option String} {cfg : AuthorizeConfig}
  {stateToken pkceChallenge : String} {scopes : List String}

/-- `dict.update`, key by key. -/
theorem lookup_update {d e : List (String × String)} (he : (e.map Prod.fst).Nodup) (key : String) :
    (e.foldl (fun d e ↦ upsert d e.1 e.2) d).lookup key = (e.lookup key).or (d.lookup key) := by
  induction e generalizing d with
  | nil => rfl
  | cons p e ih =>
    obtain ⟨hnot, hnodup⟩ := List.nodup_cons.1 he
    rw [List.foldl_cons, ih hnodup, lookup_upsert, List.lookup_cons]
    by_cases hkey : key = p.1
    · have hnone : e.lookup key = none := List.lookup_eq_none_iff.2 fun q hq ↦
        bne_iff_ne.2 fun heq ↦ hnot (List.mem_map.2 ⟨q, hq, heq.symm.trans hkey⟩)
      rw [if_pos hkey, hnone, beq_iff_eq.2 hkey]
      rfl
    · rw [if_neg hkey, beq_false_of_ne hkey]

theorem lookup_map_utf8Pair (params : List (String × String)) (key : String) :
    (params.map utf8Pair).lookup (utf8 key) = (params.lookup key).map utf8 := by
  induction params with
  | nil => rfl
  | cons p params ih =>
    rw [List.map_cons, utf8Pair, List.lookup_cons, List.lookup_cons, ih]
    by_cases hkey : key = p.1
    · rw [hkey, beq_self_eq_true, beq_self_eq_true]
      rfl
    · have hne : utf8 key ≠ utf8 p.1 := fun heq ↦ hkey (utf8_injective heq)
      rw [beq_false_of_ne hkey, beq_false_of_ne hne]

/-- What each parameter is: an extra one of the provider, or one of those that it gets anyway. -/
theorem lookup_authorizeParams (key : String) :
    (authorizeParams getenv cfg stateToken pkceChallenge scopes).lookup key =
      (cfg.extraAuthorizeParams.lookup key).or
        (if cfg.usesPkce ∧ key = "code_challenge" then some pkceChallenge
          else if cfg.usesPkce ∧ key = "code_challenge_method" then some "S256"
          else (standardParams getenv cfg stateToken scopes).lookup key) := by
  rw [authorizeParams, lookup_update cfg.nodup]
  congr 1
  rcases cfg.usesPkce with - | -
  · rw [if_neg Bool.false_ne_true, if_neg (by simp), if_neg (by simp)]
  · rw [if_pos rfl, withChallenge, lookup_upsert, lookup_upsert]
    by_cases hmethod : key = "code_challenge_method"
    · have hne : key ≠ "code_challenge" := fun heq ↦ absurd (hmethod.symm.trans heq) (by decide)
      rw [if_pos hmethod, if_neg fun h ↦ hne h.2, if_pos ⟨rfl, hmethod⟩]
    · rw [if_neg hmethod, if_neg (c := true = true ∧ key = "code_challenge_method")
        fun h ↦ hmethod h.2]
      by_cases hchallenge : key = "code_challenge"
      · rw [if_pos hchallenge, if_pos ⟨rfl, hchallenge⟩]
      · rw [if_neg hchallenge, if_neg fun h ↦ hchallenge h.2]

/-- **No parameter is smuggled in.** Wherever the URL leads, it leads to the provider; and what the
provider reads are the parameters that were put together, in their order and each under its own
key, whatever the scopes and the token hold. -/
theorem parse_buildAuthorizeUrl (hurl : IsBareUrl cfg.authorizeUrl) :
    location (buildAuthorizeUrl getenv cfg stateToken pkceChallenge scopes) =
        utf8 cfg.authorizeUrl ∧
      parse (query (buildAuthorizeUrl getenv cfg stateToken pkceChallenge scopes)) =
        (authorizeParams getenv cfg stateToken pkceChallenge scopes).map utf8Pair ∧
      ∀ key, readParam (buildAuthorizeUrl getenv cfg stateToken pkceChallenge scopes) key =
        (cfg.extraAuthorizeParams.lookup key).or
          (if cfg.usesPkce ∧ key = "code_challenge" then some pkceChallenge
            else if cfg.usesPkce ∧ key = "code_challenge_method" then some "S256"
            else (standardParams getenv cfg stateToken scopes).lookup key) := by
  have hparse : parse (query (buildAuthorizeUrl getenv cfg stateToken pkceChallenge scopes)) =
      (authorizeParams getenv cfg stateToken pkceChallenge scopes).map utf8Pair := by
    rw [buildAuthorizeUrl, query_append hurl, parse_urlencode]
  refine ⟨location_append hurl _, hparse, fun key ↦ ?_⟩
  rw [readParam, hparse, lookup_map_utf8Pair, ← lookup_authorizeParams]
  rcases (authorizeParams getenv cfg stateToken pkceChallenge scopes).lookup key with - | value
  · rfl
  · exact utf8Decode_utf8 value

theorem isBareUrl_slack : IsBareUrl slackAuthorize.authorizeUrl := by
  show ∀ b ∈ utf8 "https://slack.com/oauth/v2/authorize", b ≠ 63 ∧ b ≠ 35
  decide +kernel

/-- Only the address that Slack sends its users back to is configured. -/
def redirectOnly (name : String) : Option String :=
  if name = "SLACK_REDIRECT_URI" then some "https://api.siyadah/callback" else none

/-- A scope that asks for another address does not change it. -/
theorem parse_buildAuthorizeUrl_sample :
    readParam (buildAuthorizeUrl redirectOnly slackAuthorize "token" ""
        ["chat:write&redirect_uri=https://elsewhere"]) "redirect_uri" =
      some "https://api.siyadah/callback" :=
  ((parse_buildAuthorizeUrl isBareUrl_slack).2.2 "redirect_uri").trans (by decide)

end Reading

/-! ### PKCE -/

/-- `PKCE_VERIFIER_BYTES`. -/
def pkceVerifierBytes : ℕ := 48

section Pkce

variable (sha256 : Bytes → TokenBytes 32)

/-- `_b64url_enc(hashlib.sha256(…).digest())`, of a verifier that is ASCII. -/
def challengeOf (verifier : PyStr) : PyStr := b64urlEnc (sha256 (verifier.map UInt8.ofNat)).bytes

/-- `gen_pkce`: the verifier and its challenge. -/
def genPkce (rand : TokenBytes pkceVerifierBytes) : PyStr × PyStr :=
  (b64urlEnc rand.bytes, challengeOf sha256 (b64urlEnc rand.bytes))

/-- `verify_pkce`; `none` is `UnicodeEncodeError`. -/
def verifyPkce (verifier expectedChallenge : PyStr) : Option Bool :=
  if verifier = [] ∨ expectedChallenge = [] then some false
  else if ¬ verifier.all (· < 128) then none
  else do
    let actual ← (challengeOf sha256 verifier).toString?
    let expected ← expectedChallenge.toString?
    return decide (utf8 actual = utf8 expected)

end Pkce

/-! ### ASCII -/

/-- A Python string of ASCII characters. -/
def asciiText (s : PyStr) : String := String.ofList (s.map Char.ofNat)

theorem ofString_asciiText {s : PyStr} (h : ∀ c ∈ s, c < 128) : .ofString (asciiText s) = s := by
  have hchar : ∀ c < 128, (Char.ofNat c).toNat = c := by decide
  rw [PyStr.ofString, asciiText, String.toList_ofList, List.map_map]
  refine (List.map_congr_left fun c hc ↦ ?_).trans (List.map_id _)
  exact hchar c (h c hc)

theorem lt_of_isB64url {c : ℕ} (h : isB64url c) : c < 128 := by
  simp only [isB64url, decide_eq_true_eq] at h
  omega

theorem ofString_asciiText_b64urlEnc (b : Bytes) :
    .ofString (asciiText (b64urlEnc b)) = b64urlEnc b :=
  ofString_asciiText fun c hc ↦ lt_of_isB64url (isB64url_of_mem_b64urlEnc c hc)

theorem ofString_asciiText_signedToken (lib : StdLib) (key : StateKey) (payloadBytes : Bytes) :
    .ofString (asciiText (lib.signedToken key payloadBytes)) =
      lib.signedToken key payloadBytes := by
  refine ofString_asciiText fun c hc ↦ ?_
  rcases List.mem_append.1 hc with hc | hc
  · exact lt_of_isB64url (isB64url_of_mem_b64urlEnc c hc)
  · rcases List.mem_cons.1 hc with rfl | hc
    · decide
    · exact lt_of_isB64url (isB64url_of_mem_b64urlEnc c hc)

/-- Two encodings are the same string when they are of the same bytes. -/
theorem b64urlEnc_injective : Function.Injective b64urlEnc := fun b b' h ↦ by
  have hdec := b64urlDec_b64urlEnc b
  rw [h, b64urlDec_b64urlEnc] at hdec
  exact (Option.some.inj hdec).symm

theorem b64urlEnc_ne_nil {b : Bytes} (h : b ≠ []) : b64urlEnc b ≠ [] := fun hnil ↦
  h (b64urlEnc_injective (hnil.trans rfl))

/-! ### The handshake -/

/-- What `oauth_initiate` sends to the provider, and what it keeps. -/
structure Authorization where
  url : Bytes
  nonce : PyStr
  pkceVerifier : PyStr

/-- `oauth_initiate`, as far as the URL goes: it makes the state token and the PKCE pair, and puts
both into the URL. -/
def authorization (lib : StdLib) (key : StateKey) (sha256 : Bytes → TokenBytes 32)
    (getenv : String → Option String) (cfg : AuthorizeConfig) (issue : StateIssue)
    (rand : TokenBytes pkceVerifierBytes) (scopes : List String) :
    Except StateError Authorization := do
  let (stateToken, nonce) ← lib.makeState key issue
  let (pkceVerifier, pkceChallenge) := genPkce sha256 rand
  return ⟨buildAuthorizeUrl getenv cfg (asciiText stateToken) (asciiText pkceChallenge) scopes,
    nonce, pkceVerifier⟩

section Handshake

variable {lib : StdLib} {key : StateKey} {sha256 : Bytes → TokenBytes 32}
  {getenv : String → Option String} {cfg : AuthorizeConfig} {issue : StateIssue}
  {rand : TokenBytes pkceVerifierBytes} {scopes : List String} {auth : Authorization}

/-- The verifiers that answer a challenge are those with the same hash. -/
theorem verifyPkce_genPkce {verifier : PyStr} (hne : verifier ≠ [])
    (hascii : ∀ c ∈ verifier, c < 128) :
    verifyPkce sha256 verifier (genPkce sha256 rand).2 =
      some (decide ((sha256 (verifier.map UInt8.ofNat)).bytes =
        (sha256 ((genPkce sha256 rand).1.map UInt8.ofNat)).bytes)) := by
  have htext (v : PyStr) : (challengeOf sha256 v).toString? =
      some (asciiText (challengeOf sha256 v)) := by
    have h := PyStr.toString?_ofString (asciiText (challengeOf sha256 v))
    rwa [challengeOf, ofString_asciiText_b64urlEnc] at h
  have hchallenge : (genPkce sha256 rand).2 ≠ [] := b64urlEnc_ne_nil fun hnil ↦ by
    have hlength := (sha256 ((genPkce sha256 rand).1.map UInt8.ofNat)).length_eq
    rw [show (sha256 ((genPkce sha256 rand).1.map UInt8.ofNat)).bytes = [] from hnil] at hlength
    exact absurd hlength (by decide)
  have hall : verifier.all (· < 128) := List.all_eq_true.2 fun c hc ↦ decide_eq_true (hascii c hc)
  have heq (v v' : PyStr) :
      utf8 (asciiText (challengeOf sha256 v)) = utf8 (asciiText (challengeOf sha256 v')) ↔
        (sha256 (v.map UInt8.ofNat)).bytes = (sha256 (v'.map UInt8.ofNat)).bytes := by
    constructor
    · intro h
      have hof := congrArg PyStr.ofString (utf8_injective h)
      rw [challengeOf, challengeOf, ofString_asciiText_b64urlEnc,
        ofString_asciiText_b64urlEnc] at hof
      exact b64urlEnc_injective hof
    · intro h
      rw [challengeOf, challengeOf, h]
  rw [verifyPkce, if_neg (not_or.2 ⟨hne, hchallenge⟩), if_neg (not_not_intro hall), htext,
    show (genPkce sha256 rand).2 = challengeOf sha256 (genPkce sha256 rand).1 from rfl, htext]
  exact congrArg some (decide_eq_decide.2 (heq _ _))

theorem authorization_eq (htenant : issue.tenantId ≠ "") :
    authorization lib key sha256 getenv cfg issue rand scopes =
      .ok ⟨buildAuthorizeUrl getenv cfg (asciiText (lib.signedToken key issue.payload.dumps))
        (asciiText (genPkce sha256 rand).2) scopes, issue.nonce, (genPkce sha256 rand).1⟩ := by
  rw [authorization, StdLib.makeState, if_neg htenant]
  rfl

/-- What the provider reads under a key that it has no extra parameter for. -/
theorem readParam_of_notMem {stateToken pkceChallenge k : String}
    (hurl : IsBareUrl cfg.authorizeUrl) (hk : k ∉ cfg.extraAuthorizeParams.map Prod.fst) :
    readParam (buildAuthorizeUrl getenv cfg stateToken pkceChallenge scopes) k =
      if cfg.usesPkce ∧ k = "code_challenge" then some pkceChallenge
      else if cfg.usesPkce ∧ k = "code_challenge_method" then some "S256"
      else (standardParams getenv cfg stateToken scopes).lookup k := by
  have hnone : cfg.extraAuthorizeParams.lookup k = none := List.lookup_eq_none_iff.2 fun p hp ↦
    bne_iff_ne.2 fun heq ↦ hk (List.mem_map.2 ⟨p, hp, heq.symm⟩)
  rw [(parse_buildAuthorizeUrl hurl).2.2 k, hnone]
  rfl

/-- **The handshake.** A provider that adds nothing under the reserved keys hands back a state that
verifies to the claims it was issued with, for the tenant that asked and until it expires; and of
the verifiers that can be sent to it later it accepts those with the hash of the one that is
kept. -/
theorem handshake_of_authorization (hjson : lib.Loads issue.payload)
    (hurl : IsBareUrl cfg.authorizeUrl)
    (hextra : ∀ k ∈ ["state", "code_challenge", "code_challenge_method"],
      k ∉ cfg.extraAuthorizeParams.map Prod.fst)
    (hauth : authorization lib key sha256 getenv cfg issue rand scopes = .ok auth) :
    (∃ state, readParam auth.url "state" = some state ∧ issue.claims.nonce = auth.nonce ∧
      ∀ expected later, lib.verifyState key (.ofString state) (.str (.ofString expected)) later =
        if expected ≠ issue.tenantId then .error (.state .stateTenantMismatchError)
        else if unixSeconds issue.now + issue.ttlSeconds ≤ unixSeconds later then
          .error (.state .stateExpiredError)
        else .ok issue.claims) ∧
    (cfg.usesPkce → ∃ challenge, readParam auth.url "code_challenge" = some challenge ∧
      readParam auth.url "code_challenge_method" = some "S256" ∧
      ∀ verifier ≠ [], (∀ c ∈ verifier, c < 128) →
        verifyPkce sha256 verifier (.ofString challenge) =
          some (decide ((sha256 (verifier.map UInt8.ofNat)).bytes =
            (sha256 (auth.pkceVerifier.map UInt8.ofNat)).bytes))) := by
  obtain ⟨hstate, hchallenge, hmethod⟩ : "state" ∉ cfg.extraAuthorizeParams.map Prod.fst ∧
      "code_challenge" ∉ cfg.extraAuthorizeParams.map Prod.fst ∧
      "code_challenge_method" ∉ cfg.extraAuthorizeParams.map Prod.fst :=
    ⟨hextra _ (by simp), hextra _ (by simp), hextra _ (by simp)⟩
  by_cases htenant : issue.tenantId = ""
  · rw [authorization, StdLib.makeState, if_pos htenant] at hauth
    exact absurd hauth (by simp [bind, Except.bind])
  · rw [authorization_eq htenant] at hauth
    obtain rfl := Except.ok.inj hauth
    refine ⟨⟨asciiText (lib.signedToken key issue.payload.dumps), ?_, rfl,
        fun expected later ↦ ?_⟩,
      fun hpkce ↦ ⟨asciiText (genPkce sha256 rand).2, ?_, ?_, fun verifier hne hascii ↦ ?_⟩⟩
    · rw [readParam_of_notMem hurl hstate, if_neg (by simp), if_neg (by simp)]
      rfl
    · rw [ofString_asciiText_signedToken]
      exact StdLib.verifyState_signedToken hjson expected later
    · rw [readParam_of_notMem hurl hchallenge]
      exact if_pos ⟨hpkce, rfl⟩
    · rw [readParam_of_notMem hurl hmethod, if_neg (by simp)]
      exact if_pos ⟨hpkce, rfl⟩
    · have htext : PyStr.ofString (asciiText (genPkce sha256 rand).2) = (genPkce sha256 rand).2 :=
        ofString_asciiText_b64urlEnc _
      rw [htext]
      exact verifyPkce_genPkce hne hascii

end Handshake

/-- A provider like Slack that supports PKCE. -/
def pkceAuthorize : AuthorizeConfig := { slackAuthorize with usesPkce := true }

/-- SHA-256 of 64 letters `A`. -/
def digestOfAs : TokenBytes 32 where
  bytes := [213, 62, 218, 122, 99, 124, 153, 204, 127, 181, 102, 217, 110, 159, 161, 9, 191, 21,
    196, 120, 65, 10, 63, 94, 180, 212, 196, 226, 108, 208, 129, 246]
  length_eq := rfl

/-- SHA-256 of 64 letters `B`. -/
def digestOfBs : TokenBytes 32 where
  bytes := [196, 34, 231, 7, 12, 177, 203, 69, 91, 93, 233, 175, 238, 13, 151, 94, 48, 61, 2, 57,
    199, 32, 48, 205, 116, 20, 171, 92, 56, 45, 58, 232]
  length_eq := rfl

/-- SHA-256 of these two. -/
def sampleSha256 (b : Bytes) : TokenBytes 32 :=
  if b = List.replicate 64 65 then digestOfAs else digestOfBs

theorem sampleSha256_as : sampleSha256 ((List.replicate 64 65).map UInt8.ofNat) = digestOfAs :=
  if_pos List.map_replicate

theorem sampleSha256_bs : sampleSha256 ((List.replicate 64 66).map UInt8.ofNat) = digestOfBs := by
  rw [List.map_replicate]
  exact if_neg fun h ↦ absurd (List.replicate_inj.1 h).2 (by decide)

/-- The state comes back as the token of the tenant; the verifier that is kept answers the
challenge, and another one does not. -/
theorem handshake_of_authorization_sample :
    ∃ auth state challenge,
      authorization issuingLib (constantBytes 32 0) sampleSha256 redirectOnly pkceAuthorize
        demoIssue (constantBytes 48 0) ["chat:write"] = .ok auth ∧
      readParam auth.url "state" = some state ∧
      issuingLib.verifyState (constantBytes 32 0) (.ofString state) (.str (.ofString "t1"))
        (seconds 299) = .ok demoIssue.claims ∧
      readParam auth.url "code_challenge" = some challenge ∧
      verifyPkce sampleSha256 auth.pkceVerifier (.ofString challenge) = some true ∧
      verifyPkce sampleSha256 (List.replicate 64 66) (.ofString challenge) = some false := by
  obtain ⟨auth, hauth, hkept⟩ : ∃ auth,
      authorization issuingLib (constantBytes 32 0) sampleSha256 redirectOnly pkceAuthorize
        demoIssue (constantBytes 48 0) ["chat:write"] = .ok auth ∧
      auth.pkceVerifier = List.replicate 64 65 :=
    ⟨_, authorization_eq (by decide), b64urlEnc_eq_b64Chars (List.replicate 48 0)⟩
  have hjson : issuingLib.Loads demoIssue.payload := by
    simp only [StdLib.Loads, issuingLib, if_true]
  have hascii (c : ℕ) (hc : c < 128) : ∀ d ∈ List.replicate 64 c, d < 128 := fun d hd ↦
    (List.eq_of_mem_replicate hd).symm ▸ hc
  have hne (c : ℕ) : List.replicate 64 c ≠ [] := by simp
  have hurl : IsBareUrl pkceAuthorize.authorizeUrl := isBareUrl_slack
  obtain ⟨⟨state, hstate, -, hverify⟩, hpkce⟩ :=
    handshake_of_authorization hjson hurl (by decide) hauth
  obtain ⟨challenge, hchallenge, -, hanswer⟩ := hpkce rfl
  rw [hkept, sampleSha256_as] at hanswer
  refine ⟨auth, state, challenge, hauth, hstate, (hverify "t1" _).trans ?_, hchallenge, ?_, ?_⟩
  · rw [if_neg (by decide), if_neg (by decide)]
  · rw [hkept, hanswer _ (hne 65) (hascii 65 (by decide)), sampleSha256_as, decide_eq_true rfl]
  · rw [hanswer _ (hne 66) (hascii 66 (by decide)), sampleSha256_bs]
    exact congrArg some (decide_eq_false (by decide))

end Siyadah
