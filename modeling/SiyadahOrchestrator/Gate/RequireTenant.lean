import SiyadahOrchestrator.Foundations.KeyedTable
import SiyadahOrchestrator.Vault.Token

/-!
# The tenant gate

`require_tenant` of `auth.py`, the middleware in front of every `/v2/*` endpoint: it resolves the
API key against `tenant_api_keys`, compares the tenant header with the identity of the key's row and
binds the row's project to the request.

The gate should admit a request to a protected path exactly when its key is live and its tenant
header is that of the key, or, until the first key has been seeded, when it presents the legacy key.
It does, with one exception. The code takes "no live row for this key" for "no rows at all", so the
legacy key keeps working once keys have been seeded, and goes on working after its own row has been
revoked; `gate_exact_iff` says that nothing else is wrong.

SHA-256 is a parameter. A `uuid` column holds no empty string, which is what `or` falls back on in
`tenant_uuid or project_id`; `Uuid` carries that fact.
-/

namespace Siyadah

/-! ### Rows of `tenant_api_keys` -/

/-- A value of a `uuid` column, as text. -/
structure Uuid where
  text : String
  form : IsUuid text
deriving DecidableEq

/-- One row of `tenant_api_keys`. -/
structure TenantApiKey where
  id : String
  projectId : String
  keyHash : String
  scopes : List String
  revokedAt : Option Time
  tenantUuid : Option Uuid
deriving DecidableEq

namespace TenantApiKey

/-- `key_hash` is unique. -/
def uniqueHash (row : TenantApiKey) : Option String := some row.keyHash

/-- `resolved.tenant_uuid or resolved.project_id`. -/
def expectedIdentity (row : TenantApiKey) : String :=
  (truthy (row.tenantUuid.map Uuid.text)).getD row.projectId

/-- The tenant that the row names: its UUID, or its project while it has none. -/
def identity (row : TenantApiKey) : String :=
  match row.tenantUuid with
  | some uuid => uuid.text
  | none => row.projectId

end TenantApiKey

/-- The table, with its constraints. -/
abbrev ApiKeyTable := KeyedTable TenantApiKey.id TenantApiKey.uniqueHash

/-! ### Paths -/

/-- `PUBLIC_PATHS`. -/
def publicPaths : List String :=
  ["/", "/health", "/openapi.json", "/docs", "/redoc", "/favicon.ico"]

/-- A character of `[a-z0-9_-]`. -/
def isSlugChar (c : Char) : Bool :=
  ('a' ≤ c ∧ c ≤ 'z') ∨ ('0' ≤ c ∧ c ≤ '9') ∨ c = '_' ∨ c = '-'

/-- `[a-z0-9_-]+` and then `rest`; the class is disjoint from what may follow it. -/
def slugThen (rest : List Char → Bool) (s : List Char) : Bool :=
  s.takeWhile isSlugChar ≠ [] && rest (s.dropWhile isSlugChar)

/-- A literal and then `rest`. -/
def literalThen (literal : String) (rest : List Char → Bool) (s : List Char) : Bool :=
  literal.toList.isPrefixOf s && rest (s.drop literal.toList.length)

/-- `$`, which also matches before a final newline. -/
def atEnd (s : List Char) : Bool := s = [] ∨ s = ['\n']

/-- `PUBLIC_PATH_PATTERNS`, matched from the start. -/
def publicPathPatterns : List (List Char → Bool) :=
  [literalThen "/v2/oauth/" (slugThen (literalThen "/callback" atEnd)),
    literalThen "/v2/webhooks/" (slugThen (literalThen "/" (slugThen atEnd)))]

/-- `PROTECTED_PREFIXES`. -/
def protectedPrefixes : List String := ["/v2/"]

/-- `_needs_enforcement`. -/
def needsEnforcement (path : String) : Bool :=
  if path ∈ publicPaths then false
  else if publicPathPatterns.any fun p ↦ p path.toList then false
  else protectedPrefixes.any fun p ↦ p.toList.isPrefixOf path.toList

example : needsEnforcement "/v2/oauth/slack/callback" = false := by decide

example : needsEnforcement "/v2/oauth/slack/initiate" = true := by decide

/-! ### Requests -/

/-- A request, as the gate reads it. -/
structure GateRequest where
  path : String
  /-- The headers in their order, with names in lower case. -/
  headers : List (String × String)
deriving DecidableEq, Repr

/-- A character that `str.strip` removes. -/
def isPySpace (c : Char) : Bool :=
  (9 ≤ c.toNat ∧ c.toNat ≤ 13) ∨ (28 ≤ c.toNat ∧ c.toNat ≤ 32) ∨
    c.toNat ∈ [0x85, 0xA0, 0x1680, 0x2028, 0x2029, 0x202F, 0x205F, 0x3000] ∨
    (0x2000 ≤ c.toNat ∧ c.toNat ≤ 0x200A)

/-- `str.strip`. -/
def pyStrip (s : String) : String :=
  String.ofList (((s.toList.dropWhile isPySpace).reverse.dropWhile isPySpace).reverse)

namespace GateRequest

variable (req : GateRequest)

/-- `request.headers.get(name)`: the first header of that name. -/
def header (name : String) : Option String :=
  (req.headers.find? fun h ↦ h.1 = name).map Prod.snd

/-- The API key; an empty header is none. -/
def apiKey : Option String := truthy (req.header "x-api-key")

/-- The tenant header without its surrounding white space; a blank one is none. -/
def tenant : Option String := truthy ((req.header "x-siyadah-tenant").map pyStrip)

end GateRequest

/-! ### The gate -/

/-- What the gate finds wrong. -/
inductive GateViolation where
  | missingApiKey
  | unknownOrRevokedKey
  | missingTenantHeader
  | tenantMismatch
deriving DecidableEq, Repr

namespace GateViolation

/-- The text in the audit log and in the answer. -/
def text : GateViolation → String
  | .missingApiKey => "missing_api_key"
  | .unknownOrRevokedKey => "unknown_or_revoked_key"
  | .missingTenantHeader => "missing_tenant_header"
  | .tenantMismatch => "tenant_mismatch"

/-- The status that the violation is answered with. -/
def status : GateViolation → ℕ
  | .tenantMismatch => 403
  | _ => 401

/-- `API_KEY_VIOLATIONS` are enforced always, `TENANT_VIOLATIONS` when enforcement is on. -/
def isApiKeyViolation : GateViolation → Bool
  | .missingApiKey => true
  | .unknownOrRevokedKey => true
  | _ => false

end GateViolation

/-- What the gate writes to `request.state`. -/
structure GateState where
  projectId : Option String
  apiKeyHash : Option String
  scopes : List String
deriving DecidableEq, Repr

/-- The state of a request that nothing has been verified of. -/
def GateState.anonymous : GateState := ⟨none, none, []⟩

/-- What the gate does with a request. -/
inductive GateOutcome where
  /-- `call_next(request)`, with the violation that a dry run has logged. -/
  | forwarded (state : GateState) (violation : Option GateViolation)
  /-- A JSON answer with the violation's text. -/
  | blocked (status : ℕ) (violation : GateViolation)
deriving DecidableEq, Repr

/-- The environment of the gate. -/
structure GateConfig where
  /-- `REQUIRE_TENANT_ENFORCE`. -/
  enforce : Bool
  /-- `ORCHESTRATOR_API_KEY`. -/
  legacyApiKey : String
  /-- `hashlib.sha256(raw.encode("utf-8")).hexdigest()`. -/
  hashKey : String → String

/-- `_lookup_key`; there is nothing to look up without a configured database. -/
def lookupKey (database : Option ApiKeyTable) (keyHash : String) : Option TenantApiKey :=
  database.bind fun t ↦ t.rows.find? fun row ↦ row.keyHash = keyHash ∧ row.revokedAt = none

namespace GateConfig

variable (cfg : GateConfig)

/-- The raw key is the configured legacy key. -/
def isLegacyKey (rawKey : String) : Bool := cfg.legacyApiKey ≠ "" ∧ rawKey = cfg.legacyApiKey

/-- The answer to a violation. -/
def onViolation (state : GateState) (v : GateViolation) : GateOutcome :=
  if v.isApiKeyViolation || cfg.enforce then .blocked v.status v else .forwarded state (some v)

/-- `require_tenant`. -/
def requireTenant (database : Option ApiKeyTable) (req : GateRequest) : GateOutcome :=
  if needsEnforcement req.path then
    match req.apiKey with
    | none => cfg.onViolation .anonymous .missingApiKey
    | some rawKey =>
      let keyHash := cfg.hashKey rawKey
      let state : GateState := { GateState.anonymous with apiKeyHash := some keyHash }
      match lookupKey database keyHash with
      | none =>
        -- "If no rows at all", says the comment; what is known is that no live row has this hash.
        if cfg.isLegacyKey rawKey then .forwarded state none
        else cfg.onViolation state .unknownOrRevokedKey
      | some row =>
        match req.tenant with
        | none => cfg.onViolation state .missingTenantHeader
        | some claimed =>
          if row.expectedIdentity = claimed then
            .forwarded { state with projectId := some row.projectId, scopes := row.scopes } none
          else cfg.onViolation state .tenantMismatch
  else .forwarded .anonymous none

end GateConfig

/-! ### What the gate should do -/

/-- The key of the request has a live row, and the tenant header is that row's tenant. -/
def GateConfig.Keyed (cfg : GateConfig) (t : ApiKeyTable) (req : GateRequest)
    (row : TenantApiKey) : Prop :=
  row ∈ t.rows ∧ row.revokedAt = none ∧ req.apiKey.map cfg.hashKey = some row.keyHash ∧
    req.tenant = some row.identity

/-- No key has been seeded yet, and the request presents the legacy key. -/
def GateConfig.Bootstrap (cfg : GateConfig) (t : ApiKeyTable) (req : GateRequest) : Prop :=
  t.rows = [] ∧ ∃ rawKey, req.apiKey = some rawKey ∧ cfg.isLegacyKey rawKey

/-- The gate forwards the request. -/
def GateOutcome.IsForwarded : GateOutcome → Prop
  | .forwarded _ _ => True
  | .blocked _ _ => False

/-- The project that the request is bound to, where it is forwarded. -/
def GateOutcome.projectId : GateOutcome → Option String
  | .forwarded state _ => state.projectId
  | .blocked _ _ => none

/-- **The exact gate**: it admits keyed requests, bound to the project of the key, and requests with
the legacy key before any key has been seeded, and nothing else. -/
structure GateConfig.Exact (cfg : GateConfig) (t : ApiKeyTable) (req : GateRequest) : Prop where
  forwarded_iff : (cfg.requireTenant (some t) req).IsForwarded ↔
    (∃ row, cfg.Keyed t req row) ∨ cfg.Bootstrap t req
  project : ∀ row, cfg.Keyed t req row →
    (cfg.requireTenant (some t) req).projectId = some row.projectId

/-- The legacy key is presented when keys have been seeded, and has no live row. -/
def GateConfig.LegacyOutlives (cfg : GateConfig) (t : ApiKeyTable) (req : GateRequest) : Prop :=
  t.rows ≠ [] ∧ ∃ rawKey, req.apiKey = some rawKey ∧ cfg.isLegacyKey rawKey ∧
    ∀ row ∈ t.rows, row.keyHash = cfg.hashKey rawKey → row.revokedAt ≠ none

/-! ### The gate, compared -/

section Gate

variable {cfg : GateConfig} {t : ApiKeyTable} {req : GateRequest} {row : TenantApiKey}
  {rawKey keyHash : String}

theorem TenantApiKey.expectedIdentity_eq_identity (row : TenantApiKey) :
    row.expectedIdentity = row.identity := by
  rcases h : row.tenantUuid with - | uuid
  · rw [expectedIdentity, identity, h]
    rfl
  · have hne : uuid.text ≠ "" := fun hempty ↦ by
      have hlen := uuid.form.1
      rw [hempty] at hlen
      exact absurd hlen (by decide)
    have htruthy : truthy (some uuid.text) = some uuid.text := truthy_eq_some_iff.2 ⟨rfl, hne⟩
    rw [expectedIdentity, identity, h, Option.map_some, htruthy]
    rfl

/-- The lookup finds the live row of the hash. -/
theorem lookupKey_eq_some_iff :
    lookupKey (some t) keyHash = some row ↔
      row ∈ t.rows ∧ row.keyHash = keyHash ∧ row.revokedAt = none := by
  show t.rows.find? (fun row ↦ row.keyHash = keyHash ∧ row.revokedAt = none) = some row ↔ _
  constructor
  · intro h
    have hprops := List.find?_some h
    exact ⟨List.mem_of_find?_eq_some h, of_decide_eq_true hprops⟩
  · rintro ⟨hmem, hhash, hlive⟩
    rcases hfind : t.rows.find? fun row ↦ row.keyHash = keyHash ∧ row.revokedAt = none with
      - | row'
    · exact absurd (List.find?_eq_none.1 hfind row hmem) (by simp [hhash, hlive])
    · have hprops := List.find?_some hfind
      obtain ⟨hhash', -⟩ := of_decide_eq_true hprops
      have hsame : row' = row := t.eq_of_uniq_eq (List.mem_of_find?_eq_some hfind) hmem
        (congrArg some hhash') (congrArg some hhash)
      exact hfind.trans (congrArg some hsame)

theorem lookupKey_eq_none_iff :
    lookupKey (some t) keyHash = none ↔
      ∀ row ∈ t.rows, row.keyHash = keyHash → row.revokedAt ≠ none := by
  rw [Option.eq_none_iff_forall_ne_some]
  constructor
  · intro h row hmem hhash hlive
    exact h row (lookupKey_eq_some_iff.2 ⟨hmem, hhash, hlive⟩)
  · intro h row hrow
    obtain ⟨hmem, hhash, hlive⟩ := lookupKey_eq_some_iff.1 hrow
    exact h row hmem hhash hlive

/-- What the gate does with a key that has a live row, when the tenant is that of the row. -/
theorem requireTenant_of_identity (hpath : needsEnforcement req.path)
    (hkey : req.apiKey = some rawKey) (hrow : lookupKey (some t) (cfg.hashKey rawKey) = some row)
    (htenant : req.tenant = some row.identity) : cfg.requireTenant (some t) req =
      .forwarded ⟨some row.projectId, some (cfg.hashKey rawKey), row.scopes⟩ none := by
  rw [GateConfig.requireTenant, if_pos hpath, hkey]
  simp only [hrow, htenant, row.expectedIdentity_eq_identity, if_true]

/-- With enforcement on, no other tenant gets through with it. -/
theorem requireTenant_of_lookup (hpath : needsEnforcement req.path) (henforce : cfg.enforce)
    (hkey : req.apiKey = some rawKey) (hrow : lookupKey (some t) (cfg.hashKey rawKey) = some row) :
    (req.tenant = some row.identity ∧ cfg.requireTenant (some t) req =
        .forwarded ⟨some row.projectId, some (cfg.hashKey rawKey), row.scopes⟩ none) ∨
      (req.tenant ≠ some row.identity ∧ ¬ (cfg.requireTenant (some t) req).IsForwarded) := by
  have hblocked : ∀ state v, ¬ (cfg.onViolation state v).IsForwarded := fun state v ↦ by
    rw [GateConfig.onViolation, henforce, Bool.or_true, if_pos rfl]
    exact id
  by_cases hidentity : req.tenant = some row.identity
  · exact .inl ⟨hidentity, requireTenant_of_identity hpath hkey hrow hidentity⟩
  refine .inr ⟨hidentity, ?_⟩
  rw [GateConfig.requireTenant, if_pos hpath, hkey]
  simp only [hrow]
  rcases htenant : req.tenant with - | claimed
  · exact hblocked _ _
  · simp only [row.expectedIdentity_eq_identity]
    rw [if_neg fun heq ↦ hidentity (htenant.trans (congrArg some heq.symm))]
    exact hblocked _ _

/-- What the gate does with a key that has none. -/
theorem isForwarded_of_lookup_none (hpath : needsEnforcement req.path)
    (hkey : req.apiKey = some rawKey) (hnone : lookupKey (some t) (cfg.hashKey rawKey) = none) :
    (cfg.requireTenant (some t) req).IsForwarded ↔ cfg.isLegacyKey rawKey := by
  rw [GateConfig.requireTenant, if_pos hpath, hkey]
  simp only [hnone]
  by_cases hlegacy : cfg.isLegacyKey rawKey
  · rw [if_pos hlegacy]
    exact iff_of_true trivial hlegacy
  · rw [if_neg hlegacy]
    exact iff_of_false id hlegacy

theorem GateConfig.Keyed.lookup (h : cfg.Keyed t req row) (hkey : req.apiKey = some rawKey) :
    lookupKey (some t) (cfg.hashKey rawKey) = some row := by
  obtain ⟨hmem, hlive, hhash, -⟩ := h
  rw [hkey] at hhash
  exact lookupKey_eq_some_iff.2 ⟨hmem, (Option.some.inj hhash).symm, hlive⟩

/-- **The gate is exact but for the legacy key.** With enforcement on, a request to a protected path
is treated as it should be if and only if it does not present the legacy key, without a live row of
its own, when keys have been seeded. -/
theorem gate_exact_iff (henforce : cfg.enforce) (hpath : needsEnforcement req.path) :
    cfg.Exact t req ↔ ¬ cfg.LegacyOutlives t req := by
  rcases hkey : req.apiKey with - | rawKey
  · -- Without a key nothing is admitted.
    have hblocked : ¬ (cfg.requireTenant (some t) req).IsForwarded := by
      rw [GateConfig.requireTenant, if_pos hpath, hkey]
      exact id
    have hkeyed : ∀ row, ¬ cfg.Keyed t req row := fun row h ↦
      absurd h.2.2.1 (by simp [hkey])
    refine iff_of_true ⟨iff_of_false hblocked ?_, fun row h ↦ absurd h (hkeyed row)⟩ ?_
    · rintro (⟨row, h⟩ | ⟨-, rawKey, hraw, -⟩)
      · exact hkeyed row h
      · exact absurd (hkey.symm.trans hraw) (by simp)
    · rintro ⟨-, rawKey, hraw, -⟩
      exact absurd (hkey.symm.trans hraw) (by simp)
  · rcases hlookup : lookupKey (some t) (cfg.hashKey rawKey) with - | row
    · -- No live row: the legacy key decides, and should decide only while the table is empty.
      have hforwarded := isForwarded_of_lookup_none hpath hkey hlookup
      have hkeyed : ∀ row, ¬ cfg.Keyed t req row := fun row h ↦
        absurd (hlookup.symm.trans (h.lookup hkey)) (by simp)
      have hdead := lookupKey_eq_none_iff.1 hlookup
      constructor
      · rintro hexact ⟨hseeded, rawKey', hraw, hlegacy, -⟩
        obtain rfl := Option.some.inj (hkey.symm.trans hraw)
        rcases hexact.forwarded_iff.1 (hforwarded.2 hlegacy) with ⟨row, h⟩ | ⟨hempty, -⟩
        · exact hkeyed row h
        · exact hseeded hempty
      · intro hnot
        refine ⟨hforwarded.trans ⟨fun hlegacy ↦ .inr ⟨?_, rawKey, hkey, hlegacy⟩, ?_⟩,
          fun row h ↦ absurd h (hkeyed row)⟩
        · by_contra hseeded
          exact hnot ⟨hseeded, rawKey, hkey, hlegacy, hdead⟩
        · rintro (⟨row, h⟩ | ⟨-, rawKey', hraw, hlegacy⟩)
          · exact absurd h (hkeyed row)
          · obtain rfl := Option.some.inj (hkey.symm.trans hraw)
            exact hlegacy
    · -- A live row: its tenant decides.
      obtain ⟨hmem, hhash, hlive⟩ := lookupKey_eq_some_iff.1 hlookup
      have hunique : ∀ row', cfg.Keyed t req row' → row' = row := fun row' h ↦
        Option.some.inj ((h.lookup hkey).symm.trans hlookup)
      have hbootstrap : ¬ cfg.Bootstrap t req := fun h ↦ by
        rw [h.1] at hmem
        exact absurd hmem List.not_mem_nil
      refine iff_of_true ?_ ?_
      · rcases requireTenant_of_lookup hpath henforce hkey hlookup with
          ⟨htenant, hout⟩ | ⟨hne, hout⟩
        · have hkeyed : cfg.Keyed t req row :=
            ⟨hmem, hlive, by rw [hkey, Option.map_some, hhash], htenant⟩
          refine ⟨iff_of_true ?_ (.inl ⟨row, hkeyed⟩), fun row' h ↦ ?_⟩
          · rw [hout]
            trivial
          · rw [hout, hunique row' h]
            rfl
        · have hkeyed : ∀ row', ¬ cfg.Keyed t req row' := fun row' h ↦
            hne (hunique row' h ▸ h.2.2.2)
          refine ⟨iff_of_false hout ?_, fun row' h ↦ absurd h (hkeyed row')⟩
          rintro (⟨row', h⟩ | h)
          · exact hkeyed row' h
          · exact hbootstrap h
      · rintro ⟨-, rawKey', hraw, -, hdead⟩
        obtain rfl := Option.some.inj (hkey.symm.trans hraw)
        exact hdead row hmem hhash hlive

end Gate

/-! ### A deployment to evaluate with -/

section Example

/-- Enforcement is on, and the legacy key is still configured. -/
def demoGate : GateConfig where
  enforce := true
  legacyApiKey := "orch-key-1"
  hashKey raw := if raw = "orch-key-1" then
    "38d7304c7cecc0b55e4ab634b948de2b41cb9113b1e26ce7c7fc0e02271c89a8" else ""

/-- The row that was seeded for the legacy key. -/
def seededRow (revokedAt : Option Time) : TenantApiKey where
  id := "k1"
  projectId := "pidA"
  keyHash := "38d7304c7cecc0b55e4ab634b948de2b41cb9113b1e26ce7c7fc0e02271c89a8"
  scopes := ["read", "write"]
  revokedAt := revokedAt
  tenantUuid := none

/-- The table with that row. -/
def seededTable (revokedAt : Option Time) : ApiKeyTable :=
  ⟨[seededRow revokedAt], by simp, by simp [TenantApiKey.uniqueHash]⟩

/-- A request with the key. -/
def keyRequest (headers : List (String × String)) : GateRequest :=
  ⟨"/v2/templates", ("x-api-key", "orch-key-1") :: headers⟩

/-- While the key is live, the gate asks for its tenant. -/
theorem gate_exact_example :
    demoGate.Exact (seededTable none) (keyRequest [("x-siyadah-tenant", " pidA")]) ∧
      (demoGate.requireTenant (some (seededTable none))
        (keyRequest [("x-siyadah-tenant", " pidA")])).projectId = some "pidA" := by
  refine ⟨(gate_exact_iff rfl (by decide)).2 ?_, by decide +kernel⟩
  rintro ⟨-, rawKey, hraw, -, hdead⟩
  obtain rfl : rawKey = "orch-key-1" := Option.some.inj (hraw.symm.trans (by decide +kernel))
  exact hdead (seededRow none) List.mem_cons_self rfl rfl

/-- **A revoked key is accepted** where it is the legacy key: the request is forwarded although the
table is not empty and its only row is revoked. -/
theorem revoked_legacy_key_accepted :
    demoGate.requireTenant (some (seededTable (some 0))) (keyRequest []) =
        .forwarded ⟨none, some (seededRow none).keyHash, []⟩ none ∧
      ¬ demoGate.Exact (seededTable (some 0)) (keyRequest []) := by
  have hout : demoGate.requireTenant (some (seededTable (some 0))) (keyRequest []) =
      .forwarded ⟨none, some (seededRow none).keyHash, []⟩ none := by decide +kernel
  refine ⟨hout, fun h ↦ ?_⟩
  have hforwarded : (demoGate.requireTenant (some (seededTable (some 0)))
      (keyRequest [])).IsForwarded := by
    rw [hout]
    trivial
  rcases h.forwarded_iff.1 hforwarded with ⟨row, hmem, hlive, -⟩ | ⟨hempty, -⟩
  · obtain rfl := List.mem_singleton.1 hmem
    exact absurd hlive (by decide)
  · exact absurd hempty (by decide)

end Example

end Siyadah
