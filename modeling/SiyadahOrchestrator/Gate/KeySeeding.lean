import SiyadahOrchestrator.Foundations.ExpiringStore
import SiyadahOrchestrator.Foundations.TransitionSystem
import SiyadahOrchestrator.Gate.RequireTenant

/-!
# Seeding keys

`scripts/seed_tenant_key.py`, the only writer of `tenant_api_keys`: it inserts the hash of a raw key
for a project, after revoking the project's other keys if it is told to rotate. What a run does is
one transaction, after one that creates the project; a run that fails rolls the rotation back, too.

Runs of the script follow each other; the gate reads committed states between them.
`KeyStore.seeded` is the history of the table, which the database does not keep. The table is a
function of it (`Records`), so the gate admits a key exactly while the key *stands*: it has been
seeded, and no later run has rotated the keys of its project (`forwarded_iff_stands`).
-/

namespace Siyadah

/-! ### The script -/

/-- The arguments of `seed_tenant_key.py` that are used; the label is for humans. -/
structure SeedArgs where
  projectId : String
  rawKey : Option String
  fromEnv : Bool
  rotate : Bool
  scopes : String
  autocreateProject : Bool
  tenantUuid : Option String
  orphanAllowed : Bool
deriving DecidableEq, Repr

/-- What a run reads and what its commits come to. -/
structure SeedEnv where
  /-- `async_session` is there. -/
  database : Bool
  /-- `ORCHESTRATOR_API_KEY`. -/
  orchestratorApiKey : String
  /-- `secrets.token_urlsafe(48)`. -/
  generated : String
  /-- `uuid4`, the id of the new row. -/
  rowId : String
  now : Time
  /-- `siyadah.tenants`, by project. -/
  tenants : String → Option Uuid
  /-- What the driver makes of a text for a `uuid` column; it refuses what is none. -/
  parseUuid : String → Option Uuid
  /-- The project can be looked up. -/
  selectProject : Bool
  /-- The commit of the new project. -/
  autocreate : CommandOutcome
  /-- The statements before the commit of the new key do not raise. -/
  statements : Bool
  /-- The commit of the new key. -/
  commit : CommandOutcome

/-- How a run ends. -/
inductive SeedExit where
  | seeded (row : TenantApiKey)
  /-- The arguments exclude each other, there is no database, or the variable is empty. -/
  | refused
  | projectNotFound
  | liveDuplicate
  | noTenant
  /-- An exception that nobody catches. -/
  | raised
deriving DecidableEq

/-- The exit code. -/
def SeedExit.code : SeedExit → ℕ
  | seeded _ => 0
  | raised => 1
  | refused => 2
  | projectNotFound => 3
  | liveDuplicate => 4
  | noTenant => 5

/-- One committed run: the row as it was inserted, and whether the run rotated. -/
structure Seeding where
  row : TenantApiKey
  rotate : Bool
deriving DecidableEq

/-- The two tables that the script writes, and the history of the second. -/
structure KeyStore where
  projects : List String
  keys : ApiKeyTable
  seeded : List Seeding

namespace ApiKeyTable

/-- `UPDATE tenant_api_keys SET revoked_at = now WHERE project_id = … AND revoked_at IS NULL`. -/
def rotate (t : ApiKeyTable) (projectId : String) (now : Time) : ApiKeyTable :=
  t.modify (fun row ↦ row.projectId = projectId ∧ row.revokedAt = none)
    (fun row ↦ { row with revokedAt := some now }) (fun _ ↦ rfl) (fun _ ↦ rfl)

end ApiKeyTable

section Script

variable (sha256 : String → String) (args : SeedArgs) (env : SeedEnv)

/-- The raw key, wherever it comes from; `none` if the variable is empty. -/
def SeedArgs.raw : Option String :=
  if args.fromEnv then truthy (some (pyStrip env.orchestratorApiKey))
  else some ((truthy args.rawKey).getD env.generated)

/-- `args.scopes.split(",") if args.scopes else ["read", "write"]`. -/
def SeedArgs.scopeList : List String :=
  if args.scopes = "" then ["read", "write"] else args.scopes.splitOn ","

/-- The tenant that the key is bound to. -/
def SeedArgs.tenant : Except SeedExit (Option Uuid) :=
  match args.tenantUuid with
  | some given =>
    match env.parseUuid given with
    | some uuid => .ok (some uuid)
    | none => .error .raised
  | none =>
    match env.tenants args.projectId with
    | some uuid => .ok (some uuid)
    | none => if args.orphanAllowed then .ok none else .error .noTenant

/-- The transaction that inserts the key, up to its commit. -/
def seedKey (keys : ApiKeyTable) (keyHash : String) :
    Except SeedExit (TenantApiKey × ApiKeyTable) :=
  let dup := keys.rows.find? fun row ↦ row.keyHash = keyHash
  if dup.any fun row ↦ row.revokedAt = none then .error .liveDuplicate
  else
    let rotated := if args.rotate then keys.rotate args.projectId env.now else keys
    match args.tenant env with
    | .error e => .error e
    | .ok tenantUuid =>
      let row : TenantApiKey :=
        ⟨env.rowId, args.projectId, keyHash, args.scopeList, none, tenantUuid⟩
      -- The hash of a revoked key passes the check above, and meets the unique constraint here.
      match rotated.insert row with
      | some keys' => .ok (row, keys')
      | none => .error .raised

/-- The second transaction of a run, with its commit. -/
def commitKey (s : KeyStore) (keyHash : String) : SeedExit × KeyStore :=
  if env.statements = false then (.raised, s)
  else
    match seedKey args env s.keys keyHash with
    | .error e => (e, s)
    | .ok (row, keys') =>
      let s' : KeyStore := ⟨s.projects, keys', s.seeded ++ [⟨row, args.rotate⟩]⟩
      match env.commit with
      | .answered => (.seeded row, s')
      | .raised true => (.raised, s')
      | .raised false => (.raised, s)

/-- `main` and `_run`. -/
def seedTenantKey (s : KeyStore) : SeedExit × KeyStore :=
  if (truthy args.rawKey).isSome && args.fromEnv then (.refused, s)
  else if env.database = false then (.refused, s)
  else
    match args.raw env with
    | none => (.refused, s)
    | some raw =>
      if env.selectProject = false then (.raised, s)
      else if args.projectId ∈ s.projects then commitKey args env s (sha256 raw)
      else if args.autocreateProject = false then (.projectNotFound, s)
      else
        let s' : KeyStore := { s with projects := s.projects ++ [args.projectId] }
        match env.autocreate with
        | .answered => commitKey args env s' (sha256 raw)
        | .raised applied => (.raised, if applied then s' else s)

end Script

/-! ### The system -/

/-- What can happen. -/
inductive SeedAction where
  /-- Somebody runs the script. -/
  | seed (args : SeedArgs) (env : SeedEnv)
  /-- Another part of the program registers a project. -/
  | register (projectId : String)

namespace KeySeeding

/-- Runs of the script, one after the other. -/
def system (sha256 : String → String) : TransitionSystem KeyStore SeedAction where
  step s
    | .seed args env => some (seedTenantKey sha256 args env s).2
    | .register projectId => some { s with projects := s.projects ++ [projectId] }

/-- No key has been seeded yet. -/
def initial : KeyStore := ⟨[], .empty, []⟩

end KeySeeding

/-! ### What a run can do -/

namespace SeedExit

/-- The exits that promise that nothing has been written to the key table. -/
def Declined (e : SeedExit) : Prop := e = refused ∨ e = projectNotFound ∨ e = liveDuplicate ∨
  e = noTenant

end SeedExit

section Cases

variable {sha256 : String → String} {args : SeedArgs} {env : SeedEnv} {s s' : KeyStore}
  {keys keys' : ApiKeyTable} {keyHash : String} {row : TenantApiKey} {e : SeedExit}

/-- The transaction, when it comes to its commit. -/
theorem seedKey_eq_ok (h : seedKey args env keys keyHash = .ok (row, keys')) :
    row.projectId = args.projectId ∧ row.keyHash = keyHash ∧ row.scopes = args.scopeList ∧
      row.revokedAt = none ∧
      (if args.rotate then keys.rotate args.projectId env.now else keys).insert row =
        some keys' := by
  unfold seedKey at h
  dsimp only at h
  split at h
  · exact nomatch h
  · split at h
    · exact nomatch h
    · split at h
      · rename_i hinsert
        obtain ⟨rfl, rfl⟩ := Prod.mk.inj (Except.ok.inj h)
        exact ⟨rfl, rfl, rfl, rfl, hinsert⟩
      · exact nomatch h

/-- The transaction, when it does not. -/
theorem seedKey_eq_error (h : seedKey args env keys keyHash = .error e) :
    e = .liveDuplicate ∨ e = .noTenant ∨ e = .raised := by
  unfold seedKey at h
  dsimp only at h
  split at h
  · exact .inl (Except.error.inj h).symm
  · split at h
    · rename_i htenant
      obtain rfl := Except.error.inj h
      unfold SeedArgs.tenant at htenant
      split at htenant
      · split at htenant
        · exact nomatch htenant
        · exact .inr (.inr (Except.error.inj htenant).symm)
      · split at htenant
        · exact nomatch htenant
        · split at htenant
          · exact nomatch htenant
          · exact .inr (.inl (Except.error.inj htenant).symm)
    · split at h
      · exact nomatch h
      · exact .inr (.inr (Except.error.inj h).symm)

/-- What a run does to the store. -/
inductive SeedEffect (sha256 : String → String) (args : SeedArgs) (env : SeedEnv) (s : KeyStore) :
    SeedExit → KeyStore → Prop
  /-- Nothing is written to the key table. -/
  | unchanged (e : SeedExit) (projects : List String) (hexit : e.Declined ∨ e = .raised) :
      SeedEffect sha256 args env s e { s with projects := projects }
  /-- A key is committed, and the run may not have been told. -/
  | committed (e : SeedExit) (projects : List String) (raw : String) (row : TenantApiKey)
      (keys' : ApiKeyTable) (hraw : args.raw env = some raw)
      (hkey : seedKey args env s.keys (sha256 raw) = .ok (row, keys'))
      (hexit : e = .seeded row ∨ e = .raised) :
      SeedEffect sha256 args env s e ⟨projects, keys', s.seeded ++ [⟨row, args.rotate⟩]⟩

theorem commitKey_effect {raw : String} {projects : List String} (hraw : args.raw env = some raw) :
    SeedEffect sha256 args env s
      (commitKey args env { s with projects := projects } (sha256 raw)).1
      (commitKey args env { s with projects := projects } (sha256 raw)).2 := by
  rw [commitKey]
  split
  · exact .unchanged _ projects (.inr rfl)
  rcases hkey : seedKey args env s.keys (sha256 raw) with e | ⟨row, keys'⟩
  · refine .unchanged e projects ?_
    rcases seedKey_eq_error hkey with rfl | rfl | rfl
    · exact .inl (.inr (.inr (.inl rfl)))
    · exact .inl (.inr (.inr (.inr rfl)))
    · exact .inr rfl
  · rcases env.commit with - | applied
    · exact .committed _ projects raw row keys' hraw hkey (.inl rfl)
    · rcases applied
      · exact .unchanged _ projects (.inr rfl)
      · exact .committed _ projects raw row keys' hraw hkey (.inr rfl)

/-- **What a run can do.** -/
theorem seedTenantKey_effect : SeedEffect sha256 args env s (seedTenantKey sha256 args env s).1
    (seedTenantKey sha256 args env s).2 := by
  rw [seedTenantKey]
  split
  · exact .unchanged .refused s.projects (.inl (.inl rfl))
  split
  · exact .unchanged .refused s.projects (.inl (.inl rfl))
  rcases hraw : args.raw env with - | raw
  · exact .unchanged .refused s.projects (.inl (.inl rfl))
  · show SeedEffect _ _ _ _ (Prod.fst (if _ then _ else _)) (Prod.snd (if _ then _ else _))
    split
    · exact .unchanged .raised s.projects (.inr rfl)
    split
    · exact commitKey_effect hraw
    split
    · exact .unchanged .projectNotFound s.projects (.inl (.inr (.inl rfl)))
    · rcases env.autocreate with - | applied
      · exact commitKey_effect hraw
      · rcases applied
        · exact .unchanged .raised s.projects (.inr rfl)
        · exact .unchanged .raised _ (.inr rfl)

end Cases

/-! ### The history of the table -/

namespace Seeding

/-- The seeding has rotated the keys of a project. -/
def Retires (e : Seeding) (projectId : String) : Prop :=
  e.rotate = true ∧ e.row.projectId = projectId

instance (e : Seeding) (projectId : String) : Decidable (e.Retires projectId) :=
  inferInstanceAs (Decidable (_ ∧ _))

/-- The row is the one that the seeding has inserted, live or revoked since. -/
def Made (e : Seeding) (row : TenantApiKey) : Prop := e.row = { row with revokedAt := none }

theorem Made.projectId {e : Seeding} {row : TenantApiKey} (h : e.Made row) :
    e.row.projectId = row.projectId := by rw [h]

theorem Made.keyHash {e : Seeding} {row : TenantApiKey} (h : e.Made row) :
    e.row.keyHash = row.keyHash := by rw [h]

theorem Made.eq_of_live {e : Seeding} {row : TenantApiKey} (h : e.Made row)
    (hlive : row.revokedAt = none) : e.row = row := by
  rw [h, ← hlive]

end Seeding

/-- **The table is a function of its history**: there is a row for each seeding, in order, and it is
live exactly while no later seeding has rotated the keys of its project. -/
inductive Records : List Seeding → List TenantApiKey → Prop
  | nil : Records [] []
  | cons {e : Seeding} {L : List Seeding} {row : TenantApiKey} {rows : List TenantApiKey}
      (made : e.Made row)
      (live : row.revokedAt = none ↔ ∀ e' ∈ L, ¬ e'.Retires e.row.projectId)
      (rest : Records L rows) : Records (e :: L) (row :: rows)

/-- What a rotation does to a row. -/
def TenantApiKey.rotated (projectId : String) (now : Time) (row : TenantApiKey) : TenantApiKey :=
  if row.projectId = projectId ∧ row.revokedAt = none then { row with revokedAt := some now }
  else row

theorem TenantApiKey.revokedAt_rotated {projectId : String} {now : Time} {row : TenantApiKey} :
    (row.rotated projectId now).revokedAt = none ↔
      row.revokedAt = none ∧ row.projectId ≠ projectId := by
  rw [rotated]
  split
  · rename_i h
    exact iff_of_false nofun fun h' ↦ h'.2 h.1
  · rename_i h
    exact ⟨fun hlive ↦ ⟨hlive, fun hproject ↦ h ⟨hproject, hlive⟩⟩, And.left⟩

theorem Seeding.Made.rotated {e : Seeding} {row : TenantApiKey} {projectId : String} {now : Time}
    (h : e.Made row) : e.Made (row.rotated projectId now) := by
  rw [TenantApiKey.rotated]
  split
  · exact h
  · exact h

namespace Records

variable {L : List Seeding} {rows : List TenantApiKey} {e : Seeding} {row : TenantApiKey}
  {now : Time}

/-- One more seeding, which rotates or does not. -/
theorem concat (h : Records L rows) (hlive : e.row.revokedAt = none) :
    Records (L ++ [e])
      ((if e.rotate then rows.map (TenantApiKey.rotated e.row.projectId now) else rows) ++
        [e.row]) := by
  have hnew : e.Made e.row := by
    show e.row = { e.row with revokedAt := none }
    rw [← hlive]
  induction h with
  | nil =>
    have hrows : (if e.rotate then ([] : List TenantApiKey).map
        (TenantApiKey.rotated e.row.projectId now) else []) = [] := by
      split <;> rfl
    rw [hrows]
    exact .cons hnew (iff_of_true hlive nofun) .nil
  | @cons e₀ L row rows made live rest ih =>
    have hlater : (∀ e' ∈ L ++ [e], ¬ e'.Retires e₀.row.projectId) ↔
        row.revokedAt = none ∧ ¬ e.Retires e₀.row.projectId := by
      rw [live, List.forall_mem_append, List.forall_mem_singleton]
    by_cases hrotate : e.rotate
    · rw [if_pos hrotate] at ih ⊢
      refine .cons made.rotated (Iff.trans ?_ hlater.symm) ih
      rw [TenantApiKey.revokedAt_rotated, ← made.projectId]
      exact and_congr_right fun _ ↦
        ⟨fun hne hretires ↦ hne hretires.2.symm, fun hretires heq ↦ hretires ⟨hrotate, heq.symm⟩⟩
    · rw [if_neg hrotate] at ih ⊢
      refine .cons made (Iff.trans ?_ hlater.symm) ih
      exact (and_iff_left fun hretires ↦ hrotate hretires.1).symm

/-- The live rows are those of the seedings that no later one has retired. -/
theorem mem_live_iff (h : Records L rows) :
    row ∈ rows ∧ row.revokedAt = none ↔ ∃ L₁ e L₂, L = L₁ ++ e :: L₂ ∧ e.row = row ∧
      ∀ e' ∈ L₂, ¬ e'.Retires row.projectId := by
  induction h with
  | nil => simp
  | @cons e L row₀ rows made live rest ih =>
    constructor
    · rintro ⟨hmem, hlive⟩
      rcases List.mem_cons.1 hmem with rfl | hmem
      · refine ⟨[], e, L, rfl, made.eq_of_live hlive, ?_⟩
        rw [← made.projectId]
        exact live.1 hlive
      · obtain ⟨L₁, e', L₂, rfl, hrest⟩ := ih.1 ⟨hmem, hlive⟩
        exact ⟨e :: L₁, e', L₂, rfl, hrest⟩
    · rintro ⟨L₁, e', L₂, hL, rfl, hlater⟩
      rcases L₁ with - | ⟨e₁, L₁⟩
      · obtain ⟨rfl, rfl⟩ := List.cons.inj hL
        have hlive := live.2 hlater
        have hrow := made.eq_of_live hlive
        exact ⟨hrow ▸ List.mem_cons_self, hrow ▸ hlive⟩
      · obtain ⟨rfl, rfl⟩ := List.cons.inj hL
        obtain ⟨hmem, hlive⟩ := ih.2 ⟨L₁, e', L₂, rfl, rfl, hlater⟩
        exact ⟨List.mem_cons_of_mem _ hmem, hlive⟩

end Records

namespace KeyStore

/-- The key of a seeding stands: no later run has rotated the keys of its project. -/
def Stands (s : KeyStore) (e : Seeding) : Prop :=
  ∃ L L', s.seeded = L ++ e :: L' ∧ ∀ e' ∈ L', ¬ e'.Retires e.row.projectId

/-- The table is what its history makes of it. -/
def Recorded (s : KeyStore) : Prop := Records s.seeded s.keys.rows

variable {s : KeyStore} {row : TenantApiKey}

theorem Recorded.mem_live_iff (h : s.Recorded) :
    row ∈ s.keys.rows ∧ row.revokedAt = none ↔ ∃ e, s.Stands e ∧ e.row = row := by
  refine (Records.mem_live_iff h).trans ⟨?_, ?_⟩
  · rintro ⟨L, e, L', hL, rfl, hlater⟩
    exact ⟨e, ⟨L, L', hL, hlater⟩, rfl⟩
  · rintro ⟨e, ⟨L, L', hL, hlater⟩, rfl⟩
    exact ⟨L, e, L', hL, rfl, hlater⟩

/-- The last seeding stands. -/
theorem stands_concat {projects : List String} {keys : ApiKeyTable} {L : List Seeding}
    {e : Seeding} : Stands ⟨projects, keys, L ++ [e]⟩ e :=
  ⟨L, [], rfl, nofun⟩

/-- When it has rotated, no other seeding for its project does. -/
theorem Stands.eq_of_rotate {projects : List String} {keys : ApiKeyTable} {L : List Seeding}
    {e e' : Seeding} (h : Stands ⟨projects, keys, L ++ [e]⟩ e') (hrotate : e.rotate = true)
    (hproject : e'.row.projectId = e.row.projectId) : e' = e := by
  obtain ⟨M, M', hL, hlater⟩ := h
  rcases List.eq_nil_or_concat M' with rfl | ⟨M', e₁, rfl⟩
  · exact (List.append_inj' hL rfl).2 |> List.cons.inj |>.1 |>.symm
  · rw [List.concat_eq_append, ← List.cons_append, ← List.append_assoc] at hL
    obtain ⟨rfl, -⟩ := List.cons.inj (List.append_inj' hL rfl).2
    exact absurd ⟨hrotate, hproject.symm⟩ (hlater e (by simp))

end KeyStore

/-! ### Over a run -/

namespace ApiKeyTable

theorem rows_rotate (t : ApiKeyTable) (projectId : String) (now : Time) :
    (t.rotate projectId now).rows = t.rows.map (TenantApiKey.rotated projectId now) := by
  show t.rows.map _ = _
  refine List.map_congr_left fun row _ ↦ ?_
  rw [TenantApiKey.rotated]
  by_cases h : row.projectId = projectId ∧ row.revokedAt = none
  · rw [if_pos h, if_pos (decide_eq_true h)]
  · rw [if_neg h, if_neg (by rwa [decide_eq_true_eq])]

end ApiKeyTable

namespace KeySeeding

variable {sha256 : String → String} {args : SeedArgs} {env : SeedEnv} {s s' : KeyStore}
  {e : SeedExit} {as bs : List SeedAction}

/-- The rows after a transaction. -/
theorem rows_of_seedKey {keys keys' : ApiKeyTable} {keyHash : String} {row : TenantApiKey}
    (h : seedKey args env keys keyHash = .ok (row, keys')) :
    keys'.rows = (if args.rotate then keys.rows.map (TenantApiKey.rotated row.projectId env.now)
      else keys.rows) ++ [row] := by
  obtain ⟨hproject, -, -, -, hinsert⟩ := seedKey_eq_ok h
  rw [KeyedTable.rows_insert hinsert, hproject, ← ApiKeyTable.rows_rotate]
  split <;> rfl

theorem recorded_of_effect (h : SeedEffect sha256 args env s e s') (hs : s.Recorded) :
    s'.Recorded := by
  cases h with
  | unchanged projects hexit => exact hs
  | committed projects raw row keys' hraw hkey hexit =>
    obtain ⟨-, -, -, hlive, -⟩ := seedKey_eq_ok hkey
    show Records (s.seeded ++ [⟨row, args.rotate⟩]) keys'.rows
    rw [rows_of_seedKey hkey]
    exact Records.concat (e := ⟨row, args.rotate⟩) hs hlive

/-- **In every reachable state the table is what its history makes of it.** -/
theorem recorded_of_run (hrun : (system sha256).run initial as = some s) : s.Recorded := by
  have h₀ : initial.Recorded := Records.nil
  have hkeep : ∀ s a t, s.Recorded → (system sha256).step s a = some t → t.Recorded := by
    rintro s (⟨args, env⟩ | projectId) t hs hstep
    · obtain rfl := Option.some.inj hstep
      exact recorded_of_effect seedTenantKey_effect hs
    · obtain rfl := Option.some.inj hstep
      exact hs
  exact TransitionSystem.invariant_of_run' hkeep h₀ hrun

/-! ### What the gate makes of it -/

variable {cfg : GateConfig} {req : GateRequest} {rawKey : String} {row : TenantApiKey}

/-- The gate finds the rows of the seedings that stand. -/
theorem lookupKey_iff_stands (hs : s.Recorded) {keyHash : String} :
    lookupKey (some s.keys) keyHash = some row ↔
      row.keyHash = keyHash ∧ ∃ e, s.Stands e ∧ e.row = row := by
  rw [lookupKey_eq_some_iff, ← hs.mem_live_iff]
  exact ⟨fun ⟨hmem, hhash, hlive⟩ ↦ ⟨hhash, hmem, hlive⟩,
    fun ⟨hhash, hmem, hlive⟩ ↦ ⟨hmem, hhash, hlive⟩⟩

/-- The gate admits a key that stands under its tenant, bound to its project. -/
theorem forwarded_of_stands (hs : s.Recorded) (hpath : needsEnforcement req.path)
    (hkey : req.apiKey = some rawKey) {e : Seeding}
    (he : s.Stands e) (hhash : e.row.keyHash = cfg.hashKey rawKey)
    (htenant : req.tenant = some e.row.identity) :
    cfg.requireTenant (some s.keys) req =
      .forwarded ⟨some e.row.projectId, some e.row.keyHash, e.row.scopes⟩ none := by
  have hrow := (lookupKey_iff_stands hs).2 ⟨hhash, e, he, rfl⟩
  rw [requireTenant_of_identity hpath hkey hrow htenant, hhash]

/-- **The gate admits a key exactly while it stands.** After every sequence of runs of the script
from an empty table, failed ones among them, a request with a key other than the legacy one is
forwarded if and only if the key has been seeded, for the tenant that the request names, and no
later run has rotated the keys of its project; and then it is bound to that project. -/
theorem forwarded_iff_stands (hrun : (system sha256).run initial as = some s)
    (henforce : cfg.enforce) (hpath : needsEnforcement req.path)
    (hkey : req.apiKey = some rawKey) (hlegacy : ¬ cfg.isLegacyKey rawKey) :
    ((cfg.requireTenant (some s.keys) req).IsForwarded ↔
        ∃ e, s.Stands e ∧ e.row.keyHash = cfg.hashKey rawKey ∧
          req.tenant = some e.row.identity) ∧
      ∀ e, s.Stands e → e.row.keyHash = cfg.hashKey rawKey →
        req.tenant = some e.row.identity →
        cfg.requireTenant (some s.keys) req =
          .forwarded ⟨some e.row.projectId, some e.row.keyHash, e.row.scopes⟩ none := by
  have hs := recorded_of_run hrun
  refine ⟨⟨fun hforwarded ↦ ?_, ?_⟩, fun e he ↦ forwarded_of_stands hs hpath hkey he⟩
  · rcases hlookup : lookupKey (some s.keys) (cfg.hashKey rawKey) with - | row
    · exact absurd ((isForwarded_of_lookup_none hpath hkey hlookup).1 hforwarded) hlegacy
    · obtain ⟨hhash, e, he, rfl⟩ := (lookupKey_iff_stands hs).1 hlookup
      rcases requireTenant_of_lookup hpath henforce hkey hlookup with
        ⟨htenant, -⟩ | ⟨-, hblocked⟩
      · exact ⟨e, he, hhash, htenant⟩
      · exact absurd hforwarded hblocked
  · rintro ⟨e, he, hhash, htenant⟩
    rw [forwarded_of_stands hs hpath hkey he hhash htenant]
    trivial

/-! A key of a project, and a second one that replaces it. -/

/-- The arguments for a key of the project `p1`. -/
def sampleArgs (rawKey : String) (rotate : Bool) : SeedArgs where
  projectId := "p1"
  rawKey := some rawKey
  fromEnv := false
  rotate := rotate
  scopes := ""
  autocreateProject := true
  tenantUuid := none
  orphanAllowed := true

/-- Nothing fails. -/
def sampleEnv (rowId : String) : SeedEnv where
  database := true
  orchestratorApiKey := ""
  generated := "generated"
  rowId := rowId
  now := 5
  tenants := fun _ ↦ none
  parseUuid := fun _ ↦ none
  selectProject := true
  autocreate := .answered
  statements := true
  commit := .answered

/-- The first key is seeded, and then the second one with a rotation. -/
def sampleSeedings : List SeedAction :=
  [.seed (sampleArgs "k1" false) (sampleEnv "r1"), .seed (sampleArgs "k2" true) (sampleEnv "r2")]

/-- A request with a key of the project `p1`. -/
def sampleRequest (rawKey : String) : GateRequest :=
  ⟨"/v2/flows", [("x-api-key", rawKey), ("x-siyadah-tenant", "p1")]⟩

/-- The hash of a key. -/
def sampleHash (rawKey : String) : String := "sha256:" ++ rawKey

/-- The gate with enforcement on and no legacy key. -/
def sampleGate : GateConfig := ⟨true, "", sampleHash⟩

theorem needsEnforcement_sampleRequest (rawKey : String) :
    needsEnforcement (sampleRequest rawKey).path = true := by
  have hpath : needsEnforcement "/v2/flows" = true := by decide
  exact hpath

theorem forwarded_iff_stands_sample : ∃ s, (system sampleHash).run initial sampleSeedings = some s ∧
    (sampleGate.requireTenant (some s.keys) (sampleRequest "k2") =
      .forwarded ⟨some "p1", some "sha256:k2", ["read", "write"]⟩ none) ∧
    ¬ (sampleGate.requireTenant (some s.keys) (sampleRequest "k1")).IsForwarded := by
  obtain ⟨s, hrun, hseeded⟩ : ∃ s, (system sampleHash).run initial sampleSeedings = some s ∧
      s.seeded = [⟨⟨"r1", "p1", "sha256:k1", ["read", "write"], none, none⟩, false⟩,
        ⟨⟨"r2", "p1", "sha256:k2", ["read", "write"], none, none⟩, true⟩] := ⟨_, rfl, rfl⟩
  have hlegacy (rawKey : String) : ¬ sampleGate.isLegacyKey rawKey := by
    simp [GateConfig.isLegacyKey, sampleGate]
  have hgate (rawKey : String) (hkey : (sampleRequest rawKey).apiKey = some rawKey) :=
    forwarded_iff_stands hrun rfl (needsEnforcement_sampleRequest rawKey) hkey (hlegacy rawKey)
  refine ⟨s, hrun, ?_, fun hforwarded ↦ ?_⟩
  · exact (hgate "k2" (by decide)).2
      ⟨⟨"r2", "p1", "sha256:k2", ["read", "write"], none, none⟩, true⟩ ⟨[_], [], hseeded, nofun⟩ rfl
      (by decide)
  · obtain ⟨e, ⟨L, L', hL, hlater⟩, hhash, -⟩ := (hgate "k1" (by decide)).1.1 hforwarded
    rw [hseeded] at hL
    have hretires : Seeding.Retires
        ⟨⟨"r2", "p1", "sha256:k2", ["read", "write"], none, none⟩, true⟩ "p1" := ⟨rfl, rfl⟩
    rcases L with - | ⟨e₁, L⟩
    · obtain ⟨rfl, rfl⟩ := List.cons.inj hL
      exact hlater _ List.mem_cons_self hretires
    · obtain ⟨-, hL⟩ := List.cons.inj hL
      rcases L with - | ⟨e₂, L⟩
      · obtain ⟨rfl, -⟩ := List.cons.inj hL
        exact absurd hhash (by decide)
      · exact absurd (List.cons.inj hL).2 (by simp)

/-! ### What an exit code promises -/

/-- What the exit of a run says about the tables after it. -/
structure Reported (cfg : GateConfig) (args : SeedArgs) (env : SeedEnv) (s : KeyStore)
    (e : SeedExit) (s' : KeyStore) : Prop where
  /-- Codes 2 to 5: no key has changed, rotated or not. -/
  declined : e.Declined → s'.keys = s.keys
  /-- Code 0: the key is admitted at once. -/
  seeded : ∀ row, e = .seeded row → ∀ req, needsEnforcement req.path → req.apiKey = args.raw env →
    req.tenant = some row.identity → cfg.requireTenant (some s'.keys) req =
      .forwarded ⟨some args.projectId, some row.keyHash, args.scopeList⟩ none
  /-- Code 0 after a rotation: it is the only live key of its project. -/
  rotated : ∀ row, e = .seeded row → args.rotate → ∀ other ∈ s'.keys.rows,
    other.revokedAt = none → other.projectId = args.projectId → other = row
  /-- Code 1: all of the transaction has happened, or nothing. -/
  raised : e = .raised → s'.keys = s.keys ∨ ∃ keyHash row,
    seedKey args env s.keys keyHash = .ok (row, s'.keys)

/-- **The exit code tells what has happened**, in every reachable state. -/
theorem reported_of_run (hrun : (system sha256).run initial as = some s)
    (hhash : cfg.hashKey = sha256) (args : SeedArgs) (env : SeedEnv) :
    Reported cfg args env s (seedTenantKey sha256 args env s).1
      (seedTenantKey sha256 args env s).2 := by
  have heff : SeedEffect sha256 args env s _ _ := seedTenantKey_effect
  have hrecorded := recorded_of_effect heff (recorded_of_run hrun)
  generalize (seedTenantKey sha256 args env s).1 = e at heff hrecorded ⊢
  generalize (seedTenantKey sha256 args env s).2 = s' at heff hrecorded ⊢
  cases heff with
  | unchanged projects hexit =>
    have hne (row : TenantApiKey) : e ≠ .seeded row := by
      rintro rfl
      rcases hexit with (h | h | h | h) | h
      all_goals exact nomatch h
    exact ⟨fun _ ↦ rfl, fun row h ↦ absurd h (hne row), fun row h ↦ absurd h (hne row),
      fun _ ↦ .inl rfl⟩
  | committed projects raw row keys' hraw hkey hexit =>
    obtain ⟨hproject, hrowhash, hscopes, hlive, -⟩ := seedKey_eq_ok hkey
    have hstands : KeyStore.Stands ⟨projects, keys', s.seeded ++ [⟨row, args.rotate⟩]⟩
        ⟨row, args.rotate⟩ := KeyStore.stands_concat
    have hrow (row' : TenantApiKey) (h : e = .seeded row') : row' = row := by
      rcases hexit with rfl | rfl
      · exact (SeedExit.seeded.inj h).symm
      · exact nomatch h
    refine ⟨fun hdeclined ↦ ?_, fun row' h req hpath hkey' htenant ↦ ?_,
      fun row' h hrotate other hmem hother hsame ↦ ?_, fun _ ↦ .inr ⟨_, row, hkey⟩⟩
    · rcases hexit with rfl | rfl
      all_goals rcases hdeclined with h | h | h | h
      all_goals exact nomatch h
    · obtain rfl := hrow row' h
      rw [forwarded_of_stands hrecorded hpath (hkey'.trans hraw) hstands
        (by rw [hhash, hrowhash]) htenant, hproject, hscopes]
    · obtain rfl := hrow row' h
      obtain ⟨e', he', rfl⟩ := hrecorded.mem_live_iff.1 ⟨hmem, hother⟩
      rw [he'.eq_of_rotate hrotate (hsame.trans hproject.symm)]

/-- The rotation of the sample, by its exit. -/
theorem reported_of_run_sample : ∃ s, (system sampleHash).run initial sampleSeedings = some s ∧
    Reported sampleGate (sampleArgs "k1" true) (sampleEnv "r3") s .raised s := by
  obtain ⟨s, hrun, hraised⟩ : ∃ s, (system sampleHash).run initial sampleSeedings = some s ∧
      seedTenantKey sampleHash (sampleArgs "k1" true) (sampleEnv "r3") s = (.raised, s) :=
    ⟨_, rfl, rfl⟩
  have hhash : sampleGate.hashKey = sampleHash := rfl
  have hreported := reported_of_run hrun hhash (sampleArgs "k1" true) (sampleEnv "r3")
  rw [hraised] at hreported
  exact ⟨s, hrun, hreported⟩

/-! ### Revoked is revoked -/

/-- The hash is that of a revoked key. -/
def Revoked (keyHash : String) (s : KeyStore) : Prop :=
  ∃ row ∈ s.keys.rows, row.keyHash = keyHash ∧ row.revokedAt ≠ none

theorem revoked_of_effect {keyHash : String} (h : SeedEffect sha256 args env s e s')
    (hs : Revoked keyHash s) : Revoked keyHash s' := by
  cases h with
  | unchanged projects hexit => exact hs
  | committed projects raw row keys' hraw hkey hexit =>
    obtain ⟨old, hmem, hhash, hrevoked⟩ := hs
    refine ⟨old, ?_, hhash, hrevoked⟩
    show old ∈ keys'.rows
    rw [rows_of_seedKey hkey]
    refine List.mem_append_left _ ?_
    split
    · -- The rotation passes over a row that is revoked already.
      refine List.mem_map.2 ⟨old, hmem, ?_⟩
      rw [TenantApiKey.rotated, if_neg fun h ↦ hrevoked h.2]
    · exact hmem

/-- **A revoked key never comes back.** Once a key has been revoked, no sequence of runs of the
script, with that very key among others, makes the gate admit it again. -/
theorem refused_forever (hrun : (system sha256).run s bs = some s') {keyHash : String}
    (hrevoked : Revoked keyHash s) (hpath : needsEnforcement req.path)
    (hkey : req.apiKey = some rawKey) (hhash : cfg.hashKey rawKey = keyHash)
    (hlegacy : ¬ cfg.isLegacyKey rawKey) :
    ¬ (cfg.requireTenant (some s'.keys) req).IsForwarded := by
  have hfinal : Revoked keyHash s' := by
    have hkeep : ∀ s a t, Revoked keyHash s → (system sha256).step s a = some t →
        Revoked keyHash t := by
      rintro s (⟨args, env⟩ | projectId) t hs hstep
      · obtain rfl := Option.some.inj hstep
        exact revoked_of_effect seedTenantKey_effect hs
      · obtain rfl := Option.some.inj hstep
        exact hs
    exact TransitionSystem.invariant_of_run' hkeep hrevoked hrun
  obtain ⟨old, hmem, hold, hdead⟩ := hfinal
  have hnone : lookupKey (some s'.keys) (cfg.hashKey rawKey) = none := by
    refine lookupKey_eq_none_iff.2 fun row hrow hrowhash hlive ↦ hdead ?_
    have hsame : row = old := s'.keys.eq_of_uniq_eq hrow hmem
      (congrArg some (hrowhash.trans hhash)) (congrArg some hold)
    exact hsame ▸ hlive
  rw [isForwarded_of_lookup_none hpath hkey hnone]
  exact hlegacy

/-- The first key of the sample, after somebody has tried to seed it again. -/
theorem refused_forever_sample : ∃ s s', (system sampleHash).run initial sampleSeedings = some s ∧
    (system sampleHash).run s [.seed (sampleArgs "k1" true) (sampleEnv "r3")] = some s' ∧
    ¬ (sampleGate.requireTenant (some s'.keys) (sampleRequest "k1")).IsForwarded := by
  obtain ⟨s, hrun, hrevoked⟩ : ∃ s, (system sampleHash).run initial sampleSeedings = some s ∧
      Revoked "sha256:k1" s := ⟨_, rfl, _, List.mem_cons_self, rfl, nofun⟩
  have hkey : (sampleRequest "k1").apiKey = some "k1" := by decide
  have hlegacy : ¬ sampleGate.isLegacyKey "k1" := by simp [GateConfig.isLegacyKey, sampleGate]
  obtain ⟨s', hagain⟩ : ∃ s', (system sampleHash).run s
      [.seed (sampleArgs "k1" true) (sampleEnv "r3")] = some s' := ⟨_, rfl⟩
  exact ⟨s, s', hrun, hagain,
    refused_forever hagain hrevoked (needsEnforcement_sampleRequest "k1") hkey rfl hlegacy⟩

end KeySeeding

end Siyadah
