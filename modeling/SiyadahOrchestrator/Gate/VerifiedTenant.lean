import SiyadahOrchestrator.Engine.Client
import SiyadahOrchestrator.Flows.Registry

/-!
# Whom a request belongs to

Once `require_tenant` has verified a tenant, its id is in `request.state.project_id`. Project ids
are also suggested by bodies, by arguments of tools and by sessions; `resolvePid` and `messagePid`
say which one counts. For a verified tenant that is the tenant's own, whatever else is suggested.
-/

namespace Siyadah

/-- The tenant that `require_tenant` has verified. -/
structure VerifiedTenant where
  pid : PyStr
  nonempty : pid ≠ []

/-- `resolve_pid`. -/
def resolvePid (statePid bodyPid : Option PyStr) (defaultPid : PyStr) : PyStr :=
  strOr statePid (strOr bodyPid defaultPid)

/-- The project id of a tool call over SSE: the session must not belong to another tenant. -/
def messagePid (session caller args : Option PyStr) (defaultPid : PyStr) :
    Except EngineError PyStr :=
  if session.isSome && caller.isSome && session ≠ caller then
    .error (.http 403 (.text [.lit "Session belongs to a different tenant"]))
  else .ok (strOr session (strOr caller (strOr args defaultPid)))

theorem resolvePid_verified (B : VerifiedTenant) (bodyPid : Option PyStr) (defaultPid : PyStr) :
    resolvePid (some B.pid) bodyPid defaultPid = B.pid :=
  if_neg B.nonempty

theorem messagePid_verified {B : VerifiedTenant} {session args : Option PyStr}
    {defaultPid pid : PyStr} (h : messagePid session (some B.pid) args defaultPid = .ok pid) :
    pid = B.pid := by
  rw [messagePid] at h
  split at h
  · exact absurd h (by simp)
  · rename_i hmatch
    obtain rfl := Except.ok.inj h
    cases session with
    | none => exact if_neg B.nonempty
    | some s =>
      have hs : s = B.pid := by simpa using hmatch
      rw [hs]
      exact if_neg B.nonempty

/-! Two tenants. -/

/-- The first tenant. -/
def tenantA : VerifiedTenant := ⟨PyStr.ofString "p1", by decide⟩

/-- The second tenant. -/
def tenantB : VerifiedTenant := ⟨PyStr.ofString "p2", by decide⟩

end Siyadah
