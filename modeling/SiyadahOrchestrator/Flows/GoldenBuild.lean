import SiyadahOrchestrator.Engine.Client
import SiyadahOrchestrator.Flows.FlowTree
import SiyadahOrchestrator.Flows.PieceValidator

/-!
# The Golden Protocol

`golden_build`: validate the trigger tree, create a flow, stamp it with its owner, import the tree,
read it back, publish and enable, and read the flow once more. The stages are definitions of their
own, in the order of the source; `goldenBuild` is their sequence.

Three stages delete the flow before they raise (`stampMetadata`, and the two gates in
`checkImported`). What comes after the flow has been found `ENABLED` (the activation pulse, the
links that the answer carries, the registry row) is `finish`.
-/

namespace Siyadah

open Dialogue SiyadahEngine PyValue

/-- `str()` and `repr()`. -/
structure PyText where
  str : PyValue → PyStr
  repr : PyValue → PyStr
  /-- A string is rendered as it is. -/
  str_str : ∀ s, str (.str s) = s

/-- A rendering that is right for strings. -/
def plainText : PyText := ⟨strOf, strOf, fun _ ↦ rfl⟩

/-- What a build reads besides its arguments. -/
structure BuildEnv where
  httpx : Httpx
  pyText : PyText
  /-- The table `piece_registry`, or the exception that reading it raises; `none` when no database
  is configured. -/
  registry : Option (Except EngineError PieceRegistry)
  defaultPid : PyStr
  apBaseUrl : PyStr
  /-- The clock, as `%H:%M:%S` and in ISO format at the stamp and at the pulse. -/
  timeOfDay : PyStr
  stampedAt : PyStr
  pulseAt : PyStr

/-- The arguments of `golden_build`. -/
structure BuildRequest where
  pid : PyStr
  name : PyStr
  trigger : PyValue
  selfTest : Bool := true
  ownerEmail : Option PyStr

/-- What `golden_build` returns. -/
structure BuildResult where
  flowId : PyValue
  triggerType : PyValue
  publish : Published
  versionState : PyValue
  publishedMatch : Bool
  diagnosis : Option PyValue
  webhookUrl : PyStr
  resourceLink : Option PyStr
  pulseSent : Bool
  clientEmail : PyValue
  ownerEmail : Option PyStr
  metadata : PyValue

section Definitions

variable (env : BuildEnv) (b : BuildRequest)

/-- `f"{name} ({datetime.now().strftime('%H:%M:%S')})"`. -/
def buildName : PyStr := b.name ++ text " (" ++ env.timeOfDay ++ text ")"

/-- `pid or DEFAULT_PID`. -/
def buildPid : PyStr := if b.pid = [] then env.defaultPid else b.pid

/-- `sovereign_meta`. -/
def sovereignMeta : PyValue :=
  pyDict [("tenantId", .str (buildPid env b)), ("ownerEmail", .str (b.ownerEmail.getD [])),
    ("stampedAt", .str env.stampedAt), ("stampedBy", py "siyadah:golden_build")]

theorem sovereignMeta_tenantId :
    (sovereignMeta env b).get "tenantId" = .ok (.str (buildPid env b)) := by
  simp [sovereignMeta, pyDict, PyValue.get]

/-- `f"{AP_BASE_URL}/api/v1/webhooks/{fid}"`. -/
def webhookUrl (fid : PyValue) : PyStr :=
  env.apBaseUrl ++ text "/api/v1/webhooks/" ++ env.pyText.str fid

/-- The pre-flight validation, with `assert_trigger`: it is disarmed without a database and while
the registry is empty. -/
def preflight : EngineM Unit :=
  match env.registry with
  | none => pure ()
  | some (.error e) => raise e
  | some (.ok reg) =>
    if reg.rows.isEmpty then pure ()
    else do
      let errors ← ofPy (validateTrigger env.pyText.repr reg b.trigger)
      if errors.isEmpty then pure ()
      else raise (.http 422 (.value (rejectionDetail errors)))

/-- `try: await engine.delete_flow(fid) except Exception: pass`. -/
def cleanUp (fid : PyValue) : EngineM Unit :=
  handle (do let _ ← deleteFlow env.httpx fid; pure ()) fun _ ↦ pure ()

/-- Stamp the flow with its owner, or delete it. -/
def stampMetadata (fid : PyValue) : EngineM Unit :=
  handle (do let _ ← updateMetadata env.httpx fid (sovereignMeta env b); pure ()) fun _ ↦ do
    cleanUp env fid
    raise (.http 500 (.text [.lit "sovereign-tightening: failed to stamp metadata on ", .val fid]))

/-- `_walk_flow_tree({"version": {"trigger": trigger}})`. -/
def beforeGraph : Except PyError FlowGraph :=
  walkFlowTree (pyDict [("version", pyDict [("trigger", b.trigger)])])

/-- The detail of `AP_STRIPPED_GRAPH_AFTER_IMPORT`. -/
def strippedDetail (fid : PyValue) (before after : FlowGraph) : Detail :=
  .value (pyDict [("error_code", py "AP_STRIPPED_GRAPH_AFTER_IMPORT"), ("flow_id", fid),
    ("expected_steps", .int before.totalSteps), ("actual_steps", .int after.totalSteps),
    ("before_graph", before.asDict), ("after_graph", after.asDict)])

/-- The steps that ActivePieces reports as invalid. -/
def FlowGraph.invalidSteps (g : FlowGraph) : List StepInfo := g.steps.filter fun s ↦ s.valid.isFalse

/-- What an error says of an invalid step. -/
def StepInfo.summary (s : StepInfo) : PyValue :=
  let detail : PyValue × PyValue × List PyStr :=
    match s.detail with
    | .plain piece action nullKeys => (piece, action, nullKeys)
    | _ => (.null, .null, [])
  pyDict [("name", s.name), ("type", s.type), ("piece", detail.1), ("action", detail.2.1),
    ("displayName", s.displayName), ("null_input_keys", .list (detail.2.2.map .str))]

/-- The detail of `AP_INVALIDATED_STEP_AFTER_IMPORT`. -/
def invalidatedDetail (fid : PyValue) (before after : FlowGraph) : Detail :=
  .value (pyDict [("error_code", py "AP_INVALIDATED_STEP_AFTER_IMPORT"), ("flow_id", fid),
    ("invalid_steps", .list (after.invalidSteps.map StepInfo.summary)),
    ("before_graph", before.asDict), ("after_graph", after.asDict),
    ("message", py "Activepieces invalidated one or more steps after import")])

/-- The gates on the tree that was read back: it must not have lost steps, and no step may be
invalid. -/
def checkImported (fid : PyValue) (before after : FlowGraph) : EngineM Unit :=
  if after.totalSteps < before.totalSteps then do
    cleanUp env fid
    raise (.http 500 (strippedDetail fid before after))
  else if !after.invalidSteps.isEmpty then do
    cleanUp env fid
    raise (.http 500 (invalidatedDetail fid before after))
  else pure ()

/-- What the last read of the flow says: `final_status`, `final_state`, `published_match`. -/
structure FinalRead where
  status : PyValue
  state : PyValue
  publishedMatch : Bool

/-- The fields of the last read. -/
def readFinal (final : PyValue) : Except PyError FinalRead := do
  let state ← stateOf final (py "?")
  let status ← final.getD "status" (py "UNKNOWN")
  let published ← final.get "publishedVersionId"
  let version ← final.getD "version" (.dict [])
  let versionId ← version.get "id"
  pure { status, state, publishedMatch := eq published versionId }

/-- Publish, enable, and read the flow once more. -/
def publishAndConfirm (fid : PyValue) : EngineM (Published × FinalRead) := do
  let pub ← publishAndEnable env.httpx fid
  let final ← getFlow env.httpx fid
  let read ← ofPy (readFinal final)
  if read.status.isStr (text "ENABLED") then pure (pub, read)
  else
    raise (.http 500 (.text [.lit "Flow ", .val fid,
      .lit " is NOT ENABLED after Golden Protocol. status=", .val read.status, .lit ", state=",
      .val read.state, .lit ", published_match=", .val (.bool read.publishedMatch), .lit "."]))

/-- The activation pulse; a failure is only logged. -/
def sendPulse (fid : PyValue) : EngineM Bool :=
  handle (do
    let payload ← ofPy (buildSmartPulse env.pulseAt b.trigger)
    let _ ← testWebhook env.httpx fid payload
    pure true) fun _ ↦ pure false

/-- `trigger_type_val`. -/
def triggerTypeVal : Except PyError PyValue := do
  let type ← b.trigger.get "type"
  if type.truthy then pure type
  else
    let settings ← b.trigger.get "settings"
    let triggerName ← (settings.orElse (.dict [])).get "triggerName"
    pure (triggerName.orElse (py "WEBHOOK"))

/-- The registry row; a failure is only logged. -/
def registerFlow (fid ttype status clientEmail : PyValue) : EngineM Unit :=
  match env.registry with
  | none => pure ()
  | some _ =>
    handle (do
      let triggerType ← ofPy (triggerTypeVal b)
      let _ ← ask (.upsertRegistry
        { tenantId := buildPid env b
          flowId := fid
          displayName := buildName env b
          triggerType := triggerType
          webhookUrl := webhookUrl env fid
          pieceManifest := pyDict [("owner_email", .str (b.ownerEmail.getD [])),
            ("stamped_at", .str env.stampedAt), ("ap_status", status),
            ("trigger_type_detail", ttype), ("client_email_extracted", clientEmail)] })
      pure ()) fun _ ↦ pure ()

/-- What follows once the flow is known to be `ENABLED`. -/
def finish (fid ttype : PyValue) (pub : Published) (read : FinalRead) : EngineM BuildResult := do
  let pulseSent ← sendPulse env b fid
  let sheetId ← ofPy (extractSheetId b.trigger)
  let clientEmail ← ofPy (extractEmail b.trigger)
  registerFlow env b fid ttype read.status clientEmail
  pure
    { flowId := fid
      triggerType := ttype
      publish := pub
      versionState := read.state
      publishedMatch := read.publishedMatch
      diagnosis := if b.selfTest then some (pyDict [("summary", py "Verified")]) else none
      webhookUrl := webhookUrl env fid
      resourceLink := if sheetId.truthy then
          some (text "https://docs.google.com/spreadsheets/d/" ++ env.pyText.str sheetId ++
            text "/edit")
        else none
      pulseSent := pulseSent
      clientEmail := clientEmail
      ownerEmail := b.ownerEmail
      metadata := sovereignMeta env b }

/-- `golden_build`, from the created flow on. -/
def buildCreated (fid : PyValue) : EngineM BuildResult := do
  stampMetadata env b fid
  let before ← ofPy (beforeGraph b)
  let _ ← importFlow env.httpx fid (buildName env b) b.trigger
  let verified ← verifyFlow env.httpx fid
  let after ← ofPy (walkFlowTree verified)
  checkImported env fid before after
  let ttype ← ofPy (triggerTypeOf verified (py "?"))
  let (pub, read) ← publishAndConfirm env fid
  finish env b fid ttype pub read

/-- `golden_build`. -/
def goldenBuild : EngineM BuildResult := do
  preflight env b
  let flow ← createFlow env.httpx (buildPid env b) (buildName env b)
  let fid ← ofPy (flow.getItem (text "id"))
  buildCreated env b fid

/-- What `golden_build` writes to the registry. -/
structure BuildRow (fid : PyValue) (values : FlowRegistryValues) : Prop where
  tenantId : values.tenantId = buildPid env b
  flowId : values.flowId = fid
  triggerType : triggerTypeVal b = .ok values.triggerType
  /-- The manifest lists no pieces. -/
  pieces : values.pieceManifest.get "pieces" = .ok .null

end Definitions

/-! ### What the stages send -/

section Sends

variable {X : Httpx} {env : BuildEnv} {b : BuildRequest} {fid : PyValue}

theorem sends_r_of {P : Call → Prop} {q : Call} (hq : P q) (hsign : P .signIn) :
    Sends P (r X q) :=
  (sends_r q).mono fun c hc ↦ by rcases hc with rfl | rfl <;> assumption

theorem sends_preflight {P : Call → Prop} : Sends P (preflight env b) := by
  unfold preflight
  split
  · exact sends_pure _
  · exact sends_raise _
  · split
    · exact sends_pure _
    · refine (sends_ofPy _).bind fun errors ↦ ?_
      split
      · exact sends_pure _
      · exact sends_raise _

theorem sends_cleanUp {P : Call → Prop} (hdelete : P (.deleteFlow fid)) (hsign : P .signIn) :
    Sends P (cleanUp env fid) :=
  ((sends_r_of hdelete hsign).bind fun _ ↦ sends_pure _).handle fun _ ↦ sends_pure _

theorem sends_stampMetadata {P : Call → Prop}
    (hstamp : P (.flowOperation fid (.updateMetadata (sovereignMeta env b))))
    (hdelete : P (.deleteFlow fid)) (hsign : P .signIn) : Sends P (stampMetadata env b fid) :=
  ((sends_r_of hstamp hsign).bind fun _ ↦ sends_pure _).handle fun _ ↦
    (sends_cleanUp hdelete hsign).bind fun _ ↦ sends_raise _

theorem sends_checkImported {P : Call → Prop} {before after : FlowGraph}
    (hdelete : P (.deleteFlow fid)) (hsign : P .signIn) :
    Sends P (checkImported env fid before after) := by
  unfold checkImported
  split
  · exact (sends_cleanUp hdelete hsign).bind fun _ ↦ sends_raise _
  · split
    · exact (sends_cleanUp hdelete hsign).bind fun _ ↦ sends_raise _
    · exact sends_pure _

theorem sends_verifyFlow {P : Call → Prop} (hget : P (.getFlow fid)) (hsign : P .signIn) :
    Sends P (verifyFlow X fid) := by
  refine (sends_r_of hget hsign).bind fun flow ↦ (sends_ofPy _).bind fun ttype ↦ ?_
  split
  · exact sends_raise _
  · exact sends_pure _

theorem sends_assertEnabled {P : Call → Prop} {f : PyValue} : Sends P (assertEnabled fid f) := by
  refine (sends_ofPy _).bind fun st ↦ ?_
  split
  · exact (sends_ofPy _).bind fun state ↦ sends_pure _
  · exact (sends_ofPy _).bind fun state ↦ sends_raise _

theorem sends_tryEnable {P : Call → Prop}
    (henable : P (.flowOperation fid (.changeStatus (text "ENABLED")))) (hget : P (.getFlow fid))
    (hsign : P .signIn) : Sends P (tryEnable X fid) := by
  refine (sends_r_of henable hsign).bind fun _ ↦ (sends_r_of hget hsign).bind fun flow ↦
    (sends_ofPy _).bind fun st ↦ ?_
  split
  · exact sends_assertEnabled.bind fun pub ↦ sends_pure _
  · exact sends_pure _

theorem sends_enableLoop {P : Call → Prop}
    (henable : P (.flowOperation fid (.changeStatus (text "ENABLED")))) (hget : P (.getFlow fid))
    (hsign : P .signIn) : Sends P (enableLoop X fid) := by
  have htry : Sends P (tryEnable X fid) := sends_tryEnable henable hget hsign
  refine Sends.bind (htry.handle fun e ↦ ?_) fun first ↦ ?_
  · split
    · exact sends_raise _
    · exact sends_pure _
  · cases first with
    | inr pub => exact sends_pure _
    | inl flow =>
      refine Sends.bind (htry.handle fun e ↦ ?_) fun second ↦ ?_
      · split
        · exact sends_raise _
        · exact sends_raise _
      · cases second with
        | inr pub => exact sends_pure _
        | inl flowAfter => exact (sends_ofPy _).bind fun st ↦ sends_raise _

theorem sends_publishAndEnable {P : Call → Prop} (hpublish : P (.flowOperation fid .lockAndPublish))
    (henable : P (.flowOperation fid (.changeStatus (text "ENABLED")))) (hget : P (.getFlow fid))
    (hsign : P .signIn) : Sends P (publishAndEnable X fid) := by
  refine (sends_r_of hpublish hsign).bind fun _ ↦ (sends_r_of hget hsign).bind fun flow ↦
    (sends_ofPy _).bind fun status ↦ (sends_ofPy _).bind fun _ ↦ ?_
  split
  · exact sends_assertEnabled
  · exact sends_enableLoop henable hget hsign

theorem sends_publishAndConfirm {P : Call → Prop}
    (hpublish : P (.flowOperation fid .lockAndPublish))
    (henable : P (.flowOperation fid (.changeStatus (text "ENABLED")))) (hget : P (.getFlow fid))
    (hsign : P .signIn) : Sends P (publishAndConfirm env fid) := by
  refine (sends_publishAndEnable hpublish henable hget hsign).bind fun pub ↦
    (sends_r_of hget hsign).bind fun final ↦ (sends_ofPy _).bind fun read ↦ ?_
  split
  · exact sends_pure _
  · exact sends_raise _

theorem sends_sendPulse {P : Call → Prop} (hhook : ∀ payload, P (.testWebhook fid payload)) :
    Sends P (sendPulse env b fid) := by
  refine Sends.handle ((sends_ofPy _).bind fun payload ↦ Sends.bind ?_ fun _ ↦ sends_pure _)
    fun _ ↦ sends_pure _
  refine sends_ensureClient.bind fun _ ↦ (sends_ask (hhook payload)).bind fun rep ↦ ?_
  cases rep with
  | raised e => exact sends_raise _
  | answered resp => exact sends_pure _

theorem sends_registerFlow {P : Call → Prop} {ttype status clientEmail : PyValue}
    (hupsert : ∀ values, BuildRow env b fid values → P (.upsertRegistry values)) :
    Sends P (registerFlow env b fid ttype status clientEmail) := by
  unfold registerFlow
  split
  · exact sends_pure _
  refine Sends.handle ?_ fun _ ↦ sends_pure _
  cases htype : triggerTypeVal b with
  | error e => exact sends_raise _
  | ok triggerType =>
    show Sends P (ask (.upsertRegistry _) >>= fun _ ↦ pure ())
    refine Sends.bind (sends_ask (hupsert _ ⟨rfl, rfl, htype, ?_⟩)) fun _ ↦ sends_pure _
    rw [get_of_isDict rfl, entryD, entry_pyDict]
    rfl

theorem sends_finish {P : Call → Prop} {ttype : PyValue} {pub : Published} {read : FinalRead}
    (hhook : ∀ payload, P (.testWebhook fid payload))
    (hupsert : ∀ values, BuildRow env b fid values → P (.upsertRegistry values)) :
    Sends P (finish env b fid ttype pub read) :=
  (sends_sendPulse hhook).bind fun _ ↦ (sends_ofPy _).bind fun _ ↦ (sends_ofPy _).bind fun _ ↦
    (sends_registerFlow hupsert).bind fun _ ↦ sends_pure _

/-- From the created flow on, a build talks about that flow only, and creates none. -/
theorem sends_buildCreated {P : Call → Prop}
    (hstamp : P (.flowOperation fid (.updateMetadata (sovereignMeta env b))))
    (hop : ∀ op, (∀ metadata, op ≠ .updateMetadata metadata) → P (.flowOperation fid op))
    (hget : P (.getFlow fid)) (hdelete : P (.deleteFlow fid)) (hsign : P .signIn)
    (hhook : ∀ payload, P (.testWebhook fid payload))
    (hupsert : ∀ values, BuildRow env b fid values → P (.upsertRegistry values)) :
    Sends P (buildCreated env b fid) :=
  (sends_stampMetadata hstamp hdelete hsign).bind fun _ ↦ (sends_ofPy _).bind fun _ ↦
    (sends_r_of (hop _ (by simp)) hsign).bind fun _ ↦ (sends_verifyFlow hget hsign).bind fun _ ↦
    (sends_ofPy _).bind fun _ ↦ (sends_checkImported hdelete hsign).bind fun _ ↦
    (sends_ofPy _).bind fun _ ↦
    (sends_publishAndConfirm (hop _ (by simp)) (hop _ (by simp)) hget hsign).bind fun _ ↦
    sends_finish hhook hupsert

end Sends

end Siyadah
