import SiyadahOrchestrator.Build.Guard

/-!
# The connection gate

Before a dynamic flow is built, `classify_connection_requirements` asks which of its pieces can run:
a piece whose schema asks for no authentication can, and so can one for which the project has an
active connection. The others are blocked, and the flow is kept as a plan.

A connection that the request names for a piece (an override) takes precedence. The gate checks that
it is active, but not that it is a connection of the piece, and of a connection that it finds by
itself it does not check that it has an id. So the connections that the gate hands on are those of
their pieces exactly when the overrides are and the others have ids (`gate_sound_iff`).
-/

namespace Siyadah

open PyValue

/-! ### Names and schemas -/

/-- The full name of a piece, as the gate writes it. -/
def gateName (piece : PyStr) : PyStr :=
  if (text "@activepieces/").isPrefixOf piece then piece else piecePrefix ++ shortName piece

/-- The names without repetition, in order. -/
def orderedPieces (pieces : List PyStr) : List PyStr :=
  pieces.foldl (fun ordered piece ↦
    if gateName piece ∈ ordered then ordered else ordered ++ [gateName piece]) []

/-- `x.get("required", True)`, for a dictionary. -/
def isRequired (auth : PyValue) : Bool := ((auth.entry "required").getD (.bool true)).truthy

/-- `schema_requires_auth`. -/
def schemaRequiresAuth (schema : PyValue) : Except PyError Bool := do
  let auth ← schema.get "auth"
  if !auth.truthy then pure false
  else
    match auth with
    | .list items => pure (items.any fun x ↦ x.isDict && isRequired x)
    | .dict _ => pure (isRequired auth)
    | _ => pure true

/-- `schema_auth_type`. -/
def schemaAuthType (schema : PyValue) : Except PyError PyValue := do
  let auth ← schema.get "auth"
  if !auth.truthy then pure .null
  else
    match auth with
    | .list items =>
      pure (((items.map (entryD · "type")).find? truthy).getD (py "UNKNOWN"))
    | .dict _ => pure (auth.entryD "type")
    | _ => pure (py "UNKNOWN")

/-! ### Connections -/

/-- What is kept of a connection that is not active. -/
def erroredConnection (conn status : PyValue) : PyValue :=
  pyDict [("id", conn.entryD "id"), ("externalId", conn.entryD "externalId"),
    ("displayName", conn.entryD "displayName"), ("status", status), ("type", conn.entryD "type")]

/-- `active_by_piece` and `errored_by_piece`. -/
structure ConnectionTables where
  active : List (PyStr × PyValue)
  errored : List (PyStr × List PyValue)

/-- One connection, in the loop over the connections of the project. -/
def ConnectionTables.sort (t : ConnectionTables) (conn : PyValue) :
    Except PyError ConnectionTables := do
  let pieceName ← conn.get "pieceName"
  let status ← conn.get "status"
  if !pieceName.truthy then pure t
  else if status.isStr (text "ACTIVE") then
    let key ← dictKey pieceName
    if key ∈ t.active.map Prod.fst then pure t
    else pure { t with active := t.active ++ [(key, conn)] }
  else if status.truthy then
    let key ← dictKey pieceName
    let before := (t.errored.lookup key).getD []
    pure { t with errored := upsert t.errored key (before ++ [erroredConnection conn status]) }
  else pure t

/-- The first connection with the id. -/
def overrideConnection (live : List PyValue) (id : PyStr) : Option PyValue :=
  live.find? fun conn ↦ (conn.entryD "externalId").isStr id || (conn.entryD "id").isStr id

/-- The connection is active. -/
def isActive (conn : PyValue) : Bool := (conn.entryD "status").isStr (text "ACTIVE")

/-! ### The classification -/

/-- What has been classified so far. -/
structure GateLists where
  runnable : List PyValue
  blocked : List PyValue
  connectionIds : Fields

/-- The entry of a piece that asks for no authentication. -/
def authFreeEntry (full short : PyStr) : PyValue :=
  pyDict [("piece", .str full), ("short", .str short), ("requires_auth", .bool false),
    ("status", py "RUNNABLE")]

/-- The entry of a piece with a connection. -/
def connectedEntry (full short : PyStr) (authType : PyValue) (status : String)
    (ext conn : PyValue) : PyValue :=
  pyDict [("piece", .str full), ("short", .str short), ("requires_auth", .bool true),
    ("auth_type", authType), ("status", py status), ("connection_external_id", ext),
    ("connection_type", conn.entryD "type"),
    ("connection_display_name", conn.entryD "displayName")]

/-- The entry of a piece that is blocked. -/
def blockedEntry (full short : PyStr) (authType : PyValue) (status : String)
    (errored : List PyValue) (reason : String) : PyValue :=
  pyDict [("piece", .str full), ("short", .str short), ("requires_auth", .bool true),
    ("auth_type", authType), ("status", py status), ("errored_connections", .list errored),
    ("reason", py reason)]

section Entries

variable (full short : PyStr) (authType ext conn : PyValue) (status reason : String)
  (errored : List PyValue)

@[simp] theorem piece_authFreeEntry : (authFreeEntry full short).entryD "piece" = .str full := by
  rw [entryD, authFreeEntry, entry_pyDict]
  rfl

@[simp] theorem piece_connectedEntry :
    (connectedEntry full short authType status ext conn).entryD "piece" = .str full := by
  rw [entryD, connectedEntry, entry_pyDict]
  rfl

@[simp] theorem piece_blockedEntry :
    (blockedEntry full short authType status errored reason).entryD "piece" = .str full := by
  rw [entryD, blockedEntry, entry_pyDict]
  rfl

end Entries

section Gate

variable (live : List PyValue) (overrides : List (PyStr × PyStr))

/-- One piece, in the loop over the pieces. -/
def classifyPiece (t : ConnectionTables) (full : PyStr) (schema : PyValue) (g : GateLists) :
    Except PyError GateLists := do
  let short := shortName full
  let requiresAuth ← schemaRequiresAuth schema
  if !requiresAuth then
    pure { g with runnable := g.runnable ++ [authFreeEntry full short] }
  else
    let authType ← schemaAuthType schema
    let overrideId := (overrides.lookup short).getD []
    let errored := (t.errored.lookup full).getD []
    if overrideId ≠ [] then
      match overrideConnection live overrideId with
      | some conn =>
        if isActive conn then
          pure { g with
            runnable := g.runnable ++ [connectedEntry full short authType "RUNNABLE_WITH_OVERRIDE"
              (.str overrideId) conn]
            connectionIds := upsert g.connectionIds short (.str overrideId) }
        else
          pure { g with
            blocked := g.blocked ++ [blockedEntry full short authType
              "BLOCKED_CONNECTION_OVERRIDE_INACTIVE" [conn]
              "override_connection_missing_or_inactive"] }
      | none =>
        pure { g with
          blocked := g.blocked ++ [blockedEntry full short authType
            "BLOCKED_CONNECTION_OVERRIDE_INACTIVE" errored
            "override_connection_missing_or_inactive"] }
    else
      match t.active.lookup full with
      | some conn =>
        let ext := (conn.entryD "externalId").orElse (conn.entryD "id")
        pure { g with
          runnable := g.runnable ++ [connectedEntry full short authType "RUNNABLE_CONNECTED" ext
            conn]
          connectionIds := upsert g.connectionIds short ext }
      | none =>
        pure { g with
          blocked := g.blocked ++ [blockedEntry full short authType "BLOCKED_CONNECTION_REQUIRED"
            errored "missing_or_inactive_connection"] }

variable {m : Type → Type} [Monad m] (eval : {α : Type} → Except PyError α → m α)
  (fetchSchema : PyStr → m PyValue)

/-- The loop over the pieces. -/
def classifyPieces (t : ConnectionTables) : List PyStr → GateLists → m GateLists
  | [], g => pure g
  | full :: rest, g => do
    let schema ← fetchSchema full
    let g' ← eval (classifyPiece live overrides t full schema g)
    classifyPieces t rest g'

/-- What the gate answers. -/
structure ConnectionGate where
  status : PyStr
  runnablePieces : List PyValue
  blockedPieces : List PyValue
  connectionIds : Fields
  totalPieces : ℕ
  blockedCount : ℕ
  runnableCount : ℕ

/-- `classify_connection_requirements`. -/
def classifyConnectionRequirements (steps : PyValue) : m ConnectionGate := do
  let rawPieces ← eval (extractPieces id steps)
  let ordered := orderedPieces rawPieces
  let tables ← eval (live.foldlM ConnectionTables.sort ⟨[], []⟩)
  let g ← classifyPieces live overrides eval fetchSchema tables ordered ⟨[], [], []⟩
  pure { status := if g.blocked.isEmpty then text "READY" else text "PENDING_CONNECTIONS"
         runnablePieces := g.runnable
         blockedPieces := g.blocked
         connectionIds := g.connectionIds
         totalPieces := ordered.length
         blockedCount := g.blocked.length
         runnableCount := g.runnable.length }

end Gate

/-! ### What the gate should be -/

/-- The connection is active and belongs to the piece. -/
def ActiveFor (full : PyStr) (conn : PyValue) : Prop :=
  isActive conn = true ∧ conn.entryD "pieceName" = .str full

/-- The value is an id of the connection. A missing id names nothing. -/
def Names (conn v : PyValue) : Prop :=
  v.truthy = true ∧ (conn.entryD "externalId" = v ∨ conn.entryD "id" = v)

/-- The value names an active connection of one of the pieces with this short name. -/
def NamesActive (pieces : List PyStr) (live : List PyValue) (short : PyStr) (v : PyValue) : Prop :=
  ∃ p ∈ pieces, shortName (gateName p) = short ∧
    ∃ conn ∈ live, ActiveFor (gateName p) conn ∧ Names conn v

/-- The pieces that are listed, runnable ones first. -/
def ConnectionGate.listed (g : ConnectionGate) : List PyValue :=
  (g.runnablePieces ++ g.blockedPieces).map (entryD · "piece")

/-- The gate partitions the pieces and hands on connections of the pieces. -/
structure GateSound (pieces : List PyStr) (live : List PyValue) (g : ConnectionGate) : Prop where
  once : g.listed.Nodup
  all : ∀ v, v ∈ g.listed ↔ ∃ p ∈ pieces, v = .str (gateName p)
  runnable_count : g.runnableCount = g.runnablePieces.length
  blocked_count : g.blockedCount = g.blockedPieces.length
  total : g.runnableCount + g.blockedCount = g.totalPieces
  ready : g.status = text "READY" ↔ g.blockedPieces = []
  connected : ∀ short v, g.connectionIds.lookup short = some v → NamesActive pieces live short v

/-- The schema of the piece asks for authentication. -/
def Requires (schemas : PyStr → Except EngineError PyValue) (full : PyStr) : Prop :=
  ∃ schema, schemas full = .ok schema ∧ schemaRequiresAuth schema = .ok true

/-- The request names a connection for the piece, and the first one with this id is active. -/
def ActiveOverride (live : List PyValue) (overrides : List (PyStr × PyStr)) (short cid : PyStr) :
    Prop :=
  overrides.lookup short = some cid ∧ cid ≠ [] ∧
    ∃ conn, overrideConnection live cid = some conn ∧ isActive conn = true

/-- The first active connection of the piece. -/
def firstActive (live : List PyValue) (full : PyStr) : Option PyValue :=
  live.find? fun conn ↦ isActive conn && (conn.entryD "pieceName").isStr full

/-- The id that the gate hands on for a connection that it has found. -/
def foundId (conn : PyValue) : PyValue :=
  (conn.entryD "externalId").orElse (conn.entryD "id")

/-- The request names no connection for the pieces with this short name. -/
def Unnamed (overrides : List (PyStr × PyStr)) (short : PyStr) : Prop :=
  (overrides.lookup short).getD [] = []

/-- The connection is that of the last piece with this short name that asks for authentication and
has one. -/
def LastFound (schemas : PyStr → Except EngineError PyValue) (find : PyStr → Option PyValue)
    (fulls : List PyStr) (short : PyStr) (conn : PyValue) : Prop :=
  ∃ before full after, fulls = before ++ full :: after ∧ shortName full = short ∧
    Requires schemas full ∧ find full = some conn ∧
      ∀ p ∈ after, shortName p = short → Requires schemas p → find p = none

/-- The active connections that the request names for its pieces belong to the pieces. -/
def OverridesFit (pieces : List PyStr) (live : List PyValue) (overrides : List (PyStr × PyStr))
    (schemas : PyStr → Except EngineError PyValue) : Prop :=
  ∀ p ∈ pieces, Requires schemas (gateName p) → ∀ cid,
    ActiveOverride live overrides (shortName (gateName p)) cid →
      NamesActive pieces live (shortName (gateName p)) (.str cid)

/-- The connections that the gate finds by itself have an id. -/
def FoundHaveIds (pieces : List PyStr) (live : List PyValue) (overrides : List (PyStr × PyStr))
    (schemas : PyStr → Except EngineError PyValue) : Prop :=
  ∀ short conn, Unnamed overrides short →
    LastFound schemas (firstActive live) (orderedPieces pieces) short conn →
      (foundId conn).truthy = true

/-! ### Names -/

section Names

variable {pieces : List PyStr}

theorem mem_orderedPieces_iff {full : PyStr} :
    full ∈ orderedPieces pieces ↔ ∃ p ∈ pieces, full = gateName p := by
  have hfold : ∀ ordered : List PyStr, full ∈ pieces.foldl (fun ordered piece ↦
      if gateName piece ∈ ordered then ordered else ordered ++ [gateName piece]) ordered ↔
        full ∈ ordered ∨ ∃ p ∈ pieces, full = gateName p := by
    induction pieces with
    | nil => simp
    | cons p ps ih =>
      intro ordered
      rw [List.foldl_cons, ih]
      split
      · rename_i hmem
        constructor
        · rintro (h | ⟨q, hq, rfl⟩)
          · exact .inl h
          · exact .inr ⟨q, List.mem_cons_of_mem p hq, rfl⟩
        · rintro (h | ⟨q, hq, rfl⟩)
          · exact .inl h
          · rcases List.mem_cons.1 hq with rfl | hq
            · exact .inl hmem
            · exact .inr ⟨q, hq, rfl⟩
      · rw [List.mem_append, List.mem_singleton, or_assoc]
        refine or_congr Iff.rfl ?_
        rw [List.exists_mem_cons_iff]
  rw [orderedPieces, hfold]
  simp

theorem nodup_orderedPieces : (orderedPieces pieces).Nodup := by
  have hfold : ∀ ordered : List PyStr, ordered.Nodup →
      (pieces.foldl (fun ordered piece ↦ if gateName piece ∈ ordered then ordered
        else ordered ++ [gateName piece]) ordered).Nodup := by
    induction pieces with
    | nil => exact fun _ h ↦ h
    | cons p ps ih =>
      intro ordered h
      rw [List.foldl_cons]
      refine ih _ ?_
      split
      · exact h
      · rename_i hnew
        rw [List.nodup_append]
        refine ⟨h, List.nodup_singleton _, fun a ha b hb ↦ ?_⟩
        obtain rfl := List.mem_singleton.1 hb
        exact fun heq ↦ hnew (heq ▸ ha)
  exact hfold [] List.nodup_nil

/-- A full name begins with a character that no key for another value begins with. -/
theorem gateName_head (piece : PyStr) : (gateName piece).head? = some 64 := by
  rw [gateName]
  split
  · rename_i hprefix
    obtain ⟨rest, rfl⟩ := List.isPrefixOf_iff_prefix.1 hprefix
    rfl
  · rfl

theorem eq_str_of_dictKey {v : PyValue} {piece : PyStr} (h : dictKey v = .ok (gateName piece)) :
    v = .str (gateName piece) := by
  have hhead := gateName_head piece
  generalize gateName piece = key at h hhead
  have hmark : ∀ rest, key ≠ keyMark :: rest := by
    rintro rest rfl
    exact absurd (Option.some.inj hhead) (by decide)
  cases v with
  | str s => exact congrArg PyValue.str (Except.ok.inj h)
  | null => exact absurd (Except.ok.inj h).symm (hmark _)
  | bool b => exact absurd (Except.ok.inj h).symm (hmark _)
  | int n => exact absurd (Except.ok.inj h).symm (hmark _)
  | float x =>
    cases x with
    | finite q => exact absurd (Except.ok.inj h).symm (hmark _)
    | infinity negative => exact absurd (Except.ok.inj h).symm (hmark _)
    | nan => exact absurd (Except.ok.inj h).symm (hmark _)
  | _ => exact absurd h (by simp [dictKey, number?])

end Names

/-! ### The table of active connections -/

section Tables

variable {live : List PyValue} {t t' : ConnectionTables} {conn : PyValue} {piece : PyStr}

/-- A connection that stands in the table for no piece is not that of `piece`. -/
theorem truthy_of_isStr_gateName {v : PyValue} (h : v.isStr (gateName piece) = true) :
    v.truthy = true := by
  have hhead := gateName_head piece
  rw [eq_str_of_isStr h]
  cases hgate : gateName piece with
  | nil =>
    rw [hgate] at hhead
    cases hhead
  | cons c rest => simp [truthy]

variable (piece) in
/-- A value is the key of `piece` when it is the name of `piece`. -/
theorem gateName_eq_iff_of_dictKey {v : PyValue} {key : PyStr} (hkey : dictKey v = .ok key) :
    gateName piece = key ↔ v.isStr (gateName piece) = true := by
  constructor
  · rintro rfl
    rw [eq_str_of_dictKey hkey]
    simp [isStr]
  · intro hstr
    rw [eq_str_of_isStr hstr] at hkey
    exact Except.ok.inj hkey

/-- A connection takes the place of its piece in the table, if that is free. -/
theorem lookup_active_sort (h : t.sort conn = .ok t') :
    t'.active.lookup (gateName piece) = (t.active.lookup (gateName piece)).or
      (if isActive conn && (conn.entryD "pieceName").isStr (gateName piece) then some conn
        else none) := by
  obtain ⟨pieceName, hname, h⟩ := bind_eq_ok_iff.1 h
  obtain ⟨status, hstatus, h⟩ := bind_eq_ok_iff.1 h
  obtain ⟨-, hname⟩ := getD_eq_ok_iff.1 hname
  obtain ⟨-, hstatus⟩ := getD_eq_ok_iff.1 hstatus
  obtain rfl : pieceName = conn.entryD "pieceName" := hname
  obtain rfl : status = conn.entryD "status" := hstatus
  have hother : (conn.entryD "pieceName").isStr (gateName piece) = false →
      t.active.lookup (gateName piece) = (t.active.lookup (gateName piece)).or
        (if isActive conn && (conn.entryD "pieceName").isStr (gateName piece) then some conn
          else none) := by
    intro hne
    rw [hne, Bool.and_false, if_neg (by simp), Option.or_none]
  split at h
  · -- a connection of no piece at all
    rename_i hfalsy
    obtain rfl := Except.ok.inj h
    refine hother ?_
    rw [← Bool.not_eq_true]
    intro hstr
    simp [truthy_of_isStr_gateName hstr] at hfalsy
  split at h
  · rename_i hactive
    obtain ⟨key, hkey, h⟩ := bind_eq_ok_iff.1 h
    have hgate := gateName_eq_iff_of_dictKey piece hkey
    split at h
    · rename_i htaken
      obtain rfl := Except.ok.inj h
      by_cases heq : gateName piece = key
      · subst heq
        obtain ⟨first, hfirst⟩ := mem_keys_iff.1 htaken
        rw [hfirst, Option.some_or]
      · exact hother (by simpa [hgate] using heq)
    · obtain rfl := Except.ok.inj h
      show (t.active ++ [(key, conn)]).lookup (gateName piece) = _
      rw [List.lookup_append]
      by_cases heq : gateName piece = key
      · have hpos : (isActive conn && (conn.entryD "pieceName").isStr (gateName piece)) = true := by
          rw [hgate.1 heq, Bool.and_true]
          exact hactive
        rw [if_pos hpos, heq, List.lookup_cons, beq_self_eq_true]
      · rw [List.lookup_cons, beq_false_of_ne heq]
        exact (Option.or_none).trans (hother (by simpa [hgate] using heq))
  · rename_i hinactive
    have hfree : t'.active = t.active := by
      split at h
      · obtain ⟨key, -, h⟩ := bind_eq_ok_iff.1 h
        obtain rfl := Except.ok.inj h
        rfl
      · obtain rfl := Except.ok.inj h
        rfl
    have hneg : (isActive conn && (conn.entryD "pieceName").isStr (gateName piece)) = false := by
      rw [isActive, Bool.eq_false_iff.2 hinactive, Bool.false_and]
    rw [hfree, hneg, if_neg (by simp), Option.or_none]

/-- **The table has the first active connection of each piece.** -/
theorem lookup_active_sorted (h : live.foldlM ConnectionTables.sort ⟨[], []⟩ = .ok t) :
    t.active.lookup (gateName piece) = firstActive live (gateName piece) := by
  have hfold : ∀ t₀, live.foldlM ConnectionTables.sort t₀ = .ok t →
      t.active.lookup (gateName piece) =
        (t₀.active.lookup (gateName piece)).or (firstActive live (gateName piece)) := by
    clear h
    induction live with
    | nil =>
      intro t₀ h
      obtain rfl := Except.ok.inj h
      exact Option.or_none.symm
    | cons conn live ih =>
      intro t₀ h
      rw [List.foldlM_cons] at h
      obtain ⟨t₁, hfirst, hrest⟩ := bind_eq_ok_iff.1 h
      rw [ih t₁ hrest, lookup_active_sort hfirst, Option.or_assoc, firstActive, firstActive,
        List.find?_cons]
      congr 1
      cases isActive conn && (conn.entryD "pieceName").isStr (gateName piece) with
      | true => rfl
      | false => rfl
  exact hfold _ h

end Tables

/-! ### One piece -/

/-- The connection that a piece gets: the one that the request names, if it is active, else the
first active one of the piece. -/
def Chosen (live : List PyValue) (overrides : List (PyStr × PyStr)) (t : ConnectionTables)
    (full : PyStr) (v : PyValue) : Prop :=
  (∃ cid, ActiveOverride live overrides (shortName full) cid ∧ v = .str cid) ∨
    Unnamed overrides (shortName full) ∧
      ∃ conn, t.active.lookup full = some conn ∧ v = foundId conn

section Classify

variable {live : List PyValue} {overrides : List (PyStr × PyStr)} {t : ConnectionTables}
  {full short : PyStr} {schema : PyValue} {g g' : GateLists}

/-- A connection that the request names is not one that the gate finds. -/
theorem Unnamed.not_activeOverride (h : Unnamed overrides short) (cid : PyStr) :
    ¬ ActiveOverride live overrides short cid := by
  rintro ⟨hlookup, hne, -⟩
  rw [Unnamed, hlookup] at h
  exact hne h

/-- **What the gate does with one piece.** -/
theorem classifyPiece_cases (h : classifyPiece live overrides t full schema g = .ok g') :
    ∃ required entry, schemaRequiresAuth schema = .ok required ∧
      entry.entryD "piece" = .str full ∧
      ((required = false ∧ g' = { g with runnable := g.runnable ++ [entry] }) ∨
        (required = true ∧ ∃ v, Chosen live overrides t full v ∧
          g' = { g with
            runnable := g.runnable ++ [entry]
            connectionIds := upsert g.connectionIds (shortName full) v }) ∨
        (required = true ∧ (∀ cid, ¬ ActiveOverride live overrides (shortName full) cid) ∧
          (Unnamed overrides (shortName full) → t.active.lookup full = none) ∧
          g' = { g with blocked := g.blocked ++ [entry] })) := by
  obtain ⟨required, hrequired, h⟩ := bind_eq_ok_iff.1 h
  cases required with
  | false =>
    exact ⟨false, _, hrequired, piece_authFreeEntry _ _, .inl ⟨rfl, (Except.ok.inj h).symm⟩⟩
  | true =>
    obtain ⟨authType, -, h⟩ := bind_eq_ok_iff.1 h
    dsimp only at h
    split at h
    · rename_i hne
      obtain ⟨cid, hlookup⟩ : ∃ cid, overrides.lookup (shortName full) = some cid := by
        cases hlookup : overrides.lookup (shortName full) with
        | some cid => exact ⟨cid, rfl⟩
        | none =>
          rw [hlookup] at hne
          exact absurd rfl hne
      rw [hlookup] at h hne
      dsimp only [Option.getD_some] at h hne
      have hnamed : ¬ Unnamed overrides (shortName full) := by
        rw [Unnamed, hlookup]
        exact hne
      cases hconn : overrideConnection live cid with
      | some conn =>
        rw [hconn] at h
        dsimp only at h
        split at h
        · rename_i hactive
          exact ⟨true, _, hrequired, piece_connectedEntry _ _ _ _ _ _, .inr (.inl ⟨rfl, .str cid,
            .inl ⟨cid, ⟨hlookup, hne, conn, hconn, hactive⟩, rfl⟩, (Except.ok.inj h).symm⟩)⟩
        · rename_i hinactive
          refine ⟨true, _, hrequired, piece_blockedEntry _ _ _ _ _ _,
            .inr (.inr ⟨rfl, ?_, fun hno ↦ absurd hno hnamed, (Except.ok.inj h).symm⟩)⟩
          rintro cid' ⟨hlookup', -, conn', hconn', hactive'⟩
          obtain rfl := Option.some.inj (hlookup.symm.trans hlookup')
          obtain rfl := Option.some.inj (hconn.symm.trans hconn')
          exact hinactive hactive'
      | none =>
        rw [hconn] at h
        refine ⟨true, _, hrequired, piece_blockedEntry _ _ _ _ _ _,
          .inr (.inr ⟨rfl, ?_, fun hno ↦ absurd hno hnamed, (Except.ok.inj h).symm⟩)⟩
        rintro cid' ⟨hlookup', -, conn', hconn', -⟩
        obtain rfl := Option.some.inj (hlookup.symm.trans hlookup')
        exact absurd (hconn.symm.trans hconn') (by simp)
    · rename_i hnone
      have hno : Unnamed overrides (shortName full) := not_not.1 hnone
      cases hconn : t.active.lookup full with
      | some conn =>
        rw [hconn] at h
        exact ⟨true, _, hrequired, piece_connectedEntry _ _ _ _ _ _,
          .inr (.inl ⟨rfl, _, .inr ⟨hno, conn, hconn, rfl⟩, (Except.ok.inj h).symm⟩)⟩
      | none =>
        rw [hconn] at h
        exact ⟨true, _, hrequired, piece_blockedEntry _ _ _ _ _ _,
          .inr (.inr ⟨rfl, hno.not_activeOverride, fun _ ↦ rfl, (Except.ok.inj h).symm⟩)⟩

end Classify

/-! ### All pieces -/

/-- What is known once these pieces have been classified. -/
structure Classified (live : List PyValue) (overrides : List (PyStr × PyStr))
    (schemas : PyStr → Except EngineError PyValue) (t : ConnectionTables) (done : List PyStr)
    (g : GateLists) : Prop where
  listed : ((g.runnable ++ g.blocked).map (entryD · "piece")).Perm (done.map .str)
  chosen : ∀ short v, g.connectionIds.lookup short = some v →
    (∃ full ∈ done, shortName full = short ∧ Requires schemas full ∧
      ∃ cid, ActiveOverride live overrides short cid ∧ v = .str cid) ∨
    (Unnamed overrides short ∧
      ∃ conn, LastFound schemas (t.active.lookup ·) done short conn ∧ v = foundId conn)
  overridden : ∀ full ∈ done, Requires schemas full → ∀ cid,
    ActiveOverride live overrides (shortName full) cid →
      g.connectionIds.lookup (shortName full) = some (.str cid)
  found : ∀ short conn, Unnamed overrides short →
    LastFound schemas (t.active.lookup ·) done short conn →
      g.connectionIds.lookup short = some (foundId conn)

section Loop

variable {live : List PyValue} {overrides : List (PyStr × PyStr)} {t : ConnectionTables}
  {schemas : PyStr → Except EngineError PyValue} {find : PyStr → Option PyValue}
  {full short : PyStr} {schema conn conn' : PyValue} {g g' : GateLists} {rest done : List PyStr}

theorem requires_iff (hschema : schemas full = .ok schema) {required : Bool}
    (hrequired : schemaRequiresAuth schema = .ok required) :
    Requires schemas full ↔ required = true := by
  constructor
  · rintro ⟨schema', hschema', hrequired'⟩
    obtain rfl := Except.ok.inj (hschema.symm.trans hschema')
    exact Except.ok.inj (hrequired.symm.trans hrequired')
  · rintro rfl
    exact ⟨schema, hschema, hrequired⟩

/-- An entry that was set before stays, unless the piece is given another one. -/
theorem mem_done_append {P : PyStr → Prop} (h : ∃ p ∈ done, P p) : ∃ p ∈ done ++ [full], P p := by
  obtain ⟨p, hp, hP⟩ := h
  exact ⟨p, List.mem_append_left _ hp, hP⟩

theorem forall_mem_done_append {P : PyStr → Prop} (h : ∀ p ∈ done, P p) (hfull : P full) :
    ∀ p ∈ done ++ [full], P p :=
  List.forall_mem_append.2 ⟨h, List.forall_mem_singleton.2 hfull⟩

/-- A piece for which a connection is found is the last such piece. -/
theorem lastFound_concat_self (hreq : Requires schemas full) (hfind : find full = some conn) :
    LastFound schemas find (done ++ [full]) (shortName full) conn :=
  ⟨done, full, [], rfl, rfl, hreq, hfind, fun _ hp ↦ absurd hp List.not_mem_nil⟩

theorem eq_of_lastFound_concat (hreq : Requires schemas full) (hfind : find full = some conn)
    (h : LastFound schemas find (done ++ [full]) (shortName full) conn') : conn' = conn := by
  obtain ⟨before, p, after, hsplit, -, -, hp, hafter⟩ := h
  rcases List.eq_nil_or_concat after with rfl | ⟨after, q, rfl⟩
  · obtain ⟨-, hlast⟩ := List.append_inj' hsplit rfl
    obtain rfl : full = p := List.head_eq_of_cons_eq hlast
    exact Option.some.inj (hp.symm.trans hfind)
  · rw [List.concat_eq_append, ← List.cons_append, ← List.append_assoc] at hsplit
    obtain ⟨-, hlast⟩ := List.append_inj' hsplit rfl
    obtain rfl : full = q := List.head_eq_of_cons_eq hlast
    have hnone := hafter full (by simp) rfl hreq
    exact absurd (hfind.symm.trans hnone) (by simp)

/-- A piece that finds no connection for the short name changes nothing. -/
theorem lastFound_concat_iff
    (h : shortName full = short → Requires schemas full → find full = none) :
    LastFound schemas find (done ++ [full]) short conn ↔
      LastFound schemas find done short conn := by
  constructor
  · rintro ⟨before, p, after, hsplit, hshort, hreq, hp, hafter⟩
    rcases List.eq_nil_or_concat after with rfl | ⟨after, q, rfl⟩
    · obtain ⟨-, hlast⟩ := List.append_inj' hsplit rfl
      obtain rfl : full = p := List.head_eq_of_cons_eq hlast
      exact absurd (hp.symm.trans (h hshort hreq)) (by simp)
    · rw [List.concat_eq_append, ← List.cons_append, ← List.append_assoc] at hsplit
      obtain ⟨hdone, -⟩ := List.append_inj' hsplit rfl
      exact ⟨before, p, after, hdone, hshort, hreq, hp,
        fun q hq ↦ hafter q (by simp [hq])⟩
  · rintro ⟨before, p, after, rfl, hshort, hreq, hp, hafter⟩
    refine ⟨before, p, after ++ [full], by simp, hshort, hreq, hp, ?_⟩
    exact forall_mem_done_append hafter h

/-- **One more piece.** The cases are those of the classification: it asks for no authentication,
it gets a connection, or it is blocked. -/
theorem Classified.piece (hg : Classified live overrides schemas t done g)
    (hschema : schemas full = .ok schema)
    (h : classifyPiece live overrides t full schema g = .ok g') :
    Classified live overrides schemas t (done ++ [full]) g' := by
  obtain ⟨required, entry, hrequired, hentry, hcases⟩ := classifyPiece_cases h
  have hrequires := requires_iff hschema hrequired
  have hlisted := hg.listed
  rw [List.map_append] at hlisted
  have hrunnable : ((g.runnable ++ [entry] ++ g.blocked).map (entryD · "piece")).Perm
      ((done ++ [full]).map PyValue.str) := by
    rw [List.append_assoc, List.map_append, List.map_append, List.map_append, List.map_singleton,
      hentry, List.map_singleton]
    exact List.perm_middle.trans ((List.Perm.cons _ hlisted).trans
      (List.perm_append_singleton _ _).symm)
  -- Under a short name for which this piece leaves nothing, all stays as it was.
  have hchosen : ∀ short v, g.connectionIds.lookup short = some v →
      (Unnamed overrides short → shortName full = short → Requires schemas full →
        t.active.lookup full = none) →
      (∃ p ∈ done ++ [full], shortName p = short ∧ Requires schemas p ∧
        ∃ cid, ActiveOverride live overrides short cid ∧ v = .str cid) ∨
      (Unnamed overrides short ∧ ∃ conn,
        LastFound schemas (t.active.lookup ·) (done ++ [full]) short conn ∧ v = foundId conn) := by
    intro short v hv hkept
    rcases hg.chosen short v hv with hnamed | ⟨hno, conn, hlast, rfl⟩
    · exact .inl (mem_done_append hnamed)
    · exact .inr ⟨hno, conn, (lastFound_concat_iff (hkept hno)).2 hlast, rfl⟩
  rcases hcases with ⟨rfl, rfl⟩ | ⟨rfl, v, hv, rfl⟩ | ⟨rfl, hnone, hnotable, rfl⟩
  · have hfree : ¬ Requires schemas full := fun hreq ↦ absurd (hrequires.1 hreq) (by simp)
    refine ⟨hrunnable, fun short v hv ↦ ?_, ?_, fun short conn hno hlast ↦ ?_⟩
    · exact hchosen short v hv fun _ _ hreq ↦ absurd hreq hfree
    · exact forall_mem_done_append hg.overridden fun hreq ↦ absurd hreq hfree
    · exact hg.found short conn hno
        ((lastFound_concat_iff fun _ hreq ↦ absurd hreq hfree).1 hlast)
  · have hreq : Requires schemas full := hrequires.2 rfl
    refine ⟨hrunnable, fun short w hw ↦ ?_, ?_, fun short conn hno hlast ↦ ?_⟩
    · by_cases hshort : short = shortName full
      · subst hshort
        obtain rfl := Option.some.inj (lookup_upsert_self.symm.trans hw)
        rcases hv with ⟨cid, hactive, rfl⟩ | ⟨hno, conn, hconn, rfl⟩
        · exact .inl ⟨full, by simp, rfl, hreq, cid, hactive, rfl⟩
        · exact .inr ⟨hno, conn, lastFound_concat_self hreq hconn, rfl⟩
      · exact hchosen short w ((lookup_upsert_of_ne hshort).symm.trans hw)
          fun _ heq ↦ absurd heq.symm hshort
    · -- Pieces with one short name share the connection that the request names.
      have hkeep : ∀ short cid, ActiveOverride live overrides short cid →
          short = shortName full ∨ g.connectionIds.lookup short = some (.str cid) →
          (upsert g.connectionIds (shortName full) v).lookup short = some (.str cid) := by
        intro short cid hactive hor
        by_cases hshort : short = shortName full
        · subst hshort
          rw [lookup_upsert_self]
          rcases hv with ⟨cid', ⟨hlookup', -⟩, rfl⟩ | ⟨hno, -⟩
          · obtain rfl := Option.some.inj (hactive.1.symm.trans hlookup')
            rfl
          · exact absurd hactive (hno.not_activeOverride cid)
        · rw [lookup_upsert_of_ne hshort]
          exact hor.resolve_left hshort
      refine forall_mem_done_append (fun p hp hp' cid hactive ↦ ?_) fun _ cid hactive ↦ ?_
      · exact hkeep _ cid hactive (.inr (hg.overridden p hp hp' cid hactive))
      · exact hkeep _ cid hactive (.inl rfl)
    · by_cases hshort : short = shortName full
      · subst hshort
        rcases hv with ⟨cid, hactive, -⟩ | ⟨-, conn', hconn', rfl⟩
        · exact absurd hactive (hno.not_activeOverride cid)
        · obtain rfl := eq_of_lastFound_concat hreq hconn' hlast
          exact lookup_upsert_self
      · refine (lookup_upsert_of_ne hshort).trans (hg.found short conn hno ?_)
        exact (lastFound_concat_iff fun heq _ ↦ absurd heq.symm hshort).1 hlast
  · refine ⟨?_, fun short v hv ↦ ?_, ?_, fun short conn hno hlast ↦ ?_⟩
    · show ((g.runnable ++ (g.blocked ++ [entry])).map (entryD · "piece")).Perm _
      rw [← List.append_assoc, List.map_append, List.map_singleton, hentry, List.map_append,
        List.map_append, List.map_singleton]
      exact hlisted.append_right _
    · refine hchosen short v hv fun hno heq _ ↦ ?_
      subst heq
      exact hnotable hno
    · exact forall_mem_done_append hg.overridden fun _ cid hactive ↦ absurd hactive (hnone cid)
    · refine hg.found short conn hno ((lastFound_concat_iff fun heq _ ↦ ?_).1 hlast)
      subst heq
      exact hnotable hno

/-- The loop classifies all pieces. -/
theorem Classified.pieces (hg : Classified live overrides schemas t done g)
    (h : classifyPieces live overrides fromPy schemas t rest g = .ok g') :
    Classified live overrides schemas t (done ++ rest) g' := by
  induction rest generalizing done g with
  | nil =>
    obtain rfl := Except.ok.inj h
    rwa [List.append_nil]
  | cons full rest ih =>
    obtain ⟨schema, hschema, h⟩ := bind_eq_ok_iff.1 h
    obtain ⟨g₁, hfirst, h⟩ := bind_eq_ok_iff.1 h
    rw [List.append_cons]
    exact ih (hg.piece hschema (fromPy_eq_ok_iff.1 hfirst)) h

end Loop

/-! ### The main result -/

section Main

variable {live : List PyValue} {overrides : List (PyStr × PyStr)}
  {schemas : PyStr → Except EngineError PyValue} {steps : PyValue} {pieces : List PyStr}
  {g : ConnectionGate} {t : ConnectionTables}

/-- The first active connection of a piece is one of its own. -/
theorem activeFor_of_firstActive {full : PyStr} {conn : PyValue}
    (h : firstActive live full = some conn) : conn ∈ live ∧ ActiveFor full conn := by
  have hboth := List.find?_some h
  obtain ⟨hactive, hname⟩ := Bool.and_eq_true_iff.1 hboth
  exact ⟨List.mem_of_find?_eq_some h, hactive, eq_str_of_isStr hname⟩

/-- What the gate has found by itself, by the pieces of the request. -/
theorem lastFound_orderedPieces_iff {short : PyStr} {conn : PyValue}
    (ht : live.foldlM ConnectionTables.sort ⟨[], []⟩ = .ok t) :
    LastFound schemas (t.active.lookup ·) (orderedPieces pieces) short conn ↔
      LastFound schemas (firstActive live) (orderedPieces pieces) short conn := by
  have hfind : ∀ full ∈ orderedPieces pieces, t.active.lookup full = firstActive live full := by
    intro full hfull
    obtain ⟨p, -, rfl⟩ := mem_orderedPieces_iff.1 hfull
    exact lookup_active_sorted ht
  constructor
  · rintro ⟨before, full, after, hsplit, hshort, hreq, hconn, hafter⟩
    have hmem : ∀ p ∈ full :: after, p ∈ orderedPieces pieces := by
      rw [hsplit]
      exact fun p hp ↦ List.mem_append_right _ hp
    refine ⟨before, full, after, hsplit, hshort, hreq, ?_, fun p hp hs hr ↦ ?_⟩
    · rw [← hfind full (hmem full List.mem_cons_self)]
      exact hconn
    · rw [← hfind p (hmem p (List.mem_cons_of_mem _ hp))]
      exact hafter p hp hs hr
  · rintro ⟨before, full, after, hsplit, hshort, hreq, hconn, hafter⟩
    have hmem : ∀ p ∈ full :: after, p ∈ orderedPieces pieces := by
      rw [hsplit]
      exact fun p hp ↦ List.mem_append_right _ hp
    refine ⟨before, full, after, hsplit, hshort, hreq, ?_, fun p hp hs hr ↦ ?_⟩
    · exact (hfind full (hmem full List.mem_cons_self)).trans hconn
    · exact (hfind p (hmem p (List.mem_cons_of_mem _ hp))).trans (hafter p hp hs hr)

/-- A connection with an id that the gate has found is one of a piece of the request. -/
theorem namesActive_of_lastFound {short : PyStr} {conn : PyValue}
    (h : LastFound schemas (firstActive live) (orderedPieces pieces) short conn)
    (hid : (foundId conn).truthy = true) : NamesActive pieces live short (foundId conn) := by
  obtain ⟨before, full, after, hsplit, rfl, -, hconn, -⟩ := h
  have hmem : full ∈ orderedPieces pieces := by
    rw [hsplit]
    exact List.mem_append_right _ List.mem_cons_self
  obtain ⟨p, hp, rfl⟩ := mem_orderedPieces_iff.1 hmem
  obtain ⟨hlive, hactive⟩ := activeFor_of_firstActive hconn
  refine ⟨p, hp, rfl, conn, hlive, hactive, hid, ?_⟩
  rw [foundId, orElse]
  split
  · exact .inl rfl
  · exact .inr rfl

/-- **The gate partitions the pieces of a request, and the connections that it hands on belong to
the pieces exactly when the active connections that the request names do, and those that the gate
finds by itself have an id.** -/
theorem gate_sound_iff (hpieces : extractPieces id steps = .ok pieces)
    (h : classifyConnectionRequirements live overrides fromPy schemas steps = .ok g) :
    GateSound pieces live g ↔
      OverridesFit pieces live overrides schemas ∧ FoundHaveIds pieces live overrides schemas := by
  obtain ⟨pieces', hpieces', h⟩ := bind_eq_ok_iff.1 h
  obtain rfl := Except.ok.inj (hpieces.symm.trans (fromPy_eq_ok_iff.1 hpieces'))
  obtain ⟨t, ht, h⟩ := bind_eq_ok_iff.1 h
  obtain ⟨lists, hlists, h⟩ := bind_eq_ok_iff.1 h
  obtain rfl := Except.ok.inj h
  have htables := fromPy_eq_ok_iff.1 ht
  have hstart : Classified live overrides schemas t [] ⟨[], [], []⟩ := by
    refine ⟨List.Perm.refl _, fun _ _ hv ↦ absurd hv (by simp),
      fun _ hp ↦ absurd hp List.not_mem_nil, ?_⟩
    rintro short conn - ⟨before, full, after, hsplit, -⟩
    exact absurd hsplit (by simp)
  have hdone := hstart.pieces hlists
  rw [List.nil_append] at hdone
  constructor
  · intro hsound
    refine ⟨fun p hp hrequires cid hactive ↦ ?_, fun short conn hno hlast ↦ ?_⟩
    · have hmem := mem_orderedPieces_iff.2 ⟨p, hp, rfl⟩
      exact hsound.connected _ _ (hdone.overridden _ hmem hrequires cid hactive)
    · have hentry := hdone.found short conn hno ((lastFound_orderedPieces_iff htables).2 hlast)
      obtain ⟨p, -, -, conn', -, -, htruthy, -⟩ := hsound.connected _ _ hentry
      exact htruthy
  · rintro ⟨hfit, hids⟩
    have hlength := hdone.listed.length_eq
    rw [List.length_map, List.length_map, List.length_append] at hlength
    refine ⟨?_, fun v ↦ ?_, rfl, rfl, hlength, ?_, fun short v hv ↦ ?_⟩
    · exact hdone.listed.nodup_iff.2 (nodup_orderedPieces.map fun _ _ h ↦ PyValue.str.inj h)
    · refine hdone.listed.mem_iff.trans ?_
      rw [List.mem_map]
      constructor
      · rintro ⟨full, hfull, rfl⟩
        obtain ⟨p, hp, rfl⟩ := mem_orderedPieces_iff.1 hfull
        exact ⟨p, hp, rfl⟩
      · rintro ⟨p, hp, rfl⟩
        exact ⟨_, mem_orderedPieces_iff.2 ⟨p, hp, rfl⟩, rfl⟩
    · show (if lists.blocked.isEmpty then text "READY" else text "PENDING_CONNECTIONS") = _ ↔ _
      split
      · rename_i hnil
        exact iff_of_true rfl (List.isEmpty_iff.1 hnil)
      · rename_i hne
        exact iff_of_false (by decide) fun hnil ↦ hne (List.isEmpty_iff.2 hnil)
    · rcases hdone.chosen short v hv with
        ⟨full, hfull, rfl, hrequires, cid, hactive, rfl⟩ | ⟨hno, conn, hlast, rfl⟩
      · obtain ⟨p, hp, rfl⟩ := mem_orderedPieces_iff.1 hfull
        exact hfit p hp hrequires cid hactive
      · have hlast' := (lastFound_orderedPieces_iff htables).1 hlast
        exact namesActive_of_lastFound hlast' (hids short conn hno hlast')

end Main

/-- A step that uses Gmail. -/
def gmailStep : PyValue := pyDict [("piece", py "gmail")]

/-- The schema of a piece that asks for authentication. -/
def oauthSchema : PyValue := pyDict [("auth", pyDict [("type", py "OAUTH2")])]

/-- An active connection. -/
def activeConnection (piece : String) (externalId : String) : PyValue :=
  pyDict [("pieceName", py piece), ("status", py "ACTIVE"), ("externalId", py externalId)]

theorem extractPieces_gmailStep :
    extractPieces id (.list [gmailStep]) = .ok [text "gmail"] := by
  rw [extractPieces]
  rfl

/-- The gate on one step that uses Gmail and asks for authentication. -/
theorem classify_gmailStep (live : List PyValue) (overrides : List (PyStr × PyStr))
    {t : ConnectionTables} {g : GateLists}
    (ht : live.foldlM ConnectionTables.sort ⟨[], []⟩ = .ok t)
    (hg : classifyPiece live overrides t (text "@activepieces/piece-gmail") oauthSchema
      ⟨[], [], []⟩ = .ok g) : ∃ gate, gate.connectionIds = g.connectionIds ∧
    classifyConnectionRequirements live overrides fromPy (fun _ ↦ .ok oauthSchema)
      (.list [gmailStep]) = .ok gate := by
  refine ⟨_, ?_, bind_eq_ok_iff.2 ⟨[text "gmail"], congrArg _ extractPieces_gmailStep,
    bind_eq_ok_iff.2 ⟨t, congrArg _ ht, bind_eq_ok_iff.2 ⟨g, ?_, rfl⟩⟩⟩⟩
  · rfl
  · exact bind_eq_ok_iff.2 ⟨oauthSchema, rfl, bind_eq_ok_iff.2 ⟨g, congrArg _ hg, rfl⟩⟩

/-- Where the request names no connection, the gate is sound. -/
theorem gate_sound_on_gmail : ∃ gate, classifyConnectionRequirements
    [activeConnection "@activepieces/piece-gmail" "conn-gmail"] [] fromPy
      (fun _ ↦ .ok oauthSchema) (.list [gmailStep]) = .ok gate ∧
    GateSound [text "gmail"] [activeConnection "@activepieces/piece-gmail" "conn-gmail"] gate := by
  obtain ⟨gate, -, hgate⟩ := classify_gmailStep
    [activeConnection "@activepieces/piece-gmail" "conn-gmail"] [] rfl rfl
  refine ⟨gate, hgate, (gate_sound_iff extractPieces_gmailStep hgate).2 ⟨?_, ?_⟩⟩
  · rintro p - - cid ⟨hlookup, -⟩
    exact absurd hlookup (by simp)
  · rintro short conn - ⟨before, full, after, -, -, -, hconn, -⟩
    obtain ⟨hmem, -⟩ := activeFor_of_firstActive hconn
    obtain rfl := List.mem_singleton.1 hmem
    decide

/-- **The gate hands on a Slack connection for Gmail**, if the request names it. -/
theorem foreign_override_accepted : ∃ gate, classifyConnectionRequirements
    [activeConnection "@activepieces/piece-slack" "conn-slack"] [(text "gmail", text "conn-slack")]
      fromPy (fun _ ↦ .ok oauthSchema) (.list [gmailStep]) = .ok gate ∧
    ¬ GateSound [text "gmail"] [activeConnection "@activepieces/piece-slack" "conn-slack"]
      gate := by
  obtain ⟨gate, hids, hgate⟩ := classify_gmailStep
    [activeConnection "@activepieces/piece-slack" "conn-slack"]
    [(text "gmail", text "conn-slack")] rfl rfl
  refine ⟨gate, hgate, fun hsound ↦ ?_⟩
  have hentry : gate.connectionIds.lookup (text "gmail") = some (py "conn-slack") := by
    rw [hids]
    rfl
  obtain ⟨p, hp, -, conn, hconn, ⟨-, hname⟩, -⟩ := hsound.connected _ _ hentry
  obtain rfl := List.mem_singleton.1 hp
  obtain rfl := List.mem_singleton.1 hconn
  exact absurd (PyValue.str.inj hname) (by decide)

end Siyadah
