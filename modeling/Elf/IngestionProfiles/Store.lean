import Elf.Lib.Serde
import Elf.Service.EventMessages
import Elf.Lib.JobQueue
import Elf.Lib.Rows
import Elf.Lib.Run
import Elf.Storage.Models

/-!
This module contains the profiles of the extraction of events: how a stored profile is read, how it is
resolved with the built-in one, the versions of profiles and which of them is the default of a project. A
request is a sequence of statements, and the statements of the requests of all clients are executed in
any order.
-/

namespace Elf

@[ext]
structure IngestionProfileV1 where
  schemaVersion : ℤ
  promptSchema : Option SpelledJson
  promptSystemTemplate : Option String
  promptUserTemplate : Option String
  model : Option String
  temperature : Option F32
  timeoutMs : Option ℤ

namespace IngestionProfileV1

def defaultSchemaVersion : ℤ := 1

/-! ## The derived implementation -/

def ofMap (object : SpelledJson) : Option IngestionProfileV1 := do
  let schemaVersion ← Serde.field object "schema_version" Serde.i32 (some defaultSchemaVersion)
  let promptSchema ← Serde.optionalField object "prompt_schema" Serde.value
  let promptSystemTemplate ← Serde.optionalField object "prompt_system_template" Serde.string
  let promptUserTemplate ← Serde.optionalField object "prompt_user_template" Serde.string
  let model ← Serde.optionalField object "model" Serde.string
  let temperature ← Serde.optionalField object "temperature" Serde.f32
  let timeoutMs ← Serde.optionalField object "timeout_ms" Serde.u64
  return {
    schemaVersion
    promptSchema
    promptSystemTemplate
    promptUserTemplate
    model
    temperature
    timeoutMs }

/--
A sequence is taken for the fields in their order. Only the first one has a default, so that none of
the others may be missing.
-/
def ofSeq : List SpelledJson → Option IngestionProfileV1
  | [schemaVersion, promptSchema, promptSystemTemplate, promptUserTemplate, model, temperature,
      timeoutMs] => do
    let schemaVersion ← Serde.i32 schemaVersion
    let promptSchema ← Serde.option Serde.value promptSchema
    let promptSystemTemplate ← Serde.option Serde.string promptSystemTemplate
    let promptUserTemplate ← Serde.option Serde.string promptUserTemplate
    let model ← Serde.option Serde.string model
    let temperature ← Serde.option Serde.f32 temperature
    let timeoutMs ← Serde.option Serde.u64 timeoutMs
    return {
      schemaVersion
      promptSchema
      promptSystemTemplate
      promptUserTemplate
      model
      temperature
      timeoutMs }
  | _ => none

def ofValue : SpelledJson → Option IngestionProfileV1
  | .obj entries => ofMap (.obj entries)
  | .arr items => ofSeq items
  | _ => none

def toValue (profile : IngestionProfileV1) : SpelledJson := .obj [
  ("model", Serde.encodeOption .str profile.model),
  ("prompt_schema", Serde.encodeOption id profile.promptSchema),
  ("prompt_system_template", Serde.encodeOption .str profile.promptSystemTemplate),
  ("prompt_user_template", Serde.encodeOption .str profile.promptUserTemplate),
  ("schema_version", Serde.encodeInt profile.schemaVersion),
  ("temperature", Serde.encodeOption Serde.encodeF32 profile.temperature),
  ("timeout_ms", Serde.encodeOption Serde.encodeInt profile.timeoutMs)]

end IngestionProfileV1

/-! ## Profiles -/

/-- A profile that consists of a prompt schema. -/
def schemaProfile (promptSchema : SpelledJson) : IngestionProfileV1 := {
  schemaVersion := 1
  promptSchema := some promptSchema
  promptSystemTemplate := none
  promptUserTemplate := none
  model := none
  temperature := none
  timeoutMs := none }

def unsupportedProfile : Error := .invalidRequest "Ingestion profile JSON has unsupported format."

def parseProfile (profile : SpelledJson) : Except Error IngestionProfileV1 :=
  match IngestionProfileV1.ofValue profile with
  | some parsed => .ok parsed
  | none =>
    if profile.isObject then
      .ok (schemaProfile profile)
    else
      .error unsupportedProfile

def builtinSystemTemplate : String :=
  "You are a memory extraction engine for an agent memory system. Output must be valid "
    ++ "JSON only and must match the provided schema exactly. Extract high-signal, "
    ++ "cross-session reusable claims from the given messages. Keep independently "
    ++ "changeable rules in separate notes; do not combine unrelated claims to meet a note "
    ++ "count or shorten away a condition. Make each note a concise, complete fact or "
    ++ "decision that is understandable and retrievable without the surrounding "
    ++ "conversation. Preserve the explicit subject, project or system, and identifiers "
    ++ "that distinguish it from similar facts. Keep applicable times, conditions, and "
    ++ "exceptions with the claim they qualify; do not remove them to shorten the note. "
    ++ "Resolve pronouns only from the supplied messages; do not invent missing context. "
    ++ "Keep a recovery action together with its incident, affected system, and outcome "
    ++ "when the input connects them. An optional key is only a descriptive hint, not "
    ++ "authority to replace an existing memory. Include its subject and use null when the "
    ++ "identity is uncertain. Prefer concise English summaries, but preserve original "
    ++ "names, identifiers, and quoted evidence in their source language. Never translate "
    ++ "evidence quotes. The structured field is optional. If present, summary must be "
    ++ "short, facts must be verbatim substrings of note text or evidence quotes, and "
    ++ "concepts must be short phrases. For each relation, subject is directly an entity "
    ++ "object with canonical, kind, and aliases; never wrap subject in another entity "
    ++ "field. The object provides exactly one non-null entity or value. Subject and object "
    ++ "must occur verbatim in a source evidence quote. Include evidence_quote for every "
    ++ "relation: copy a source passage containing both endpoints. Predicates may be "
    ++ "concise normalized relationship labels; they are candidate interpretations, not "
    ++ "certified facts. Omit relations without direct source support. Prefer an explicit "
    ++ "source identifier as canonical when names are shared across projects or people. "
    ++ "Keep each note subject and scope explicit, including account or division "
    ++ "identifiers when present. Never treat a missing appointment as an unassigned role; "
    ++ "preserve explicit negatives, unresolved contradictions, and future proposals. Keep "
    ++ "a named entity canonical consistent across notes. Use explicit source-backed "
    ++ "alternate names as aliases, not separate entities. Use entity objects for linkable "
    ++ "identifiers such as systems, incidents, and procedures; scalar values are for "
    ++ "literals. Extract each explicitly stated step of a relation chain, but do not "
    ++ "invent missing edges or infer equivalence merely from co-occurrence. Set relation "
    ++ "valid_from/valid_to only when the source establishes effective dates. Distinguish "
    ++ "approval dates, event dates, and observation dates; leave unknown validity null "
    ++ "rather than using the message or ingestion timestamp. Preserve numbers, dates, "
    ++ "percentages, currency amounts, tickers, URLs, and code snippets exactly. Never "
    ++ "store secrets or PII: API keys, tokens, private keys, seed phrases, passwords, bank "
    ++ "IDs, personal addresses. For every note, select supporting evidence_spans supplied "
    ++ "with each message: output message_index, span_id and optionally inclusive "
    ++ "end_span_id to select contiguous spans from that message. Select every range needed "
    ++ "to support the subject, applicable time, conditions and exceptions; a range can "
    ++ "span multiple fragments. The server fills the exact original quote; do not copy or "
    ++ "rewrite its text. Select the fewest spans that support the claim, including its "
    ++ "subject and effective time where stated. Legacy quote objects are accepted only "
    ++ "when copied exactly, including whitespace. Keep the complete claim; the server "
    ++ "reports candidates left unprocessed by the overall request budget. Never assume "
    ++ "that successful source binding certifies semantic coverage. If no supplied evidence "
    ++ "span supports a claim, omit the note. If content is ephemeral or not useful "
    ++ "long-term, return an empty notes array."

def builtinUserTemplate : String :=
  "Return an instance matching this JSON Schema:\n\x7bSCHEMA\x7d\nHere are the messages as JSON:\n"
    ++ "\x7bMESSAGES_JSON\x7d"

section

-- The schema that is derived from the type of the output of the extractor.
variable (extractionSchema : SpelledJson)

def builtinProfile : IngestionProfileV1 := {
  schemaVersion := 1
  promptSchema := some extractionSchema
  promptSystemTemplate := some builtinSystemTemplate
  promptUserTemplate := some builtinUserTemplate
  model := none
  temperature := none
  timeoutMs := none }

def IngestionProfileV1.withDefaults (profile : IngestionProfileV1) : IngestionProfileV1 :=
  let merged := builtinProfile extractionSchema
  { schemaVersion :=
      if profile.schemaVersion ≠ 0 then profile.schemaVersion else merged.schemaVersion
    promptSchema := profile.promptSchema.or merged.promptSchema
    promptSystemTemplate := profile.promptSystemTemplate.or merged.promptSystemTemplate
    promptUserTemplate := profile.promptUserTemplate.or merged.promptUserTemplate
    model := profile.model.or merged.model
    temperature := profile.temperature.or merged.temperature
    timeoutMs := profile.timeoutMs.or merged.timeoutMs }

end

/-! ## Resolution -/

/-- A stored version of a profile. -/
structure ProfileMetadataRow where
  profileId : String
  version : ℤ
  profile : SpelledJson

structure ResolvedIngestionProfile where
  profileRef : IngestionProfileRef
  promptSchema : SpelledJson
  promptSystem : String
  promptUserTemplate : String
  model : Option String
  temperature : Option F32
  timeoutMs : Option ℤ

/-- The profile that a merged one is resolved to. -/
def IngestionProfileV1.resolve (merged : IngestionProfileV1) (profileRef : IngestionProfileRef)
    : Except Error ResolvedIngestionProfile := do
  Except.rejectIf (merged.schemaVersion ≠ 1)
    (.invalidRequest "Unsupported ingestion profile schema version.")
  let promptSchema ← Except.ofOption
    (.invalidRequest "Missing prompt schema in ingestion profile.") merged.promptSchema
  let promptSystem ← Except.ofOption
    (.invalidRequest "Missing system prompt template in ingestion profile.")
    merged.promptSystemTemplate
  let promptUserTemplate ← Except.ofOption
    (.invalidRequest "Missing user prompt template in ingestion profile.") merged.promptUserTemplate
  return {
    profileRef
    promptSchema
    promptSystem
    promptUserTemplate
    model := merged.model
    temperature := merged.temperature
    timeoutMs := merged.timeoutMs }

/-- How the profile of an event is resolved, once its row is selected. -/
def resolveAddEventProfile (extractionSchema : SpelledJson) (row : ProfileMetadataRow)
    : Except Error ResolvedIngestionProfile := do
  let parsed ← parseProfile row.profile
  (parsed.withDefaults extractionSchema).resolve ⟨row.profileId, row.version⟩

/-! ## Versions -/

open Except OrderBy

/-! ## Tables -/

structure IngestionProfileKey where
  tenantId : String
  projectId : String
  profileId : String
  version : ℤ
deriving DecidableEq

/-- A row of `memory_ingestion_profiles`. -/
structure IngestionProfileRow where
  tenantId : String
  projectId : String
  profileId : String
  version : ℤ
  profile : SpelledJson
  createdAt : Nat
  createdBy : String

def IngestionProfileRow.key (row : IngestionProfileRow) : IngestionProfileKey :=
  ⟨row.tenantId, row.projectId, row.profileId, row.version⟩

/-- A row of `memory_ingestion_profile_defaults`. -/
structure ProfileDefaultRow where
  tenantId : String
  projectId : String
  profileId : String
  version : Option ℤ
  updatedAt : Nat

def ProfileDefaultRow.key (row : ProfileDefaultRow) : String × String := (row.tenantId, row.projectId)

structure ProfileDb where
  profiles : Table IngestionProfileRow IngestionProfileRow.key
  defaults : Table ProfileDefaultRow ProfileDefaultRow.key

def ProfileDb.empty : ProfileDb := ⟨.empty, .empty⟩

def addEventPipeline : String := "add_event"

def defaultProfileId : String := "default"

def defaultProfileVersion : ℤ := 8

variable (extractionSchema : SpelledJson)

/-! ## Statements -/

/-- The versions of a profile. -/
def ProfileDb.versionsOf (db : ProfileDb) (tenantId projectId profileId : String)
    : List IngestionProfileRow :=
  db.profiles.rows.filter fun row =>
    row.tenantId = tenantId && row.projectId = projectId && row.profileId = profileId

/-- The greatest version, or zero. -/
def maxVersion (rows : List IngestionProfileRow) : ℤ :=
  rows.foldl (fun version row => max version row.version) 0

/-- `COALESCE(MAX(version), 0) + 1`, which must be an integer of 32 bits. -/
def nextProfileVersion (db : ProfileDb) (tenantId projectId profileId : String) : Except Error ℤ := do
  let version := maxVersion (db.versionsOf tenantId projectId profileId) + 1
  rejectIf (version > 2147483647) (.storage "integer out of range")
  return version

def seedDefaultProfile (now : Nat) (tenantId projectId : String) (db : ProfileDb) : ProfileDb :=
  { db with profiles := db.profiles.insertNew {
      tenantId
      projectId
      profileId := defaultProfileId
      version := defaultProfileVersion
      profile := (builtinProfile extractionSchema).toValue
      createdAt := timestamptz now
      createdBy := "system" } }

def seedDefaultPointer (now : Nat) (tenantId projectId : String) (db : ProfileDb) : ProfileDb :=
  { db with defaults := db.defaults.insertNew {
      tenantId
      projectId
      profileId := defaultProfileId
      version := some defaultProfileVersion
      updatedAt := timestamptz now } }

def selectDefaultRow (db : ProfileDb) (tenantId projectId : String) : Option ProfileDefaultRow :=
  db.defaults.find? (tenantId, projectId)

def selectDefaultSelector (db : ProfileDb) (tenantId projectId : String) : IngestionProfileSelector :=
  match selectDefaultRow db tenantId projectId with
  | some row => ⟨row.profileId, row.version⟩
  | none => ⟨defaultProfileId, some defaultProfileVersion⟩

def upsertDefaultRow (now : Nat) (tenantId projectId profileId : String) (version : ℤ) (db : ProfileDb)
    : ProfileDefaultRow × ProfileDb :=
  let row := {
    tenantId
    projectId
    profileId
    version := some version
    updatedAt := timestamptz now }
  match db.defaults.insert? row with
  | some defaults => (row, { db with defaults })
  | none => (row, { db with defaults := db.defaults.modify (tenantId, projectId) fun row => { row with
      profileId
      version := some version
      updatedAt := timestamptz now } })

/-- The version that a selector names, or the latest one of the profile. -/
def selectProfile (db : ProfileDb) (tenantId projectId : String) (selector : IngestionProfileSelector)
    : Except Error IngestionProfileRow :=
  let row := match selector.version with
    | some version => db.profiles.find? ⟨tenantId, projectId, selector.id, version⟩
    | none => (orderBy (fun row => OrderDual.toDual row.version)
        (db.versionsOf tenantId projectId selector.id)).head?
  ofOption (.invalidRequest ("Ingestion profile '" ++ selector.id ++ "' not found for tenant '" ++ tenantId
    ++ "' project '" ++ projectId ++ "' pipeline '" ++ addEventPipeline ++ "'.")) row

/-! ## Requests -/

structure AdminIngestionProfileCreateRequest where
  tenantId : String
  projectId : String
  profileId : String
  version : Option ℤ
  profile : SpelledJson
  createdBy : String

structure AdminIngestionProfileDefaultSetRequest where
  tenantId : String
  projectId : String
  profileId : String
  version : Option ℤ

inductive ProfileRequest where
  | create (req : AdminIngestionProfileCreateRequest)
  | defaultSet (req : AdminIngestionProfileDefaultSetRequest)
  | defaultGet (tenantId projectId : String)
  /-- An event is extracted under the profile that it names, or under the default. -/
  | resolve (tenantId projectId : String) (selector : Option IngestionProfileSelector)

/-- What is left to be done of a request: the statement that is next, and what it is given. -/
inductive ProfileCall where
  | insertProfile (tenantId projectId profileId : String) (version : ℤ) (profile : SpelledJson)
    (createdBy : String)
  | upsertDefault (tenantId projectId profileId : String) (version : ℤ)
  | seedDefault (tenantId projectId : String) (resolving : Option (Option IngestionProfileSelector))
  | selectDefault (tenantId projectId : String)
  | selectFallback (tenantId projectId : String)
  | selectSelector (tenantId projectId : String)
  | selectProfile (tenantId projectId : String) (requested : Option IngestionProfileSelector)
    (selector : IngestionProfileSelector)

inductive ProfileReply where
  | created (row : IngestionProfileRow)
  | default (profileId : String) (version : Option ℤ) (updatedAt : Nat)
  | resolved (profile : ResolvedIngestionProfile)
  | failed (err : Error)

def AdminIngestionProfileCreateRequest.check (req : AdminIngestionProfileCreateRequest)
    : Except Error Unit := do
  rejectIf (Text.trim req.profileId).isEmpty (.invalidRequest "profile_id must be non-empty.")
  rejectIf (Text.trim req.createdBy).isEmpty (.invalidRequest "created_by must be non-empty.")
  rejectIf (!req.profile.isObject) (.invalidRequest "profile must be a JSON object.")
  let _ ← parseProfile req.profile
  rejectIf (req.version.any (· ≤ 0)) (.invalidRequest "version must be greater than 0.")

def AdminIngestionProfileCreateRequest.start (req : AdminIngestionProfileCreateRequest) (db : ProfileDb)
    : Except Error ProfileCall := do
  req.check
  let profileId := Text.trim req.profileId
  let version ← match req.version with
    | some version => pure version
    | none => nextProfileVersion db req.tenantId req.projectId profileId
  return .insertProfile req.tenantId req.projectId profileId version req.profile (Text.trim req.createdBy)

def AdminIngestionProfileDefaultSetRequest.start (req : AdminIngestionProfileDefaultSetRequest)
    (db : ProfileDb) : Except Error ProfileCall := do
  let profileId := Text.trim req.profileId
  rejectIf profileId.isEmpty (.invalidRequest "profile_id must be non-empty.")
  rejectIf (req.version.any (· ≤ 0)) (.invalidRequest "version must be greater than 0.")
  let row ← selectProfile db req.tenantId req.projectId ⟨profileId, req.version⟩
  return .upsertDefault req.tenantId req.projectId row.profileId row.version

/-- The checks of a request and its first statement. -/
def ProfileRequest.start (now : Nat) (db : ProfileDb) : ProfileRequest → Except Error ProfileCall × ProfileDb
  | .create req => (req.start db, db)
  | .defaultSet req => (req.start db, db)
  | .defaultGet tenantId projectId =>
    (.ok (.seedDefault tenantId projectId none),
      seedDefaultProfile extractionSchema now tenantId projectId db)
  | .resolve tenantId projectId selector =>
    (.ok (.seedDefault tenantId projectId (some selector)),
      seedDefaultProfile extractionSchema now tenantId projectId db)

def profileConflict (row : IngestionProfileRow) : Error :=
  .conflict ("Ingestion profile '" ++ row.profileId ++ "' version " ++ toString row.version
    ++ " already exists for tenant '" ++ row.tenantId ++ "' project '" ++ row.projectId ++ "' pipeline '"
    ++ addEventPipeline ++ "'.")

/-- The profile that a row is resolved to. -/
def IngestionProfileRow.resolve (row : IngestionProfileRow) : ProfileReply :=
  match resolveAddEventProfile extractionSchema ⟨row.profileId, row.version, row.profile⟩ with
  | .ok resolved => .resolved resolved
  | .error err => .failed err

/-- The next statement of a request, and what is then left of it or what it replies. -/
def ProfileCall.next (now : Nat) (db : ProfileDb) : ProfileCall → (ProfileCall ⊕ ProfileReply) × ProfileDb
  | .insertProfile tenantId projectId profileId version profile createdBy =>
    let row := ⟨tenantId, projectId, profileId, version, profile, timestamptz now, createdBy⟩
    match db.profiles.insert? row with
    | some profiles => (.inr (.created row), { db with profiles })
    | none => (.inr (.failed (profileConflict row)), db)
  | .upsertDefault tenantId projectId profileId version =>
    let (row, db) := upsertDefaultRow now tenantId projectId profileId version db
    (.inr (.default row.profileId row.version row.updatedAt), db)
  | .seedDefault tenantId projectId resolving =>
    let call := match resolving with
      | none => .selectDefault tenantId projectId
      | some none => .selectSelector tenantId projectId
      | some (some selector) => .selectProfile tenantId projectId (some selector) selector
    (.inl call, seedDefaultPointer now tenantId projectId db)
  | .selectDefault tenantId projectId =>
    match selectDefaultRow db tenantId projectId with
    | some row => (.inr (.default row.profileId row.version row.updatedAt), db)
    | none => (.inl (.selectFallback tenantId projectId), db)
  | .selectFallback tenantId projectId =>
    let selector := selectDefaultSelector db tenantId projectId
    (.inr (.default selector.id selector.version now), db)
  | .selectSelector tenantId projectId =>
    (.inl (.selectProfile tenantId projectId none (selectDefaultSelector db tenantId projectId)), db)
  | .selectProfile tenantId projectId _ selector =>
    match Elf.selectProfile db tenantId projectId selector with
    | .ok row => (.inr (row.resolve extractionSchema), db)
    | .error err => (.inr (.failed err), db)

/-! ## Steps -/

/-- The tables, and what is left to be done for each client. -/
structure ProfileServer where
  db : ProfileDb
  calls : Attempts ProfileCall

def ProfileServer.empty : ProfileServer := ⟨.empty, fun _ => none⟩

inductive ProfileAction where
  | start (client now : Nat) (req : ProfileRequest)
  | next (client now : Nat)
  /-- The client goes away, and the rest of its request is not executed. -/
  | leave (client : Nat)

/-- The state after a step, and the reply to the client if its request is done. -/
def ProfileServer.step (s : ProfileServer) : ProfileAction → Option (ProfileServer × Option ProfileReply)
  | .start client now req => do
    guard (s.calls client).isNone
    match req.start extractionSchema now s.db with
    | (.ok call, db) => some ({ db, calls := s.calls.set client (some call) }, none)
    | (.error err, db) => some ({ s with db }, some (.failed err))
  | .next client now => do
    let call ← s.calls client
    match call.next extractionSchema now s.db with
    | (.inl call, db) => some ({ db, calls := s.calls.set client (some call) }, none)
    | (.inr reply, db) => some ({ db, calls := s.calls.set client none }, some reply)
  | .leave client => some ({ s with calls := s.calls.set client none }, none)

def ProfileSteps (s : ProfileServer) (a : ProfileAction) (t : ProfileServer) : Prop :=
  ∃ reply, s.step extractionSchema a = some (t, reply)

/-! ## Lists -/

structure AdminIngestionProfileSummary where
  profileId : String
  version : ℤ
  createdAt : Nat
  createdBy : String

def IngestionProfileRow.summary (row : IngestionProfileRow) : AdminIngestionProfileSummary :=
  ⟨row.profileId, row.version, row.createdAt, row.createdBy⟩

/-- The rows of the versions of a profile, the latest first. -/
def listProfileVersionSummaries (db : ProfileDb) (tenantId projectId profileId : String)
    : List IngestionProfileRow :=
  orderBy (fun row => OrderDual.toDual row.version) (db.versionsOf tenantId projectId profileId)

def adminIngestionProfileVersionsList (db : ProfileDb) (tenantId projectId profileId : String)
    : Except Error (List AdminIngestionProfileSummary) := do
  let profileId := Text.trim profileId
  rejectIf profileId.isEmpty (.invalidRequest "profile_id must be non-empty.")
  return (listProfileVersionSummaries db tenantId projectId profileId).map IngestionProfileRow.summary

end Elf
