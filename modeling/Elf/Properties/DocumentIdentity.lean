import Elf.Docs.Lemmas

/-!
This module contains what identifies a document. Its identifier is derived from its owner, its scope,
its source and its content, so that none of them changes under an identifier and no two documents share
one, but for the numbers of a revision that the identity leaves out.
-/

namespace Elf

open Text

variable {svc : DocsService} {db db' : DocStore} {doc row : DocDocument}

/-! ## Sources -/

/-- The number of a revision, as the checks of a source reference take it. -/
def sourceRevisionNumber (sourceRef : Json) (key : String) : Option ℤ :=
  (sourceRef.get key).bind fun value => value.asI64.or value.asU64

/-- Where a source is found. -/
inductive SourceLocator where
  | canonicalUri (uri : String)
  | chat (threadId messageId role ts : Option String)
  | search (url domain query ts : Option String)
  | dev (repo path commitSha : Option String) (prNumber issueNumber : Option ℤ)
  | knowledge (uri ts : Option String)
deriving DecidableEq

def sourceLocator (sourceRef : Json) (docType : DocType) : SourceLocator :=
  match sourceRefString sourceRef "canonical_uri" with
  | some uri => .canonicalUri uri
  | none =>
    match docType with
    | .chat => .chat (sourceRefString sourceRef "thread_id") (sourceRefString sourceRef "message_id")
        (sourceRefString sourceRef "role") (sourceRefString sourceRef "ts")
    | .search => .search (sourceRefString sourceRef "url") (sourceRefString sourceRef "domain")
        (sourceRefString sourceRef "query") (sourceRefString sourceRef "ts")
    | .dev => .dev (sourceRefString sourceRef "repo") (sourceRefString sourceRef "path")
        (sourceRefString sourceRef "commit_sha") (sourceRevisionNumber sourceRef "pr_number")
        (sourceRevisionNumber sourceRef "issue_number")
    | .knowledge => .knowledge (sourceRefString sourceRef "uri") (sourceRefString sourceRef "ts")

def fitsI64 (n : ℤ) : Bool := -2 ^ 63 ≤ n && n < 2 ^ 63

namespace SourceLocator

/-- The numbers of the revision are 64-bit integers. -/
def Fits : SourceLocator → Prop
  | .dev _ _ _ prNumber issueNumber =>
    (∀ n ∈ prNumber, fitsI64 n = true) ∧ ∀ n ∈ issueNumber, fitsI64 n = true
  | _ => True

/-- What the identity of a document keeps of a source. -/
def value : SourceLocator → Json
  | .canonicalUri uri => .arr [.str "canonical_uri", .str uri]
  | .chat threadId messageId role ts => .arr [.str "chat", .ofOption .str threadId,
      .ofOption .str messageId, .ofOption .str role, .ofOption .str ts]
  | .search url domain query ts => .arr [.str "search", .ofOption .str url, .ofOption .str domain,
      .ofOption .str query, .ofOption .str ts]
  | .dev repo path commitSha prNumber issueNumber => .arr [.str "dev", .ofOption .str repo,
      .ofOption .str path, .ofOption .str commitSha, .ofOption intJson (prNumber.filter fitsI64),
      .ofOption intJson (issueNumber.filter fitsI64)]
  | .knowledge uri ts => .arr [.str "knowledge", .ofOption .str uri, .ofOption .str ts]

end SourceLocator

theorem ofOption_inj {f : α → Json} (hf : ∀ a b, f a = f b → a = b) (hnull : ∀ a, f a ≠ .null)
    {x y : Option α} (h : Json.ofOption f x = Json.ofOption f y) : x = y := by
  cases x with
  | none =>
    cases y with
    | none => rfl
    | some b => exact (hnull b h.symm).elim
  | some a =>
    cases y with
    | none => exact (hnull a h).elim
    | some b => rw [hf a b h]

theorem ofOption_str_inj {x y : Option String} (h : Json.ofOption .str x = Json.ofOption .str y)
    : x = y := by
  apply ofOption_inj _ _ h
  . intro a b hab
    simpa using hab
  . intro a ha
    cases ha

theorem ofOption_intJson_inj {x y : Option ℤ}
    (h : Json.ofOption intJson x = Json.ofOption intJson y) : x = y := by
  apply ofOption_inj _ _ h
  . intro a b hab
    simpa [intJson] using hab
  . intro a ha
    cases ha

theorem filter_fits {x : Option ℤ} (h : ∀ n ∈ x, fitsI64 n = true) : x.filter fitsI64 = x := by
  cases x with
  | none => rfl
  | some n => rw [Option.filter_some, if_pos (h n rfl)]

theorem sourceRefI64_eq (sourceRef : Json) (key : String)
    : sourceRefI64 sourceRef key = (sourceRevisionNumber sourceRef key).filter fitsI64 := by
  unfold sourceRefI64 sourceRevisionNumber
  cases sourceRef.get key with
  | none => rfl
  | some value =>
    have hi64 : value.asI64 = value.asInt.filter fitsI64 := rfl
    simp only [Option.bind_some, Json.asU64, hi64]
    cases value.asInt with
    | none => rfl
    | some n =>
      by_cases hn : fitsI64 n = true
      . simp [Option.filter_some, hn]
      . rw [Option.filter_some, if_neg hn, Option.none_or, Option.filter_some]
        split
        . rw [Option.filter_some, if_neg hn]
        . rfl

theorem sourceIdentityValue_eq (sourceRef : Json) (docType : DocType)
    : sourceIdentityValue sourceRef docType = (sourceLocator sourceRef docType).value := by
  unfold sourceIdentityValue sourceLocator
  dsimp only
  cases sourceRefString sourceRef "canonical_uri" with
  | some uri => rfl
  | none =>
    cases docType with
    | chat => rfl
    | search => rfl
    | dev =>
      rw [sourceRefI64_eq, sourceRefI64_eq]
      rfl
    | knowledge => rfl

/-- Two sources whose numbers fit are told apart by what the identity keeps of them. -/
theorem SourceLocator.value_inj {a b : SourceLocator} (ha : a.Fits) (hb : b.Fits)
    (h : a.value = b.value) : a = b := by
  cases a <;> cases b <;> simp [value] at h
  . rw [h]
  . rw [ofOption_str_inj h.1, ofOption_str_inj h.2.1, ofOption_str_inj h.2.2.1,
      ofOption_str_inj h.2.2.2]
  . rw [ofOption_str_inj h.1, ofOption_str_inj h.2.1, ofOption_str_inj h.2.2.1,
      ofOption_str_inj h.2.2.2]
  . have hpr := ofOption_intJson_inj h.2.2.2.1
    have hissue := ofOption_intJson_inj h.2.2.2.2
    rw [filter_fits ha.1, filter_fits hb.1] at hpr
    rw [filter_fits ha.2, filter_fits hb.2] at hissue
    rw [ofOption_str_inj h.1, ofOption_str_inj h.2.1, ofOption_str_inj h.2.2.1, hpr, hissue]
  . rw [ofOption_str_inj h.1, ofOption_str_inj h.2]

/-! ## What is stored under an identifier -/

/-- What an identifier is derived from, and the content itself. -/
structure DocSource where
  tenantId : String
  projectId : String
  agentId : String
  scope : String
  docType : DocType
  locator : SourceLocator
  contentHash : String
  content : String
deriving DecidableEq

def DocDocument.sourceAs (doc : DocDocument) (docType : DocType) : DocSource :=
  ⟨doc.tenantId, doc.projectId, doc.agentId, doc.scope, docType,
    sourceLocator doc.sourceRef docType, doc.contentHash, doc.content⟩

/-- What a document stores of its owner, its scope, its source and its content. -/
def DocDocument.source (doc : DocDocument) : Option DocSource :=
  (DocType.parse doc.docType).toOption.map doc.sourceAs

def DocsPutRequest.sourceAs (svc : DocsService) (req : DocsPutRequest) (docType : DocType)
    : DocSource :=
  ⟨req.tenantId, req.effectiveProjectId, req.agentId, req.scope, docType,
    sourceLocator req.sourceRef docType, svc.blake3 req.content, req.content⟩

/-- What a request asks to be stored. -/
def DocsPutRequest.source (svc : DocsService) (req : DocsPutRequest) : Option DocSource :=
  (sourceRefDocType req.sourceRef).map (req.sourceAs svc)

/-- The numbers of the revision that a put refers to are 64-bit integers. -/
def DocOp.Fits : DocOp → Prop
  | .put req => ∀ docType ∈ sourceRefDocType req.sourceRef, (sourceLocator req.sourceRef docType).Fits
  | .delete _ => True

theorem parse_asStr (docType : DocType) : DocType.parse docType.asStr = .ok docType := by
  cases docType with
  | knowledge => rfl
  | chat => rfl
  | search => rfl
  | dev => rfl

theorem DocDocument.Sound.source_eq {type : DocType} (h : doc.Sound svc type)
    : doc.source = some (doc.sourceAs type) := by
  unfold DocDocument.source
  rw [h.type, parse_asStr]
  rfl

theorem sourceLocator_congr {a b : Json} (docType : DocType)
    (h : ∀ key ∈ identityKeys, a.get key = b.get key)
    : sourceLocator a docType = sourceLocator b docType := by
  have hstring (key : String) (hkey : key ∈ identityKeys) := sourceRefString_congr (h key hkey)
  unfold sourceLocator sourceRevisionNumber
  rw [hstring "canonical_uri" (by decide), hstring "thread_id" (by decide),
    hstring "message_id" (by decide), hstring "role" (by decide), hstring "ts" (by decide),
    hstring "url" (by decide), hstring "domain" (by decide), hstring "query" (by decide),
    hstring "repo" (by decide), hstring "path" (by decide), hstring "commit_sha" (by decide),
    hstring "uri" (by decide), h "pr_number" (by decide), h "issue_number" (by decide)]

/-- The identifiers of two documents tell apart what they are derived from. -/
theorem sourceRecordIdFor_inj (huuid : ∀ ns, Function.Injective (svc.uuidV5 ns))
    (h : sourceRecordIdFor svc t p a s docType sourceRef digest
      = sourceRecordIdFor svc t' p' a' s' docType' sourceRef' digest')
    : t = t' ∧ p = p' ∧ a = a' ∧ s = s' ∧ docType = docType'
      ∧ (sourceLocator sourceRef docType).value = (sourceLocator sourceRef' docType').value
      ∧ digest = digest' := by
  have hname := Json.compact_inj (String.ofList_injective (huuid .url h))
  unfold sourceRecordName at hname
  rw [sourceIdentityValue_eq, sourceIdentityValue_eq] at hname
  simp only [Json.arr.injEq, List.cons.injEq, Json.str.injEq, and_true, true_and] at hname
  rcases hname with ⟨ht, hp, ha, hs, htype, hlocator, hhash⟩
  exact ⟨ht, hp, ha, hs, DocType.asStr_inj htype, hlocator, hhash⟩

/-- The numbers of every stored revision are 64-bit integers. -/
def DocStore.Located (db : DocStore) : Prop :=
  ∀ docId doc, db.documents.find? docId = some doc → ∀ source ∈ doc.source, source.locator.Fits

/-- Every document is still there, derived from the same. -/
def DocStore.Keeps (db db' : DocStore) : Prop :=
  ∀ docId doc, db.documents.find? docId = some doc →
    ∃ doc', db'.documents.find? docId = some doc' ∧ doc'.source = doc.source

theorem DocStore.Keeps.refl (db : DocStore) : db.Keeps db := by
  intro docId doc hfind
  exact ⟨doc, hfind, rfl⟩

theorem DocStore.Keeps.trans {db₁ db₂ db₃ : DocStore} (h : db₁.Keeps db₂) (h' : db₂.Keeps db₃)
    : db₁.Keeps db₃ := by
  intro docId doc hfind
  rcases h docId doc hfind with ⟨doc₂, hfind₂, hsource₂⟩
  rcases h' docId doc₂ hfind₂ with ⟨doc₃, hfind₃, hsource₃⟩
  exact ⟨doc₃, hfind₃, hsource₃.trans hsource₂⟩

namespace DocPut

variable {pieces : List ByteChunk} {type : DocType}

/-- The row that a put prepares is what the request asks for. -/
theorem doc_source (h : DocPut svc db db' req now type pieces doc row)
    : doc.sourceAs type = req.sourceAs svc type := by
  rcases h.prepared with ⟨rows, hprepared, rfl⟩
  rcases hprepared.sourceRef with ⟨capture, hsource⟩
  have hlocator := sourceLocator_congr type fun key hkey =>
    get_normalizeSourceRef req.sourceRef capture key (identityKeys_not_captured hkey)
  unfold DocDocument.sourceAs DocsPutRequest.sourceAs
  rw [hprepared.owner.1, hprepared.owner.2.1, hprepared.owner.2.2, hprepared.scope, hsource,
    hlocator, hprepared.contentHash, hprepared.content]

theorem row_source (h : DocPut svc db db' req now type pieces doc row)
    : row.source = some (req.sourceAs svc type) := by
  rw [h.row_sound.source_eq, ← h.doc_source]
  rcases h.row_same with ⟨hcontent, hhash, htenant, hproject, hagent, hscope, -, hsource, -⟩
  unfold DocDocument.sourceAs
  rw [hcontent, hhash, htenant, hproject, hagent, hscope, hsource]

theorem request_source (h : DocPut svc db db' req now type pieces doc row)
    : req.source svc = some (req.sourceAs svc type) := by
  rcases h.prepared with ⟨rows, hprepared, -⟩
  unfold DocsPutRequest.source
  rw [hprepared.sourceType]
  rfl

theorem docId_eq (h : DocPut svc db db' req now type pieces doc row)
    : doc.docId = req.docIdFor svc type req.content := by
  rcases h.prepared with ⟨rows, hprepared, rfl⟩
  exact hprepared.docId

theorem fits (h : DocPut svc db db' req now type pieces doc row) (hfits : (DocOp.put req).Fits)
    : (req.sourceAs svc type).locator.Fits := by
  rcases h.prepared with ⟨rows, hprepared, -⟩
  exact hfits type hprepared.sourceType

/-- A put leaves a document that is stored already with the same source. -/
theorem existing_source (h : DocPut svc db db' req now type pieces doc row)
    (huuid : ∀ ns, Function.Injective (svc.uuidV5 ns)) (hdb : db.Sound svc) (hlocated : db.Located)
    (hfits : (DocOp.put req).Fits) (hfind : db.documents.find? doc.docId = some existing)
    : existing.source = row.source := by
  have hwritten := h.written
  rw [hfind] at hwritten
  cases hwritten with
  | again existing same =>
    rcases hdb.document _ existing hfind with ⟨stored, hsound, -⟩
    have hid : existing.docId = doc.docId := Table.key_of_find? hfind
    rw [hsound.docId, h.doc_sound.docId] at hid
    rcases sourceRecordIdFor_inj huuid hid with ⟨ht, hp, ha, hs, rfl, hlocator, hhash⟩
    have hstored := hlocated _ existing hfind _ hsound.source_eq
    have hasked := h.fits hfits
    rw [← h.doc_source] at hasked
    have hlocator : sourceLocator existing.sourceRef stored = sourceLocator doc.sourceRef stored :=
      SourceLocator.value_inj hstored hasked hlocator
    unfold DocDocument.sameSource at same
    simp only [Bool.and_eq_true, decide_eq_true_eq] at same
    rw [h.row_source, hsound.source_eq, ← h.doc_source]
    unfold DocDocument.sourceAs
    rw [ht, hp, ha, hs, hlocator, hhash, same.1.1.1.1.1.1.1]

theorem keeps (h : DocPut svc db db' req now type pieces doc row)
    (huuid : ∀ ns, Function.Injective (svc.uuidV5 ns)) (hdb : db.Sound svc) (hlocated : db.Located)
    (hfits : (DocOp.put req).Fits) : db.Keeps db' := by
  intro docId existing hfind
  rw [h.find docId]
  split
  next hid =>
    subst hid
    exact ⟨row, rfl, (h.existing_source huuid hdb hlocated hfits hfind).symm⟩
  next => exact ⟨existing, hfind, rfl⟩

theorem located (h : DocPut svc db db' req now type pieces doc row) (hlocated : db.Located)
    (hfits : (DocOp.put req).Fits) : db'.Located := by
  intro docId found hfind source hsource
  rw [h.find docId] at hfind
  split at hfind
  next =>
    cases hfind
    rw [h.row_source] at hsource
    cases hsource
    exact h.fits hfits
  next => exact hlocated docId found hfind source hsource

end DocPut

/-- A delete leaves what the identifier is derived from. -/
theorem DocDeleted.source_eq {sourceRef : Json}
    (hsource : sourceRefWithDeletedLifecycle svc doc.sourceRef agent stamp = .ok sourceRef) (now : Nat)
    : (doc.deleted sourceRef now).source = doc.source := by
  rcases sourceRefWithDeletedLifecycle_spec hsource with ⟨-, hget⟩
  unfold DocDocument.source DocDocument.sourceAs DocDocument.deleted
  congr 1
  funext type
  have hlocator := sourceLocator_congr type fun key hkey => hget key (identityKeys_ne_lifecycle hkey)
  rw [hlocator]

theorem DocDeleted.keeps (h : DocDeleted svc db db' docId) : db.Keeps db' := by
  cases h with
  | already row find deleted same =>
    rw [same]
    exact DocStore.Keeps.refl db
  | now row sourceRef now agentId find lifecycle written chunks jobs =>
    intro id existing hfind
    rw [written id]
    split
    next hid =>
      subst hid
      rw [find] at hfind
      cases hfind
      exact ⟨_, rfl, source_eq lifecycle now⟩
    next => exact ⟨existing, hfind, rfl⟩

theorem DocDeleted.located (h : DocDeleted svc db db' docId) (hlocated : db.Located) : db'.Located := by
  cases h with
  | already row find deleted same =>
    rw [same]
    exact hlocated
  | now row sourceRef now agentId find lifecycle written chunks jobs =>
    intro id found hfind source hsource
    rw [written id] at hfind
    split at hfind
    next =>
      cases hfind
      rw [source_eq lifecycle now] at hsource
      exact hlocated docId row find source hsource
    next => exact hlocated id found hfind source hsource

/-! ## Runs -/

/-- What requests that fit preserve: the tables follow from one another. -/
structure DocStore.Identified (svc : DocsService) (db : DocStore) : Prop where
  sound : db.Sound svc
  located : db.Located

theorem DocSteps.identified (huuid : ∀ ns, Function.Injective (svc.uuidV5 ns))
    (h : Run.Guarded (fun _ a => a.2.Fits) (DocSteps svc) db a db') (hdb : db.Identified svc)
    : db'.Identified svc ∧ db.Keeps db' := by
  rcases h with ⟨hfits, hstep⟩
  have hsound := DocSteps.sound hstep hdb.sound
  unfold DocSteps at hstep
  rw [← hstep] at hsound ⊢
  rcases DocOp.exec_cases hdb.sound a.1 a.2 with hsame | ⟨req, _, _, _, _, hop, hput⟩
    | ⟨_, -, hdelete⟩
  . rw [hsame]
    exact ⟨hdb, DocStore.Keeps.refl db⟩
  . rw [hop] at hfits
    exact ⟨⟨hsound, hput.located hdb.located hfits⟩, hput.keeps huuid hdb.sound hdb.located hfits⟩
  . exact ⟨⟨hsound, hdelete.located hdb.located⟩, hdelete.keeps⟩

/-- Runs of requests that fit. -/
abbrev DocRun (svc : DocsService) : DocStore → List (DocsDraw × DocOp) → DocStore → Prop :=
  Run (Run.Guarded (fun _ a => a.2.Fits) (DocSteps svc))

theorem DocRun.identified (huuid : ∀ ns, Function.Injective (svc.uuidV5 ns))
    (h : DocRun svc db steps db') (hdb : db.Identified svc) : db'.Identified svc ∧ db.Keeps db' := by
  revert hdb
  refine h.relation (R := fun db db' => db.Identified svc → db'.Identified svc ∧ db.Keeps db') ?_ ?_ ?_
  . intro db hdb
    exact ⟨hdb, DocStore.Keeps.refl db⟩
  . intro db₁ db₂ db₃ h₁ h₂ hdb
    rcases h₁ hdb with ⟨hdb₂, hkeeps₂⟩
    rcases h₂ hdb₂ with ⟨hdb₃, hkeeps₃⟩
    exact ⟨hdb₃, hkeeps₂.trans hkeeps₃⟩
  . intro db₁ a db₂ hstep hdb
    exact DocSteps.identified huuid hstep hdb

theorem DocStore.Identified.empty (svc : DocsService) : DocStore.empty.Identified svc where
  sound := DocStore.Sound.empty svc
  located docId doc h := by cases h

/-! ## Results -/

/-- The chunks of every document are those that its content is split into. -/
def DocStore.Chunked (svc : DocsService) (db : DocStore) : Prop :=
  ∀ docId doc, db.documents.find? docId = some doc → ∃ docType pieces,
    DocType.parse doc.docType = .ok docType ∧ splitContent svc docType doc.content = .ok pieces
      ∧ (listDocChunks db docId).map DocChunk.uncreated = buildDocChunkRows svc docId pieces 0

theorem DocStore.Sound.chunked (hdb : db.Sound svc) : db.Chunked svc := by
  intro docId doc hfind
  rcases hdb.document docId doc hfind with ⟨type, hsound, pieces, hsplit, hchunks⟩
  rw [Table.key_of_find? hfind] at hchunks
  refine ⟨type, pieces, ?_, hsplit, ?_⟩
  . rw [hsound.type, parse_asStr]
  . rw [listDocChunks_eq hchunks, hchunks]

/-- What a put that succeeds leaves under the identifier that it returns. -/
structure StoredAs (svc : DocsService) (db : DocStore) (req : DocsPutRequest) (docId : Uuid)
    (doc : DocDocument) : Prop where
  find : db.documents.find? docId = some doc
  active : doc.status = "active"
  requested : (req.source svc).isSome
  source : doc.source = req.source svc

theorem DocPut.storedAs {type : DocType} {pieces : List ByteChunk}
    (h : DocPut svc db db' req now type pieces doc row) : StoredAs svc db' req doc.docId row where
  find := by
    rw [h.find, if_pos rfl]
  active := by
    rcases h.row_same with ⟨-, -, -, -, -, -, -, -, hstatus⟩
    rcases h.prepared with ⟨rows, hprepared, hdoc⟩
    rw [hstatus, ← hdoc, hprepared.status]
  requested := by
    rw [h.request_source]
    rfl
  source := by
    rw [h.row_source, h.request_source]

/-- Requests for the same source are given the same identifier. -/
theorem docIdFor_congr {req₁ req₂ : DocsPutRequest} {type₁ type₂ : DocType}
    (h : req₁.sourceAs svc type₁ = req₂.sourceAs svc type₂)
    : req₁.docIdFor svc type₁ req₁.content = req₂.docIdFor svc type₂ req₂.content := by
  unfold DocsPutRequest.sourceAs at h
  simp only [DocSource.mk.injEq] at h
  rcases h with ⟨ht, hp, ha, hs, rfl, hlocator, -, hcontent⟩
  unfold DocsPutRequest.docIdFor sourceRecordIdFor sourceRecordName
  rw [sourceIdentityValue_eq, sourceIdentityValue_eq, ht, hp, ha, hs, hlocator, hcontent]

/-- Two puts that succeed in one run have one identifier exactly when they ask for the same. -/
theorem docsPut_docId_iff {req₁ req₂ : DocsPutRequest} {db₁ db₂ db₃ : DocStore}
    (huuid : ∀ ns, Function.Injective (svc.uuidV5 ns)) (hdb : db.Identified svc)
    (hput₁ : docsPut svc draw₁ req₁ db = .ok (response₁, db₁)) (hfits₁ : (DocOp.put req₁).Fits)
    (hrun : DocRun svc db₁ steps db₂)
    (hput₂ : docsPut svc draw₂ req₂ db₂ = .ok (response₂, db₃)) (hfits₂ : (DocOp.put req₂).Fits)
    : response₁.docId = response₂.docId ↔ req₁.source svc = req₂.source svc := by
  rcases docsPut_spec hdb.sound hput₁ with ⟨type₁, pieces₁, doc₁, row₁, h₁, hid₁⟩
  have hdb₁ : db₁.Identified svc := ⟨h₁.sound hdb.sound, h₁.located hdb.located hfits₁⟩
  rcases hrun.identified huuid hdb₁ with ⟨hdb₂, hkeeps⟩
  rcases docsPut_spec hdb₂.sound hput₂ with ⟨type₂, pieces₂, doc₂, row₂, h₂, hid₂⟩
  have hstored := h₁.storedAs
  rw [hid₁, hid₂]
  constructor
  . intro hid
    rcases hkeeps _ row₁ hstored.find with ⟨kept, hkept, hsource⟩
    rw [hid] at hkept
    have hagain := h₂.existing_source huuid hdb₂.sound hdb₂.located hfits₂ hkept
    rw [← hstored.source, ← hsource, hagain]
    exact h₂.storedAs.source
  . intro hsource
    rw [h₁.request_source, h₂.request_source, Option.some.injEq] at hsource
    rw [h₁.docId_eq, h₂.docId_eq]
    exact docIdFor_congr hsource

/-- The tables once the discussion of a change is stored. -/
def putRevision : DocStore :=
  (sampleDocsPutStep 1 7).2.exec sampleDocsService (sampleDocsDraw 1) .empty

/-- What is stored of the source under an identifier. -/
def DocStore.sourceOf (db : DocStore) (docId : Uuid) : Option DocSource :=
  (db.documents.find? docId).bind DocDocument.source

end Elf
