import Elf.Service.AddEvent
import Elf.Service.Lemmas.AddNote
import Elf.Evidence.Lemmas.Windows
import Elf.Lib.Transaction
import Elf.Service.EventMessages

/-!
This module contains what one note extracted from an event can do to the store, and where the parts of an
event come from: the audit of a message from its own write policy, a selected quote from a range of its
message, and that message from a range of its document.
-/

namespace Elf

open Text

variable {svc : ElfService} {event : EventIngestion} {draw : Draw} {s t : Store}
  {data : NoteProcessingData} {args : PersistExtractedNoteArgs}

/-- The request that the structured fields of an extracted note amount to. -/
def NoteProcessingData.derivedRows (data : NoteProcessingData) (draw : Draw) (noteId : Uuid)
    (now : Nat) : List NoteField :=
  match data.structured.filter (!·.isEffectivelyEmpty) with
  | some structured => structured.rows draw.fieldId noteId now
  | none => []

/-- An extracted note was inserted as a new row. -/
structure EventAdded (svc : ElfService) (args : PersistExtractedNoteArgs) (draw : Draw)
    (s t : Store) : Prop where
  gate : writegate svc.containsSecrets svc.cfg
    ⟨args.data.noteType, args.ctx.scope, args.data.text⟩ = .ok ()
  key : args.key = none
  writes : s.Writes t ⟨none, args.memoryNote draw.noteId, .add, .upsert, draw.versionId⟩
  fields : noteFields s.fields draw.noteId = []
    → noteFields t.fields draw.noteId = args.data.derivedRows draw draw.noteId args.ctx.now
  otherFields : ∀ other, draw.noteId ≠ other → noteFields t.fields other = noteFields s.fields other
  reviews : s.SameReviews t

theorem EventAdded.of_ingestDecisions (h : EventAdded svc args draw s t)
    : EventAdded svc args draw s { t with ingestDecisions } := by
  rcases h with ⟨gate, key, ⟨hprev, hnotes, hversions, houtbox⟩, fields, other, reviews⟩
  exact ⟨gate, key, ⟨hprev, hnotes, hversions, houtbox⟩, fields, other, reviews⟩

theorem rejectExtractedNoteIfWritegateRejects_eq_none
    (h : rejectExtractedNoteIfWritegateRejects svc data = none)
    : writegate svc.containsSecrets svc.cfg ⟨data.noteType, data.scope, data.text⟩ = .ok () := by
  unfold rejectExtractedNoteIfWritegateRejects at h
  split at h
  next hgate => exact hgate
  next => cases h

theorem extractedNoteRejection_eq_none (h : extractedNoteRejection svc event data = none)
    : writegate svc.containsSecrets svc.cfg ⟨data.noteType, data.scope, data.text⟩ = .ok () := by
  unfold extractedNoteRejection at h
  split at h
  . cases h
  . split at h
    . cases h
    . exact rejectExtractedNoteIfWritegateRejects_eq_none h

theorem upsertExtractedFields_cases
    (h : upsertExtractedFields s draw data noteId now = .ok t)
    : (∃ fields, t = { s with fields })
      ∧ (noteFields s.fields noteId = []
        → noteFields t.fields noteId = data.derivedRows draw noteId now)
      ∧ ∀ other, noteId ≠ other → noteFields t.fields other = noteFields s.fields other := by
  unfold upsertExtractedFields at h
  unfold NoteProcessingData.derivedRows
  cases hcontent : data.structured.filter (!·.isEffectivelyEmpty) with
  | some structured =>
    rw [hcontent] at h
    simp only [Except.bind_eq_ok, Except.pure_eq_ok] at h
    rcases h with ⟨fields, hfields, rfl⟩
    refine ⟨⟨fields, rfl⟩, noteFields_upsertStructuredFieldsTx hfields, ?_⟩
    intro other hne
    exact noteFields_upsertStructuredFieldsTx_of_ne hfields hne
  | none =>
    rw [hcontent] at h
    cases h
    exact ⟨⟨s.fields, rfl⟩, id, fun _ _ => rfl⟩

theorem persistExtractedNoteAdd_cases
    (h : persistExtractedNoteAdd svc draw s args draw.noteId = .ok t)
    (hgate : writegate svc.containsSecrets svc.cfg
      ⟨args.data.noteType, args.ctx.scope, args.data.text⟩ = .ok ())
    (hkey : args.key = none) : EventAdded svc args draw s t := by
  simp only [persistExtractedNoteAdd, Except.bind_eq_ok, Except.pure_eq_ok] at h
  rcases h with ⟨s₁, hgrant, s₂, hnote, s₃, hversion, s₄, hjob, s₅, hfields, -, -, rfl⟩
  rcases ensureActiveProjectScopeGrant_frame hgrant with ⟨grants, rfl⟩
  have hwrites : s.Writes s₄ ⟨none, args.memoryNote draw.noteId, .add, .upsert, draw.versionId⟩ :=
    writes_of_insert (by rfl) (by rfl) (by rfl) hnote hversion (by rfl) (by rfl)
      (by rfl) hjob rfl rfl rfl
  rw [insertMemoryNoteTx_eq_ok] at hnote
  rw [insertVersion_eq_ok] at hversion
  rw [enqueueOutboxTx_eq_ok] at hjob
  rcases hnote with ⟨notes, -, rfl⟩
  rcases hversion with ⟨versions, -, rfl⟩
  rcases hjob with ⟨outbox, -, rfl⟩
  rcases upsertExtractedFields_cases hfields with ⟨⟨fields, rfl⟩, hrows, hother⟩
  rcases hwrites with ⟨hprev, hnotes, hversions, houtbox⟩
  exact ⟨hgate, hkey, ⟨hprev, hnotes, hversions, houtbox⟩, hrows, hother, rfl, rfl⟩

/-- Without a key no stored note is replaced. -/
theorem resolveUpdate_keyless (s : Store) (args : ResolveUpdateArgs) (newNoteId : Uuid)
    (hkey : args.key = none)
    : (∃ noteId metadata, resolveUpdate s args newNoteId = .none noteId metadata)
      ∨ ∃ metadata, resolveUpdate s args newNoteId = .add newNoteId metadata := by
  rcases resolveUpdate_cases s args newNoteId with ⟨note, -, -, hsome, -⟩ | hnone | hadd
  . rw [hkey] at hsome
    cases hsome
  . rcases hnone with ⟨note, -, -, -, -, hres⟩
    left
    exact ⟨note.noteId, _, hres⟩
  . right
    exact ⟨_, hadd.2⟩

theorem applyExtractedNoteDecision_cases {req : AddEventRequest} {ctx : AddNoteContext}
    {note : ExtractedNote}
    (hgate : writegate svc.containsSecrets svc.cfg ⟨data.noteType, ctx.scope, data.text⟩ = .ok ())
    (h : applyExtractedNoteDecision svc event draw s req ctx note data = .ok (r, t))
    : (∃ ingestDecisions, t = { s with ingestDecisions })
      ∨ ∃ sourceRef, event.sourceRef note data = .ok sourceRef ∧ r.op = .add ∧ EventAdded svc
        ⟨ctx, data, none, computeExpiresAt data.ttlDays data.noteType svc.cfg ctx.now, sourceRef⟩
        draw s t := by
  simp only [applyExtractedNoteDecision, Except.bind_eq_ok, Except.pure_eq_ok, Prod.mk.injEq] at h
  rcases h with ⟨sourceRef, hsource, ⟨⟨result, versionId⟩, s₁⟩, hpersist, s₂, haudit, rfl, rfl⟩
  rcases recordIngestDecision_frame haudit with ⟨ingestDecisions, rfl⟩
  split at hpersist
  . rcases resolveUpdate_keyless s (data.resolveArgs ctx sourceRef) draw.noteId rfl with
      ⟨noteId, metadata, hres⟩ | ⟨metadata, hres⟩
    . rw [hres] at hpersist
      cases hpersist
      left
      exact ⟨_, rfl⟩
    . rw [hres] at hpersist
      simp only [persistExtractedNoteDecision, Except.bind_eq_ok, Except.pure_eq_ok,
        Prod.mk.injEq] at hpersist
      rcases hpersist with ⟨s', hadd, ⟨rfl, -⟩, rfl⟩
      have hadded := persistExtractedNoteAdd_cases hadd hgate rfl
      right
      exact ⟨sourceRef, hsource, rfl, hadded.of_ingestDecisions⟩
  . cases hpersist
    left
    exact ⟨_, rfl⟩

/-- What is stored as the source of an extracted note, whose documents were checked. -/
structure EventIngestion.Sources (event : EventIngestion) (data : NoteProcessingData)
    (note : ExtractedNote) (sourceRef : Json) : Prop where
  documents : event.validateEventSourceDocuments data.scope data.evidence = .ok ()
  recorded : event.sourceRef note data = .ok sourceRef

/-- What one extracted note can do to the store, besides the audit of the decision on it. -/
theorem processExtractedNote_cases {req : AddEventRequest} {note : ExtractedNote}
    (h : processExtractedNote svc event req note now withinBudget draw s = .ok (r, t))
    : (∃ ingestDecisions, t = { s with ingestDecisions })
      ∨ ∃ sourceRef expiresAt, event.Sources (.fromRequestAndNote req note) note sourceRef
        ∧ r.op = .add ∧ EventAdded svc
        ⟨req.context svc (NoteProcessingData.fromRequestAndNote req note).scope now,
          .fromRequestAndNote req note, none, expiresAt, sourceRef⟩ draw s t := by
  simp only [processExtractedNote] at h
  split at h
  . simp only [Except.bind_eq_ok, Except.pure_eq_ok, Prod.mk.injEq] at h
    rcases h with ⟨s', haudit, rfl, rfl⟩
    left
    exact recordIngestDecision_frame haudit
  next hpass =>
    have hgate := extractedNoteRejection_eq_none hpass
    rw [Except.bind_eq_ok] at h
    rcases h with ⟨⟨⟩, hdocuments, h⟩
    split at h
    . simp only [Except.bind_eq_ok, Except.pure_eq_ok, Prod.mk.injEq] at h
      rcases h with ⟨s', haudit, rfl, rfl⟩
      left
      exact recordIngestDecision_frame haudit
    . rcases applyExtractedNoteDecision_cases hgate h with hquiet | ⟨sourceRef, hsource, hop, hadded⟩
      . left
        exact hquiet
      . right
        exact ⟨sourceRef, _, ⟨hdocuments, hsource⟩, hop, hadded⟩

end Elf

/-! ## Messages -/

namespace Elf

open Text

/-! ## Audits -/

/-- The audit of a message is found among those of the messages before it that have a policy. -/
theorem applyWritePoliciesToMessages_getElem? {messages : List EventMessage}
    {processed : ProcessedEvent} {index : Nat} {message : EventMessage}
    (h : applyWritePoliciesToMessages messages = some (.ok processed))
    (hmessage : messages[index]? = some message)
    : ∃ outcome, applyWritePolicyWithAudit message.content message.writePolicy = some (.ok outcome)
      ∧ processed.texts[index]? = some outcome.transformed
      ∧ (message.writePolicy.isSome = true
        → processed.audits[(messages.take index).countP (·.writePolicy.isSome)]?
          = some outcome.audit) := by
  induction messages generalizing processed index with
  | nil => simp at hmessage
  | cons first messages ih =>
    unfold applyWritePoliciesToMessages at h
    cases hfirst : applyWritePolicyToMessage first with
    | none =>
      rw [hfirst] at h
      contradiction
    | some outcome =>
      rw [hfirst] at h
      cases outcome with
      | error err => cases h
      | ok pair =>
        cases hrest : applyWritePoliciesToMessages messages with
        | none =>
          rw [hrest] at h
          contradiction
        | some outcome =>
          rw [hrest] at h
          cases outcome with
          | error err => cases h
          | ok rest =>
            cases h
            unfold applyWritePolicyToMessage at hfirst
            rcases Option.map_eq_some_iff.mp hfirst with ⟨outcome, houtcome, hpair⟩
            cases outcome with
            | error err => cases hpair
            | ok result =>
              cases hpair
              cases index with
              | zero =>
                cases hmessage
                refine ⟨result, houtcome, rfl, ?_⟩
                intro hpolicy
                simp [hpolicy]
              | succ index =>
                rw [List.getElem?_cons_succ] at hmessage
                rcases ih hrest hmessage with ⟨outcome, hown, htext, haudit⟩
                refine ⟨outcome, hown, ?_, ?_⟩
                . exact htext
                . intro hpolicy
                  have haudit := haudit hpolicy
                  rw [List.take_succ_cons, List.countP_cons]
                  cases hsome : first.writePolicy.isSome with
                  | true => simpa using haudit
                  | false => simpa using haudit

theorem messageAudit_eq_ok {messages : List EventMessage} {processed : ProcessedEvent}
    {index : Nat} {message : EventMessage} {audit : Option WritePolicyAudit}
    (h : applyWritePoliciesToMessages messages = some (.ok processed))
    (hmessage : messages[index]? = some message)
    (haudit : messageAudit messages processed.audits index message = .ok audit)
    : ∃ outcome, applyWritePolicyWithAudit message.content message.writePolicy = some (.ok outcome)
      ∧ processed.texts[index]? = some outcome.transformed
      ∧ audit = if message.writePolicy.isSome then some outcome.audit else none := by
  rcases applyWritePoliciesToMessages_getElem? h hmessage with ⟨outcome, hown, htext, hfound⟩
  refine ⟨outcome, hown, htext, ?_⟩
  unfold messageAudit at haudit
  split at haudit
  next hpolicy =>
    rw [Except.bind_eq_ok] at haudit
    rcases haudit with ⟨found, hfind, hsome⟩
    rw [Except.ofOption_eq_ok, hfound hpolicy, Option.some.injEq] at hfind
    rw [if_pos hpolicy, hfind, Except.pure_eq_ok.mp hsome]
  next hpolicy =>
    rw [if_neg hpolicy]
    cases haudit
    rfl

/-! ## Spans -/

theorem takeBytes_isPrefixOf (maxBytes : Nat) (text : List Char) : takeBytes maxBytes text <+: text := by
  induction text generalizing maxBytes with
  | nil => exact List.prefix_rfl
  | cons c rest ih =>
    unfold takeBytes
    split
    . exact (List.prefix_cons_inj c).mpr (ih _)
    . exact List.nil_prefix

theorem throughNewline_isPrefixOf (text : List Char) : throughNewline text <+: text := by
  unfold throughNewline
  dsimp only
  split
  . exact List.prefix_rfl
  . exact List.rdropWhile_prefix _ _

theorem firstSpan_isPrefixOf (maxBytes : Nat) (text : List Char) : firstSpan maxBytes text <+: text := by
  unfold firstSpan
  dsimp only
  split
  . exact (throughNewline_isPrefixOf _).trans (takeBytes_isPrefixOf maxBytes text)
  . exact takeBytes_isPrefixOf maxBytes text

theorem firstSpan_append (maxBytes : Nat) (text : List Char)
    : firstSpan maxBytes text ++ text.drop (firstSpan maxBytes text).length = text := by
  have hprefix := List.prefix_iff_eq_take.mp (firstSpan_isPrefixOf maxBytes text)
  calc
    firstSpan maxBytes text ++ text.drop (firstSpan maxBytes text).length
    _ = text.take (firstSpan maxBytes text).length
        ++ text.drop (firstSpan maxBytes text).length := by rw [← hprefix]
    _ = text := List.take_append_drop ..

/-- The spans of a message are all of it. -/
theorem evidenceSpansOf_join {maxBytes : Nat} {text : List Char} {spans : List String}
    (h : evidenceSpansOf maxBytes text = .ok spans) : String.join spans = String.ofList text := by
  induction hn : text.length using Nat.strongRecOn generalizing text spans with
  | ind n ih =>
    unfold evidenceSpansOf at h
    split at h
    next hempty =>
      cases h
      rw [List.isEmpty_iff.mp hempty]
      rfl
    next hempty =>
      split at h
      . cases h
      next hspan =>
        rcases Except.bind_eq_ok.mp h with ⟨rest, hrest, hspans⟩
        have hlt : (text.drop (firstSpan maxBytes text).length).length < n := by
          have := List.length_pos_of_ne_nil (mt List.isEmpty_iff.mpr hempty)
          rw [List.length_drop]
          omega
        have hjoin := ih _ hlt hrest rfl
        rw [Except.pure_eq_ok.mp hspans, String.join_cons, hjoin, ← String.ofList_append,
          firstSpan_append]

/-! ## Selections -/

theorem utf8ByteSize_join_eq (pieces : List String)
    : (String.join pieces).utf8ByteSize = (pieces.map String.utf8ByteSize).sum := by
  induction pieces with
  | nil => rfl
  | cons piece pieces ih =>
    rw [String.join_cons, String.utf8ByteSize_append, List.map_cons, List.sum_cons, ih]

theorem selectSpans_slice {pieces selected : List String} {first last : Nat}
    (h : selectSpans pieces first last = some selected)
    : Slice (String.join pieces) ((pieces.take first).map String.utf8ByteSize).sum
      (((pieces.take first).map String.utf8ByteSize).sum + (String.join selected).utf8ByteSize)
      (String.join selected) := by
  unfold selectSpans at h
  split at h
  next hle =>
    cases h
    refine ⟨String.join (pieces.take first), String.join (pieces.drop (last + 1)), ?_, ?_, rfl⟩
    . have htake : pieces.take first ++ (pieces.take (last + 1)).drop first
          = pieces.take (last + 1) := by
        have := List.take_append_drop first (pieces.take (last + 1))
        rwa [List.take_take, Nat.min_eq_left (by omega)] at this
      rw [← String.join_append, ← String.join_append, htake, List.take_append_drop]
    . exact utf8ByteSize_join_eq _
  next => contradiction

/-- A selection becomes a quote of its message at the position that is recorded with it. -/
theorem resolveSelection_slice {texts : List String} {maxBytes : Nat} {spans : List (List String)}
    {selection : EvidenceSelection} {quote : EvidenceQuote}
    (hspans : evidenceSpans texts maxBytes = .ok spans)
    (h : resolveSelection spans selection = .ok quote)
    : quote.messageIndex = selection.messageIndex
      ∧ ∃ text position, texts[selection.messageIndex]? = some text ∧ quote.position = some position
        ∧ Slice text position.start position.stop quote.quote := by
  simp only [resolveSelection, Except.bind_eq_ok, Except.ofOption_eq_ok, Except.pure_eq_ok] at h
  rcases h with ⟨pieces, hpieces, selected, hselected, rfl⟩
  rcases Except.getElem?_mapM hspans hpieces with ⟨text, htext, hsplit⟩
  have hjoin := evidenceSpansOf_join hsplit
  rw [String.ofList_toList] at hjoin
  have hslice := selectSpans_slice hselected
  rw [hjoin] at hslice
  exact ⟨rfl, text, _, htext, rfl, hslice⟩

/-! ## Documents -/

theorem validateEventSourceDocument_eq_ok {library : DocStore} {req : EventRequest}
    {message : EventMessage} {source : EventSourceDocument}
    (h : validateEventSourceDocument library req noteScope message source = .ok ())
    : ∃ doc, library.documents.find? source.docId = some doc ∧ doc.docId = source.docId
      ∧ doc.status = "active" ∧ doc.contentHash = source.contentHash
      ∧ Slice doc.content source.position.start source.position.stop message.content := by
  simp only [validateEventSourceDocument, Except.bind_eq_ok, Except.ofOption_eq_ok,
    Except.rejectIf_eq_ok, Bool.or_eq_false_iff, decide_eq_false_iff_not, Decidable.not_not] at h
  rcases h with ⟨doc, hload, -, ⟨hactive, -⟩, ⟨hhash, -⟩, hcontent⟩
  unfold loadDocDocumentForRead at hload
  have hfind := (Option.filter_eq_some_iff.mp hload).1
  exact ⟨doc, hfind, Table.key_of_find? hfind, hactive, hhash.symm, sliceBytes_eq_some.mp hcontent⟩

theorem validateEventSourceDocuments_eq_ok {library : DocStore} {req : EventRequest}
    {evidence : List EvidenceQuote} {quote : EvidenceQuote} {message : EventMessage}
    {source : EventSourceDocument}
    (h : validateEventSourceDocuments library req noteScope evidence = .ok ())
    (hquote : quote ∈ evidence) (hmessage : req.messages[quote.messageIndex]? = some message)
    (hsource : message.sourceDocument = some source)
    : validateEventSourceDocument library req noteScope message source = .ok () := by
  have hvalid := Except.of_forM h hquote
  rw [hmessage] at hvalid
  dsimp only at hvalid
  rw [hsource] at hvalid
  exact hvalid

end Elf
