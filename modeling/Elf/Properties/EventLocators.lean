import Elf.Service.Lemmas.AddEvent
import Elf.Service.Op

/-!
This module contains where the sources of an extracted note point: a selection from a message that its
write policy left unchanged is found at the stored range of the document, and every piece of evidence
carries the audit of its own message.
-/

namespace Elf

open Text

/-- The documents of the source library. -/
abbrev Documents := Table DocDocument DocDocument.docId

variable {svc : EventService} {library : DocStore} {req : EventRequest} {s t : Store}

/-! ## What an entry says -/

/-- The pointer of an entry to the document of its message. -/
def documentOf (entry : Json) : Json := (entry.index "source").index "document"

/-- The entry points at the range of the document that is its quote. -/
def PointsAtQuote (documents : Documents) (source : EventSourceDocument) (entry : Json) : Prop :=
  ∃ doc quote position, documents.find? source.docId = some doc
    ∧ entry.get "quote" = some (.str quote)
    ∧ ((documentOf entry).index "ref").get "doc_id" = some (uuidJson doc.docId)
    ∧ ((documentOf entry).index "state").get "content_hash" = some (.str doc.contentHash)
    ∧ ((documentOf entry).index "locator").get "position"
      = some (TextPositionSelector.toJson position)
    ∧ sliceBytes doc.content position.start position.stop = some quote

/-- The entry carries what the write policy of the message did to it, if it has one. -/
def CarriesOwnAudit (message : EventMessage) (entry : Json) : Prop :=
  ∃ outcome, applyWritePolicyWithAudit message.content message.writePolicy = some (.ok outcome)
    ∧ (entry.index "source").get "write_policy_audit"
      = some (if message.writePolicy.isSome then outcome.audit.toJson else .null)

def EventMessage.Unchanged (message : EventMessage) : Prop :=
  ∃ outcome, applyWritePolicyWithAudit message.content message.writePolicy = some (.ok outcome)
    ∧ outcome.transformed = message.content

def ExtractedEvidence.messageIndex : ExtractedEvidence → Nat
  | .selection chosen => chosen.messageIndex
  | .quote index _ => index

def ExtractedEvidence.isSelection : ExtractedEvidence → Bool
  | .selection _ => true
  | .quote _ _ => false

structure EntryOf (documents : Documents) (req : EventRequest) (evidence : ExtractedEvidence)
    (message : EventMessage) (entry : Json) : Prop where
  message_eq : req.messages[evidence.messageIndex]? = some message
  audit : CarriesOwnAudit message entry
  points : ∀ source, evidence.isSelection = true → message.Unchanged
    → message.sourceDocument = some source → PointsAtQuote documents source entry

/-- The sources of a note are those of the evidence that the extractor gave for it. -/
def GroundedIn (documents : Documents) (req : EventRequest) (note : ExtractorNote)
    (sourceRef : Json) : Prop :=
  ∃ entries : List Json, (sourceRef.get "evidence").bind Json.asArr = some entries
    ∧ entries.length = (note.evidence.getD []).length
    ∧ ∀ (k : Nat) (evidence : ExtractedEvidence) (entry : Json),
      (note.evidence.getD [])[k]? = some evidence → entries[k]? = some entry
      → ∃ message, EntryOf documents req evidence message entry

/-! ## One piece of evidence -/

theorem evidenceSource_eq_ok {messages : List EventMessage} {texts : List String}
    {audits : List WritePolicyAudit} {quote : EvidenceQuote} {entry : Json}
    (h : evidenceSource svc messages texts audits quote = .ok entry)
    : ∃ message text audit, messages[quote.messageIndex]? = some message
      ∧ texts[quote.messageIndex]? = some text
      ∧ messageAudit messages audits quote.messageIndex message = .ok audit
      ∧ entry.get "quote" = some (.str quote.quote)
      ∧ (entry.index "source").get "write_policy_audit"
        = some (.ofOption WritePolicyAudit.toJson audit)
      ∧ ∀ source, message.sourceDocument = some source
        → documentOf entry = source.toJson (source.locate quote.position message.content text) := by
  simp only [evidenceSource, Except.bind_eq_ok, Except.ofOption_eq_ok, Except.pure_eq_ok] at h
  rcases h with ⟨message, hmessage, text, htext, audit, haudit, rfl⟩
  refine ⟨message, text, audit, hmessage, htext, haudit, rfl, rfl, ?_⟩
  intro source hsource
  rw [hsource]
  rfl

theorem pointsAtQuote_of_slice {source : EventSourceDocument} {quote : EvidenceQuote}
    {position : TextPositionSelector} {content : String} {entry : Json} {noteScope : String}
    {message : EventMessage}
    (hvalid : validateEventSourceDocument library req noteScope message source = .ok ())
    (hposition : quote.position = some position)
    (hslice : Slice message.content position.start position.stop quote.quote)
    (hcontent : content = message.content)
    (hquote : entry.get "quote" = some (.str quote.quote))
    (hdocument : documentOf entry
      = source.toJson (source.locate quote.position message.content content))
    : PointsAtQuote library.documents source entry := by
  rcases validateEventSourceDocument_eq_ok hvalid with ⟨doc, hfind, hid, -, hhash, hmessage⟩
  refine ⟨doc, quote.quote,
    ⟨source.position.start + position.start, source.position.start + position.stop⟩,
    hfind, hquote, ?_, ?_, ?_, ?_⟩
  . rw [hdocument, hid]
    rfl
  . rw [hdocument, hhash]
    rfl
  . rw [hdocument, hposition, hcontent]
    unfold EventSourceDocument.locate
    dsimp only
    rw [if_pos rfl]
    rfl
  . exact sliceBytes_eq_some.mpr (hmessage.trans hslice)

theorem entryOf_resolved {event : ExtractedEvent} {spans : List (List String)} {noteScope : String}
    {maxBytes : Nat} {quotes : List EvidenceQuote} {evidence : ExtractedEvidence}
    {quote : EvidenceQuote} {entry : Json}
    (hprocessed : applyWritePoliciesToMessages req.messages = some (.ok event.processed))
    (hspans : evidenceSpans event.processed.texts maxBytes = .ok spans)
    (hvalid : validateEventSourceDocuments library req noteScope quotes = .ok ())
    (hquote : quote ∈ quotes) (hresolve : evidence.resolve spans = .ok quote)
    (hentry : evidenceSource svc req.messages event.processed.texts event.processed.audits quote
      = .ok entry)
    : ∃ message, EntryOf library.documents req evidence message entry := by
  rcases evidenceSource_eq_ok hentry with
    ⟨message, text, audit, hmessage, htext, haudit, hquoted, hcarried, hdocument⟩
  rcases messageAudit_eq_ok hprocessed hmessage haudit with ⟨outcome, hown, htransformed, hisown⟩
  rw [htext, Option.some.injEq] at htransformed
  have hindex : evidence.messageIndex = quote.messageIndex := by
    cases evidence with
    | selection chosen => exact (resolveSelection_slice hspans hresolve).1.symm
    | quote index content =>
      cases hresolve
      rfl
  refine ⟨message, hindex ▸ hmessage, ⟨outcome, hown, ?_⟩, ?_⟩
  . rw [hcarried, hisown]
    split
    . rfl
    . rfl
  . intro source hselection ⟨outcome', hown', hunchanged⟩ hsource
    rw [hown, Option.some.injEq, Except.ok.injEq] at hown'
    subst hown'
    have hsame : text = message.content := htransformed.trans hunchanged
    have hdoc := validateEventSourceDocuments_eq_ok hvalid hquote hmessage hsource
    cases evidence with
    | quote index content => contradiction
    | selection chosen =>
      rcases resolveSelection_slice hspans hresolve with
        ⟨hchosen, whole, position, hwhole, hposition, hslice⟩
      rw [← hchosen, htext, Option.some.injEq] at hwhole
      rw [← hwhole, hsame] at hslice
      exact pointsAtQuote_of_slice hdoc hposition hslice hsame hquoted (hdocument source hsource)

/-! ## One note -/

theorem resolve_evidence {spans : List (List String)} {note : ExtractorNote}
    {extracted : ExtractedNote} (h : note.resolve spans = .ok extracted)
    : (note.evidence.getD []).mapM (ExtractedEvidence.resolve spans)
      = .ok (extracted.evidence.getD []) := by
  unfold ExtractorNote.resolve at h
  cases hevidence : note.evidence with
  | none =>
    rw [hevidence] at h
    cases h
    rfl
  | some evidence =>
    rw [hevidence] at h
    rcases Except.bind_eq_ok.mp h with ⟨quotes, hquotes, hpure⟩
    rw [Except.pure_eq_ok.mp hpure]
    exact hquotes

theorem groundedIn_of_sources {event : ExtractedEvent} {spans : List (List String)}
    {note : ExtractorNote} {extracted : ExtractedNote} {maxBytes : Nat} {sourceRef : Json}
    (hprocessed : applyWritePoliciesToMessages req.messages = some (.ok event.processed))
    (hspans : evidenceSpans event.processed.texts maxBytes = .ok spans)
    (hresolve : note.resolve spans = .ok extracted)
    (h : (svc.ingestion library req event).Sources
      (.fromRequestAndNote req.toAddEventRequest extracted) extracted sourceRef)
    : GroundedIn library.documents req note sourceRef := by
  have hquotes := resolve_evidence hresolve
  have hrecorded := h.recorded
  simp only [EventService.ingestion, EventService.sourceRef, Except.bind_eq_ok,
    Except.pure_eq_ok] at hrecorded
  rcases hrecorded with ⟨entries, hentries, rfl⟩
  refine ⟨entries, rfl, ?_, ?_⟩
  . rw [Except.length_mapM hentries]
    exact Except.length_mapM hquotes
  . intro k evidence entry hevidence hentry
    rcases Except.getElem?_of_mapM hquotes hevidence with ⟨quote, hquote, hquoteOf⟩
    rcases Except.getElem?_mapM hentries hentry with ⟨quote', hquote', hentryOf⟩
    have hsame : quote = quote' := Option.some.inj (hquote.symm.trans hquote')
    rw [← hsame] at hentryOf
    exact entryOf_resolved hprocessed hspans h.documents (List.mem_of_getElem? hquote) hquoteOf
      hentryOf

/-! ## A request -/

theorem extractNotes_eq_ok {event : ExtractedEvent}
    (h : svc.extractNotes req = some (.ok event))
    : ∃ spans, applyWritePoliciesToMessages req.messages = some (.ok event.processed)
      ∧ evidenceSpans event.processed.texts svc.evidenceSpanBytes = .ok spans
      ∧ resolveSelections spans event.answer = .ok event.notes := by
  unfold EventService.extractNotes at h
  split at h
  . cases h
  . split at h
    . cases h
    . rcases Option.map_eq_some_iff.mp h with ⟨outcome, hprocessed, h⟩
      simp only [Except.bind_eq_ok, Except.pure_eq_ok] at h
      rcases h with ⟨processed, rfl, spans, hspans, input, -, -, -, answer, -, notes, hnotes, rfl⟩
      exact ⟨spans, hprocessed, hspans, hnotes⟩

/-- The rows that the notes of a request add are made of them one by one. -/
theorem processExtractedNotes_mem {library : Nat → DocStore} {event : ExtractedEvent}
    {draws : Nat → Draw} {notes : List ExtractedNote} {idx remaining : Nat} {row : MemoryNote}
    (h : svc.processExtractedNotes library req event baseNow draws notes idx remaining s
      = (results, t))
    (hmem : row ∈ t.notes)
    : row ∈ s.notes ∨ ∃ k extracted memory, notes[k]? = some extracted
      ∧ row.noteId = (draws (idx + k)).noteId
      ∧ (svc.ingestion { library (idx + k) with memory } req event).Sources
        (.fromRequestAndNote req.toAddEventRequest extracted) extracted row.sourceRef := by
  induction notes generalizing idx remaining s results with
  | nil =>
    cases h
    exact .inl hmem
  | cons note notes ih =>
    simp only [EventService.processExtractedNotes] at h
    split at h
    . cases h
      exact .inl hmem
    next result s' hstep =>
      cases h
      rcases ih rfl with hmem | ⟨k, extracted, memory, hnote, hid, hsources⟩
      . rcases processExtractedNote_cases hstep with ⟨decisions, rfl⟩ | ⟨sourceRef, expiresAt,
          hsources, -, hadded⟩
        . exact .inl hmem
        . rcases hadded.writes.mem hmem with rfl | ⟨hmem, -⟩
          . exact .inr ⟨0, note, s, rfl, rfl, hsources⟩
          . exact .inl hmem
      . rw [Nat.add_assoc, Nat.add_comm 1 k] at hid hsources
        exact .inr ⟨k + 1, extracted, memory, hnote, hid, hsources⟩

/--
The notes that a request of `add_event` stores are notes of the extractor's answer whose sources are
grounded in the source library: where a selection comes from a message that its write policy left
unchanged, the stored range of the document is the stored quote, and every piece of evidence carries
the audit of its own message.
-/
theorem event_locators (svc : EventService) (library : Nat → DocStore) (req : EventRequest)
    (baseNow : Nat) (draws : Nat → Draw) (s t : Store) (results : Except Error (List AddEventResult))
    (h : svc.addEvent library req baseNow draws s = some (results, t))
    : ∀ row ∈ t.notes, row ∈ s.notes
      ∨ ∃ event idx note, svc.extractNotes req = some (.ok event) ∧ event.answer[idx]? = some note
        ∧ row.noteId = (draws idx).noteId
        ∧ GroundedIn (library idx).documents req note row.sourceRef := by
  intro row hmem
  unfold EventService.addEvent at h
  rcases Option.map_eq_some_iff.mp h with ⟨outcome, houtcome, h⟩
  cases outcome with
  | error err =>
    cases h
    exact .inl hmem
  | ok event =>
    rcases extractNotes_eq_ok houtcome with ⟨spans, hprocessed, hspans, hnotes⟩
    rcases processExtractedNotes_mem h hmem with hmem | ⟨k, extracted, memory, hnote, hid, hsources⟩
    . exact .inl hmem
    . right
      rcases Except.getElem?_mapM hnotes hnote with ⟨note, hanswered, hresolve⟩
      rw [Nat.zero_add] at hid hsources
      have hgrounded := groundedIn_of_sources hprocessed hspans hresolve hsources
      exact ⟨event, k, note, houtcome, hanswered, hid, hgrounded⟩

/-- A document that says that the ports are open. -/
def portsDocument : DocDocument := {
  docId := 7
  tenantId := "t"
  projectId := "p"
  agentId := "a"
  scope := "agent_private"
  docType := "knowledge"
  status := "active"
  title := none
  sourceRef := .obj []
  content := "All ports are open."
  contentBytes := 19
  contentHash := "h"
  createdAt := 0
  updatedAt := 0 }

def portsLibrary : DocStore :=
  { DocStore.empty with documents := (Table.empty.insert? portsDocument).getD .empty }

def portsNote (text : String) (evidence : List ExtractedEvidence) : ExtractorNote where
  note := {
    type := some "fact"
    key := none
    text := some text
    structured := none
    importance := some (.fin (1 / 2))
    confidence := some (.fin (1 / 2))
    ttlDays := none
    scopeSuggestion := none
    evidence := none
    reason := none }
  evidence := some evidence

/-- The extractor gives two notes, which both cite the second message. -/
def portsService : EventService := {
  elf := sampleService
  blake3 := fun text => text
  evidenceSpanBytes := 6
  evidenceMinQuotes := 1
  resolveAddEventProfile := fun _ _ _ => .ok ⟨"default", 1⟩
  buildExtractorMessages := fun _ _ => .ok .null
  extract := fun _ _ => .ok [
    portsNote "The ports are open." [.selection ⟨1, 0, some 2⟩, .selection ⟨0, 0, none⟩],
    portsNote "There are ports." [.selection ⟨1, 0, none⟩]]
  payloadBytes := fun _ => 0
  noteBytes := fun _ => 0
  validateStructuredFields := fun _ _ _ => .ok () }

/-- A message from which a number is removed, and one that is in the document. -/
def portsRequest : EventRequest := {
  tenantId := "t"
  projectId := "p"
  agentId := "a"
  scope := some "agent_private"
  dryRun := none
  ingestionProfile := none
  messages := [
    { role := "user"
      content := "Call me at 555."
      ts := none
      msgId := none
      sourceDocument := none
      writePolicy := some ⟨[⟨11, 14⟩], []⟩ },
    { role := "user"
      content := "ports are open"
      ts := none
      msgId := none
      sourceDocument := some ⟨7, "h", ⟨4, 18⟩⟩
      writePolicy := none }] }

theorem event_locators_ports
    : ∃ results t, portsService.addEvent (fun _ => portsLibrary) portsRequest 0
          (fun idx => sampleDraw (idx + 1)) .empty = some (results, t)
      ∧ t.notes.rows.length = 2
      ∧ ∀ row ∈ t.notes, row ∈ Store.empty.notes
        ∨ ∃ event idx note, portsService.extractNotes portsRequest = some (.ok event)
          ∧ event.answer[idx]? = some note ∧ row.noteId = (sampleDraw (idx + 1)).noteId
          ∧ GroundedIn portsLibrary.documents portsRequest note row.sourceRef := by
  have hrows : (portsService.addEvent (fun _ => portsLibrary) portsRequest 0
      (fun idx => sampleDraw (idx + 1)) .empty).any (fun out => out.2.notes.rows.length = 2)
        = true := by decide +kernel
  rcases (Option.any_eq_true _ _).mp hrows with ⟨⟨results, t⟩, h, hlength⟩
  refine ⟨results, t, h, of_decide_eq_true hlength, ?_⟩
  exact event_locators portsService (fun _ => portsLibrary) portsRequest 0
    (fun idx => sampleDraw (idx + 1)) .empty t results h

end Elf
