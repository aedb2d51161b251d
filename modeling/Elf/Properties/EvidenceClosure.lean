import Elf.Evidence.Lemmas.Pack

/-!
This module contains that evidence is closed under its size budget. A pack always is. A recall is,
unless its source cap drops the windows that hold a quote of a note which it returns.
-/

namespace Elf

open Text

variable (svc : ReadService)

/-! ## Definitions -/

/-- The request ends, and what it returns is closed and within the limit. -/
def PackHolds (resolve : Uuid → Nat → Except Error NoteEvidenceResponse) (req : EvidencePackRequest)
    : Prop :=
  ∃ out, Returns (fun fuel => evidencePack svc fuel resolve req) out
    ∧ ∀ pack, out = .ok pack → Answers pack req.noteIds
      ∧ ∃ limit, responseLimit req.maxBytes = .ok limit ∧ pack.size svc ≤ limit

/-- The notes that a recall selects. -/
def RecallFinds.selected (finds : RecallFinds) : List Uuid :=
  (recallCandidates finds.rows).map EvidenceRecallCandidate.noteId

def RecallHolds (finds : RecallFinds) (req : EvidenceRecallRequest) : Prop :=
  ∃ out, Returns (fun fuel => evidenceRecall svc fuel finds req) out
    ∧ ∀ response, out = .ok response → Answers response.pack finds.selected
      ∧ ∃ limit, responseLimit req.maxBytes = .ok limit ∧ response.size svc ≤ limit

/-- The response can be cut to the limit with the note in it. -/
def FitsWith (limit : Nat) (response : EvidenceRecallResponse) (note : EvidencePackNote) : Prop :=
  ∃ cut, Relation.ReflTransGen (fun r s => r.removeLastEntry = some s) response cut
    ∧ cut.size svc ≤ limit ∧ note ∈ cut.pack.notes

/--
Of every note with which the response fits, each quote occurs in a window that the note refers to and
that the source cap keeps.
-/
def CapKeepsQuotes (finds : RecallFinds) (req : EvidenceRecallRequest) : Prop :=
  ∀ limit direct pack, prepareRecall svc finds req = .ok (limit, direct) →
    Returns (fun fuel => recallPack svc fuel finds req) (.ok pack) →
      ∀ note, FitsWith svc limit (assembleRecall svc finds req direct pack) note →
        QuotesIn (capSources [] 0 (direct.1 ++ pack.sources)).1 note

/-! ## Packs -/

variable {svc}

theorem packHolds (resolve : Uuid → Nat → Except Error NoteEvidenceResponse)
    (req : EvidencePackRequest) : PackHolds svc resolve req := by
  rcases evidencePack_returns svc resolve req with ⟨out, hout⟩
  refine ⟨out, hout, ?_⟩
  intro pack hpack
  rcases hout with ⟨bound, hbound⟩
  have hrun := hbound bound (Nat.le_refl _)
  rw [hpack] at hrun
  exact evidencePack_answers hrun

/-! ## Recalls -/

variable {finds : RecallFinds} {req : EvidenceRecallRequest}

theorem removed_notes {r s : EvidenceRecallResponse}
    (h : Relation.ReflTransGen (fun r s => r.removeLastEntry = some s) r s)
    : s.pack.notes ⊆ r.pack.notes := by
  induction h with
  | refl => exact List.Subset.refl _
  | tail _ hremove ih =>
    have hcut := removeLastEntry_cut (EvidenceRecallResponse.removeLastEntry_pack hremove)
    exact List.Subset.trans hcut.notes ih

theorem fitsWith_iff {limit : Nat} {response : EvidenceRecallResponse} {note : EvidencePackNote}
    : FitsWith svc limit response note
        ↔ ∃ left, Leaves svc limit response left ∧ note ∈ left.pack.notes := by
  constructor
  . intro h
    rcases h with ⟨cut, hremoved, hsize, hnote⟩
    rcases exists_shrinks hremoved hsize with ⟨n, left, hrounds, hleft, hrest⟩
    exact ⟨left, ⟨hleft, n, hrounds⟩, removed_notes hrest hnote⟩
  . intro h
    rcases h with ⟨left, ⟨hsize, n, hrounds⟩, hnote⟩
    exact ⟨left, hrounds.removed, hsize, hnote⟩

theorem recallPack_returns (svc : ReadService) (finds : RecallFinds) (req : EvidenceRecallRequest)
    : ∃ out, Returns (fun fuel => recallPack svc fuel finds req) out := by
  unfold recallPack
  split
  . exact ⟨_, Returns.const _⟩
  . exact evidencePack_returns svc finds.resolve _

theorem recallPack_ids (h : Returns (fun fuel => recallPack svc fuel finds req) (.ok pack))
    : Partitions pack.ids finds.selected := by
  rcases h with ⟨bound, hbound⟩
  have hrun := hbound bound (Nat.le_refl _)
  unfold recallPack at hrun
  split at hrun
  next hempty =>
    cases hrun
    unfold RecallFinds.selected
    rw [hempty]
    exact ⟨List.nodup_nil, fun id => Iff.rfl⟩
  next hcandidates => exact (evidencePack_answers hrun).1.ids

theorem prepareRecall_limit (h : prepareRecall svc finds req = .ok (limit, direct))
    : responseLimit req.maxBytes = .ok limit := by
  unfold prepareRecall at h
  rcases Except.bind_eq_ok.mp h with ⟨limit', hlimit, h⟩
  rcases Except.bind_eq_ok.mp h with ⟨_, -, h⟩
  rcases Except.bind_eq_ok.mp h with ⟨_, -, h⟩
  rcases Except.bind_eq_ok.mp h with ⟨direct', -, hpure⟩
  cases hpure
  exact hlimit

/-- The recall ends in an error, or with what the cut to its limit leaves. -/
theorem evidenceRecall_returns (svc : ReadService) (finds : RecallFinds)
    (req : EvidenceRecallRequest)
    : (∃ e, Returns (fun fuel => evidenceRecall svc fuel finds req) (.error e))
      ∨ ∃ limit direct pack left, prepareRecall svc finds req = .ok (limit, direct)
        ∧ Returns (fun fuel => recallPack svc fuel finds req) (.ok pack)
        ∧ Leaves svc limit (assembleRecall svc finds req direct pack) left
        ∧ Returns (fun fuel => evidenceRecall svc fuel finds req) (.ok left.finish) := by
  rcases recallPack_returns svc finds req with ⟨packed, bound, hpacked⟩
  cases hprepared : prepareRecall svc finds req with
  | error e =>
    left
    refine ⟨e, 0, ?_⟩
    intro fuel _
    unfold evidenceRecall
    rw [hprepared]
  | ok prepared =>
    rcases prepared with ⟨limit, direct⟩
    cases packed with
    | error e =>
      left
      refine ⟨e, bound, ?_⟩
      intro fuel hfuel
      dsimp only at hpacked ⊢
      unfold evidenceRecall
      rw [hprepared]
      dsimp only
      rw [hpacked fuel hfuel]
    | ok pack =>
      rcases EvidenceRecallResponse.limitBytes_returns svc limit
        (assembleRecall svc finds req direct pack) with ⟨out, bound', hout⟩
      have hruns : Returns (fun fuel => evidenceRecall svc fuel finds req) out := by
        refine ⟨max bound bound', ?_⟩
        intro fuel hfuel
        dsimp only at hpacked hout ⊢
        unfold evidenceRecall
        rw [hprepared]
        dsimp only
        rw [hpacked fuel (by omega)]
        exact hout fuel (by omega)
      cases out with
      | error e => exact Or.inl ⟨e, hruns⟩
      | ok response =>
        rcases EvidenceRecallResponse.limitBytes_eq_ok (hout bound' (Nat.le_refl _))
          with ⟨left, hleft, heq⟩
        rw [heq] at hruns
        exact Or.inr ⟨limit, direct, pack, left, rfl, ⟨bound, hpacked⟩, hleft, hruns⟩

/-- What the cut of an assembled response leaves is closed, up to the quotes. -/
theorem leaves_closed (hpack : Returns (fun fuel => recallPack svc fuel finds req) (.ok pack))
    (hleft : Leaves svc limit (assembleRecall svc finds req direct pack) left)
    : left.pack.ReferencesClosed ∧ Partitions left.pack.ids finds.selected := by
  have hcut := hleft.cut
  unfold assembleRecall at hcut
  dsimp only at hcut
  refine ⟨hcut.referencesClosed (capPack_referencesClosed direct.1 direct.2), ?_⟩
  have hids := recallPack_ids hpack
  refine ⟨?_, ?_⟩
  . rw [hcut.ids.nodup_iff, capPack_ids]
    exact hids.1
  . intro id
    rw [hcut.ids.mem_iff, capPack_ids]
    exact hids.2 id

/-- A note of the cut response has its quotes where the source cap left them. -/
theorem leaves_quotesIn_iff
    (hleft : Leaves svc limit (assembleRecall svc finds req direct pack) left)
    (hnote : note ∈ left.pack.notes)
    : QuotesIn left.pack.sources note ↔ QuotesIn (capSources [] 0 (direct.1 ++ pack.sources)).1 note := by
  rw [hleft.cut.quotesIn_iff hnote]
  unfold QuotesIn assembleRecall
  simp only [mem_capPack_sources]

theorem recallHolds_iff : RecallHolds svc finds req ↔ CapKeepsQuotes svc finds req := by
  constructor
  . intro h limit direct pack hprepared hpack note hfits
    rcases h with ⟨out, hout, hholds⟩
    rcases fitsWith_iff.mp hfits with ⟨left, hleft, hnote⟩
    have hruns : Returns (fun fuel => evidenceRecall svc fuel finds req) (.ok left.finish) := by
      rcases hpack with ⟨bound, hbound⟩
      rcases hleft.limitBytes with ⟨bound', hbound'⟩
      refine ⟨max bound bound', ?_⟩
      intro fuel hfuel
      dsimp only at hbound hbound' ⊢
      unfold evidenceRecall
      rw [hprepared]
      dsimp only
      rw [hbound fuel (by omega)]
      exact hbound' fuel (by omega)
    have hclosed := (hholds left.finish (hout.unique hruns)).1.quotes note hnote
    exact (leaves_quotesIn_iff hleft hnote).mp hclosed
  . intro h
    rcases evidenceRecall_returns svc finds req with ⟨e, he⟩
      | ⟨limit, direct, pack, left, hprepared, hpack, hleft, hruns⟩
    . refine ⟨.error e, he, ?_⟩
      intro response heq
      cases heq
    . refine ⟨.ok left.finish, hruns, ?_⟩
      intro response heq
      cases heq
      have hclosed := leaves_closed hpack hleft
      refine ⟨⟨hclosed.1, ?_, hclosed.2⟩, limit, prepareRecall_limit hprepared, ?_⟩
      . intro note hnote
        have hfits := fitsWith_iff.mpr ⟨left, hleft, hnote⟩
        exact (leaves_quotesIn_iff hleft hnote).mpr
          (h limit direct pack hprepared hpack note hfits)
      . exact Nat.le_trans (EvidenceRecallResponse.size_finish svc left) hleft.size

/-- A text of `n` times one character. -/
def longText (c : Char) (n : Nat) : String := String.ofList (List.replicate n c)

/-- A response to a note that quotes the beginning of a long original. -/
def longNote (window : String) : NoteEvidenceResponse := {
  note := {
    noteId := 1
    tenantId := "t"
    projectId := "p"
    agentId := "a"
    scope := "agent_private"
    type := "fact"
    key := none
    text := "aa"
    importance := .fin 0
    confidence := .fin 0
    status := "active"
    updatedAt := 0
    expiresAt := none
    sourceRef := .obj [("evidence", .arr [.obj [("quote", .str "b")]])]
    structured := none }
  sources := [{
    metadata := {
      docId := 2
      tenantId := "t"
      projectId := "p"
      agentId := "a"
      scope := "agent_private"
      docType := "knowledge"
      status := "active"
      title := none
      sourceRef := .obj []
      contentBytes := 16000
      contentHash := "h"
      createdAt := 0
      updatedAt := 0 }
    excerpt := {
      reference := some (sourceReference 2 "h" 0 16000)
      docId := 2
      excerpt := window
      startOffset := 0
      endOffset := 16000
      locator := ⟨0, "position", 0, 16000, none, none, some ⟨0, 16000⟩⟩
      verification := ⟨true, [], "h", "h"⟩ } }]
  complete := true }

def longSource (original : String) : EvidencePackSource := {
  reference := sourceReference 3 "h" 0 17000
  docId := 3
  contentHash := "h"
  start := 0
  stop := 17000
  text := original
  title := none
  origin := none
  sourceTimestamp := none
  capturedAt := 0 }

/-- What a recall finds where the window of an original and that of a note exceed the source cap. -/
def longFinds (original window : String) : RecallFinds := {
  rows := [⟨1, .obj [], true, []⟩]
  originals := [⟨3, 0, 2⟩]
  resolve := fun _ _ => .ok (longNote window)
  window := fun _ => .ok (longSource original) }

def longRequest : EvidenceRecallRequest := {
  tenantId := "t"
  projectId := "p"
  agentId := "a"
  readProfile := "private_only"
  subjects := ["aa"]
  asOf := none
  maxBytes := none }

/-- The pack of the note. -/
def longPack (window : String) : EvidencePackResponse := {
  schema := "elf.evidence_pack/v1"
  notes := [{
    noteId := 1
    noteType := "fact"
    projectId := "p"
    scope := "agent_private"
    text := "aa"
    facts := []
    evidenceQuotes := ["b"]
    sourceReferences := [sourceReference 2 "h" 0 16000]
    complete := true }]
  sources := [{
    reference := sourceReference 2 "h" 0 16000
    docId := 2
    contentHash := "h"
    start := 0
    stop := 16000
    text := window
    title := none
    origin := none
    sourceTimestamp := none
    capturedAt := 0 }]
  complete := true
  sourceBytes := 16000
  omittedNoteIds := [] }

/-- The note without the reference to its window. -/
def longRecallNote : EvidencePackNote := {
  noteId := 1
  noteType := "fact"
  projectId := "p"
  scope := "agent_private"
  text := "aa"
  facts := []
  evidenceQuotes := ["b"]
  sourceReferences := []
  complete := false }

/-- The response before it is cut: the window of the note is not among its sources. -/
def longRecall (original : String) : EvidenceRecallResponse := {
  schema := "elf.evidence_recall/v1"
  asOf := none
  truncated := false
  candidates := [⟨1, true, []⟩]
  pack := {
    schema := "elf.evidence_pack/v1"
    notes := [longRecallNote]
    sources := [longSource original]
    complete := false
    sourceBytes := 17000
    omittedNoteIds := [] } }

section

variable {original window : String}

theorem utf8ByteSize_longText (hc : c.utf8Size = 1) : (longText c n).utf8ByteSize = n := by
  unfold longText
  rw [utf8ByteSize_ofList]
  simp [byteSize, hc]

theorem quoted_longText (hc : c.utf8Size = 1) (hplain : Json.escaped c = [c])
    : byteSize (Json.quoted (longText c n)) = n + 2 := by
  have hquote : '"'.utf8Size = 1 := by decide
  unfold Json.quoted longText
  rw [String.toList_ofList, byteSize_append, byteSize_cons, byteSize_cons]
  have hflat : (List.replicate n c).flatMap Json.escaped = List.replicate n c := by
    induction n with
    | zero => rfl
    | succ n ih => rw [List.replicate_succ, List.flatMap_cons, hplain, ih, List.singleton_append]
  rw [hflat]
  simp [byteSize, hc, hquote]
  omega

theorem contains_longText (n : Nat) : contains (longText 'b' (n + 1)) "b" = true := by
  rw [contains_iff]
  refine ⟨0, 1, "", longText 'b' n, ?_, rfl, rfl⟩
  apply String.toList_injective
  have hquote : "b".toList = ['b'] := by decide
  simp [longText, List.replicate_succ, hquote]

theorem longPack_added (hwindow : window.utf8ByteSize = 16000)
    : addNotes (fun noteId => (longFinds original window).resolve noteId 32768) 32768 .empty [1]
        = .ok (longPack window) := by
  simp only [longFinds, longNote, addNotes, addExpanded, addSources, hwindow,
    EvidencePackResponse.empty]
  rfl

theorem longPack_merged (hwindow : window.utf8ByteSize = 16000)
    (hcontains : contains window "b" = true)
    : mergeOverlaps (longPack window) = some (longPack window) := by
  have hmerge : mergeSources (longPack window).sources = some (longPack window).sources := rfl
  unfold mergeOverlaps
  rw [hmerge, Option.map_some]
  simp [longPack, sourceBytesOf, hwindow, EvidencePackNote.merge, rewriteReference,
    EvidencePackSource.sameVersion, EvidencePackNote.quoted, hcontains, List.eraseDups_cons]

theorem longPack_assembled (hwindow : window.utf8ByteSize = 16000)
    (hcontains : contains window "b" = true)
    : assemblePack sampleReadService (longFinds original window).resolve
        (longRequest.packRequest (longFinds original window)) = .ok (longPack window) := by
  unfold assemblePack
  apply Except.bind_eq_ok.mpr
  refine ⟨(), rfl, ?_⟩
  apply Except.bind_eq_ok.mpr
  refine ⟨["agent_private"], rfl, ?_⟩
  apply Except.bind_eq_ok.mpr
  refine ⟨longPack window, @longPack_added original window hwindow, ?_⟩
  rw [longPack_merged hwindow hcontains]
  rfl

theorem size_longPack (hquoted : byteSize (Json.quoted window) = 16002)
    : (longPack window).size sampleReadService ≤ 32768 := by
  unfold EvidencePackResponse.size serializedSize EvidencePackResponse.toJson longPack
  simp only [utf8ByteSize_ofList, Json.compact, Json.compactEntries, Json.compactItems,
    byteSize_append, byteSize_cons, List.map_cons, List.map_nil, EvidencePackSource.toJson,
    EvidencePackNote.toJson, List.append_assoc, List.cons_append, List.nil_append, hquoted]
  decide +kernel

theorem recallPack_longFinds (hwindow : window.utf8ByteSize = 16000)
    (hquoted : byteSize (Json.quoted window) = 16002) (hcontains : contains window "b" = true)
    : Returns (fun fuel => recallPack sampleReadService fuel (longFinds original window) longRequest)
        (.ok (longPack window)) := by
  have hcandidates : recallCandidates (longFinds original window).rows ≠ [] := by
    have heq : recallCandidates (longFinds original window).rows = [⟨1, true, []⟩] := rfl
    simp [heq]
  refine ⟨1, ?_⟩
  intro fuel hfuel
  dsimp only
  unfold recallPack evidencePack
  rw [if_neg hcandidates, longPack_assembled hwindow hcontains]
  exact shrink_of_shrinks (.refl _) (size_longPack hquoted) hfuel

theorem capSources_longFinds (horiginal : original.utf8ByteSize = 17000)
    (hwindow : window.utf8ByteSize = 16000)
    : capSources [] 0 ([longSource original] ++ (longPack window).sources)
        = ([longSource original], false) := by
  have hne : sourceReference 2 "h" 0 16000 ≠ sourceReference 3 "h" 0 17000 := by decide +kernel
  simp [capSources, longSource, longPack, horiginal, hwindow, hne]

theorem assembleRecall_longFinds (horiginal : original.utf8ByteSize = 17000)
    (hwindow : window.utf8ByteSize = 16000)
    : assembleRecall sampleReadService (longFinds original window) longRequest
        ([longSource original], true) (longPack window) = longRecall original := by
  have hne : sourceReference 3 "h" 0 17000 ≠ sourceReference 2 "h" 0 16000 := by decide +kernel
  unfold assembleRecall capPack
  rw [capSources_longFinds horiginal hwindow]
  simp [sourceBytesOf, longPack, longSource, horiginal, EvidencePackNote.retain, hne, longRecall,
    longRecallNote, visibleCandidates, longRequest]
  exact ⟨rfl, rfl⟩

theorem size_longRecall (hquoted : byteSize (Json.quoted original) = 17002)
    : (longRecall original).size sampleReadService ≤ 32768 := by
  unfold EvidenceRecallResponse.size serializedSize EvidenceRecallResponse.toJson longRecall
    longRecallNote
  simp only [utf8ByteSize_ofList, Json.compact, Json.compactEntries, Json.compactItems,
    byteSize_append, byteSize_cons, List.map_cons, List.map_nil, EvidencePackResponse.toJson,
    EvidencePackSource.toJson, EvidencePackNote.toJson, longSource, List.append_assoc,
    List.cons_append, List.nil_append, hquoted]
  decide +kernel

theorem recall_longFinds (horiginal : original.utf8ByteSize = 17000)
    (hwindow : window.utf8ByteSize = 16000)
    (hquoted : byteSize (Json.quoted original) = 17002)
    (hquoted' : byteSize (Json.quoted window) = 16002) (hcontains : contains window "b" = true)
    : ¬ RecallHolds sampleReadService (longFinds original window) longRequest := by
  rw [recallHolds_iff]
  intro h
  have hprepared : prepareRecall sampleReadService (longFinds original window) longRequest
      = .ok (32768, [longSource original], true) := rfl
  have hquotes := h _ _ _ hprepared (recallPack_longFinds hwindow hquoted' hcontains)
    longRecallNote (by
      rw [assembleRecall_longFinds horiginal hwindow]
      exact ⟨longRecall original, .refl, size_longRecall hquoted, List.mem_cons_self ..⟩)
  rcases hquotes "b" (List.mem_cons_self ..) with ⟨source, -, hcited, -⟩
  cases hcited

end

end Elf
