import Elf.Docs.Excerpts
import Elf.Domain.Lemmas.WritePolicy

/-!
This module contains what the window around a range of a text is: it ends at character boundaries,
is not longer than it may be, and covers every range that fits into it. An excerpt of a document is
such a window, and a verified one is the text of the document over the range that it names.
-/

namespace Elf

open Text

/-! ## Slices -/

theorem isCharBoundary_iff {text : String} {n : Nat}
    : isCharBoundary text n = true ↔ IsBoundary text n := by
  unfold isCharBoundary
  apply isSome_splitAtByte

theorem sliceBytes_eq_some {text part : String} {i j : Nat}
    : sliceBytes text i j = some part ↔ Slice text i j part := by
  unfold sliceBytes
  constructor
  . intro h
    split at h
    . cases h
    next hle =>
      split at h
      next left rest hleft =>
        rcases Option.map_eq_some_iff.mp h with ⟨⟨slice, right⟩, hslice, hpart⟩
        rw [splitAtByte_eq_some] at hleft hslice
        subst hpart
        refine ⟨String.ofList left, String.ofList right, ?_, hleft.2, ?_⟩
        . rw [← String.ofList_append, ← String.ofList_append, List.append_assoc, ← hslice.1,
            ← hleft.1, String.ofList_toList]
        . rw [hslice.2]
          omega
      . cases h
  . intro h
    rcases h with ⟨left, right, htext, hleft, hsize⟩
    rw [if_neg (by omega)]
    have hsplit : splitAtByte text.toList i = some (left.toList, part.toList ++ right.toList) := by
      rw [splitAtByte_eq_some, htext, String.ofList_toList]
      simp [hleft]
    have hpart : splitAtByte (part.toList ++ right.toList) (j - i)
        = some (part.toList, right.toList) := by
      rw [splitAtByte_eq_some, String.ofList_toList]
      exact ⟨rfl, by omega⟩
    simp [hsplit, hpart]

/-! ## Boundaries -/

variable {text : String} {b start stop steps : Nat}

theorem le_ceilBoundary : start ≤ ceilBoundary text steps start := by
  induction steps generalizing start with
  | zero => exact le_refl start
  | succ steps ih =>
    unfold ceilBoundary
    split
    . have := @ih (start + 1)
      omega
    . exact le_refl start

theorem ceilBoundary_le (hb : IsBoundary text b) (h : start ≤ b)
    : ceilBoundary text steps start ≤ b := by
  induction steps generalizing start with
  | zero => exact h
  | succ steps ih =>
    unfold ceilBoundary
    split
    next hnot =>
      apply ih
      apply Nat.lt_of_le_of_ne h
      intro heq
      subst heq
      rw [isCharBoundary_iff.mpr hb] at hnot
      simp at hnot
    . exact h

theorem isBoundary_ceilBoundary (hsteps : text.utf8ByteSize - start ≤ steps)
    (h : start ≤ text.utf8ByteSize) : IsBoundary text (ceilBoundary text steps start) := by
  induction steps generalizing start with
  | zero =>
    have heq : start = text.utf8ByteSize := by omega
    rw [heq]
    exact isBoundary_end text
  | succ steps ih =>
    unfold ceilBoundary
    split
    next hnot =>
      apply ih
      . omega
      . omega
    next hnot =>
      rcases Nat.lt_or_eq_of_le h with hlt | heq
      . rw [← isCharBoundary_iff]
        simpa [hlt] using hnot
      . rw [heq]
        exact isBoundary_end text

theorem floorBoundary_le : floorBoundary text start stop ≤ stop := by
  induction stop with
  | zero => exact le_refl 0
  | succ stop ih =>
    unfold floorBoundary
    split
    . omega
    . exact le_refl _

theorem le_floorBoundary (hb : IsBoundary text b) (h : b ≤ stop)
    : b ≤ floorBoundary text start stop := by
  induction stop with
  | zero => simpa [floorBoundary] using h
  | succ stop ih =>
    unfold floorBoundary
    split
    next hnot =>
      apply ih
      apply Nat.le_of_lt_succ
      apply Nat.lt_of_le_of_ne h
      intro heq
      subst heq
      rw [isCharBoundary_iff.mpr hb] at hnot
      simp at hnot
    . exact h

theorem isBoundary_floorBoundary (h : start < floorBoundary text start stop)
    : IsBoundary text (floorBoundary text start stop) := by
  induction stop with
  | zero => exact isBoundary_zero text
  | succ stop ih =>
    unfold floorBoundary at h ⊢
    split
    next hnot =>
      rw [if_pos hnot] at h
      exact ih h
    next hnot =>
      rw [if_neg hnot] at h
      rw [← isCharBoundary_iff]
      simpa [h] using hnot

/-! ## Windows -/

theorem boundedWindow_size (matchStart matchEnd : Nat) (text : String) (maxBytes : Nat)
    : (boundedWindow matchStart matchEnd text maxBytes).2
        ≤ (boundedWindow matchStart matchEnd text maxBytes).1 + maxBytes := by
  unfold boundedWindow
  simp only
  generalize hstart : matchStart + (matchEnd - matchStart) / 2 - maxBytes / 2 = start
  split
  next h =>
    have hceil := @le_ceilBoundary text
      (start - (maxBytes - (min (start + maxBytes) text.utf8ByteSize - start))) text.utf8ByteSize
    have hfloor := @floorBoundary_le text (ceilBoundary text text.utf8ByteSize
      (start - (maxBytes - (min (start + maxBytes) text.utf8ByteSize - start))))
      (min (start + maxBytes) text.utf8ByteSize)
    omega
  next h =>
    have hceil := @le_ceilBoundary text start text.utf8ByteSize
    have hfloor := @floorBoundary_le text (ceilBoundary text text.utf8ByteSize start)
      (min (start + maxBytes) text.utf8ByteSize)
    omega

/-- A window around a range that fits into it. -/
structure Covers (text : String) (i j : Nat) (window : Nat × Nat) : Prop where
  left : window.1 ≤ i
  right : j ≤ window.2
  isBoundary_left : IsBoundary text window.1
  isBoundary_right : IsBoundary text window.2

theorem boundedWindow_covers {i j maxBytes : Nat} (hi : IsBoundary text i) (hj : IsBoundary text j)
    (hle : i ≤ j) (hfits : j - i ≤ maxBytes)
    : Covers text i j (boundedWindow i j text maxBytes) := by
  have hjlen := hj.le
  unfold boundedWindow
  simp only
  generalize hstart : i + (j - i) / 2 - maxBytes / 2 = start
  have hstarti : start ≤ i := by omega
  have hstop : j ≤ min (start + maxBytes) text.utf8ByteSize := by omega
  generalize min (start + maxBytes) text.utf8ByteSize = stop at hstop
  generalize hfirst : (if stop - start < maxBytes ∧ 0 < start then
    start - (maxBytes - (stop - start)) else start) = first
  have hfirsti : first ≤ i := by
    rw [← hfirst]
    split
    . omega
    . exact hstarti
  have hceil := @ceilBoundary_le text i first text.utf8ByteSize hi hfirsti
  have hboundary := @isBoundary_ceilBoundary text first text.utf8ByteSize (by omega) (by omega)
  generalize ceilBoundary text text.utf8ByteSize first = left at hceil hboundary
  have hfloor := @le_floorBoundary text j left stop hj hstop
  refine ⟨hceil, by omega, hboundary, ?_⟩
  dsimp only
  rcases Nat.lt_or_ge left (floorBoundary text left stop) with hlt | hge
  . rw [Nat.max_eq_left (by omega)]
    exact isBoundary_floorBoundary hlt
  . rw [Nat.max_eq_right (by omega)]
    exact hboundary

end Elf

/-! ## Excerpts -/

namespace Elf

open Text

variable {svc : ReadService} {db : DocStore} {docId : Uuid} {doc : DocDocument}

/-! ## Access -/

/-- The reader sees the document. -/
structure Reads (svc : ReadService) (db : DocStore) (context : ReadContext) (docId : Uuid)
    (doc : DocDocument) : Prop where
  valid : context.trim.validate = .ok ()
  load : loadDocsExcerptContext svc db context.trim docId = .ok doc

theorem Reads.find (h : Reads svc db context docId doc) : db.documents.find? docId = some doc := by
  have hload := h.load
  unfold loadDocsExcerptContext at hload
  rcases Except.bind_eq_ok.mp hload with ⟨scopes, -, hload⟩
  rcases Except.bind_eq_ok.mp hload with ⟨row, hrow, hload⟩
  rcases Except.bind_eq_ok.mp hload with ⟨_, -, hpure⟩
  rw [Except.pure_eq_ok] at hpure
  rw [hpure]
  rw [Except.ofOption_eq_ok] at hrow
  unfold loadDocDocumentForRead at hrow
  exact (Option.filter_eq_some_iff.mp hrow).1

theorem Reads.unique (h : Reads svc db context docId doc) (h' : Reads svc db context docId doc')
    : doc' = doc := by
  have heq := h.load.symm.trans h'.load
  cases heq
  rfl

/-- No grant opens a private document. -/
theorem docReadAllowed_private (requesterAgentId : String) (allowedScopes : List String)
    (grants grants' : List SharedSpaceGrantKey) (ownerAgentId : String)
    : docReadAllowed requesterAgentId allowedScopes grants ownerAgentId "agent_private"
        = docReadAllowed requesterAgentId allowedScopes grants' ownerAgentId "agent_private" := by
  unfold docReadAllowed
  split
  . rfl
  . rw [if_pos rfl, if_pos rfl]

/-- A document is returned to those who may read excerpts of it. -/
theorem docsGet_eq_ok {context : ReadContext} {response : DocsGetResponse}
    : docsGet svc db ⟨context, docId⟩ = .ok response
        ↔ ∃ doc, Reads svc db context docId doc ∧ response = DocsGetResponse.ofDocument doc := by
  have hallowed : ∀ (row : DocDocument) (scopes : List String),
      docReadAllowed context.trim.agentId scopes
          (if row.scope = "agent_private" then []
            else loadSharedReadGrantsWithOrgShared db.memory context.trim.tenantId
              context.trim.projectId context.trim.agentId (scopes.contains "org_shared"))
          row.agentId row.scope
        = docReadAllowed context.trim.agentId scopes
          (loadSharedReadGrantsWithOrgShared db.memory context.trim.tenantId
            context.trim.projectId context.trim.agentId (scopes.contains "org_shared"))
          row.agentId row.scope := by
    intro row scopes
    split
    next hprivate =>
      rw [hprivate]
      apply docReadAllowed_private
    . rfl
  unfold docsGet
  simp only [Except.bind_eq_ok, Except.rejectIf_eq_ok, Except.ofOption_eq_ok, Except.pure_eq_ok,
    hallowed]
  constructor
  . intro h
    rcases h with ⟨⟨⟩, hvalid, scopes, hscopes, row, hrow, ⟨⟩, hguard, hresponse⟩
    refine ⟨row, ⟨hvalid, ?_⟩, hresponse⟩
    unfold loadDocsExcerptContext
    simp only [Except.bind_eq_ok, Except.rejectIf_eq_ok, Except.ofOption_eq_ok, Except.pure_eq_ok]
    exact ⟨scopes, hscopes, row, hrow, (), hguard, rfl⟩
  . intro h
    rcases h with ⟨doc, ⟨hvalid, hload⟩, hresponse⟩
    unfold loadDocsExcerptContext at hload
    simp only [Except.bind_eq_ok, Except.rejectIf_eq_ok, Except.ofOption_eq_ok,
      Except.pure_eq_ok] at hload
    rcases hload with ⟨scopes, hscopes, row, hrow, ⟨⟩, hguard, hdoc⟩
    subst hdoc
    exact ⟨(), hvalid, scopes, hscopes, _, hrow, (), hguard, hresponse⟩

/-! ## Excerpts -/

/-- The size that the window of an excerpt may have. -/
def DocsExcerptsGetRequest.window (req : DocsExcerptsGetRequest) (levelMax : Nat)
    (maxBytes : Option Nat) : Nat :=
  min (min levelMax (maxBytes.getD levelMax))
    (req.maxBytes.getD (min levelMax (maxBytes.getD levelMax)))

theorem docsExcerptsGetBounded_eq_ok {req : DocsExcerptsGetRequest} {maxBytes : Option Nat}
    {response : DocsExcerptResponse}
    : docsExcerptsGetBounded svc db req maxBytes = .ok response
        ↔ req.maxBytes ≠ some 0 ∧ validateQuoteSelector req.quote = .ok ()
          ∧ ∃ doc levelMax found, Reads svc db req.context req.docId doc
            ∧ excerptLevelMax req.level = .ok levelMax
            ∧ resolveExcerptsMatchRange db doc req = .ok found
            ∧ response = excerptOfMatch svc doc req (req.window levelMax maxBytes) found := by
  unfold docsExcerptsGetBounded
  simp only [Except.bind_eq_ok, Except.rejectIf_eq_ok, Except.pure_eq_ok, beq_eq_false_iff_ne]
  constructor
  . intro h
    rcases h with ⟨⟨⟩, hmax, ⟨⟩, hvalid, ⟨⟩, hselector, doc, hload, levelMax, hlevel, found,
      hfound, hresponse⟩
    exact ⟨hmax, hselector, doc, levelMax, found, ⟨hvalid, hload⟩, hlevel, hfound, hresponse⟩
  . intro h
    rcases h with ⟨hmax, hselector, doc, levelMax, found, ⟨hvalid, hload⟩, hlevel, hfound,
      hresponse⟩
    exact ⟨(), hmax, (), hvalid, (), hselector, doc, hload, levelMax, hlevel, found, hfound,
      hresponse⟩

section Match

variable {req : DocsExcerptsGetRequest} {levelMax : Nat} {found : DocExcerptMatch}

theorem excerptOfMatch_verified
    : (excerptOfMatch svc doc req levelMax found).verification.verified = true
        ↔ found.verificationErrors = [] ∧ (excerptOfMatch svc doc req levelMax found).excerpt ≠ "" := by
  unfold excerptOfMatch
  simp only [List.isEmpty_iff, List.append_eq_nil_iff]
  apply and_congr_right
  intro _
  split
  next h => simp [h]
  next h => simp [h]

/-- The text of an excerpt, unless there is none. -/
theorem excerptOfMatch_slice (h : (excerptOfMatch svc doc req levelMax found).excerpt ≠ "")
    : Slice doc.content (excerptOfMatch svc doc req levelMax found).startOffset
        (excerptOfMatch svc doc req levelMax found).endOffset
        (excerptOfMatch svc doc req levelMax found).excerpt := by
  unfold excerptOfMatch at h ⊢
  simp only at h ⊢
  generalize boundedWindow found.matchStartOffset found.matchEndOffset doc.content levelMax = window
    at h ⊢
  cases hslice : sliceBytes doc.content window.1 window.2 with
  | none => simp [hslice] at h
  | some part =>
    rw [sliceBytes_eq_some] at hslice
    exact hslice

theorem excerptOfMatch_size
    : (excerptOfMatch svc doc req levelMax found).endOffset
        ≤ (excerptOfMatch svc doc req levelMax found).startOffset + levelMax := by
  apply boundedWindow_size

/-- The excerpt around a range that fits into the window. -/
theorem excerptOfMatch_covers (hi : IsBoundary doc.content found.matchStartOffset)
    (hj : IsBoundary doc.content found.matchEndOffset)
    (hle : found.matchStartOffset ≤ found.matchEndOffset)
    (hfits : found.matchEndOffset - found.matchStartOffset ≤ levelMax)
    : Covers doc.content found.matchStartOffset found.matchEndOffset
        ((excerptOfMatch svc doc req levelMax found).startOffset,
          (excerptOfMatch svc doc req levelMax found).endOffset) := by
  apply boundedWindow_covers hi hj hle hfits

theorem excerptOfMatch_excerpt
    (h : Covers doc.content i j ((excerptOfMatch svc doc req levelMax found).startOffset,
      (excerptOfMatch svc doc req levelMax found).endOffset)) (hle : i ≤ j)
    : Slice doc.content (excerptOfMatch svc doc req levelMax found).startOffset
        (excerptOfMatch svc doc req levelMax found).endOffset
        (excerptOfMatch svc doc req levelMax found).excerpt := by
  have hspan : (excerptOfMatch svc doc req levelMax found).startOffset
      ≤ (excerptOfMatch svc doc req levelMax found).endOffset :=
    Nat.le_trans h.left (Nat.le_trans hle h.right)
  rcases Slice.exists_of_isBoundary h.isBoundary_left h.isBoundary_right hspan with ⟨part, hpart⟩
  have hexcerpt : (excerptOfMatch svc doc req levelMax found).excerpt = part := by
    have hslice := sliceBytes_eq_some.mpr hpart
    unfold excerptOfMatch at hslice ⊢
    simp only at hslice ⊢
    rw [hslice, Option.getD_some]
  rw [hexcerpt]
  exact hpart

/-- The excerpt is verified, and it shows the range. -/
structure Shows (doc : DocDocument) (i j : Nat) (response : DocsExcerptResponse) : Prop where
  slice : Slice doc.content response.startOffset response.endOffset response.excerpt
  left : response.startOffset ≤ i
  right : j ≤ response.endOffset
  verified : response.verification.verified = true

theorem excerpt_shows {quote : String}
    (hquote : Slice doc.content found.matchStartOffset found.matchEndOffset quote)
    (hlt : found.matchStartOffset < found.matchEndOffset)
    (hsize : found.matchEndOffset - found.matchStartOffset ≤ levelMax)
    (herrors : found.verificationErrors = [])
    : Shows doc found.matchStartOffset found.matchEndOffset
        (excerptOfMatch svc doc req levelMax found) := by
  have hcovers := @excerptOfMatch_covers svc doc req levelMax found hquote.isBoundary_left
    hquote.isBoundary_right (Nat.le_of_lt hlt) hsize
  have hexcerpt := excerptOfMatch_excerpt hcovers (Nat.le_of_lt hlt)
  refine ⟨hexcerpt, hcovers.left, hcovers.right, ?_⟩
  rw [excerptOfMatch_verified]
  refine ⟨herrors, ?_⟩
  intro hempty
  have hspan := hexcerpt.size
  have hleft := hcovers.left
  have hright := hcovers.right
  rw [hempty, String.utf8ByteSize_empty] at hspan
  dsimp only at hleft hright
  omega

theorem positionMatch_eq {quote : String} (h : Slice doc.content i j quote)
    : positionMatch doc ⟨i, j⟩ [] = ⟨.position, i, j, []⟩ := by
  unfold positionMatch
  rw [Nat.min_eq_left h.isBoundary_left.le, Nat.min_eq_left h.isBoundary_right.le]

theorem resolveExcerptsMatchRange_position (hchunk : req.chunkId = none) (hquote : req.quote = none)
    (hposition : req.position = some position)
    : resolveExcerptsMatchRange db doc req = .ok (positionMatch doc position []) := by
  unfold resolveExcerptsMatchRange
  rw [hchunk, hquote, hposition]

end Match

end Elf
