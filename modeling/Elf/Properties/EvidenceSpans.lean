import Elf.Lib.Shrink
import Elf.Service.Lemmas.AddEvent
import Elf.Service.MachineArithmetic
import Mathlib.Algebra.Order.BigOperators.Group.List

/-!
This module contains that the spans of a message are all of it in pieces that the limit has room for,
and that a selection of them is resolved, to the text at the position that is recorded with it,
whenever it names spans that there are.
-/

namespace Elf

open Text

/-! ## Pieces of characters -/

section Pieces

variable {maxBytes : Nat} {text : List Char}

theorem byteSize_takeBytes (maxBytes : Nat) (text : List Char)
    : byteSize (takeBytes maxBytes text) ≤ maxBytes := by
  induction text generalizing maxBytes with
  | nil => exact Nat.zero_le _
  | cons c rest ih =>
    unfold takeBytes
    split
    next hfits =>
      have hrest := ih (maxBytes - c.utf8Size)
      rw [byteSize_cons]
      omega
    . exact Nat.zero_le _

/-- Every start of a text that has room is a start of the longest one. -/
theorem prefix_takeBytes {piece : List Char} (h : piece <+: text) (hsize : byteSize piece ≤ maxBytes)
    : piece <+: takeBytes maxBytes text := by
  induction text generalizing maxBytes piece with
  | nil => exact h
  | cons c rest ih =>
    cases piece with
    | nil => exact List.nil_prefix
    | cons d piece =>
      rcases List.cons_prefix_cons.mp h with ⟨heq, hpre⟩
      subst heq
      rw [byteSize_cons] at hsize
      unfold takeBytes
      rw [if_pos (by omega)]
      exact List.cons_prefix_cons.mpr ⟨rfl, ih hpre (by omega)⟩

theorem byteSize_le_of_isPrefix {piece : List Char} (h : piece <+: text)
    : byteSize piece ≤ byteSize text := by
  rcases h with ⟨rest, heq⟩
  rw [← heq, byteSize_append]
  omega

theorem eq_nil_of_byteSize (h : byteSize text = 0) : text = [] := by
  cases text with
  | nil => rfl
  | cons c rest =>
    have := c.utf8Size_pos
    rw [byteSize_cons] at h
    omega

theorem eq_of_prefix_of_byteSize {piece : List Char} (h : piece <+: text)
    (hsize : byteSize text ≤ byteSize piece) : piece = text := by
  rcases h with ⟨rest, heq⟩
  rw [← heq, byteSize_append] at hsize
  have hrest : rest = [] := eq_nil_of_byteSize (by omega)
  rw [← heq, hrest, List.append_nil]

theorem takeBytes_eq_nil_iff {c : Char} {rest : List Char}
    : takeBytes maxBytes (c :: rest) = [] ↔ maxBytes < c.utf8Size := by
  unfold takeBytes
  split
  next hfits =>
    constructor
    . intro h
      cases h
    . intro h
      omega
  next hnot =>
    simp only [true_iff]
    omega

theorem fits_of_mem_takeBytes {c : Char} (h : c ∈ takeBytes maxBytes text) : c.utf8Size ≤ maxBytes := by
  induction text generalizing maxBytes with
  | nil => cases h
  | cons d rest ih =>
    unfold takeBytes at h
    split at h
    next hfits =>
      rcases List.mem_cons.mp h with heq | hrest
      . rw [heq]
        exact hfits
      . have := ih hrest
        omega
    . cases h

theorem firstSpan_isPrefixOf_takeBytes (maxBytes : Nat) (text : List Char)
    : firstSpan maxBytes text <+: takeBytes maxBytes text := by
  unfold firstSpan
  dsimp only
  split
  . exact throughNewline_isPrefixOf _
  . exact List.prefix_rfl

theorem throughNewline_eq_nil_iff : throughNewline text = [] ↔ text = [] := by
  unfold throughNewline
  dsimp only
  split
  . rfl
  next hline =>
    constructor
    . intro h
      rw [h] at hline
      simp at hline
    . intro h
      rw [h]
      rfl

theorem firstSpan_eq_nil_iff : firstSpan maxBytes text = [] ↔ takeBytes maxBytes text = [] := by
  unfold firstSpan
  dsimp only
  split
  . exact throughNewline_eq_nil_iff
  . rfl

theorem fits_of_mem_firstSpan {c : Char} (h : c ∈ firstSpan maxBytes text) : c.utf8Size ≤ maxBytes :=
  fits_of_mem_takeBytes ((firstSpan_isPrefixOf_takeBytes maxBytes text).subset h)

theorem byteSize_firstSpan (maxBytes : Nat) (text : List Char)
    : byteSize (firstSpan maxBytes text) ≤ maxBytes :=
  Nat.le_trans (byteSize_le_of_isPrefix (firstSpan_isPrefixOf_takeBytes maxBytes text))
    (byteSize_takeBytes maxBytes text)

/-- A message is not split if it has a character for which there is no room. -/
theorem evidenceSpansOf_eq_error_iff
    : (∃ e, evidenceSpansOf maxBytes text = .error e) ↔ ∃ c ∈ text, maxBytes < c.utf8Size := by
  fun_induction evidenceSpansOf maxBytes text with
  | case1 text hempty =>
    rw [List.isEmpty_iff.mp hempty]
    simp
  | case2 text hempty hspan =>
    rw [List.length_eq_zero_iff, firstSpan_eq_nil_iff] at hspan
    cases text with
    | nil => simp at hempty
    | cons c rest =>
      rw [takeBytes_eq_nil_iff] at hspan
      exact ⟨fun _ => ⟨c, List.mem_cons_self .., hspan⟩, fun _ => ⟨_, rfl⟩⟩
  | case3 text hempty hspan ih =>
    have hrest : (∃ e, (do
          let spans ← evidenceSpansOf maxBytes (text.drop (firstSpan maxBytes text).length)
          return String.ofList (firstSpan maxBytes text) :: spans) = Except.error e)
        ↔ ∃ e, evidenceSpansOf maxBytes (text.drop (firstSpan maxBytes text).length) = .error e := by
      cases evidenceSpansOf maxBytes (text.drop (firstSpan maxBytes text).length) with
      | error e => exact ⟨fun _ => ⟨e, rfl⟩, fun _ => ⟨e, rfl⟩⟩
      | ok spans =>
        constructor
        . rintro ⟨e, h⟩
          cases h
        . rintro ⟨e, h⟩
          cases h
    rw [hrest, ih]
    constructor
    . rintro ⟨c, hc, hlarge⟩
      exact ⟨c, List.mem_of_mem_drop hc, hlarge⟩
    . rintro ⟨c, hc, hlarge⟩
      rw [← firstSpan_append maxBytes text] at hc
      rcases List.mem_append.mp hc with hfirst | hlater
      . have := fits_of_mem_firstSpan hfirst
        omega
      . exact ⟨c, hlater, hlarge⟩

/-- The spans of a message have text, for which there is room. -/
theorem evidenceSpansOf_fits {spans : List String} (h : evidenceSpansOf maxBytes text = .ok spans)
    : ∀ span ∈ spans, span ≠ "" ∧ span.utf8ByteSize ≤ maxBytes := by
  induction hn : text.length using Nat.strongRecOn generalizing text spans with
  | ind n ih =>
    unfold evidenceSpansOf at h
    split at h
    . cases h
      simp
    next hempty =>
      split at h
      . cases h
      next hspan =>
        rcases Except.bind_eq_ok.mp h with ⟨rest, hrest, hspans⟩
        have hlt : (text.drop (firstSpan maxBytes text).length).length < n := by
          have := List.length_pos_of_ne_nil (mt List.isEmpty_iff.mpr hempty)
          rw [List.length_drop]
          omega
        rw [Except.pure_eq_ok.mp hspans, List.forall_mem_cons]
        refine ⟨⟨?_, ?_⟩, ih _ hlt hrest rfl⟩
        . intro hnil
          apply hspan
          rw [List.length_eq_zero_iff]
          simpa using congrArg String.toList hnil
        . rw [utf8ByteSize_ofList]
          exact byteSize_firstSpan maxBytes text

end Pieces

/-! ## The loop on byte offsets -/

section Bytes

variable {text left right : String} {start maxBytes : Nat}

/-- A start of what follows an offset is a slice. -/
theorem slice_of_isPrefix (htext : text = left ++ right) (hstart : left.utf8ByteSize = start)
    {piece : List Char} (h : piece <+: right.toList)
    : Slice text start (start + byteSize piece) (String.ofList piece) := by
  rcases h with ⟨rest, hrest⟩
  refine ⟨left, String.ofList rest, ?_, hstart, ?_⟩
  . apply String.toList_injective
    rw [htext, String.append_assoc, String.toList_append, String.toList_append, String.toList_append,
      String.toList_ofList, String.toList_ofList, hrest]
  . rw [utf8ByteSize_ofList]

/-- What a slice that begins at an offset has is a start of what follows it. -/
theorem prefix_of_slice (htext : text = left ++ right) (hstart : left.utf8ByteSize = start)
    {piece : String} (h : Slice text start stop piece) : piece.toList <+: right.toList := by
  rcases h with ⟨before, after, heq, hbefore, -⟩
  rw [htext, String.append_assoc] at heq
  have hright := (append_inj_of_utf8ByteSize heq (hstart.trans hbefore.symm)).2
  exact ⟨after.toList, by rw [hright, String.toList_append]⟩

theorem utf8ByteSize_right (htext : text = left ++ right) (hstart : left.utf8ByteSize = start)
    : start + byteSize right.toList = text.utf8ByteSize := by
  rw [htext, String.utf8ByteSize_append, hstart, ← utf8ByteSize_ofList, String.ofList_toList]

/-- Backing off to a boundary leaves the longest start that has room. -/
theorem floorBoundary_takeBytes (htext : text = left ++ right) (hstart : left.utf8ByteSize = start)
    : floorBoundary text 0 (min (start + maxBytes) text.utf8ByteSize)
      = start + byteSize (takeBytes maxBytes right.toList) := by
  have hsize := utf8ByteSize_right htext hstart
  have htake := slice_of_isPrefix htext hstart (takeBytes_isPrefixOf maxBytes right.toList)
  have htakesize := byteSize_takeBytes maxBytes right.toList
  have htakele := byteSize_le_of_isPrefix (takeBytes_isPrefixOf maxBytes right.toList)
  generalize hstop : min (start + maxBytes) text.utf8ByteSize = stop
  apply Nat.le_antisymm
  . have hfrom : IsBoundary text start := ⟨left, right, htext, hstart⟩
    have hge := @le_floorBoundary text start 0 stop hfrom (by omega)
    have hle : floorBoundary text 0 stop ≤ stop := floorBoundary_le
    have hto : IsBoundary text (floorBoundary text 0 stop) := by
      rcases Nat.eq_zero_or_pos (floorBoundary text 0 stop) with hzero | hpos
      . rw [hzero]
        exact isBoundary_zero text
      . exact isBoundary_floorBoundary hpos
    rcases Slice.exists_of_isBoundary hfrom hto hge with ⟨piece, hpiece⟩
    have hbytes := hpiece.size
    rw [← String.ofList_toList (s := piece), utf8ByteSize_ofList] at hbytes
    have hpre := prefix_takeBytes (prefix_of_slice htext hstart hpiece)
      (show byteSize piece.toList ≤ maxBytes by omega)
    have := byteSize_le_of_isPrefix hpre
    omega
  . apply le_floorBoundary htake.isBoundary_right
    omega

theorem throughNewline_of_rfindNewline {window : String}
    : match rfindNewline window with
      | some newline => byteSize (throughNewline window.toList) = newline + 1
      | none => throughNewline window.toList = window.toList := by
  unfold rfindNewline throughNewline
  dsimp only
  cases hline : (window.toList.rdropWhile (· != '\n')).isEmpty with
  | true => rfl
  | false =>
    have hne : window.toList.rdropWhile (· != '\n') ≠ [] := by
      rw [← List.isEmpty_eq_false_iff]
      exact hline
    have hpos : byteSize (window.toList.rdropWhile (· != '\n')) ≠ 0 := fun hzero =>
      hne (eq_nil_of_byteSize hzero)
    simp only [Bool.false_eq_true, if_false]
    omega

theorem firstSpan_of_lt {text : List Char}
    (h : byteSize (takeBytes maxBytes text) < byteSize text)
    : firstSpan maxBytes text = throughNewline (takeBytes maxBytes text) := by
  have hpre := takeBytes_isPrefixOf maxBytes text
  have hlength : (takeBytes maxBytes text).length < text.length := by
    apply Nat.lt_of_le_of_ne hpre.length_le
    intro heq
    rw [hpre.eq_of_length heq] at h
    omega
  unfold firstSpan
  dsimp only
  rw [if_pos hlength]

theorem firstSpan_of_le {text : List Char}
    (h : byteSize text ≤ byteSize (takeBytes maxBytes text)) : firstSpan maxBytes text = text := by
  have heq := eq_of_prefix_of_byteSize (takeBytes_isPrefixOf maxBytes text) h
  unfold firstSpan
  rw [heq]
  simp

theorem spanEnd_eq (htext : text = left ++ right) (hstart : left.utf8ByteSize = start)
    (hlen : text.utf8ByteSize ≤ maxTextBytes) (hsum : start + maxBytes < Word.size)
    : spanEnd text maxBytes start
      = some (if takeBytes maxBytes right.toList = [] then .error spanLimitTooSmall
          else .ok (start + byteSize (firstSpan maxBytes right.toList))) := by
  have hsize := utf8ByteSize_right htext hstart
  have htake := takeBytes_isPrefixOf maxBytes right.toList
  have hbytes : text.utf8ByteSize ≤ 2 ^ 63 - 1 := hlen
  unfold spanEnd
  rw [Word.add_eq_some hsum]
  simp only [Option.bind_eq_bind, Option.bind_some]
  rw [floorBoundaryChecked_eq (Nat.min_le_right ..), Option.bind_some,
    floorBoundary_takeBytes htext hstart]
  by_cases hnil : takeBytes maxBytes right.toList = []
  . rw [if_pos hnil, hnil, if_pos (show start + byteSize [] = start from rfl)]
    rfl
  . have hpos : byteSize (takeBytes maxBytes right.toList) ≠ 0 := fun hzero =>
      hnil (eq_nil_of_byteSize hzero)
    rw [if_neg hnil, if_neg (by omega)]
    split
    next hlt =>
      rw [sliceBytes_eq_some.mpr (slice_of_isPrefix htext hstart htake), Option.bind_some,
        firstSpan_of_lt (by omega)]
      have hline := @throughNewline_of_rfindNewline
        (String.ofList (takeBytes maxBytes right.toList))
      rw [String.toList_ofList] at hline
      split
      next newline hfound =>
        rw [hfound] at hline
        dsimp only at hline
        have hle := byteSize_le_of_isPrefix
          (throughNewline_isPrefixOf (takeBytes maxBytes right.toList))
        have hlower := byteSize_le_of_isPrefix htake
        rw [Word.add_eq_some (by unfold Word.size; omega), Option.bind_some,
          Word.add_eq_some (by unfold Word.size; omega), Option.bind_some, hline]
        rfl
      next hnone =>
        rw [hnone] at hline
        rw [hline]
        rfl
    next hge =>
      have hwhole := @firstSpan_of_le maxBytes right.toList (by omega)
      have heq := eq_of_prefix_of_byteSize htake (by omega)
      rw [hwhole, heq]
      rfl

/-- The loop splits what follows an offset as the recursion on characters does. After the first span
of a longer message the limit is less than the message, so that no addition wraps around. -/
theorem spansFrom_eq (htext : text = left ++ right) (hstart : left.utf8ByteSize = start)
    (hlen : text.utf8ByteSize ≤ maxTextBytes) (hmax : maxBytes < Word.size)
    (hlimit : right.toList ≠ [] → start = 0 ∨ maxBytes ≤ text.utf8ByteSize)
    (hfuel : right.toList.length < fuel)
    : spansFrom text maxBytes fuel start = some (evidenceSpansOf maxBytes right.toList) := by
  induction fuel generalizing left right start with
  | zero => omega
  | succ fuel ih =>
    have hsize := utf8ByteSize_right htext hstart
    have hbytes : text.utf8ByteSize ≤ 2 ^ 63 - 1 := hlen
    have hwords : maxBytes < 2 ^ 64 := hmax
    unfold spansFrom evidenceSpansOf
    by_cases hempty : right.toList = []
    . rw [hempty] at hsize ⊢
      rw [if_neg (by unfold byteSize at hsize; simp at hsize; omega)]
      rfl
    . have hpos : byteSize right.toList ≠ 0 := fun hzero => hempty (eq_nil_of_byteSize hzero)
      have hisEmpty : ¬right.toList.isEmpty = true := mt List.isEmpty_iff.mp hempty
      have hroom := hlimit hempty
      rw [if_pos (by omega), if_neg hisEmpty,
        spanEnd_eq htext hstart hlen (by unfold Word.size; omega)]
      by_cases hspan : takeBytes maxBytes right.toList = []
      . rw [if_pos hspan, dif_pos (by rw [firstSpan_eq_nil_iff.mpr hspan]; rfl)]
        rfl
      . have hfirst := firstSpan_isPrefixOf maxBytes right.toList
        have happend := firstSpan_append maxBytes right.toList
        have hne : (firstSpan maxBytes right.toList).length ≠ 0 := by
          rw [Ne, List.length_eq_zero_iff, firstSpan_eq_nil_iff]
          exact hspan
        rw [if_neg hspan, dif_neg hne]
        dsimp only
        rw [sliceBytes_eq_some.mpr (slice_of_isPrefix htext hstart hfirst)]
        generalize hrest : right.toList.drop (firstSpan maxBytes right.toList).length = rest
        rw [hrest] at happend
        have hlength := congrArg List.length happend
        rw [List.length_append] at hlength
        have hnext := @ih (left ++ String.ofList (firstSpan maxBytes right.toList))
          (String.ofList rest) (start + byteSize (firstSpan maxBytes right.toList))
        rw [String.toList_ofList] at hnext
        simp only [Option.bind_eq_bind, Option.bind_some]
        rw [hnext]
        . rfl
        . apply String.toList_injective
          simp only [htext, String.toList_append, String.toList_ofList, List.append_assoc, happend]
        . rw [String.utf8ByteSize_append, hstart, utf8ByteSize_ofList]
        . intro hmore
          right
          by_contra hlarge
          have hwhole := prefix_takeBytes (List.prefix_refl right.toList)
            (show byteSize right.toList ≤ maxBytes by omega)
          have hall := firstSpan_of_le (byteSize_le_of_isPrefix hwhole)
          rw [hall, List.append_right_eq_self] at happend
          exact hmore happend
        . omega

end Bytes

/-- The loop over all messages ends, with what the recursion on characters returns. -/
theorem evidenceSpansBytes_returns {messages : List String} {maxBytes : Nat}
    (hmessages : ∀ text ∈ messages, text.utf8ByteSize ≤ maxTextBytes) (hmax : maxBytes < Word.size)
    : Returns (fun fuel => evidenceSpansBytes fuel messages maxBytes)
      (evidenceSpans messages maxBytes) := by
  refine ⟨(messages.map fun text => text.toList.length).sum + 1, ?_⟩
  intro fuel hfuel
  apply Except.mapChecked_eq
  intro text htext
  have hlength := List.le_sum_of_mem (List.mem_map_of_mem (f := fun text => text.toList.length) htext)
  have htext' : text = "" ++ text := by rw [String.empty_append]
  apply spansFrom_eq htext' rfl
  . exact hmessages text htext
  . exact hmax
  . exact fun _ => Or.inl rfl
  . omega

/-! ## Spans -/

/-- The offset of a span in its message. -/
def offsetOf (pieces : List String) (id : Nat) : Nat := ((pieces.take id).map String.utf8ByteSize).sum

/-- What the spans of a message are. -/
structure Splits (maxBytes : Nat) (text : String) (pieces : List String) : Prop where
  nonempty : ∀ piece ∈ pieces, piece ≠ ""
  size : ∀ piece ∈ pieces, piece.utf8ByteSize ≤ maxBytes
  contiguous : ∀ (id : Nat) (piece : String), pieces[id]? = some piece →
    Slice text (offsetOf pieces id) (offsetOf pieces (id + 1)) piece
  whole : String.join pieces = text
  ids : ((spanEntries pieces).map Prod.fst).Nodup
  entries : ∀ id piece, (id, piece) ∈ spanEntries pieces ↔ pieces[id]? = some piece

theorem offsetOf_succ {pieces : List String} {id : Nat} {piece : String} (h : pieces[id]? = some piece)
    : offsetOf pieces (id + 1) = offsetOf pieces id + piece.utf8ByteSize := by
  unfold offsetOf
  rw [List.take_add_one, h]
  simp

theorem mem_spanEntries {pieces : List String} {id : Nat} {piece : String}
    : (id, piece) ∈ spanEntries pieces ↔ pieces[id]? = some piece := by
  unfold spanEntries
  rw [← List.mem_zipIdx_iff_getElem? (x := (piece, id)), List.mem_map]
  constructor
  . rintro ⟨⟨text, index⟩, hmem, heq⟩
    cases heq
    exact hmem
  . intro h
    exact ⟨(piece, id), h, rfl⟩

theorem nodup_spanEntries (pieces : List String) : ((spanEntries pieces).map Prod.fst).Nodup := by
  have hids : (spanEntries pieces).map Prod.fst = List.range' 0 pieces.length := by
    unfold spanEntries
    rw [List.map_map, ← List.zipIdx_map_snd 0 pieces]
    rfl
  rw [hids]
  exact List.nodup_range'

theorem splits_of_evidenceSpansOf {maxBytes : Nat} {text : String} {pieces : List String}
    (h : evidenceSpansOf maxBytes text.toList = .ok pieces) : Splits maxBytes text pieces := by
  have hfits := evidenceSpansOf_fits h
  have hjoin := evidenceSpansOf_join h
  rw [String.ofList_toList] at hjoin
  constructor
  case nonempty => exact fun piece hpiece => (hfits piece hpiece).1
  case size => exact fun piece hpiece => (hfits piece hpiece).2
  case whole => exact hjoin
  case ids => exact nodup_spanEntries pieces
  case entries => exact fun id piece => mem_spanEntries
  case contiguous =>
    intro id piece hpiece
    rcases List.getElem?_eq_some_iff.mp hpiece with ⟨hlt, hget⟩
    have hselect : selectSpans pieces id id = some [piece] := by
      unfold selectSpans
      rw [if_pos ⟨Nat.le_refl id, hlt⟩, List.take_add_one, hpiece, List.drop_append_of_le_length]
      . simp
      . simp
        omega
    have hslice := selectSpans_slice hselect
    rw [hjoin, String.join_cons] at hslice
    rw [offsetOf_succ hpiece]
    simpa [offsetOf] using hslice

theorem Splits.bytes {maxBytes : Nat} {text : String} {pieces : List String}
    (h : Splits maxBytes text pieces)
    : (pieces.map String.utf8ByteSize).sum = text.utf8ByteSize := by
  rw [← utf8ByteSize_join_eq, h.whole]

theorem Splits.length_le {maxBytes : Nat} {text : String} {pieces : List String}
    (h : Splits maxBytes text pieces) : pieces.length ≤ text.utf8ByteSize := by
  rw [← h.bytes, ← List.length_map (f := String.utf8ByteSize)]
  apply List.length_le_sum_of_one_le
  intro size hsize
  rcases List.mem_map.mp hsize with ⟨piece, hpiece, heq⟩
  rw [← heq]
  exact utf8ByteSize_pos (h.nonempty piece hpiece)

/-! ## Selections -/

def EvidenceSelection.lastSpanId (selection : EvidenceSelection) : Nat :=
  selection.endSpanId.getD selection.spanId

/-- The selection names spans of one message, from one up to another. -/
def EvidenceSelection.Names (selection : EvidenceSelection) (spans : List (List String)) : Prop :=
  ∃ pieces, spans[selection.messageIndex]? = some pieces
    ∧ selection.spanId ≤ selection.lastSpanId ∧ selection.lastSpanId < pieces.length

/-- The quote is the text of its message at its position, which is that of the selected spans. -/
def EvidenceQuote.Quotes (quote : EvidenceQuote) (messages : List String)
    (spans : List (List String)) (selection : EvidenceSelection) : Prop :=
  quote.messageIndex = selection.messageIndex
    ∧ ∃ text pieces position, messages[selection.messageIndex]? = some text
      ∧ spans[selection.messageIndex]? = some pieces ∧ quote.position = some position
      ∧ position = ⟨offsetOf pieces selection.spanId, offsetOf pieces (selection.lastSpanId + 1)⟩
      ∧ Slice text position.start position.stop quote.quote

theorem selectSpans_eq_some {pieces selected : List String} {first last : Nat}
    : selectSpans pieces first last = some selected ↔ first ≤ last ∧ last < pieces.length
        ∧ selected = (pieces.take (last + 1)).drop first := by
  unfold selectSpans
  split
  next hrange =>
    rw [Option.some.injEq]
    constructor
    . intro h
      exact ⟨hrange.1, hrange.2, h.symm⟩
    . intro h
      exact h.2.2.symm
  next hrange =>
    constructor
    . intro h
      cases h
    . intro h
      exact absurd ⟨h.1, h.2.1⟩ hrange

theorem resolveSelection_eq_ok {spans : List (List String)} {selection : EvidenceSelection}
    {quote : EvidenceQuote}
    : resolveSelection spans selection = .ok quote ↔ ∃ pieces selected,
        spans[selection.messageIndex]? = some pieces
        ∧ selectSpans pieces selection.spanId selection.lastSpanId = some selected
        ∧ quote = ⟨some ⟨offsetOf pieces selection.spanId, offsetOf pieces selection.spanId
            + (String.join selected).utf8ByteSize⟩, selection.messageIndex, String.join selected⟩ := by
  simp only [resolveSelection, Except.bind_eq_ok, Except.ofOption_eq_ok, Except.pure_eq_ok]
  constructor
  . rintro ⟨pieces, hpieces, selected, hselected, heq⟩
    exact ⟨pieces, selected, hpieces, hselected, heq⟩
  . rintro ⟨pieces, selected, hpieces, hselected, heq⟩
    exact ⟨pieces, hpieces, selected, hselected, heq⟩

theorem resolveSelection_ok_iff {spans : List (List String)} {selection : EvidenceSelection}
    : (∃ quote, resolveSelection spans selection = .ok quote) ↔ selection.Names spans := by
  simp only [resolveSelection_eq_ok, selectSpans_eq_some]
  constructor
  . rintro ⟨quote, pieces, selected, hpieces, ⟨hle, hlt, -⟩, -⟩
    exact ⟨pieces, hpieces, hle, hlt⟩
  . rintro ⟨pieces, hpieces, hle, hlt⟩
    exact ⟨_, pieces, _, hpieces, ⟨hle, hlt, rfl⟩, rfl⟩

/-- The bytes of the spans from one up to another. -/
theorem offsetOf_range {pieces selected : List String} {first last : Nat}
    (h : selectSpans pieces first last = some selected)
    : offsetOf pieces first + (String.join selected).utf8ByteSize = offsetOf pieces (last + 1) := by
  rcases selectSpans_eq_some.mp h with ⟨hle, -, heq⟩
  unfold offsetOf
  rw [utf8ByteSize_join_eq, ← List.sum_append, ← List.map_append, heq]
  have htake := List.take_append_drop first (pieces.take (last + 1))
  rw [List.take_take, Nat.min_eq_left (by omega)] at htake
  rw [htake]

theorem resolveSelection_quotes {messages : List String} {maxBytes : Nat}
    {spans : List (List String)} {selection : EvidenceSelection} {quote : EvidenceQuote}
    (hspans : List.Forall₂ (Splits maxBytes) messages spans)
    (h : resolveSelection spans selection = .ok quote) : quote.Quotes messages spans selection := by
  rcases resolveSelection_eq_ok.mp h with ⟨pieces, selected, hpieces, hselected, heq⟩
  rcases List.getElem?_eq_some_iff.mp hpieces with ⟨hlt, hget⟩
  have hmessage : selection.messageIndex < messages.length := by
    rw [hspans.length_eq]
    exact hlt
  have hsplits := hspans.get hmessage hlt
  simp only [List.get_eq_getElem, hget] at hsplits
  have hslice := selectSpans_slice hselected
  have hrange := offsetOf_range hselected
  unfold offsetOf at hrange
  rw [hsplits.whole, hrange] at hslice
  refine ⟨by rw [heq], messages[selection.messageIndex], pieces, _,
    List.getElem?_eq_getElem hmessage, hpieces, by rw [heq], ?_, ?_⟩
  . rw [offsetOf_range hselected]
  . rw [heq]
    dsimp only
    rw [offsetOf_range hselected]
    exact hslice

theorem getInclusive_eq {pieces : List String} (first last : Nat) (h : pieces.length < Word.size)
    : (getInclusive pieces first last).filter (fun pieces => !pieces.isEmpty)
      = selectSpans pieces first last := by
  unfold getInclusive selectSpans
  split
  next hlast =>
    rw [if_neg (by omega)]
    rfl
  next hlast =>
    split
    next hrange =>
      have hlength : ((pieces.take (last + 1)).drop first).length = last + 1 - first := by
        rw [List.length_drop, List.length_take]
        omega
      by_cases hle : first ≤ last
      . rw [if_pos ⟨hle, by omega⟩, Option.filter_some, if_pos]
        rw [Bool.not_eq_true', List.isEmpty_eq_false_iff, ← List.length_pos_iff]
        omega
      . rw [if_neg (by omega), Option.filter_some, if_neg]
        rw [Bool.not_eq_true', Bool.not_eq_false, List.isEmpty_iff, ← List.length_eq_zero_iff]
        omega
    next hrange =>
      rw [if_neg (by omega)]
      rfl

theorem sumBytes_eq {pieces : List String} {start : Nat}
    (h : start + (pieces.map String.utf8ByteSize).sum < Word.size)
    : sumBytes start pieces = some (start + (pieces.map String.utf8ByteSize).sum) := by
  induction pieces generalizing start with
  | nil => rfl
  | cons piece pieces ih =>
    rw [List.map_cons, List.sum_cons] at h ⊢
    unfold sumBytes
    rw [Word.add_eq_some (by omega), Option.bind_some, ih (by omega), Nat.add_assoc]

/-- Selections of spans of messages that are in memory do not leave the words. -/
theorem resolveSelectionBytes_eq {messages : List String} {maxBytes : Nat}
    {spans : List (List String)} (hmessages : ∀ text ∈ messages, text.utf8ByteSize ≤ maxTextBytes)
    (hspans : List.Forall₂ (Splits maxBytes) messages spans) (selection : EvidenceSelection)
    : resolveSelectionBytes spans selection = some (resolveSelection spans selection) := by
  unfold resolveSelectionBytes resolveSelection
  cases hpieces : spans[selection.messageIndex]? with
  | none => rfl
  | some pieces =>
    rcases List.getElem?_eq_some_iff.mp hpieces with ⟨hlt, hget⟩
    have hmessage : selection.messageIndex < messages.length := by
      rw [hspans.length_eq]
      exact hlt
    have hsplits := hspans.get hmessage hlt
    simp only [List.get_eq_getElem, hget] at hsplits
    have hbytes : messages[selection.messageIndex].utf8ByteSize ≤ 2 ^ 63 - 1 :=
      hmessages _ (List.getElem_mem hmessage)
    have hcount := hsplits.length_le
    dsimp only [Except.ofOption, bind, Except.bind]
    rw [Option.bind_some, getInclusive_eq _ _ (by unfold Word.size; omega)]
    cases hselected : selectSpans pieces selection.spanId
        (selection.endSpanId.getD selection.spanId) with
    | none => rfl
    | some selected =>
      rcases selectSpans_eq_some.mp hselected with ⟨hle, hlast, -⟩
      have hselectedbytes := (selectSpans_slice hselected).isBoundary_right.le
      rw [hsplits.whole, ← utf8ByteSize_join_eq] at hselectedbytes
      dsimp only
      rw [Option.bind_some, if_pos (by omega), Option.bind_some, sumBytes_eq, Option.bind_some, Word.add_eq_some]
      . rw [Nat.zero_add]
        rfl
      . rw [Nat.zero_add, ← utf8ByteSize_join_eq]
        unfold Word.size
        omega
      . rw [Nat.zero_add, ← utf8ByteSize_join_eq]
        unfold Word.size
        omega

theorem resolveSelectionsBytes_eq {messages : List String} {maxBytes : Nat}
    {spans : List (List String)} (hmessages : ∀ text ∈ messages, text.utf8ByteSize ≤ maxTextBytes)
    (hspans : List.Forall₂ (Splits maxBytes) messages spans) (notes : List ExtractorNote)
    : resolveSelectionsBytes spans notes = some (resolveSelections spans notes) := by
  apply Except.mapChecked_eq
  intro note _
  unfold ExtractorNote.resolveBytes ExtractorNote.resolve
  cases note.evidence with
  | none => rfl
  | some evidence =>
    have hevidence : Except.mapChecked (ExtractedEvidence.resolveBytes spans) evidence
        = some (evidence.mapM (ExtractedEvidence.resolve spans)) := by
      apply Except.mapChecked_eq
      intro item _
      cases item with
      | selection chosen => exact resolveSelectionBytes_eq hmessages hspans chosen
      | quote index text => rfl
    dsimp only
    rw [hevidence, Option.map_some]
    cases evidence.mapM (ExtractedEvidence.resolve spans) with
    | error e => rfl
    | ok quotes => rfl

def ExtractorNote.items (note : ExtractorNote) : List ExtractedEvidence := note.evidence.getD []

theorem ExtractorNote.resolve_ok_iff {spans : List (List String)} {note : ExtractorNote}
    : (∃ resolved, note.resolve spans = .ok resolved)
      ↔ ∀ selection, ExtractedEvidence.selection selection ∈ note.items → selection.Names spans := by
  have hitems : (∀ item ∈ note.items, ∃ quote, item.resolve spans = .ok quote)
      ↔ ∀ selection, ExtractedEvidence.selection selection ∈ note.items → selection.Names spans := by
    constructor
    . intro h selection hmem
      exact resolveSelection_ok_iff.mp (h _ hmem)
    . intro h item hmem
      cases item with
      | selection chosen => exact resolveSelection_ok_iff.mpr (h chosen hmem)
      | quote index text => exact ⟨_, rfl⟩
  rw [← hitems, ← Except.mapM_eq_ok_iff]
  unfold ExtractorNote.resolve ExtractorNote.items
  cases note.evidence with
  | none => exact ⟨fun _ => ⟨[], rfl⟩, fun _ => ⟨_, rfl⟩⟩
  | some evidence =>
    simp only [Option.getD_some, Except.bind_eq_ok]
    constructor
    . rintro ⟨resolved, quotes, hquotes, -⟩
      exact ⟨quotes, hquotes⟩
    . rintro ⟨quotes, hquotes⟩
      exact ⟨_, quotes, hquotes, rfl⟩

/-- What a piece of evidence is resolved to. -/
def ExtractedEvidence.ResolvesTo (messages : List String) (spans : List (List String))
    : ExtractedEvidence → EvidenceQuote → Prop
  | .selection chosen, resolved => resolved.Quotes messages spans chosen
  | .quote index text, resolved => resolved = ⟨none, index, text⟩

theorem ExtractorNote.resolve_resolvesTo {messages : List String} {maxBytes : Nat}
    {spans : List (List String)} (hspans : List.Forall₂ (Splits maxBytes) messages spans)
    {note : ExtractorNote} {resolved : ExtractedNote} (h : note.resolve spans = .ok resolved)
    : List.Forall₂ (ExtractedEvidence.ResolvesTo messages spans) note.items
      (resolved.evidence.getD []) := by
  have hquotes : note.items.mapM (ExtractedEvidence.resolve spans)
      = .ok (resolved.evidence.getD []) := by
    unfold ExtractorNote.resolve at h
    unfold ExtractorNote.items
    cases hevidence : note.evidence with
    | none =>
      rw [hevidence] at h
      cases h
      rfl
    | some evidence =>
      rw [hevidence] at h
      rcases Except.bind_eq_ok.mp h with ⟨quotes, hquotes, hpure⟩
      rw [Except.pure_eq_ok.mp hpure]
      exact hquotes
  apply (Except.forall₂_mapM hquotes).imp
  intro item quote hresolve
  cases item with
  | selection chosen => exact resolveSelection_quotes hspans hresolve
  | quote index text =>
    cases hresolve
    rfl

/-- What `resolve_selections` does with the spans of messages, whatever the extractor answers. -/
structure ResolvesSelections (messages : List String) (spans : List (List String)) : Prop where
  accepts : ∀ notes, ∃ outcome, resolveSelectionsBytes spans notes = some outcome
    ∧ ((∃ resolved, outcome = .ok resolved) ↔ ∀ note ∈ notes, ∀ selection,
      ExtractedEvidence.selection selection ∈ note.items → selection.Names spans)
  quotes : ∀ notes resolved, resolveSelectionsBytes spans notes = some (.ok resolved) →
    List.Forall₂ (fun note extracted => List.Forall₂ (ExtractedEvidence.ResolvesTo messages spans)
      note.items (extracted.evidence.getD [])) notes resolved

/-- The messages are split unless a character has no room, into spans that are all of them, and the
selections of the spans are resolved unless one names a span that there is not. -/
theorem evidenceSpans_resolves (messages : List String) (maxBytes : Nat)
    (hmessages : ∀ text ∈ messages, text.utf8ByteSize ≤ maxTextBytes) (hmax : maxBytes < Word.size)
    : ∃ outcome, Returns (fun fuel => evidenceSpansBytes fuel messages maxBytes) outcome
      ∧ ((∃ e, outcome = .error e) ↔ ∃ text ∈ messages, ∃ c ∈ text.toList, maxBytes < c.utf8Size)
      ∧ ∀ spans, outcome = .ok spans →
        List.Forall₂ (Splits maxBytes) messages spans ∧ ResolvesSelections messages spans := by
  refine ⟨evidenceSpans messages maxBytes, evidenceSpansBytes_returns hmessages hmax, ?_, ?_⟩
  . unfold evidenceSpans
    rw [Except.mapM_eq_error_iff]
    simp only [evidenceSpansOf_eq_error_iff]
  . intro spans hspans
    have hsplits : List.Forall₂ (Splits maxBytes) messages spans :=
      (Except.forall₂_mapM hspans).imp fun _ _ h => splits_of_evidenceSpansOf h
    refine ⟨hsplits, ?_, ?_⟩
    . intro notes
      refine ⟨_, resolveSelectionsBytes_eq hmessages hsplits notes, ?_⟩
      unfold resolveSelections
      rw [Except.mapM_eq_ok_iff]
      simp only [ExtractorNote.resolve_ok_iff]
    . intro notes resolved h
      rw [resolveSelectionsBytes_eq hmessages hsplits notes, Option.some.injEq] at h
      exact (Except.forall₂_mapM h).imp fun _ _ hresolve =>
        ExtractorNote.resolve_resolvesTo hsplits hresolve

theorem evidenceSpans_resolves_lines
    : ∃ outcome, Returns (fun fuel => evidenceSpansBytes fuel ["one\ntwo"] 5) outcome
      ∧ ((∃ e, outcome = .error e)
        ↔ ∃ text ∈ ["one\ntwo"], ∃ c ∈ text.toList, 5 < c.utf8Size)
      ∧ ∀ spans, outcome = .ok spans →
        List.Forall₂ (Splits 5) ["one\ntwo"] spans ∧ ResolvesSelections ["one\ntwo"] spans :=
  evidenceSpans_resolves ["one\ntwo"] 5
    (by
      intro text htext
      rw [List.mem_singleton.mp htext]
      decide)
    (by decide)

end Elf
