import Elf.Domain.WriteGate
import Elf.Lib.Slice

/-!
This module contains what the write policy does with a text: its operations are the edits of a list, and
a text that passes the checks is spliced with the sorted list.
-/

namespace Elf

open Text

theorem splitAtByte_eq_some {text : List Char} {n : Nat} {l r : List Char}
    : splitAtByte text n = some (l, r)
        ↔ text = l ++ r ∧ (String.ofList l).utf8ByteSize = n := by
  induction text generalizing n l with
  | nil =>
    cases n with
    | zero =>
      have hempty : l = [] → (String.ofList l).utf8ByteSize = 0 := by
        intro hl
        simp [hl]
      simp only [splitAtByte, Option.some.injEq, Prod.mk.injEq, List.nil_eq_append_iff]
      constructor
      . intro h
        exact ⟨⟨h.1.symm, h.2.symm⟩, hempty h.1.symm⟩
      . intro h
        exact ⟨h.1.1.symm, h.1.2.symm⟩
    | succ n =>
      simp only [splitAtByte, reduceCtorEq, false_iff, List.nil_eq_append_iff]
      intro h
      rw [h.1.1] at h
      simp at h
  | cons c text ih =>
    have hpos := c.utf8Size_pos
    cases n with
    | zero =>
      simp only [splitAtByte, Option.some.injEq, Prod.mk.injEq, String.utf8ByteSize_eq_zero_iff]
      constructor
      . intro h
        rw [← h.1, ← h.2]
        exact ⟨rfl, rfl⟩
      . intro h
        have hl : l = [] := by simpa using congrArg String.toList h.2
        rw [h.1, hl]
        exact ⟨rfl, rfl⟩
    | succ n =>
      unfold splitAtByte
      split
      next hsize =>
        rw [Option.map_eq_some_iff]
        constructor
        . intro h
          rcases h with ⟨⟨left, right⟩, hsplit, heq⟩
          cases heq
          rw [ih] at hsplit
          rw [utf8ByteSize_cons]
          exact ⟨by rw [hsplit.1]; rfl, by omega⟩
        . intro h
          cases l with
          | nil => simp at h
          | cons d l =>
            rw [utf8ByteSize_cons, List.cons_append, List.cons.injEq] at h
            rcases h with ⟨⟨hc, htext⟩, hn⟩
            subst hc
            refine ⟨(l, r), ?_, rfl⟩
            rw [ih]
            exact ⟨htext, by omega⟩
      next hsize =>
        simp only [reduceCtorEq, false_iff]
        intro h
        cases l with
        | nil => simp at h
        | cons d l =>
          rw [utf8ByteSize_cons, List.cons_append, List.cons.injEq] at h
          rcases h with ⟨⟨hc, htext⟩, hn⟩
          subst hc
          omega

theorem isSome_splitAtByte {text : String} {n : Nat}
    : (splitAtByte text.toList n).isSome = true ↔ IsBoundary text n := by
  unfold IsBoundary
  rw [Option.isSome_iff_exists]
  constructor
  . intro ⟨⟨left, right⟩, h⟩
    rw [splitAtByte_eq_some] at h
    refine ⟨String.ofList left, String.ofList right, ?_, h.2⟩
    rw [← String.ofList_append, ← h.1, String.ofList_toList]
  . intro ⟨left, right, htext, hleft⟩
    refine ⟨(left.toList, right.toList), ?_⟩
    rw [splitAtByte_eq_some, htext, String.toList_append, String.ofList_toList]
    exact ⟨rfl, hleft⟩

theorem splitAtByte_append {left right : String} {n : Nat} (hn : left.utf8ByteSize = n)
    : splitAtByte (left ++ right).toList n = some (left.toList, right.toList) := by
  rw [splitAtByte_eq_some, String.toList_append, String.ofList_toList]
  exact ⟨rfl, hn⟩

/-! ## Operations -/

/-- What an operation of a write policy does to a text. -/
def opEdit (op : WriteSpan × String) : Edit := ⟨op.1.start, op.1.stop, op.2⟩

def WritePolicy.ops (policy : WritePolicy) : List (WriteSpan × String) :=
  policy.exclusions.map (fun span => (span, "")) ++ policy.redactions.map WriteRedaction.op

def WritePolicy.edits (policy : WritePolicy) : List Edit := policy.ops.map opEdit

variable {text : String} {policy : WritePolicy}

theorem validateSpan_iff {op : WriteSpan × String}
    : validateSpan text.toList op.1 = true ↔ (opEdit op).Fits text := by
  unfold validateSpan Edit.Fits opEdit
  rw [Bool.and_eq_true, Bool.and_eq_true, decide_eq_true_eq, isSome_splitAtByte, isSome_splitAtByte,
    and_assoc]

theorem validateNonOverlappingOps_iff {ops : List (WriteSpan × String)} {lastEnd : Nat}
    : validateNonOverlappingOps ops lastEnd = true ↔ Ordered lastEnd (ops.map opEdit) := by
  induction ops generalizing lastEnd with
  | nil => simp [validateNonOverlappingOps, Ordered]
  | cons op ops ih =>
    unfold validateNonOverlappingOps
    rw [Bool.and_eq_true, decide_eq_true_eq, ih]
    rfl

theorem replaceRange?_append {before kept cut rest replacement : String} {span : WriteSpan}
    (hstart : (before ++ kept).utf8ByteSize = span.start)
    (hstop : span.start + cut.utf8ByteSize = span.stop)
    : replaceRange? (before ++ kept ++ cut ++ rest).toList span replacement
      = some (before ++ kept ++ replacement ++ rest).toList := by
  have hleft := @splitAtByte_append (before ++ kept) (cut ++ rest) _ hstart
  have hright := @splitAtByte_append (before ++ kept ++ cut) rest span.stop (by
    rw [String.utf8ByteSize_append]
    omega)
  rw [← String.append_assoc] at hleft
  unfold replaceRange?
  rw [if_pos (by omega), hleft, hright]
  simp only [String.toList_append]

/-- Replacing the ranges of a text from its end to its start splices the text. -/
theorem replaceRanges?_of_spliced {before result : String} {ops : List (WriteSpan × String)}
    (h : Spliced before.utf8ByteSize text (ops.map opEdit) result)
    : replaceRanges? (before ++ text).toList ops = some (before ++ result).toList := by
  induction ops generalizing before text result with
  | nil =>
    have htext : result = text := h
    rw [htext]
    rfl
  | cons op ops ih =>
    have ⟨kept, cut, rest, spliced, htext, hstart, hstop, hrest, hresult⟩ := h
    have hsize : (before ++ kept ++ cut).utf8ByteSize = op.1.stop := by
      simp only [String.utf8ByteSize_append]
      simp only [opEdit] at hstart hstop
      omega
    have hops := @ih rest (before ++ kept ++ cut) spliced (by rw [hsize]; exact hrest)
    have hreplace := @replaceRange?_append before kept cut spliced op.2 op.1 (by
      rw [String.utf8ByteSize_append]
      exact hstart) hstop
    unfold replaceRanges?
    rw [htext, hresult]
    simp only [← String.append_assoc]
    rw [hops]
    exact hreplace

/-! ## Sorting -/

instance : Std.Total spanLe where
  total a b := by
    unfold spanLe
    omega

instance : IsTrans (WriteSpan × String) spanLe where
  trans a b c := by
    unfold spanLe
    omega

/-- The operations of a policy in the order in which they stand in the text. -/
def WritePolicy.sortedOps (policy : WritePolicy) : List (WriteSpan × String) :=
  ((policy.exclusions.map fun span => (span, "")).insertionSort spanLe
    ++ (policy.redactions.map WriteRedaction.op).insertionSort spanLe).insertionSort spanLe

theorem WritePolicy.sortedOps_perm (policy : WritePolicy) : policy.sortedOps.Perm policy.ops := by
  apply (List.perm_insertionSort spanLe _).trans
  apply List.Perm.append
  . apply List.perm_insertionSort
  . apply List.perm_insertionSort

theorem WritePolicy.sortedOps_before (policy : WritePolicy)
    : (policy.sortedOps.map opEdit).Pairwise Edit.Before := by
  rw [List.pairwise_map]
  exact List.pairwise_insertionSort spanLe _

theorem WritePolicy.mem_sortedOps {e : Edit}
    : e ∈ policy.sortedOps.map opEdit ↔ e ∈ policy.edits := by
  apply (policy.sortedOps_perm.map opEdit).mem_iff

/-! ## Application -/

/-- Each operation of the policy is about a part of the text, and any two of them are apart. -/
structure WritePolicy.Fits (policy : WritePolicy) (text : String) : Prop where
  fits : ∀ e ∈ policy.edits, e.Fits text
  apart : policy.edits.Pairwise Edit.Apart

theorem WritePolicy.ordered_sortedOps (hfits : ∀ e ∈ policy.edits, e.Fits text)
    : Ordered 0 (policy.sortedOps.map opEdit) ↔ policy.edits.Pairwise Edit.Apart := by
  rw [ordered_iff_apart]
  . apply List.Perm.pairwise_iff
    . intro a b hab
      exact Std.Symm.symm a b hab
    . apply policy.sortedOps_perm.map
  . intro e he
    exact (hfits e (mem_sortedOps.mp he)).1
  . exact policy.sortedOps_before

theorem WritePolicy.Fits.spliced (h : policy.Fits text)
    : ∃ result, Spliced 0 text (policy.sortedOps.map opEdit) result
      ∧ replaceRanges? text.toList policy.sortedOps = some result.toList := by
  have hordered := (WritePolicy.ordered_sortedOps h.fits).mpr h.apart
  have ⟨result, hresult⟩ := @exists_spliced _ text "" (by
    intro e he
    rw [String.empty_append]
    exact h.fits e (WritePolicy.mem_sortedOps.mp he)) hordered
  have hreplace := @replaceRanges?_of_spliced text "" result policy.sortedOps hresult
  rw [String.empty_append, String.empty_append] at hreplace
  exact ⟨result, hresult, hreplace⟩

theorem WritePolicy.all_validateSpan
    : (policy.sortedOps.all fun op => validateSpan text.toList op.1) = true
      ↔ ∀ e ∈ policy.edits, e.Fits text := by
  simp only [List.all_eq_true, validateSpan_iff]
  constructor
  . intro h e he
    have ⟨op, hop, heq⟩ := List.mem_map.mp (WritePolicy.mem_sortedOps.mpr he)
    rw [← heq]
    exact h op hop
  . intro h op hop
    exact h _ (WritePolicy.mem_sortedOps.mp (List.mem_map_of_mem hop))

-- A policy without operations needs no branch of its own.
theorem applyWritePolicyWithAudit_some (text : String) (policy : WritePolicy)
    : applyWritePolicyWithAudit text (some policy)
      = if !policy.sortedOps.all (fun op => validateSpan text.toList op.1) then
          some (.error .invalidSpan)
        else if !validateNonOverlappingOps policy.sortedOps 0 then
          some (.error .overlappingOps)
        else
          (replaceRanges? text.toList policy.sortedOps).map fun transformed =>
            .ok ⟨String.ofList transformed, policy.audit⟩ := by
  unfold applyWritePolicyWithAudit
  dsimp only
  rw [← (List.perm_insertionSort spanLe _).all_eq, ← WritePolicy.sortedOps]
  split
  next hempty =>
    have ⟨hexclusions, hredactions⟩ := hempty
    rw [List.isEmpty_iff] at hexclusions hredactions
    have hsorted : policy.sortedOps = [] := by
      simp [WritePolicy.sortedOps, hexclusions, hredactions]
    have haudit : policy.audit = .default := by
      simp [WritePolicy.audit, hexclusions, hredactions, WritePolicyAudit.default]
    rw [hsorted, haudit]
    simp [replaceRanges?, validateNonOverlappingOps]
  next hne =>
    cases replaceRanges? text.toList policy.sortedOps with
    | none => rfl
    | some transformed => rfl

theorem applyWritePolicyWithAudit_of_fits (h : policy.Fits text)
    : ∃ result, Spliced 0 text (policy.sortedOps.map opEdit) result
      ∧ applyWritePolicyWithAudit text (some policy) = some (.ok ⟨result, policy.audit⟩) := by
  have ⟨result, hspliced, hreplace⟩ := h.spliced
  have hordered := (WritePolicy.ordered_sortedOps h.fits).mpr h.apart
  refine ⟨result, hspliced, ?_⟩
  rw [applyWritePolicyWithAudit_some, WritePolicy.all_validateSpan.mpr h.fits,
    validateNonOverlappingOps_iff.mpr hordered, hreplace]
  simp

theorem applyWritePolicyWithAudit_of_invalid (h : ¬ ∀ e ∈ policy.edits, e.Fits text)
    : applyWritePolicyWithAudit text (some policy) = some (.error .invalidSpan) := by
  rw [← WritePolicy.all_validateSpan, Bool.not_eq_true] at h
  rw [applyWritePolicyWithAudit_some, h]
  rfl

theorem applyWritePolicyWithAudit_of_overlap (hfits : ∀ e ∈ policy.edits, e.Fits text)
    (h : ¬ policy.edits.Pairwise Edit.Apart)
    : applyWritePolicyWithAudit text (some policy) = some (.error .overlappingOps) := by
  rw [← WritePolicy.ordered_sortedOps hfits, ← validateNonOverlappingOps_iff, Bool.not_eq_true] at h
  rw [applyWritePolicyWithAudit_some, WritePolicy.all_validateSpan.mpr hfits, h]
  rfl

end Elf
