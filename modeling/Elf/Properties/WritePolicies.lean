import Elf.Domain.Lemmas.WritePolicy

/-!
This module contains what a write policy guarantees: it never panics, it is applied exactly when its
spans fit into the text and are apart, and the text is then what the spans keep of it, with the
replacements in between.
-/

namespace Elf

open Text

variable {text result : String} {policy policy' : WritePolicy}

/-- The text after the policy, if it is applied. -/
def transformedBy (text : String) (policy : WritePolicy) : Option (Except WritePolicyError String) :=
  (applyWritePolicyWithAudit text (some policy)).map
    (Except.map WritePolicyResult.transformed)

/-! ## The text without the audit -/

theorem replaceRange_eq {chars chars' : List Char} {span : WriteSpan} {replacement : String}
    (h : replaceRange? chars span replacement = some chars')
    : replaceRange chars span replacement = chars' := by
  unfold replaceRange? at h
  unfold replaceRange
  split at h
  next =>
    cases hleft : splitAtByte chars span.start with
    | none =>
      rw [hleft] at h
      contradiction
    | some left =>
      cases hright : splitAtByte chars span.stop with
      | none =>
        rw [hleft, hright] at h
        contradiction
      | some right =>
        rw [hleft, hright] at h
        exact Option.some.inj h
  next => contradiction

theorem foldr_replaceRange_eq {chars chars' : List Char} {ops : List (WriteSpan × String)}
    (h : replaceRanges? chars ops = some chars')
    : ops.foldr (fun op chars => replaceRange chars op.1 op.2) chars = chars' := by
  induction ops generalizing chars' with
  | nil => exact Option.some.inj h
  | cons op ops ih =>
    unfold replaceRanges? at h
    split at h
    next text htext =>
      rw [List.foldr_cons, ih htext]
      apply replaceRange_eq h
    next => contradiction

/-- The write policy of a note does what the one with an audit does. -/
theorem transformedBy_eq (text : String) (policy : WritePolicy)
    : transformedBy text policy = some (applyWritePolicy text (some policy)) := by
  unfold transformedBy applyWritePolicy
  rw [applyWritePolicyWithAudit_some]
  dsimp only
  rw [← WritePolicy.sortedOps]
  split
  next hinvalid => rfl
  next hvalid =>
    rw [Bool.not_eq_true', Bool.not_eq_false, WritePolicy.all_validateSpan] at hvalid
    split
    next hoverlap => rfl
    next hordered =>
      rw [Bool.not_eq_true', Bool.not_eq_false, validateNonOverlappingOps_iff,
        WritePolicy.ordered_sortedOps hvalid] at hordered
      rcases WritePolicy.Fits.spliced ⟨hvalid, hordered⟩ with ⟨result, _, hreplace⟩
      rw [hreplace, foldr_replaceRange_eq hreplace]
      rfl

/-! ## Order -/

theorem edits_pairwise_iff (hperm : policy'.edits.Perm policy.edits)
    : policy'.edits.Pairwise Edit.Apart ↔ policy.edits.Pairwise Edit.Apart := by
  apply hperm.pairwise_iff
  intro a b hab
  exact Std.Symm.symm a b hab

/-- The spans of a policy that all cut something may be listed in any order. -/
theorem transformedBy_of_perm (hnonempty : ∀ e ∈ policy.edits, e.start < e.stop)
    (hperm : policy'.edits.Perm policy.edits)
    : transformedBy text policy' = transformedBy text policy := by
  unfold transformedBy
  by_cases hfits : ∀ e ∈ policy.edits, e.Fits text
  . have hfits' : ∀ e ∈ policy'.edits, e.Fits text := by
      intro e he
      exact hfits e (hperm.mem_iff.mp he)
    by_cases hapart : policy.edits.Pairwise Edit.Apart
    . have hapart' := (edits_pairwise_iff hperm).mpr hapart
      have ⟨result, hspliced, h⟩ := applyWritePolicyWithAudit_of_fits ⟨hfits, hapart⟩
      have ⟨result', hspliced', h'⟩ := applyWritePolicyWithAudit_of_fits ⟨hfits', hapart'⟩
      have hsorted : policy.sortedOps.map opEdit = policy'.sortedOps.map opEdit := by
        have hmap : (policy.sortedOps.map opEdit).Perm policy.edits := policy.sortedOps_perm.map opEdit
        have hmap' : (policy'.sortedOps.map opEdit).Perm policy'.edits :=
          policy'.sortedOps_perm.map opEdit
        apply eq_of_perm_of_apart
        . exact (hmap.trans hperm.symm).trans hmap'.symm
        . exact policy.sortedOps_before
        . exact policy'.sortedOps_before
        . have hordered := (WritePolicy.ordered_sortedOps hfits).mpr hapart
          rw [ordered_iff_apart] at hordered
          . exact hordered
          . intro e he
            exact (hfits e (WritePolicy.mem_sortedOps.mp he)).1
          . exact policy.sortedOps_before
        . intro e he
          exact hnonempty e (WritePolicy.mem_sortedOps.mp he)
      rw [hsorted] at hspliced
      rw [h, h', hspliced.unique hspliced']
      rfl
    . have hapart' := mt (edits_pairwise_iff hperm).mp hapart
      rw [applyWritePolicyWithAudit_of_overlap hfits hapart,
        applyWritePolicyWithAudit_of_overlap hfits' hapart']
  . have hfits' : ¬ ∀ e ∈ policy'.edits, e.Fits text := by
      intro h
      apply hfits
      intro e he
      exact h e (hperm.mem_iff.mpr he)
    rw [applyWritePolicyWithAudit_of_invalid hfits, applyWritePolicyWithAudit_of_invalid hfits']

/-! ## Outcome -/

theorem exists_applyWritePolicyWithAudit (text : String) (policy : WritePolicy)
    : ∃ outcome, applyWritePolicyWithAudit text (some policy) = some outcome := by
  by_cases hfits : ∀ e ∈ policy.edits, e.Fits text
  . by_cases hapart : policy.edits.Pairwise Edit.Apart
    . have ⟨result, _, h⟩ := applyWritePolicyWithAudit_of_fits ⟨hfits, hapart⟩
      exact ⟨_, h⟩
    . exact ⟨_, applyWritePolicyWithAudit_of_overlap hfits hapart⟩
  . exact ⟨_, applyWritePolicyWithAudit_of_invalid hfits⟩

theorem fits_of_applyWritePolicyWithAudit {outcome : WritePolicyResult}
    (h : applyWritePolicyWithAudit text (some policy) = some (.ok outcome)) : policy.Fits text := by
  by_cases hfits : ∀ e ∈ policy.edits, e.Fits text
  . by_cases hapart : policy.edits.Pairwise Edit.Apart
    . exact ⟨hfits, hapart⟩
    . rw [applyWritePolicyWithAudit_of_overlap hfits hapart] at h
      cases Option.some.inj h
  . rw [applyWritePolicyWithAudit_of_invalid hfits] at h
    cases Option.some.inj h

/--
A write policy never panics. It is applied exactly when its spans fit into the text and are apart from
one another. What comes out is then the parts of the text that no span covers, with the replacements in
between, and as long as no span is empty it does not matter how the spans are listed.
-/
theorem write_policies (text : String) (policy : WritePolicy)
    : (∃ outcome, applyWritePolicyWithAudit text (some policy) = some outcome)
      ∧ ((∃ outcome, applyWritePolicyWithAudit text (some policy) = some (.ok outcome))
        ↔ (∀ e ∈ policy.edits, e.Fits text) ∧ policy.edits.Pairwise Edit.Apart)
      ∧ (∀ outcome, applyWritePolicyWithAudit text (some policy) = some (.ok outcome)
        → ∃ edits, edits.Perm policy.edits ∧ (edits.Pairwise fun a b => a.stop ≤ b.start)
          ∧ Spliced 0 text edits outcome.transformed)
      ∧ ((∀ e ∈ policy.edits, e.start < e.stop) → ∀ policy', policy'.edits.Perm policy.edits
        → transformedBy text policy' = transformedBy text policy) := by
  refine ⟨exists_applyWritePolicyWithAudit text policy, ?_, ?_, ?_⟩
  . constructor
    . intro ⟨outcome, h⟩
      have hfits := fits_of_applyWritePolicyWithAudit h
      exact ⟨hfits.fits, hfits.apart⟩
    . intro ⟨hfits, hapart⟩
      have ⟨result, _, h⟩ := applyWritePolicyWithAudit_of_fits ⟨hfits, hapart⟩
      exact ⟨_, h⟩
  . intro outcome h
    have hfits := fits_of_applyWritePolicyWithAudit h
    have ⟨result, hspliced, h'⟩ := applyWritePolicyWithAudit_of_fits hfits
    rw [h', Option.some.injEq, Except.ok.injEq] at h
    subst h
    have hordered := (WritePolicy.ordered_sortedOps hfits.fits).mpr hfits.apart
    refine ⟨_, policy.sortedOps_perm.map opEdit, ?_, hspliced⟩
    apply (hordered.pairwise _).2
    intro e he
    exact (hfits.fits e (WritePolicy.mem_sortedOps.mp he)).1
  . intro hnonempty policy' hperm
    exact transformedBy_of_perm hnonempty hperm

example : transformedBy "hello world" ⟨[⟨4, 9⟩], [.replace ⟨0, 1⟩ "J"]⟩ = some (.ok "Jellld") := by
  rfl

end Elf
