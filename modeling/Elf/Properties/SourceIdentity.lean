import Elf.Lib.Sorting
import Elf.Service.AddNote
import Mathlib.Data.String.Basic

/-!
This module contains what the source of a text is identified by: the set of the sources of its
evidence, whatever their order and number, and whatever is quoted of a source that was captured.
-/

namespace Elf

open SortDedup

variable {sourceRef other item : Json} {evidence changed : List Json}

/-- The source of the entry was captured with its event. -/
def isCaptured (item : Json) : Bool :=
  (item.index "source").index "schema" = .str "elf.event_source/v1"

def withEvidence (sourceRef : Json) (evidence : List Json) : Json :=
  sourceRef.set "evidence" (.arr evidence)

/-- The entry at another place of the batch, with another quote. -/
def requote (item messageIndex quote : Json) : Json :=
  (item.set "message_index" messageIndex).set "quote" quote

/-- The entry as it was, or requoted where its source was captured. -/
def Requoted (item item' : Json) : Prop :=
  item' = item ∨ (isCaptured item = true ∧ ∃ messageIndex quote, item' = requote item messageIndex quote)

/-- The lists refer to the same sources. -/
def SameReferences (evidence changed : List Json) : Prop :=
  ∀ ref, ref ∈ evidence.map evidenceIdentity ↔ ref ∈ changed.map evidenceIdentity

/-- The order of the texts of two values. -/
def textLe (a b : Json) : Prop := String.ofList a.compact ≤ String.ofList b.compact

instance : DecidableRel textLe := fun a b =>
  inferInstanceAs (Decidable (String.ofList a.compact ≤ String.ofList b.compact))

instance : Std.Total textLe := ⟨fun a b =>
  le_total (String.ofList a.compact) (String.ofList b.compact)⟩

instance : IsTrans Json textLe := ⟨fun _ _ _ hab hbc => le_trans hab hbc⟩

instance : Std.Antisymm textLe := by
  constructor
  intro a b hab hba
  have htext := le_antisymm hab hba
  exact Json.compact_inj (String.ofList_injective htext)

theorem get_withEvidence (hobject : sourceRef.isObject = true) (evidence : List Json)
    : (withEvidence sourceRef evidence).get "evidence" = some (.arr evidence) := by
  unfold withEvidence
  rw [Json.get_set hobject, if_pos rfl]

theorem sourceIdentity_nil (hobject : sourceRef.isObject = true)
    : sourceIdentity (withEvidence sourceRef []) = withEvidence sourceRef [] := by
  unfold sourceIdentity
  rw [get_withEvidence hobject]
  rfl

theorem sourceIdentity_of_ne_nil (hobject : sourceRef.isObject = true) (hne : evidence ≠ [])
    : sourceIdentity (withEvidence sourceRef evidence)
        = .arr (sortDedup textLe (evidence.map evidenceIdentity)) := by
  unfold sourceIdentity
  rw [get_withEvidence hobject]
  cases evidence with
  | nil => exact absurd rfl hne
  | cons item evidence => rfl

theorem withEvidence_ne_arr (hobject : sourceRef.isObject = true) (items : List Json)
    : withEvidence sourceRef evidence ≠ .arr items := by
  cases sourceRef with
  | obj entries => exact Json.noConfusion
  | null => cases hobject
  | bool b => cases hobject
  | num n => cases hobject
  | str s => cases hobject
  | arr items => cases hobject

/-- Lists that are not empty have one identity exactly when they refer to the same sources. -/
theorem sourceIdentity_eq_iff (hobject : sourceRef.isObject = true) (hother : other.isObject = true)
    (hevidence : evidence ≠ []) (hchanged : changed ≠ [])
    : sourceIdentity (withEvidence sourceRef evidence) = sourceIdentity (withEvidence other changed)
        ↔ SameReferences evidence changed := by
  rw [sourceIdentity_of_ne_nil hobject hevidence, sourceIdentity_of_ne_nil hother hchanged,
    Json.arr.injEq]
  exact sortDedup_eq_iff

theorem isObject_of_isCaptured (h : isCaptured item = true) : item.isObject = true := by
  unfold isCaptured Json.index at h
  cases item with
  | obj entries => rfl
  | null => cases h
  | bool b => cases h
  | num n => cases h
  | str s => cases h
  | arr items => cases h

theorem isObject_set {value : Json} (h : value.isObject = true) (field : String) (fieldValue : Json)
    : (value.set field fieldValue).isObject = true := by
  cases value with
  | obj entries => rfl
  | null => cases h
  | bool b => cases h
  | num n => cases h
  | str s => cases h
  | arr items => cases h

theorem evidenceIdentity_requote (h : isCaptured item = true) (messageIndex quote : Json)
    : evidenceIdentity (requote item messageIndex quote) = evidenceIdentity item := by
  have hobject := isObject_of_isCaptured h
  have hsource : (requote item messageIndex quote).index "source" = item.index "source" := by
    unfold requote Json.index
    rw [Json.get_set (isObject_set hobject _ _), if_neg (by decide), Json.get_set hobject,
      if_neg (by decide)]
  have hschema : (item.index "source").index "schema" = .str "elf.event_source/v1" := by
    simpa [isCaptured] using h
  unfold evidenceIdentity
  rw [hsource]
  simp only [hschema, ne_eq, not_true_eq_false, if_false]

theorem map_evidenceIdentity_requoted (h : List.Forall₂ Requoted evidence changed)
    : changed.map evidenceIdentity = evidence.map evidenceIdentity := by
  induction h with
  | nil => rfl
  | cons hitem _ ih =>
    rw [List.map_cons, List.map_cons, ih]
    rcases hitem with rfl | ⟨hcaptured, messageIndex, quote, rfl⟩
    . rfl
    . rw [evidenceIdentity_requote hcaptured]

/-- What an identity of sources keeps, and what it tells apart. -/
structure IsCanonical (identity : Json → Json) (sourceRef other : Json) : Prop where
  /-- The order of the entries and how often they occur are not part of it. -/
  members : ∀ evidence changed, (∀ item, item ∈ evidence ↔ item ∈ changed)
    → identity (withEvidence sourceRef evidence) = identity (withEvidence sourceRef changed)
  requoted : ∀ evidence changed, List.Forall₂ Requoted evidence changed
    → identity (withEvidence sourceRef evidence) = identity (withEvidence sourceRef changed)
  distinct : ∀ evidence changed, ¬ SameReferences evidence changed
    → identity (withEvidence sourceRef evidence) ≠ identity (withEvidence other changed)

theorem sourceIdentity_isCanonical (hobject : sourceRef.isObject = true)
    (hother : other.isObject = true) : IsCanonical sourceIdentity sourceRef other where
  members evidence changed h := by
    cases evidence with
    | nil =>
      have hchanged : changed = [] := List.eq_nil_iff_forall_not_mem.mpr fun item hitem =>
        List.not_mem_nil ((h item).mpr hitem)
      rw [hchanged]
    | cons item evidence =>
      have hchanged : changed ≠ [] := List.ne_nil_of_mem ((h item).mp List.mem_cons_self)
      rw [sourceIdentity_eq_iff hobject hobject (List.cons_ne_nil _ _) hchanged]
      intro ref
      rw [List.mem_map, List.mem_map]
      simp only [h]
  requoted evidence changed h := by
    cases h with
    | nil => rfl
    | cons hitem hrest =>
      rw [sourceIdentity_eq_iff hobject hobject (List.cons_ne_nil _ _) (List.cons_ne_nil _ _)]
      unfold SameReferences
      rw [map_evidenceIdentity_requoted (List.Forall₂.cons hitem hrest)]
      exact fun ref => Iff.rfl
  distinct evidence changed h := by
    cases evidence with
    | nil =>
      cases changed with
      | nil => exact absurd (fun ref => Iff.rfl) h
      | cons item changed =>
        rw [sourceIdentity_nil hobject, sourceIdentity_of_ne_nil hother (List.cons_ne_nil _ _)]
        exact withEvidence_ne_arr hobject _
    | cons item evidence =>
      cases changed with
      | nil =>
        rw [sourceIdentity_nil hother, sourceIdentity_of_ne_nil hobject (List.cons_ne_nil _ _)]
        exact (withEvidence_ne_arr hother _).symm
      | cons item' changed =>
        rw [ne_eq, sourceIdentity_eq_iff hobject hother (List.cons_ne_nil _ _)
          (List.cons_ne_nil _ _)]
        exact h

theorem sourceIdentity_isCanonical_of_batch
    : IsCanonical sourceIdentity (.obj [("reason", .str "a")]) (.obj [("reason", .str "b")]) :=
  sourceIdentity_isCanonical rfl rfl

/-- An entry whose source was not captured is kept whole, and its quote with it. -/
theorem sourceIdentity_keeps_unknown_quote
    : ¬ ∀ sourceRef item messageIndex quote : Json, sourceRef.isObject = true
        → item.isObject = true
        → sourceIdentity (withEvidence sourceRef [requote item messageIndex quote])
          = sourceIdentity (withEvidence sourceRef [item]) := by
  intro h
  have hsame := h (.obj []) (.obj [("message_index", .num 0), ("quote", .str "first")]) (.num 0)
    (.str "second") rfl rfl
  rw [sourceIdentity_of_ne_nil rfl (List.cons_ne_nil _ _),
    sourceIdentity_of_ne_nil rfl (List.cons_ne_nil _ _)] at hsame
  revert hsame
  decide

end Elf
