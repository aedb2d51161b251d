import Elf.Service.Lemmas.Op

/-!
This module contains the identity of the notes that `add_note` stores: when one active note at most
answers to a key, or to a text and its source, and when a repeated request writes nothing.
-/

namespace Elf

open Text Except

/-! ## Identity -/

/-- What a note is looked up by: its type with its trimmed key, or with its text and source. -/
inductive NoteIdentity where
  | keyed (type key : String)
  | unkeyed (type text : String) (source : Json)
deriving DecidableEq

def MemoryNote.identity (note : MemoryNote) : NoteIdentity :=
  match lookupKey note.key with
  | some key => .keyed note.type key
  | none => .unkeyed note.type note.text (sourceIdentity note.sourceRef)

def AddNoteInput.identity (note : AddNoteInput) : NoteIdentity :=
  match lookupKey note.key with
  | some key => .keyed note.type key
  | none => .unkeyed note.type note.text (sourceIdentity note.sourceRef)

/-- The tenant, project, agent and scope of a note. -/
def MemoryNote.space (note : MemoryNote) : String × String × String × String :=
  (note.tenantId, note.projectId, note.agentId, note.scope)

/-- The note is active and unexpired. -/
def MemoryNote.live (note : MemoryNote) (now : Nat) : Prop :=
  note.status = "active" ∧ note.expired now = false

instance (note : MemoryNote) (now : Nat) : Decidable (note.live now) :=
  inferInstanceAs (Decidable (_ ∧ _))

/-- One live note of a space at most has an identity. -/
def Store.UniqueAt (s : Store) (now : Nat) : Prop :=
  ∀ a ∈ s.notes, ∀ b ∈ s.notes, a.live now → b.live now → a.space = b.space
    → a.identity = b.identity → a = b

/-- No note was written after the given time. -/
def Store.WrittenBy (s : Store) (now : Nat) : Prop := ∀ note ∈ s.notes, note.updatedAt ≤ now

/-- The keys of the stored notes are trimmed, and their identities unique at any time from now. -/
structure Store.Identified (s : Store) : Prop where
  trimmed : ∀ note ∈ s.notes, lookupKey note.key = note.key
  unique : ∀ now, s.WrittenBy now → s.UniqueAt now

/--
The `add_note` steps that keep the identities unique. They do not run back in time, and where the
step inserts the note, the key of the note is none, or trimmed and not empty.
-/
def InsertsTrimmedKey (s : Store) (a : Step) : Prop :=
  match a.op with
  | .addNote req now note withinBudget =>
    s.WrittenBy (timestamptz now)
      ∧ ∀ text, applyWritePolicyToNote note = .ok { note with text }
        → AddNotePasses a.svc (req.context a.svc now) { note with text } withinBudget
        → (∀ row ∈ s.notes,
          ((req.context a.svc now).resolveArgs { note with text }).matches row = true
            → ((req.context a.svc now).resolveArgs { note with text }).accepts row = false)
        → lookupKey note.key = note.key
  | _ => False

variable {svc : ElfService} {draw : Draw} {s t : Store} {a : Step} {ctx : AddNoteContext}
  {note : AddNoteInput} {prev row : MemoryNote} {w : NoteWrite}

theorem timestamptz_mono {now later : Nat} (h : now ≤ later)
    : timestamptz now ≤ timestamptz later := by
  unfold timestamptz
  omega

theorem expired_mono {now later : Nat} (hle : now ≤ later) (h : row.expired later = false)
    : row.expired now = false := by
  unfold MemoryNote.expired at h ⊢
  cases hexpires : row.expiresAt with
  | none => rfl
  | some ts =>
    rw [hexpires] at h
    simp only [decide_eq_false_iff_not, not_le] at h ⊢
    omega

theorem live_mono {now later : Nat} (hle : now ≤ later) (h : row.live later) : row.live now :=
  ⟨h.1, expired_mono hle h.2⟩

/-- The lookup finds the live rows of the space with the identity of the note. -/
theorem matches_accepts_iff (hkey : lookupKey row.key = row.key)
    : ((ctx.resolveArgs note).matches row = true ∧ (ctx.resolveArgs note).accepts row = true)
      ↔ row.live (timestamptz ctx.now)
        ∧ row.space = (ctx.tenantId, ctx.projectId, ctx.agentId, ctx.scope)
        ∧ row.identity = note.identity := by
  unfold ResolveUpdateArgs.matches ResolveUpdateArgs.accepts MemoryNote.identity MemoryNote.live
    MemoryNote.space AddNoteContext.resolveArgs AddNoteInput.identity
  rw [hkey]
  cases hlookup : lookupKey note.key with
  | some key =>
    cases hrow : row.key with
    | some rowKey =>
      simp
      grind
    | none => simp
  | none =>
    cases hrow : row.key with
    | some rowKey => simp
    | none =>
      simp
      grind

/-! ## Uniqueness -/

/-- A write that takes an identity which no other live note of its space has. -/
theorem Store.Writes.identified {now : Nat} (h : s.Writes t w) (hs : s.Identified)
    (hwritten : s.WrittenBy (timestamptz now)) (hupdated : w.next.updatedAt = now)
    (hkey : lookupKey w.next.key = w.next.key)
    (hfree : ∀ row ∈ s.notes, row.noteId ≠ w.next.noteId → row.live (timestamptz now)
      → row.space = w.next.space → row.identity ≠ w.next.identity)
    : t.Identified := by
  constructor
  . intro row hmem
    rcases h.mem hmem with rfl | ⟨hmem, -⟩
    . exact hkey
    . exact hs.trimmed row hmem
  . intro later hlater a ha b hb halive hblive hspace hidentity
    have hnow : timestamptz now ≤ later := by
      have hstored := hlater _ h.stored_mem
      change timestamptz w.next.updatedAt ≤ later at hstored
      rw [hupdated] at hstored
      exact hstored
    rcases h.mem ha with rfl | ⟨ha, haid⟩
    . rcases h.mem hb with rfl | ⟨hb, hbid⟩
      . rfl
      . exact absurd hidentity.symm (hfree b hb hbid (live_mono hnow hblive) hspace.symm)
    . rcases h.mem hb with rfl | ⟨hb, hbid⟩
      . exact absurd hidentity (hfree a ha haid (live_mono hnow halive) hspace)
      . exact hs.unique _ hwritten a ha b hb (live_mono hnow halive) (live_mono hnow hblive) hspace
          hidentity

/-- Only the notes of a store matter. -/
theorem Store.Identified.of_notes (hs : s.Identified) (hnotes : t.notes = s.notes)
    : t.Identified := by
  rcases hs with ⟨trimmed, unique⟩
  constructor
  . rw [hnotes]
    exact trimmed
  . intro now hnow
    unfold Store.UniqueAt
    unfold Store.WrittenBy at hnow
    rw [hnotes] at hnow ⊢
    exact unique now hnow

theorem AddNoteAdded.identified (h : AddNoteAdded svc ctx note draw s t) (hs : s.Identified)
    (hwritten : s.WrittenBy (timestamptz ctx.now)) (hkey : lookupKey note.key = note.key)
    : t.Identified := by
  apply h.writes.identified hs hwritten
  . rfl
  . exact hkey
  . intro row hmem hid hlive hspace hidentity
    have hfound := (matches_accepts_iff (hs.trimmed row hmem)).mpr ⟨hlive, hspace, hidentity⟩
    have haccept := h.unmatched row hmem hfound.1
    rw [hfound.2] at haccept
    cases haccept

/-- The row that a note replaces has its type and key. -/
theorem AddNoteReplaced.found (h : AddNoteReplaced svc ctx note draw prev s t)
    (htrimmed : lookupKey prev.key = prev.key)
    : prev.live (timestamptz ctx.now)
      ∧ prev.space = (ctx.tenantId, ctx.projectId, ctx.agentId, ctx.scope)
      ∧ prev.identity = note.identity := by
  have haccept : (ctx.resolveArgs note).accepts prev = true := by
    unfold ResolveUpdateArgs.accepts
    change ((lookupKey note.key).isSome || _) = true
    rw [h.keyed]
    rfl
  exact (matches_accepts_iff htrimmed).mp ⟨h.matched, haccept⟩

/-- A keyed identity is one of a type and a key. -/
theorem identity_keyed (h : (lookupKey note.key).isSome = true)
    : ∃ key, lookupKey note.key = some key ∧ note.identity = .keyed note.type key := by
  rcases Option.isSome_iff_exists.mp h with ⟨key, hkey⟩
  refine ⟨key, hkey, ?_⟩
  unfold AddNoteInput.identity
  rw [hkey]

/-- Notes with the same keyed identity have the same type and key. -/
theorem keyed_of_identity {note' : AddNoteInput} (h : note.identity = note'.identity)
    (hkeyed : (lookupKey note'.key).isSome = true)
    : note.type = note'.type ∧ lookupKey note.key = lookupKey note'.key := by
  rcases identity_keyed hkeyed with ⟨key, hkey, hidentity⟩
  rw [hidentity] at h
  unfold AddNoteInput.identity at h
  cases hlookup : lookupKey note.key with
  | some key' =>
    rw [hlookup] at h
    simp only [NoteIdentity.keyed.injEq] at h
    exact ⟨h.1, by rw [hkey, h.2]⟩
  | none =>
    rw [hlookup] at h
    cases h

/-- A row whose key is not changed keeps its keyed identity. -/
theorem identity_of_keyed {row prev : MemoryNote} {type key : String}
    (h : prev.identity = .keyed type key) (hkey : row.key = prev.key) (htype : row.type = prev.type)
    : row.identity = .keyed type key := by
  unfold MemoryNote.identity at h ⊢
  rw [hkey, htype]
  cases hlookup : lookupKey prev.key with
  | some key' =>
    rw [hlookup] at h
    exact h
  | none =>
    rw [hlookup] at h
    cases h

theorem AddNoteReplaced.identified (h : AddNoteReplaced svc ctx note draw prev s t)
    (hs : s.Identified) (hwritten : s.WrittenBy (timestamptz ctx.now)) : t.Identified := by
  rcases identity_keyed h.keyed with ⟨key, -, hkeyed⟩
  have hprev := h.found (hs.trimmed prev h.mem)
  rw [hkeyed] at hprev
  apply h.writes.identified hs hwritten
  . rfl
  . exact hs.trimmed prev h.mem
  . intro row hmem hid hlive hspace hidentity
    -- The row that is replaced has this identity already.
    have hsame : (addNoteUpdated svc note prev ctx.now).identity = .keyed note.type key :=
      identity_of_keyed hprev.2.2 rfl rfl
    have heq := hs.unique _ hwritten row hmem prev h.mem hlive hprev.1 hspace
      (hidentity.trans (hsame.trans hprev.2.2.symm))
    have hrow : row.noteId = prev.noteId := congrArg MemoryNote.noteId heq
    exact hid hrow

/-- The step lemma. -/
theorem identified_step (hs : s.Identified) (h : Run.Guarded InsertsTrimmedKey Steps s a t)
    : t.Identified := by
  rcases h with ⟨hguard, hstep⟩
  rcases hstep.cases with rfl | ⟨r, hok⟩
  . exact hs
  . rcases a with ⟨svc, draw, op⟩
    cases op with
    | addNote req now note withinBudget =>
      rcases Transaction.reports_eq_ok.mp hok with ⟨result, hok, -⟩
      rcases processAddNoteInput_outcome hok with ⟨text, hpolicy, hquiet | hadd | hreplace⟩
      . rcases hquiet with ⟨⟨decisions, rfl⟩, -⟩
        exact hs.of_notes rfl
      . exact hadd.2.2.identified hs hguard.1 (hguard.2 text hpolicy hadd.1 hadd.2.2.unmatched)
      . rcases hreplace with ⟨prev, -, -, hreplace⟩
        exact hreplace.identified hs hguard.1
    | _ => exact absurd hguard id

/-! ## Content -/

/-- The note has no structured fields. -/
def AddNoteInput.plain (note : AddNoteInput) : Bool :=
  note.structured.all fun fields => fields.isEffectivelyEmpty && !fields.hasGraphFields

/-- What a note asks a stored one to say. -/
def AddNoteInput.content (note : AddNoteInput) : String × F32 × F32 × Option Int × Json :=
  (note.text, note.importance, note.confidence, requestedTtlDays note, note.sourceRef)

/-- The row says what the note asks for. -/
def MemoryNote.says (row : MemoryNote) (note : AddNoteInput) : Bool :=
  noteUpdateIsUnchanged row note row.expiresAt (requestedTtlDays note)

/-- Whether an update changes a row is not a matter of the time of the update. -/
theorem noteUpdateIsUnchanged_eq (svc : ElfService) (row : MemoryNote) (note : AddNoteInput)
    (now : Nat)
    : noteUpdateIsUnchanged row note (updatedExpiresAt svc note row now) (requestedTtlDays note)
      = row.says note := by
  unfold MemoryNote.says noteUpdateIsUnchanged expiresMatch updatedExpiresAt
  cases requestedTtlDays note with
  | none => rfl
  | some ttlDays => rfl

theorem says_congr {note' : AddNoteInput} (hplain : note.plain = true) (hplain' : note'.plain = true)
    (hcontent : note.content = note'.content) : row.says note = row.says note' := by
  unfold AddNoteInput.content at hcontent
  simp only [Prod.mk.injEq] at hcontent
  rcases hcontent with ⟨htext, himportance, hconfidence, httl, hsource⟩
  unfold AddNoteInput.plain at hplain hplain'
  unfold MemoryNote.says noteUpdateIsUnchanged
  rw [hplain, hplain', htext, himportance, hconfidence, httl, hsource]

theorem timestamptz_add_days (now days : Nat)
    : timestamptz (now + days * dayNanoseconds) = timestamptz now + days * dayNanoseconds := by
  unfold timestamptz dayNanoseconds
  omega

theorem wholeDays_add_days (now days : Nat)
    : wholeDays (timestamptz now) (timestamptz (now + days * dayNanoseconds)) = days := by
  rw [timestamptz_add_days]
  unfold wholeDays
  push_cast
  rw [add_sub_cancel_left]
  apply Int.mul_tdiv_cancel
  decide

theorem expiry_unexpired {days : Int} {now expiresAt : Nat}
    (h : (if 0 < days then some (now + days.toNat * dayNanoseconds) else none) = some expiresAt)
    : timestamptz now < timestamptz expiresAt := by
  split at h
  next hdays =>
    rw [Option.some.injEq] at h
    rw [← h, timestamptz_add_days]
    have hpos : 0 < days.toNat * dayNanoseconds := by
      apply Nat.mul_pos
      . omega
      . decide
    omega
  next => cases h

/-- A computed time to live lasts a day at least. -/
theorem computeExpiresAt_unexpired {ttlDays : Option Int} {noteType : String} {cfg : Config}
    {now expiresAt : Nat} (h : computeExpiresAt ttlDays noteType cfg now = some expiresAt)
    : timestamptz now < timestamptz expiresAt := by
  unfold computeExpiresAt at h
  dsimp only at h
  exact expiry_unexpired h

/-- A row just written with the content of a note says it. -/
theorem says_of_written (hplain : note.plain = true) (himportance : note.importance.isFinite = true)
    (hconfidence : note.confidence.isFinite = true) (htext : row.text = note.text)
    (himp : row.importance = note.importance) (hconf : row.confidence = note.confidence)
    (hsource : row.sourceRef = note.sourceRef)
    (hexpires : ∀ ttlDays, requestedTtlDays note = some ttlDays → ∃ expiresAt,
      row.expiresAt = some expiresAt ∧ wholeDays row.updatedAt expiresAt = ttlDays)
    : row.says note = true := by
  have heps : ∀ score : F32, score.isFinite = true → (score.sub score).abs.le floatEps = true :=
    fun score hfinite => F32.abs_sub_self_le hfinite (by decide +kernel)
  unfold AddNoteInput.plain at hplain
  unfold MemoryNote.says noteUpdateIsUnchanged
  rw [hplain, htext, himp, hconf, hsource, heps _ himportance, heps _ hconfidence]
  unfold expiresMatch
  cases httl : requestedTtlDays note with
  | none => simp
  | some ttlDays =>
    rcases hexpires ttlDays httl with ⟨expiresAt, hrow, hdays⟩
    simp [hrow, hdays]

theorem requestedTtlDays_pos (h : requestedTtlDays note = some ttlDays) : 0 < ttlDays := by
  unfold requestedTtlDays at h
  rw [Option.filter_eq_some_iff] at h
  simpa using h.2

/-- The expiry that a requested time to live is stored as. -/
theorem computeExpiresAt_requested {ttlDays : Option Int} {days : Int}
    (h : ttlDays.filter (0 < ·) = some days) (noteType : String) (cfg : Config) (now : Nat)
    : computeExpiresAt ttlDays noteType cfg now = some (now + days.toNat * dayNanoseconds) := by
  have hpos : 0 < days := by
    rw [Option.filter_eq_some_iff] at h
    simpa using h.2
  unfold computeExpiresAt
  dsimp only
  rw [h]
  exact if_pos hpos

/-- A row that was written with the requested time to live keeps it in days. -/
theorem wholeDays_requested (h : requestedTtlDays note = some ttlDays) (now : Nat)
    : wholeDays (timestamptz now) (timestamptz (now + ttlDays.toNat * dayNanoseconds)) = ttlDays := by
  have hpos := requestedTtlDays_pos h
  rw [wholeDays_add_days]
  omega

/-! ## Settled notes -/

theorem AddNoteAdded.settled (h : AddNoteAdded svc ctx note draw s t)
    (hkey : lookupKey note.key = note.key) (hplain : note.plain = true)
    (himportance : note.importance.isFinite = true) (hconfidence : note.confidence.isFinite = true)
    (withinBudget : Bool) : AddNoteSettled svc ctx note withinBudget t := by
  intro _
  have hlive : (newMemoryNote svc ctx note draw.noteId).stored.live (timestamptz ctx.now) := by
    constructor
    . rfl
    . have hstored : (newMemoryNote svc ctx note draw.noteId).stored.expiresAt
          = (computeExpiresAt note.ttlDays note.type svc.cfg ctx.now).map timestamptz := rfl
      unfold MemoryNote.expired
      rw [hstored]
      cases hexpires : computeExpiresAt note.ttlDays note.type svc.cfg ctx.now with
      | none => rfl
      | some expiresAt =>
        have hlater := computeExpiresAt_unexpired hexpires
        simpa using hlater
  have hfound := (@matches_accepts_iff ctx note (newMemoryNote svc ctx note draw.noteId).stored
    hkey).mpr ⟨hlive, rfl, rfl⟩
  refine ⟨_, h.writes.stored_mem, hfound.1, hfound.2, ?_⟩
  intro _
  rw [noteUpdateIsUnchanged_eq]
  apply says_of_written hplain himportance hconfidence rfl rfl rfl rfl
  intro ttlDays httl
  have hpos := requestedTtlDays_pos httl
  refine ⟨timestamptz (ctx.now + ttlDays.toNat * dayNanoseconds), ?_, ?_⟩
  . change (computeExpiresAt note.ttlDays note.type svc.cfg ctx.now).map timestamptz = _
    rw [computeExpiresAt_requested httl]
    rfl
  . exact wholeDays_requested httl ctx.now

theorem AddNoteReplaced.settled (h : AddNoteReplaced svc ctx note draw prev s t)
    (htrimmed : lookupKey prev.key = prev.key) (hsound : prev.Sound) (hplain : note.plain = true)
    (himportance : note.importance.isFinite = true) (hconfidence : note.confidence.isFinite = true)
    (withinBudget : Bool) : AddNoteSettled svc ctx note withinBudget t := by
  intro _
  rcases identity_keyed h.keyed with ⟨key, -, hkeyed⟩
  have hprev := h.found htrimmed
  let row := (addNoteUpdated svc note prev ctx.now).stored
  have hexpires : row.expiresAt = ((requestedTtlDays note).map fun ttlDays =>
      timestamptz (ctx.now + ttlDays.toNat * dayNanoseconds)).or prev.expiresAt := by
    change (updatedExpiresAt svc note prev ctx.now).map timestamptz = _
    unfold updatedExpiresAt
    cases httl : requestedTtlDays note with
    | none => exact hsound.expiry
    | some ttlDays =>
      dsimp only
      rw [computeExpiresAt_requested (Option.filter_some_pos (by simpa using requestedTtlDays_pos httl))]
      rfl
  have hlive : row.live (timestamptz ctx.now) := by
    constructor
    . exact hprev.1.1
    . unfold MemoryNote.expired
      rw [hexpires]
      cases httl : requestedTtlDays note with
      | none => exact hprev.1.2
      | some ttlDays =>
        have hlater := computeExpiresAt_unexpired
          (computeExpiresAt_requested (Option.filter_some_pos (by simpa using requestedTtlDays_pos httl))
            note.type svc.cfg ctx.now)
        simpa using hlater
  have hidentity : row.identity = note.identity := by
    have hrow := hprev.2.2
    rw [hkeyed] at hrow ⊢
    exact identity_of_keyed hrow rfl rfl
  have hfound := (@matches_accepts_iff ctx note row htrimmed).mpr ⟨hlive, hprev.2.1, hidentity⟩
  refine ⟨row, h.writes.stored_mem, hfound.1, hfound.2, ?_⟩
  intro _
  rw [noteUpdateIsUnchanged_eq]
  apply says_of_written hplain himportance hconfidence rfl rfl rfl rfl
  intro ttlDays httl
  rw [httl] at hexpires
  exact ⟨_, hexpires, wholeDays_requested httl ctx.now⟩

/-- Notes of one request that share a type and a key ask for the same content. -/
def AgreeOnKey (note note' : AddNoteInput) : Prop :=
  note.type = note'.type → lookupKey note.key = lookupKey note'.key
    → (lookupKey note.key).isSome = true → note.content = note'.content

/-- What is settled stays so while other notes of the request are written. -/
theorem AddNoteSettled.of_processed {req : AddNoteRequest} {now later : Nat} {other : AddNoteInput}
    {withinBudget : Bool}
    (h : AddNoteSettled svc (req.context svc now) note withinBudget s) (hs : s.Identified)
    (hplain : note.plain = true) (hother : other.plain = true) (hagree : AgreeOnKey note other)
    (hstep : t.notes = s.notes ∨ AddNoteAdded svc (req.context svc later) other draw s t
      ∨ ∃ prev, AddNoteReplaced svc (req.context svc later) other draw prev s t)
    : AddNoteSettled svc (req.context svc now) note withinBudget t := by
  intro hpasses
  rcases h hpasses with ⟨row, hmem, hmatch, haccept, hsays⟩
  refine ⟨row, ?_, hmatch, haccept, hsays⟩
  rcases hstep with hnotes | hadd | ⟨prev, hreplace⟩
  . rw [hnotes]
    exact hmem
  . apply hadd.writes.other_mem hmem
    intro hid
    have hfresh := hadd.writes.prev_eq
    have hfind := s.notes.find?_key hmem
    change s.notes.find? row.noteId = some row at hfind
    rw [hid] at hfind
    rw [hfind] at hfresh
    cases hfresh
  . apply hreplace.writes.other_mem hmem
    intro hid
    change row.noteId = prev.noteId at hid
    have hrow : row = prev := s.notes.eq_of_key_eq hmem hreplace.mem hid
    subst hrow
    -- The other note would replace the row by what the row says already.
    have hfound := (matches_accepts_iff (hs.trimmed row hmem)).mp ⟨hmatch, haccept⟩
    have hidentity := hfound.2.2.symm.trans (hreplace.found (hs.trimmed row hmem)).2.2
    rcases keyed_of_identity hidentity hreplace.keyed with ⟨htype, hkey⟩
    have hkeyed := hreplace.keyed
    rw [← hkey] at hkeyed
    have hsame := hsays hkeyed
    have hchanged := hreplace.changed
    rw [noteUpdateIsUnchanged_eq] at hsame hchanged
    rw [says_congr hplain hother (hagree htype hkey hkeyed), hchanged] at hsame
    cases hsame

/-- Every row that was unexpired at one time is so at another. -/
def Store.StaysUnexpired (s : Store) (now later : Nat) : Prop :=
  ∀ row ∈ s.notes, row.expired now = false → row.expired later = false

/-- Repeating a settled note writes nothing but the audit of it. -/
theorem AddNoteSettled.repeated {req : AddNoteRequest} {now later : Nat} {withinBudget : Bool}
    {r : AddNoteResult} {text : String}
    (h : AddNoteSettled svc (req.context svc now) { note with text } withinBudget s)
    (hs : s.Identified) (hwritten : s.WrittenBy (timestamptz later))
    (hunexpired : s.StaysUnexpired (timestamptz now) (timestamptz later))
    (hpolicy : applyWritePolicyToNote note = .ok { note with text })
    (haccepted : ¬ AddNoteRejects svc (req.context svc now) { note with text })
    (hok : processAddNoteInput svc (req.context svc later) note withinBudget draw s = .ok (r, t))
    : (∃ ingestDecisions, t = { s with ingestDecisions }) ∧ r.op = .none := by
  have hfound : ∀ row ∈ s.notes, ((req.context svc now).resolveArgs { note with text }).matches row = true
      → ((req.context svc now).resolveArgs { note with text }).accepts row = true
      → row.live (timestamptz later)
        ∧ row.space = (req.tenantId, req.effectiveProjectId, req.agentId, req.scope)
        ∧ row.identity = AddNoteInput.identity { note with text } := by
    intro row hmem hmatch haccept
    have hrow := (matches_accepts_iff (hs.trimmed row hmem)).mp ⟨hmatch, haccept⟩
    exact ⟨⟨hrow.1.1, hunexpired row hmem hrow.1.2⟩, hrow.2⟩
  rcases processAddNoteInput_outcome hok with ⟨text', hpolicy', hcases⟩
  rw [hpolicy] at hpolicy'
  have htext : text = text' := by
    rw [Except.ok.injEq] at hpolicy'
    exact congrArg AddNoteInput.text hpolicy'
  subst htext
  rcases hcases with ⟨hframe, hop, -⟩ | ⟨hpasses, -, hadd⟩ | ⟨prev, hpasses, -, hreplace⟩
  . rcases hop with ⟨hop, -⟩ | ⟨-, hrejects⟩
    . exact ⟨hframe, hop⟩
    . exact absurd hrejects haccepted
  . exfalso
    rcases h ⟨hpasses.structured, hpasses.gate, hpasses.budget, hpasses.policy⟩ with
      ⟨row, hmem, hmatch, haccept, -⟩
    have hnow := (@matches_accepts_iff (req.context svc later) { note with text } row
      (hs.trimmed row hmem)).mpr (hfound row hmem hmatch haccept)
    have hunmatched := hadd.unmatched row hmem hnow.1
    rw [hnow.2] at hunmatched
    cases hunmatched
  . exfalso
    rcases h ⟨hpasses.structured, hpasses.gate, hpasses.budget, hpasses.policy⟩ with
      ⟨row, hmem, hmatch, haccept, hsays⟩
    have hrow := hfound row hmem hmatch haccept
    have hprev := hreplace.found (hs.trimmed prev hreplace.mem)
    have heq := hs.unique _ hwritten row hmem prev hreplace.mem hrow.1 hprev.1
      (hrow.2.1.trans hprev.2.1.symm) (hrow.2.2.trans hprev.2.2.symm)
    subst heq
    have hsame := hsays hreplace.keyed
    have hchanged := hreplace.changed
    rw [noteUpdateIsUnchanged_eq] at hsame hchanged
    rw [hchanged] at hsame
    cases hsame

/-! ## Requests -/

/-- The steps of the notes of a request from the index `idx` on. -/
def addNoteSteps (svc : ElfService) (req : AddNoteRequest) (baseNow : Nat) (draws : Nat → Draw)
    : List AddNoteInput → Nat → Nat → List Step
  | [], _, _ => []
  | note :: notes, idx, remaining =>
    let bytes := svc.addNoteBytes note
    let withinBudget := decide (bytes ≤ remaining)
    ⟨svc, draws idx, .addNote req (baseNow + 1000 * idx) note withinBudget⟩
      :: addNoteSteps svc req baseNow draws notes (idx + 1)
        (if withinBudget then remaining - bytes else remaining)

/-- A note whose repetition can be told from the note alone. -/
structure AddNoteInput.Repeatable (note : AddNoteInput) : Prop where
  plain : note.plain = true
  importance : note.importance.isFinite = true
  confidence : note.confidence.isFinite = true

/-- The notes ask for the same content after their write policies, if they share a type and a key. -/
def AgreeAfterPolicy (note note' : AddNoteInput) : Prop :=
  ∀ text text', applyWritePolicyToNote note = .ok { note with text }
    → applyWritePolicyToNote note' = .ok { note' with text := text' }
    → AgreeOnKey { note with text } { note' with text := text' }

/-- The notes from the index `idx` on are settled, each at its own time. -/
def AllSettled (svc : ElfService) (req : AddNoteRequest) (baseNow : Nat) (s : Store)
    : List AddNoteInput → Nat → Nat → Prop
  | [], _, _ => True
  | note :: notes, idx, remaining =>
    let bytes := svc.addNoteBytes note
    let withinBudget := decide (bytes ≤ remaining)
    (∃ text, applyWritePolicyToNote note = .ok { note with text }
      ∧ ¬ AddNoteRejects svc (req.context svc (baseNow + 1000 * idx)) { note with text }
      ∧ AddNoteSettled svc (req.context svc (baseNow + 1000 * idx)) { note with text } withinBudget s)
    ∧ AllSettled svc req baseNow s notes (idx + 1)
      (if withinBudget then remaining - bytes else remaining)

/-- What one note of a request leaves for those after it. -/
theorem processed_step {req : AddNoteRequest} {now : Nat} {withinBudget : Bool} {r : AddNoteResult}
    (hok : processAddNoteInput svc (req.context svc now) note withinBudget draw s = .ok (r, t))
    (hs : s.Identified) (hsound : s.Sound)
    (hguard : InsertsTrimmedKey s ⟨svc, draw, .addNote req now note withinBudget⟩)
    (hrepeatable : note.Repeatable)
    : t.Identified ∧ t.Sound ∧ ∃ text, applyWritePolicyToNote note = .ok { note with text }
      ∧ AddNoteSettled svc (req.context svc now) { note with text } withinBudget t
      ∧ (r.op ≠ .rejected → ¬ AddNoteRejects svc (req.context svc now) { note with text })
      ∧ (t.notes = s.notes ∨ AddNoteAdded svc (req.context svc now) { note with text } draw s t
        ∨ ∃ prev, AddNoteReplaced svc (req.context svc now) { note with text } draw prev s t) := by
  have hstep : Steps s ⟨svc, draw, .addNote req now note withinBudget⟩ t :=
    Steps.of_ok (Transaction.reports_eq_ok.mpr ⟨r, hok, rfl⟩)
  refine ⟨identified_step hs ⟨hguard, hstep⟩, sound_step hsound hstep, ?_⟩
  rcases processAddNoteInput_outcome hok with ⟨text, hpolicy, hquiet | hadd | hreplace⟩
  . rcases hquiet with ⟨⟨decisions, rfl⟩, hop, hsettled⟩
    refine ⟨text, hpolicy, hsettled, ?_, Or.inl rfl⟩
    intro hne
    rcases hop with ⟨-, haccepted⟩ | ⟨hrejected, -⟩
    . exact haccepted
    . exact absurd hrejected hne
  . rcases hadd with ⟨hpasses, -, hadd⟩
    refine ⟨text, hpolicy, ?_, ?_, Or.inr (Or.inl hadd)⟩
    . apply hadd.settled
      . exact hguard.2 text hpolicy hpasses hadd.unmatched
      . exact hrepeatable.plain
      . exact hrepeatable.importance
      . exact hrepeatable.confidence
    . exact fun _ hrejects => hrejects ⟨hpasses.structured, hpasses.gate⟩
  . rcases hreplace with ⟨prev, hpasses, -, hreplace⟩
    refine ⟨text, hpolicy, ?_, ?_, Or.inr (Or.inr ⟨prev, hreplace⟩)⟩
    . apply hreplace.settled
      . exact hs.trimmed prev hreplace.mem
      . exact hsound prev.noteId prev (s.notes.find?_key hreplace.mem)
      . exact hrepeatable.plain
      . exact hrepeatable.importance
      . exact hrepeatable.confidence
    . exact fun _ hrejects => hrejects ⟨hpasses.structured, hpasses.gate⟩

/-- The notes of a request after the first one, if it is accepted. -/
theorem processAddNotes_cons {req : AddNoteRequest} {baseNow : Nat} {draws : Nat → Draw}
    {notes : List AddNoteInput} {idx remaining : Nat} {results : List AddNoteResult}
    (hok : processAddNotes svc req baseNow draws (note :: notes) idx remaining s = (.ok results, t))
    : ∃ result u results', results = result :: results'
      ∧ processAddNoteInput svc (req.context svc (baseNow + 1000 * idx)) note
        (decide (svc.addNoteBytes note ≤ remaining)) (draws idx) s = .ok (result, u)
      ∧ processAddNotes svc req baseNow draws notes (idx + 1)
        (if decide (svc.addNoteBytes note ≤ remaining) then remaining - svc.addNoteBytes note
          else remaining) u = (.ok results', t) := by
  unfold processAddNotes at hok
  dsimp only at hok
  split at hok
  . cases hok
  next result u hone =>
    generalize htail : processAddNotes svc req baseNow draws notes (idx + 1) _ u = out at hok
    rcases out with ⟨tail, v⟩
    rw [Prod.mk.injEq] at hok
    rcases hok with ⟨hresults, rfl⟩
    rcases Except.map_eq_ok.mp hresults with ⟨results', rfl, rfl⟩
    exact ⟨result, u, results', rfl, hone, htail⟩

theorem next_addNote {req : AddNoteRequest} {now : Nat} {withinBudget : Bool} {r : AddNoteResult}
    (hok : processAddNoteInput svc (req.context svc now) note withinBudget draw s = .ok (r, t))
    : (Step.exec ⟨svc, draw, .addNote req now note withinBudget⟩).next s = t :=
  Transaction.next_of_ok (Transaction.reports_eq_ok.mpr ⟨r, hok, rfl⟩)

/-- A settled note stays settled while the rest of its request is processed. -/
theorem settled_of_processed {req : AddNoteRequest} {baseNow now : Nat} {draws : Nat → Draw}
    {withinBudget : Bool} {text : String} {notes : List AddNoteInput} {idx remaining : Nat}
    {results : List AddNoteResult}
    (h : AddNoteSettled svc (req.context svc now) { note with text } withinBudget s)
    (hpolicy : applyWritePolicyToNote note = .ok { note with text })
    (hs : s.Identified) (hsound : s.Sound)
    (hmeets : s.Meets InsertsTrimmedKey (addNoteSteps svc req baseNow draws notes idx remaining))
    (hnote : note.Repeatable)
    (hnotes : ∀ other ∈ notes, other.Repeatable ∧ AgreeAfterPolicy note other)
    (hok : processAddNotes svc req baseNow draws notes idx remaining s = (.ok results, t))
    : AddNoteSettled svc (req.context svc now) { note with text } withinBudget t := by
  induction notes generalizing idx remaining s results with
  | nil =>
    cases hok
    exact h
  | cons other notes ih =>
    rcases processAddNotes_cons hok with ⟨result, u, results', rfl, hone, htail⟩
    rcases hnotes other List.mem_cons_self with ⟨hother, hagree⟩
    rcases processed_step hone hs hsound hmeets.1 hother with
      ⟨hidentified, hsound', text', hpolicy', -, -, hcases⟩
    have hsettled : AddNoteSettled svc (req.context svc now) { note with text } withinBudget u := by
      refine h.of_processed hs hnote.plain ?_ ?_ hcases
      . exact hother.plain
      . exact hagree text text' hpolicy hpolicy'
    have hmeets' := hmeets.2
    rw [next_addNote hone] at hmeets'
    apply ih hsettled hidentified hsound' hmeets' _ htail
    intro other' hmem
    exact hnotes other' (List.mem_cons_of_mem other hmem)

/-- After an accepted request, all of its notes are settled. -/
theorem allSettled_of_processed {req : AddNoteRequest} {baseNow : Nat} {draws : Nat → Draw}
    {notes : List AddNoteInput} {idx remaining : Nat} {results : List AddNoteResult}
    (hs : s.Identified) (hsound : s.Sound)
    (hmeets : s.Meets InsertsTrimmedKey (addNoteSteps svc req baseNow draws notes idx remaining))
    (hrepeatable : ∀ note ∈ notes, note.Repeatable) (hagree : notes.Pairwise AgreeAfterPolicy)
    (hok : processAddNotes svc req baseNow draws notes idx remaining s = (.ok results, t))
    (haccepted : ∀ result ∈ results, result.op ≠ .rejected)
    : t.Identified ∧ AllSettled svc req baseNow t notes idx remaining := by
  induction notes generalizing idx remaining s results with
  | nil =>
    cases hok
    exact ⟨hs, trivial⟩
  | cons note notes ih =>
    rcases processAddNotes_cons hok with ⟨result, u, results', rfl, hone, htail⟩
    have hnote := hrepeatable note List.mem_cons_self
    rcases processed_step hone hs hsound hmeets.1 hnote with
      ⟨hidentified, hsound', text, hpolicy, hsettled, haccept, -⟩
    rw [List.pairwise_cons] at hagree
    have hmeets' := hmeets.2
    rw [next_addNote hone] at hmeets'
    have hrest := ih hidentified hsound' hmeets'
      (fun other hmem => hrepeatable other (List.mem_cons_of_mem note hmem)) hagree.2 htail
      (fun result hmem => haccepted result (List.mem_cons_of_mem _ hmem))
    refine ⟨hrest.1, ⟨text, hpolicy, haccept (haccepted result List.mem_cons_self), ?_⟩, hrest.2⟩
    apply settled_of_processed hsettled hpolicy hidentified hsound' hmeets' hnote _ htail
    intro other hmem
    exact ⟨hrepeatable other (List.mem_cons_of_mem note hmem), hagree.1 other hmem⟩

theorem AllSettled.of_notes {req : AddNoteRequest} {baseNow : Nat} {notes : List AddNoteInput}
    {idx remaining : Nat} (h : AllSettled svc req baseNow s notes idx remaining)
    (hnotes : t.notes = s.notes) : AllSettled svc req baseNow t notes idx remaining := by
  induction notes generalizing idx remaining with
  | nil => trivial
  | cons note notes ih =>
    rcases h with ⟨⟨text, hpolicy, haccepted, hsettled⟩, hrest⟩
    refine ⟨⟨text, hpolicy, haccepted, ?_⟩, ih hrest⟩
    unfold AddNoteSettled at hsettled ⊢
    rw [hnotes]
    exact hsettled

/-- Repeating a request whose notes are settled writes nothing but the audit of it. -/
theorem AllSettled.repeated {req : AddNoteRequest} {baseNow later : Nat} {draws : Nat → Draw}
    {notes : List AddNoteInput} {idx remaining : Nat}
    (h : AllSettled svc req baseNow s notes idx remaining) (hs : s.Identified)
    (hwritten : s.WrittenBy (timestamptz later))
    (hunexpired : s.StaysUnexpired (timestamptz baseNow)
      (timestamptz (later + 1000 * (idx + notes.length))))
    : (∃ ingestDecisions, (processAddNotes svc req later draws notes idx remaining s).2
        = { s with ingestDecisions })
      ∧ ∀ results, (processAddNotes svc req later draws notes idx remaining s).1 = .ok results
        → ∀ result ∈ results, result.op = .none := by
  induction notes generalizing idx remaining s with
  | nil =>
    refine ⟨⟨s.ingestDecisions, rfl⟩, ?_⟩
    intro results hok
    cases hok
    intro result hmem
    cases hmem
  | cons note notes ih =>
    rcases h with ⟨⟨text, hpolicy, haccepted, hsettled⟩, hrest⟩
    unfold processAddNotes
    dsimp only
    split
    next err herr =>
      refine ⟨⟨s.ingestDecisions, rfl⟩, ?_⟩
      intro results hok
      cases hok
    next result u hone =>
      have hlength : idx + (note :: notes).length = idx + 1 + notes.length := by
        rw [List.length_cons]
        omega
      rw [hlength] at hunexpired
      have hlater : s.WrittenBy (timestamptz (later + 1000 * idx)) := by
        intro row hmem
        exact (hwritten row hmem).trans (timestamptz_mono (Nat.le_add_right later _))
      have hnow : s.StaysUnexpired (timestamptz (baseNow + 1000 * idx))
          (timestamptz (later + 1000 * idx)) := by
        intro row hmem hlive
        have hlive' : row.expired (timestamptz baseNow) = false := by
          exact expired_mono (timestamptz_mono (Nat.le_add_right baseNow _)) hlive
        have hle : later + 1000 * idx ≤ later + 1000 * (idx + 1 + notes.length) := by omega
        exact expired_mono (timestamptz_mono hle) (hunexpired row hmem hlive')
      rcases hsettled.repeated hs hlater hnow hpolicy haccepted hone with ⟨⟨decisions, rfl⟩, hop⟩
      have hrest' := hrest.of_notes (t := { s with ingestDecisions := decisions }) rfl
      have hs' := hs.of_notes (t := { s with ingestDecisions := decisions }) rfl
      rcases ih hrest' hs' hwritten hunexpired with ⟨⟨decisions', hframe⟩, hops⟩
      constructor
      . exact ⟨decisions', hframe⟩
      . intro results hok
        rcases Except.map_eq_ok.mp hok with ⟨results', hresults, rfl⟩
        intro result' hmem
        rcases List.mem_cons.mp hmem with rfl | hmem
        . exact hop
        . exact hops results' hresults result' hmem

/-! ## Runs -/

theorem processAddNotes_eq_run {req : AddNoteRequest} {baseNow : Nat} {draws : Nat → Draw}
    {notes : List AddNoteInput} {idx remaining : Nat} {results : List AddNoteResult}
    (hok : processAddNotes svc req baseNow draws notes idx remaining s = (.ok results, t))
    : s.run (addNoteSteps svc req baseNow draws notes idx remaining) = t := by
  induction notes generalizing idx remaining s results with
  | nil =>
    cases hok
    rfl
  | cons note notes ih =>
    rcases processAddNotes_cons hok with ⟨result, u, results', rfl, hone, htail⟩
    unfold addNoteSteps Store.run
    rw [next_addNote hone]
    exact ih htail

/-- The steps of an `add_note` request. -/
def AddNoteRequest.steps (svc : ElfService) (req : AddNoteRequest) (baseNow : Nat)
    (draws : Nat → Draw) : List Step :=
  addNoteSteps svc (normalizeAddNoteRequest req) baseNow draws (normalizeAddNoteRequest req).notes 0
    svc.cfg.ingestMaxBytes

/-- The request has no structured fields, finite scores and no two contents for one key. -/
structure AddNoteRequest.Repeatable (req : AddNoteRequest) : Prop where
  notes : ∀ note ∈ (normalizeAddNoteRequest req).notes, note.Repeatable
  agree : (normalizeAddNoteRequest req).notes.Pairwise AgreeAfterPolicy

/-- The second request leaves the store as it is, and has no new version and no new job. -/
def LeavesUnchanged (svc : ElfService) (req : AddNoteRequest) (later : Nat) (draws : Nat → Draw)
    (s : Store) : Prop :=
  (∃ ingestDecisions, (addNote svc req later draws s).2 = { s with ingestDecisions })
    ∧ ∀ results, (addNote svc req later draws s).1 = .ok results
      → ∀ result ∈ results, result.op = .none

instance (s : Store) (now : Nat) : Decidable (s.WrittenBy now) :=
  inferInstanceAs (Decidable (∀ note ∈ s.notes.rows, _))

instance (s : Store) (now : Nat) : Decidable (s.UniqueAt now) :=
  inferInstanceAs (Decidable (∀ a ∈ s.notes.rows, ∀ b ∈ s.notes.rows, _))

instance (s : Store) (now later : Nat) : Decidable (s.StaysUnexpired now later) :=
  inferInstanceAs (Decidable (∀ row ∈ s.notes.rows, _))

/-- The request that stores one note under a key. -/
def requestOf (key text : String) : AddNoteRequest :=
  sampleAddNote "p" "agent_private" [sampleNote (some key) text]

def stepOf (n : Nat) (key text : String) : Step :=
  sampleAdd n "p" "agent_private" (sampleNote (some key) text)

/-- A note gets a new text, under its key. -/
def portsTwice : List Step := [stepOf 1 "ports" "All ports are open.",
  stepOf 2 "ports" "Port 22 is closed."]

theorem requestOf_repeatable (key text : String) : (requestOf key text).Repeatable := by
  constructor
  . intro note hmem
    cases hmem with
    | head => exact ⟨rfl, rfl, rfl⟩
    | tail _ hmem => cases hmem
  . exact List.pairwise_singleton _ _

def portsAgain : Except Error (List AddNoteResult) × Store :=
  addNote sampleService (requestOf "ports" "Port 22 is open.") 3000000000 (fun _ => sampleDraw 3)
    (Store.empty.run portsTwice)

/-- A key with white space around it is stored as it is, and never found again. -/
def untrimmedTwice : List Step := [stepOf 1 " ports " "All ports are open.",
  stepOf 2 " ports " "All ports are open."]

end Elf
