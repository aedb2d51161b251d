import Elf.CoreBlocks.Lemmas
import Elf.Service.Lemmas.Grants

/-!
This module contains that the events of the core blocks are a complete history of every block and of
every attachment, whatever requests were made in which order, and that a reader gets the blocks that are
attached to it and that it may read now, and no others.
-/

namespace Elf

open Except

/-! ## Histories -/

abbrev CoreBlockEvents := Table CoreBlockEvent CoreBlockEvent.eventId

/-- The events of a block itself. -/
def eventsOfBlock (events : CoreBlockEvents) (blockId : Uuid) : List CoreBlockEvent :=
  events.rows.filter fun event => event.blockId = blockId && event.attachmentId.isNone

def eventsOfAttachment (events : CoreBlockEvents) (attachmentId : Uuid)
    : List CoreBlockEvent :=
  events.rows.filter fun event => event.attachmentId = some attachmentId

/--
The events lead from nothing to the block as it is: each starts from the snapshot that the one before it
ended with, and each was caused by the owner of the block.
-/
structure CoreBlock.Recorded (block : CoreBlock) (events : List CoreBlockEvent) : Prop where
  trail : Trail CoreBlockEvent.prevSnapshot CoreBlockEvent.newSnapshot none events
    (some (blockSnapshot block))
  changes : ∀ event ∈ events, event.newSnapshot ≠ none
    ∧ event.eventType
      = if event.prevSnapshot = none then CoreBlockEventType.blockCreated else .blockUpdated
  owner : ∀ event ∈ events, event.tenantId = block.tenantId ∧ event.projectId = block.projectId
    ∧ event.actorAgentId = block.agentId

/-- The events of an attachment: it is added, maybe again, and after it is removed nothing happens. -/
inductive AttachmentHistory : List CoreBlockEvent → CoreBlockAttachment → Prop where
  | added {event : CoreBlockEvent} {attachment : CoreBlockAttachment}
    (type : event.eventType = .attachmentAdded)
    (snapshots : event.prevSnapshot = none
      ∧ event.newSnapshot = some (attachmentSnapshot attachment))
    (attached : attachment.detachedAt = none)
    : AttachmentHistory [event] attachment
  | addedAgain {events : List CoreBlockEvent} {event : CoreBlockEvent}
    {prev attachment : CoreBlockAttachment}
    (before : AttachmentHistory events prev) (open_ : prev.detachedAt = none)
    (type : event.eventType = .attachmentAdded)
    (snapshots : event.prevSnapshot = none
      ∧ event.newSnapshot = some (attachmentSnapshot attachment))
    (attached : attachment.detachedAt = none)
    : AttachmentHistory (events ++ [event]) attachment
  | removed {events : List CoreBlockEvent} {event : CoreBlockEvent}
    {prev attachment : CoreBlockAttachment}
    (before : AttachmentHistory events prev) (open_ : prev.detachedAt = none)
    (type : event.eventType = .attachmentRemoved)
    (snapshots : event.prevSnapshot = some (attachmentSnapshot prev)
      ∧ event.newSnapshot = some (attachmentSnapshot attachment))
    (detached : attachment.detachedAt ≠ none)
    : AttachmentHistory (events ++ [event]) attachment

/-- Every event is one of a block that is there, and of an attachment of that block if of any. -/
structure CoreBlockDb.Known (db : CoreBlockDb) : Prop where
  blocks : ∀ event ∈ db.events, ∃ block ∈ db.blocks, block.blockId = event.blockId
  attachments : ∀ event ∈ db.events, ∀ attachmentId, event.attachmentId = some attachmentId →
    ∃ attachment ∈ db.attachments, attachment.attachmentId = attachmentId
      ∧ attachment.blockId = event.blockId

structure CoreBlockDb.Audited (db : CoreBlockDb) : Prop where
  known : db.Known
  blocks : ∀ block ∈ db.blocks, block.Recorded (eventsOfBlock db.events block.blockId)
  attachments : ∀ attachment ∈ db.attachments,
    AttachmentHistory (eventsOfAttachment db.events attachment.attachmentId) attachment

variable {draw : CoreBlockDraw} {db db' : CoreBlockDb} {event : CoreBlockEvent}

theorem CoreBlock.Recorded.snoc {block block' : CoreBlock} {events : List CoreBlockEvent}
    (h : block.Recorded events) (hprev : event.prevSnapshot = some (blockSnapshot block))
    (hnew : event.newSnapshot = some (blockSnapshot block'))
    (htype : event.eventType = .blockUpdated)
    (howner : event.tenantId = block'.tenantId ∧ event.projectId = block'.projectId
      ∧ event.actorAgentId = block'.agentId)
    (hsame : block.Continues block') : block'.Recorded (events ++ [event]) := by
  constructor
  . rw [← hnew]
    exact h.trail.snoc hprev
  . intro other hmem
    rcases List.mem_append.mp hmem with hmem | hmem
    . exact h.changes other hmem
    . rw [List.mem_singleton.mp hmem, hprev, hnew, htype]
      simp
  . intro other hmem
    rcases List.mem_append.mp hmem with hmem | hmem
    . rw [hsame.tenantId, hsame.projectId, hsame.agentId]
      exact h.owner other hmem
    . rw [List.mem_singleton.mp hmem]
      exact howner

section Append

variable {events events' : CoreBlockEvents}

/-- An event that is appended is one more event of its block, or of its attachment. -/
theorem ofBlock_own (h : events.insert? event = some events')
    (hown : event.blockId = blockId ∧ event.attachmentId = none)
    : eventsOfBlock events' blockId = eventsOfBlock events blockId ++ [event] := by
  unfold eventsOfBlock
  rw [Table.filter_insert?_append h, if_pos]
  simp [hown]

theorem ofBlock_other (h : events.insert? event = some events')
    (hother : event.blockId ≠ blockId ∨ event.attachmentId ≠ none)
    : eventsOfBlock events' blockId = eventsOfBlock events blockId := by
  unfold eventsOfBlock
  rw [Table.filter_insert? h]
  simp only [Bool.and_eq_false_iff, decide_eq_false_iff_not, Option.isNone_eq_false_iff,
    Option.isSome_iff_ne_none]
  exact hother

theorem ofAttachment_own (h : events.insert? event = some events')
    (hown : event.attachmentId = some attachmentId)
    : eventsOfAttachment events' attachmentId = eventsOfAttachment events attachmentId ++ [event] := by
  unfold eventsOfAttachment
  rw [Table.filter_insert?_append h, if_pos]
  simp [hown]

theorem ofAttachment_other (h : events.insert? event = some events')
    (hother : event.attachmentId ≠ some attachmentId)
    : eventsOfAttachment events' attachmentId = eventsOfAttachment events attachmentId := by
  unfold eventsOfAttachment
  rw [Table.filter_insert? h]
  simp [hother]

end Append

/-- A block that is not there yet has no events. -/
theorem CoreBlockDb.Known.ofBlock_eq_nil (h : db.Known) (hfind : db.blocks.find? blockId = none)
    : eventsOfBlock db.events blockId = [] := by
  unfold eventsOfBlock
  rw [List.filter_eq_nil_iff]
  intro event hmem hevent
  simp only [Bool.and_eq_true, decide_eq_true_eq] at hevent
  rcases h.blocks event hmem with ⟨block, hblock, hid⟩
  exact (db.blocks.find?_eq_none_iff blockId).mp hfind block hblock (hid.trans hevent.1)

theorem CoreBlockDb.Known.ofAttachment_eq_nil (h : db.Known)
    (hfind : db.attachments.find? attachmentId = none) : eventsOfAttachment db.events attachmentId = [] := by
  unfold eventsOfAttachment
  rw [List.filter_eq_nil_iff]
  intro event hmem hevent
  simp only [decide_eq_true_eq] at hevent
  rcases h.attachments event hmem attachmentId hevent with ⟨attachment, hattachment, hid, -⟩
  exact (db.attachments.find?_eq_none_iff attachmentId).mp hfind attachment hattachment hid

/-- What is known stays known, with one more event about what is there. -/
theorem CoreBlockDb.Known.insert {events : Table CoreBlockEvent CoreBlockEvent.eventId}
    (h : db.Known) (hcontinues : db.Continues db') (hinsert : db.events.insert? event = some events)
    (hevents : db'.events = events)
    (hblock : ∃ block ∈ db'.blocks, block.blockId = event.blockId)
    (hattachment : ∀ attachmentId, event.attachmentId = some attachmentId →
      ∃ attachment ∈ db'.attachments, attachment.attachmentId = attachmentId
        ∧ attachment.blockId = event.blockId) : db'.Known := by
  have hblocks : ∀ old ∈ db.events, ∃ block ∈ db'.blocks, block.blockId = old.blockId := by
    intro old hmem
    rcases h.blocks old hmem with ⟨block, hmem, hid⟩
    rcases hcontinues.blocks block hmem with ⟨block', hmem', hsame⟩
    exact ⟨block', hmem', hsame.blockId.trans hid⟩
  have hattachments : ∀ old ∈ db.events, ∀ attachmentId, old.attachmentId = some attachmentId →
      ∃ attachment ∈ db'.attachments, attachment.attachmentId = attachmentId
        ∧ attachment.blockId = old.blockId := by
    intro old hmem attachmentId hid
    rcases h.attachments old hmem attachmentId hid with ⟨attachment, hmem, hid, hblockId⟩
    rcases hcontinues.attachments attachment hmem with ⟨attachment', hmem', hsame⟩
    have hkey := congrArg AttachmentKey.blockId hsame.openKey
    exact ⟨attachment', hmem', hsame.attachmentId.trans hid, hkey.trans hblockId⟩
  constructor
  . rw [hevents]
    exact Table.forall_insert? hinsert hblocks hblock
  . rw [hevents]
    exact Table.forall_insert? hinsert hattachments hattachment

/-- A change of the tables keeps who is known. -/
theorem CoreBlockChange.known (h : CoreBlockChange draw db db') (hlinked : db.Linked)
    (hknown : db.Known) : db'.Known := by
  have hcontinues := h.continues
  cases h with
  | memory memory => exact ⟨hknown.blocks, hknown.attachments⟩
  | created create org unused insert event =>
    apply hknown.insert hcontinues event rfl
    . exact ⟨_, (Table.mem_insert? insert _).mpr (.inr rfl), rfl⟩
    . intro attachmentId hid
      cases hid
  | updated update mem owns unused event =>
    apply hknown.insert hcontinues event rfl
    . exact ⟨_, Table.updated_mem_modify mem, rfl⟩
    . intro attachmentId hid
      cases hid
  | attached fetch first insert event =>
    rcases fetchActiveBlockForAttachment_eq_ok fetch with ⟨hmem, hid, -⟩
    apply hknown.insert hcontinues event rfl
    . exact ⟨_, hmem, hid⟩
    . intro attachmentId hid
      cases hid
      exact ⟨_, (Table.mem_insert? insert _).mpr (.inr rfl), rfl, rfl⟩
  | reattached mem active event =>
    rcases hlinked.attachments _ mem with ⟨block, hmem, hid, -⟩
    apply hknown.insert hcontinues event rfl
    . exact ⟨block, hmem, hid⟩
    . intro attachmentId hid
      cases hid
      exact ⟨_, Table.updated_mem_modify mem, rfl, rfl⟩
  | detached mem attached event =>
    rcases hlinked.attachments _ mem with ⟨block, hmem, hid, -⟩
    apply hknown.insert hcontinues event rfl
    . exact ⟨block, hmem, hid⟩
    . intro attachmentId hid
      cases hid
      exact ⟨_, Table.updated_mem_modify mem, rfl, rfl⟩

/-- The step lemma on blocks: of the block that is written, the event goes on with its history. -/
theorem CoreBlockChange.blocks_recorded (h : CoreBlockChange draw db db') (hdb : db.Audited)
    : ∀ block ∈ db'.blocks, block.Recorded (eventsOfBlock db'.events block.blockId) := by
  intro block hmem
  cases h with
  | memory memory => exact hdb.blocks block hmem
  | @created req blocks events create org unused insert event =>
    have hfresh := Table.insert?_fresh insert
    rcases (Table.mem_insert? insert block).mp hmem with hmem | rfl
    . rw [ofBlock_other event]
      . exact hdb.blocks block hmem
      . left
        intro hid
        exact (db.blocks.find?_eq_none_iff _).mp hfresh block hmem hid.symm
    . rw [ofBlock_own event, hdb.known.ofBlock_eq_nil hfresh]
      rotate_left
      . exact ⟨rfl, rfl⟩
      constructor
      . exact Trail.cons rfl (Trail.nil _)
      . simp [blockEvent, CoreBlockEvent.stored, create]
      . simp [blockEvent, CoreBlockEvent.stored, PreparedUpsertRequest.newBlock]
  | @updated req prev events update mem owns unused event =>
    simp only [Table.mem_modify] at hmem
    rcases hmem with ⟨old, hold, rfl⟩
    by_cases hid : old.blockId = prev.blockId
    . rw [if_pos hid, db.blocks.eq_of_key_eq hold mem hid]
      rw [ofBlock_own event]
      rotate_left
      . exact ⟨rfl, rfl⟩
      simp only [PreparedUpsertRequest.owns, Bool.and_eq_true, decide_eq_true_eq] at owns
      apply (hdb.blocks prev mem).snoc rfl rfl
      . simp [blockEvent, CoreBlockEvent.stored, update]
      . simp [blockEvent, CoreBlockEvent.stored, PreparedUpsertRequest.update, owns]
      . exact ⟨rfl, rfl, rfl, rfl, rfl, rfl, rfl⟩
    . rw [if_neg hid, ofBlock_other event]
      . exact hdb.blocks old hold
      . left
        exact fun heq => hid heq.symm
  | attached fetch first insert event =>
    rw [ofBlock_other event (.inr (Option.some_ne_none _))]
    exact hdb.blocks block hmem
  | reattached mem active event =>
    rw [ofBlock_other event (.inr (Option.some_ne_none _))]
    exact hdb.blocks block hmem
  | detached mem attached event =>
    rw [ofBlock_other event (.inr (Option.some_ne_none _))]
    exact hdb.blocks block hmem

/-- The step lemma on attachments. -/
theorem CoreBlockChange.attachments_recorded (h : CoreBlockChange draw db db') (hdb : db.Audited)
    : ∀ attachment ∈ db'.attachments,
        AttachmentHistory (eventsOfAttachment db'.events attachment.attachmentId) attachment := by
  intro attachment hmem
  cases h with
  | memory memory => exact hdb.attachments attachment hmem
  | created create org unused insert event =>
    rw [ofAttachment_other event (Option.some_ne_none _).symm]
    exact hdb.attachments attachment hmem
  | updated update mem owns unused event =>
    rw [ofAttachment_other event (Option.some_ne_none _).symm]
    exact hdb.attachments attachment hmem
  | @attached req block attachments events fetch first insert event =>
    have hfresh := Table.insert?_fresh insert
    rcases (Table.mem_insert? insert attachment).mp hmem with hmem | rfl
    . rw [ofAttachment_other event]
      . exact hdb.attachments attachment hmem
      . intro hid
        exact (db.attachments.find?_eq_none_iff _).mp hfresh attachment hmem (Option.some.inj hid).symm
    . rw [ofAttachment_own event, hdb.known.ofAttachment_eq_nil hfresh]
      rotate_left
      . rfl
      exact .added rfl ⟨rfl, rfl⟩ rfl
  | @reattached req prev events mem active event =>
    simp only [Table.mem_modify] at hmem
    rcases hmem with ⟨old, hold, rfl⟩
    by_cases hid : old.attachmentId = prev.attachmentId
    . rw [if_pos hid, db.attachments.eq_of_key_eq hold mem hid]
      rw [ofAttachment_own event]
      rotate_left
      . rfl
      exact .addedAgain (hdb.attachments prev mem) (isActiveFor_iff.mp active).2 rfl ⟨rfl, rfl⟩ rfl
    . rw [if_neg hid, ofAttachment_other event]
      . exact hdb.attachments old hold
      . exact fun heq => hid (Option.some.inj heq).symm
  | @detached req prev events mem attached event =>
    simp only [Table.mem_modify] at hmem
    rcases hmem with ⟨old, hold, rfl⟩
    by_cases hid : old.attachmentId = prev.attachmentId
    . rw [if_pos hid, db.attachments.eq_of_key_eq hold mem hid]
      rw [ofAttachment_own event]
      rotate_left
      . rfl
      exact .removed (hdb.attachments prev mem) attached rfl ⟨rfl, rfl⟩ (Option.some_ne_none _)
    . rw [if_neg hid, ofAttachment_other event]
      . exact hdb.attachments old hold
      . exact fun heq => hid (Option.some.inj heq).symm

theorem CoreBlockDb.Audited.empty : CoreBlockDb.empty.Audited := by
  refine ⟨⟨?_, ?_⟩, ?_, ?_⟩
  . intro event hmem
    cases hmem
  . intro event hmem
    cases hmem
  . intro block hmem
    cases hmem
  . intro attachment hmem
    cases hmem

/-- What every sequence of requests keeps. -/
structure CoreBlockDb.Sound (db : CoreBlockDb) : Prop where
  indexed : db.Indexed
  linked : db.Linked
  audited : db.Audited

theorem CoreBlockDb.Sound.step (h : CoreBlockSteps db a db') (hdb : db.Sound) : db'.Sound := by
  have hchange := h.change
  constructor
  . exact hchange.indexed hdb.indexed
  . exact hchange.linked hdb.linked
  . exact ⟨hchange.known hdb.linked hdb.audited.known, hchange.blocks_recorded hdb.audited,
      hchange.attachments_recorded hdb.audited⟩

/-- The run lemma. -/
theorem CoreBlockDb.Sound.reachable (h : Reachable CoreBlockDb.empty CoreBlockSteps db)
    : db.Sound := by
  apply h.invariant
  . exact ⟨Indexed.empty, Linked.empty, Audited.empty⟩
  . intro s a t hs hstep
    exact hs.step hstep

/--
No two active blocks of an owner share a key in a scope and no block is attached twice for one reader,
and what a request finds it leaves where it is: the block with its owner and its scope, the attachment
that is closed, and the events.
-/
theorem coreBlocks_continue (h : Reachable CoreBlockDb.empty CoreBlockSteps db)
    (hrun : Run CoreBlockSteps db as db') : db'.Indexed ∧ db.Continues db' := by
  rcases h with ⟨bs, h⟩
  exact ⟨(CoreBlockDb.Sound.reachable ⟨_, h.append hrun⟩).indexed, .run hrun⟩

/-! ## Reading -/

/-- A reader may see the block: it owns it, or a grant that is active opens the space of the owner. -/
structure CoreBlock.Readable (block : CoreBlock) (memory : Store)
    (tenantId projectId agentId : String) (allowedScopes : List String) : Prop where
  active : block.status = .active
  inProject : block.InProject tenantId projectId
  allowed : block.scope ∈ allowedScopes
  opened : (block.agentId = agentId
      ∧ (block.scope = "agent_private" ∨ isSharedScope block.scope = true))
    ∨ (isSharedScope block.scope = true ∧ ∃ grant ∈ memory.grants,
        grant.OpensTo tenantId block.projectId block.scope block.agentId agentId)

/-- The project that owns a scope owns the blocks in it. -/
theorem targetProjectId_of_inProject {block : CoreBlock} (hproject : block.InProject tenantId projectId)
    (horg : block.scope = "org_shared" → block.projectId = orgProjectId)
    : targetProjectId block.scope projectId = block.projectId := by
  unfold targetProjectId
  split
  next hscope => exact (horg hscope).symm
  next hscope =>
    rcases hproject.2 with hid | ⟨-, hscope'⟩
    . exact hid.symm
    . exact absurd hscope' hscope

theorem blockReadAllowed_iff {block : CoreBlock} (hproject : block.InProject tenantId projectId)
    (horg : block.scope = "org_shared" → block.projectId = orgProjectId)
    : blockReadAllowed block agentId allowedScopes (loadSharedReadGrantsWithOrgShared memory tenantId
        projectId agentId (allowedScopes.contains "org_shared")) = true
      ↔ block.Readable memory tenantId projectId agentId allowedScopes := by
  have hgrants : isSharedScope block.scope = true → block.scope ∈ allowedScopes →
      (⟨block.scope, block.agentId⟩ ∈ loadSharedReadGrantsWithOrgShared memory tenantId projectId
          agentId (allowedScopes.contains "org_shared")
        ↔ ∃ grant ∈ memory.grants,
          grant.OpensTo tenantId block.projectId block.scope block.agentId agentId) := by
    intro hshared hallowed
    rw [← targetProjectId_of_inProject hproject horg]
    apply mem_loadSharedReadGrantsWithOrgShared hshared
    intro hscope
    rw [← hscope]
    simpa using hallowed
  unfold blockReadAllowed
  constructor
  . intro h
    split at h
    . cases h
    next hactive =>
      split at h
      . cases h
      next hallowed =>
        rw [Bool.not_eq_true', Bool.not_eq_false, List.contains_iff_mem] at hallowed
        refine ⟨not_not.mp hactive, hproject, hallowed, ?_⟩
        split at h
        next hprivate => exact .inl ⟨of_decide_eq_true h, .inl hprivate⟩
        next =>
          split at h
          . cases h
          next hshared =>
            rw [Bool.not_eq_true', Bool.not_eq_false] at hshared
            split at h
            next howner => exact .inl ⟨howner, .inr hshared⟩
            next =>
              rw [List.contains_iff_mem] at h
              exact .inr ⟨hshared, (hgrants hshared hallowed).mp h⟩
  . rintro ⟨hactive, -, hallowed, hopened⟩
    rw [if_neg (not_not.mpr hactive), if_neg (by simpa using hallowed)]
    rcases hopened with ⟨howner, hprivate | hshared⟩ | ⟨hshared, hgrant⟩
    . rw [if_pos hprivate]
      simpa using howner
    . split
      . simpa using howner
      . simp [hshared]
    . have hnot : block.scope ≠ "agent_private" := by
        intro hprivate
        rw [hprivate] at hshared
        cases hshared
      rw [if_neg hnot, hshared, Bool.not_true, if_neg Bool.false_ne_true]
      split
      . rfl
      . rw [List.contains_iff_mem]
        exact (hgrants hshared hallowed).mpr hgrant

variable {svc : ReadService} {collate : Collation} {req : CoreBlocksGetRequest}
  {res : CoreBlocksResponse}

theorem prepareGetRequest_eq_ok {prepared : PreparedGetRequest}
    (h : prepareGetRequest svc req = .ok prepared)
    : prepared.tenantId = Text.trim req.tenantId ∧ prepared.projectId = Text.trim req.projectId
      ∧ prepared.agentId = Text.trim req.agentId ∧ prepared.readProfile = Text.trim req.readProfile
      ∧ resolveReadProfileScopes svc (Text.trim req.readProfile) = .ok prepared.allowedScopes := by
  simp only [prepareGetRequest, Except.bind_eq_ok, Except.pure_eq_ok, normalizeRequired_eq_ok] at h
  rcases h with ⟨_, ⟨-, rfl⟩, _, ⟨-, rfl⟩, _, ⟨-, rfl⟩, _, ⟨-, rfl⟩, scopes, hscopes, rfl⟩
  exact ⟨rfl, rfl, rfl, rfl, hscopes⟩

/-- The rows of the join are the attachments that are open for the reader, with their blocks. -/
theorem mem_fetchAttachedBlockRows
    : row ∈ fetchAttachedBlockRows collate db tenantId projectId agentId readProfile
      ↔ row.attachment ∈ db.attachments ∧ row.block ∈ db.blocks ∧ row.block.status = .active
        ∧ row.attachment.isActiveFor tenantId projectId agentId readProfile row.block.blockId
          = true := by
  unfold fetchAttachedBlockRows
  simp only [Sorting.mem_sortBy, List.mem_filterMap, List.mem_filter, Option.map_eq_some_iff,
    Option.filter_eq_some_iff, Table.find?_eq_some_iff, decide_eq_true_eq,
    CoreBlockAttachment.isActiveFor, Bool.and_eq_true]
  constructor
  . rintro ⟨attachment, ⟨hmem, hkey⟩, block, ⟨⟨hblock, hid⟩, hactive⟩, rfl⟩
    exact ⟨hmem, hblock, hactive, ⟨hkey.1, hid.symm⟩, hkey.2⟩
  . rintro ⟨hmem, hblock, hactive, ⟨hkey, hid⟩, hopen⟩
    exact ⟨row.attachment, ⟨hmem, hkey, hopen⟩, row.block, ⟨⟨hblock, hid.symm⟩, hactive⟩, rfl⟩

/-- No block is read twice. -/
theorem nodup_fetchAttachedBlockRows (hdb : db.Indexed)
    : ((fetchAttachedBlockRows collate db tenantId projectId agentId readProfile).map
        (·.block.blockId)).Nodup := by
  unfold fetchAttachedBlockRows
  rw [((Sorting.sortBy_perm _).map _).nodup_iff]
  have hrows : (db.attachments.rows.filter fun attachment =>
      attachment.tenantId = tenantId && attachment.projectId = projectId
        && attachment.agentId = agentId && attachment.readProfile = readProfile
        && attachment.detachedAt.isNone).Nodup := by
    apply List.Nodup.filter
    exact db.attachments.nodup.of_map
  unfold List.Nodup
  rw [List.pairwise_map, List.pairwise_filterMap]
  apply hrows.imp_of_mem
  intro a b ha hb hne row hrow row' hrow' heq
  simp only [List.mem_filter, Bool.and_eq_true, decide_eq_true_eq, Option.isNone_iff_eq_none] at ha hb
  simp only [Option.map_eq_some_iff, Option.filter_eq_some_iff, Table.find?_eq_some_iff] at hrow hrow'
  rcases hrow with ⟨block, ⟨⟨-, hid⟩, -⟩, rfl⟩
  rcases hrow' with ⟨block', ⟨⟨-, hid'⟩, -⟩, rfl⟩
  apply hne
  apply hdb.attachments a ha.1 b hb.1 ha.2.2 hb.2.2
  have hblock : a.blockId = b.blockId := by
    rw [← hid, ← hid']
    exact heq
  simp [CoreBlockAttachment.openKey, ha.2.1, hb.2.1, hblock]

/--
Whatever requests were made before, a reader gets every block that is attached to it under its profile
and that it may see now, once each, and no other block.
-/
theorem coreBlocksGet_readable (hreachable : Reachable CoreBlockDb.empty CoreBlockSteps db)
    (h : coreBlocksGet svc collate db req = .ok res)
    : ∃ allowedScopes, resolveReadProfileScopes svc (Text.trim req.readProfile) = .ok allowedScopes
      ∧ (res.items.map (·.row.block.blockId)).Nodup
      ∧ (∀ row, (∃ item ∈ res.items, item.row = row)
        ↔ row.attachment ∈ db.attachments ∧ row.block ∈ db.blocks
          ∧ row.attachment.isActiveFor (Text.trim req.tenantId) (Text.trim req.projectId)
              (Text.trim req.agentId) (Text.trim req.readProfile) row.block.blockId = true
          ∧ row.block.Readable db.memory (Text.trim req.tenantId) (Text.trim req.projectId)
              (Text.trim req.agentId) allowedScopes) := by
  have hdb := CoreBlockDb.Sound.reachable hreachable
  unfold coreBlocksGet at h
  rcases bind_eq_ok.mp h with ⟨prepared, hprepared, h⟩
  cases pure_eq_ok.mp h
  rcases prepareGetRequest_eq_ok hprepared with ⟨htenant, hproject, hagent, hprofile, hscopes⟩
  rw [htenant, hproject, hagent, hprofile]
  refine ⟨prepared.allowedScopes, hscopes, ?_, ?_⟩
  . rw [List.map_map]
    have hnodup : ((fetchAttachedBlockRows collate db (Text.trim req.tenantId)
        (Text.trim req.projectId) (Text.trim req.agentId) (Text.trim req.readProfile)).map
          (·.block.blockId)).Nodup :=
      nodup_fetchAttachedBlockRows hdb.indexed
    exact (List.filter_sublist.map _).nodup hnodup
  . intro row
    simp only [List.mem_map, filterVisibleRows, List.mem_filter, mem_fetchAttachedBlockRows]
    have hread : row.attachment ∈ db.attachments → row.block ∈ db.blocks →
        row.attachment.isActiveFor (Text.trim req.tenantId) (Text.trim req.projectId)
          (Text.trim req.agentId) (Text.trim req.readProfile) row.block.blockId = true →
        (blockReadAllowed row.block row.attachment.agentId prepared.allowedScopes
            (loadSharedReadGrantsWithOrgShared db.memory (Text.trim req.tenantId)
              (Text.trim req.projectId) (Text.trim req.agentId)
              (prepared.allowedScopes.contains "org_shared")) = true
          ↔ row.block.Readable db.memory (Text.trim req.tenantId) (Text.trim req.projectId)
            (Text.trim req.agentId) prepared.allowedScopes) := by
      intro hattachment hblock hactive
      have hkey := (isActiveFor_iff.mp hactive).1
      simp only [CoreBlockAttachment.openKey, AttachmentKey.mk.injEq] at hkey
      rcases hdb.linked.attachments row.attachment hattachment with ⟨block, hmem, hid, hinProject⟩
      rw [db.blocks.eq_of_key_eq hmem hblock (hid.trans hkey.2.2.2.2), hkey.1, hkey.2.1] at hinProject
      rw [hkey.2.2.1]
      exact blockReadAllowed_iff hinProject (hdb.linked.org row.block hblock)
    constructor
    . rintro ⟨item, ⟨row', ⟨⟨hattachment, hblock, -, hactive⟩, hallowed⟩, rfl⟩, rfl⟩
      exact ⟨hattachment, hblock, hactive, (hread hattachment hblock hactive).mp hallowed⟩
    . rintro ⟨hattachment, hblock, hactive, hreadable⟩
      exact ⟨⟨row, _⟩, ⟨row, ⟨⟨hattachment, hblock, hreadable.active, hactive⟩,
        (hread hattachment hblock hactive).mpr hreadable⟩, rfl⟩, rfl⟩

/-! ## Histories that are read -/

theorem CoreBlockChange.events (h : CoreBlockChange draw db db')
    : db'.events = db.events
      ∨ ∃ event : CoreBlockEvent, event.ts = timestamptz draw.now
        ∧ db.events.insert? event = some db'.events := by
  cases h with
  | memory memory => exact .inl rfl
  | created create org unused insert event => exact .inr ⟨_, rfl, event⟩
  | updated update mem owns unused event => exact .inr ⟨_, rfl, event⟩
  | attached fetch first insert event => exact .inr ⟨_, rfl, event⟩
  | reattached mem active event => exact .inr ⟨_, rfl, event⟩
  | detached mem attached event => exact .inr ⟨_, rfl, event⟩

/-- The reading of the clock of a request, as the columns keep it. -/
def CoreBlockStep.clock (a : CoreBlockStep) : Nat := timestamptz a.draw.now

/-- Requests at increasing times append events at increasing times. -/
theorem events_increasing (h : Run CoreBlockSteps db as db')
    (hclock : (db.events.rows.map CoreBlockEvent.ts ++ as.map CoreBlockStep.clock).Pairwise (· < ·))
    : (db'.events.rows.map CoreBlockEvent.ts).Pairwise (· < ·) := by
  induction h with
  | nil db => simpa using hclock
  | cons head tail ih =>
    apply ih
    rcases head.change.events with heq | ⟨event, hts, hinsert⟩
    . rw [heq]
      apply List.Pairwise.sublist _ hclock
      apply List.Sublist.append_left
      apply List.sublist_cons_self
    . rw [Table.rows_insert? hinsert, List.map_append, List.append_assoc, List.map_singleton, hts]
      exact hclock

/-- The events of a block that is read are in the order in which they happened. -/
theorem fetchAuditHistory_eq (h : Run CoreBlockSteps CoreBlockDb.empty as db)
    (hclock : (as.map CoreBlockStep.clock).Pairwise (· < ·))
    : fetchAuditHistory db blockId = db.events.rows.filter fun event => event.blockId = blockId := by
  have hincreasing := events_increasing h hclock
  unfold fetchAuditHistory
  symm
  apply Sorting.eq_sortBy_of_perm
  . intro a ha b hb heq
    rw [compareLex_eq_eq] at heq
    have hid : a.eventId = b.eventId := compare_eq_iff_eq.mp heq.2
    exact db.events.eq_of_key_eq (List.mem_filter.mp ha).1 (List.mem_filter.mp hb).1 hid
  . apply List.Perm.refl
  . rw [List.pairwise_map] at hincreasing
    apply (hincreasing.filter _).imp
    intro a b hlt
    have hcompare : compareOn CoreBlockEvent.ts a b = .lt := Nat.compare_eq_lt.mpr hlt
    unfold compareLex
    rw [hcompare]
    rfl

/--
When the requests were made at increasing times, the history that comes with a block tells how it came
to be what the reader sees: the events of the block itself lead from its creation to its content, and
those of the attachment to the attachment through which it is read.
-/
theorem coreBlocksGet_history (hrun : Run CoreBlockSteps CoreBlockDb.empty as db)
    (hclock : (as.map CoreBlockStep.clock).Pairwise (· < ·))
    (h : coreBlocksGet svc collate db req = .ok res)
    : ∀ item ∈ res.items,
        item.row.block.Recorded (item.auditHistory.filter (·.attachmentId.isNone))
          ∧ AttachmentHistory (item.auditHistory.filter
              (·.attachmentId = some item.row.attachment.attachmentId)) item.row.attachment := by
  have hdb : db.Sound := CoreBlockDb.Sound.reachable ⟨as, hrun⟩
  unfold coreBlocksGet at h
  rcases bind_eq_ok.mp h with ⟨prepared, -, h⟩
  cases pure_eq_ok.mp h
  intro item hitem
  rcases List.mem_map.mp hitem with ⟨row, hrow, rfl⟩
  have hmem := mem_fetchAttachedBlockRows.mp (List.mem_of_mem_filter hrow)
  rcases hmem with ⟨hattachment, hblock, -, hactive⟩
  have hid : row.attachment.blockId = row.block.blockId :=
    congrArg AttachmentKey.blockId (isActiveFor_iff.mp hactive).1
  dsimp only
  rw [fetchAuditHistory_eq hrun hclock, List.filter_filter, List.filter_filter]
  constructor
  . have hevents := hdb.audited.blocks row.block hblock
    unfold eventsOfBlock at hevents
    simp only [Bool.and_comm] at hevents ⊢
    exact hevents
  . have hevents := hdb.audited.attachments row.attachment hattachment
    have hown : ∀ event ∈ db.events.rows,
        ((event.attachmentId = some row.attachment.attachmentId : Bool)
            && (event.blockId = row.block.blockId : Bool))
          = (event.attachmentId = some row.attachment.attachmentId : Bool) := by
      intro event hmem
      cases hevent : (event.attachmentId = some row.attachment.attachmentId : Bool) with
      | false => rfl
      | true =>
        rcases hdb.audited.known.attachments event hmem _ (of_decide_eq_true hevent) with
          ⟨attachment, hmem', hid', hblockId⟩
        rw [db.attachments.eq_of_key_eq hmem' hattachment hid', hid] at hblockId
        simp [hblockId]
    rw [List.filter_congr hown]
    exact hevents

/-! ## A block that is shared -/

def sampleBlockUpsert (blockId : Option Uuid) (content : String) : CoreBlockUpsertRequest := {
  tenantId := "t"
  projectId := "p"
  agentId := "a"
  blockId
  scope := "project_shared"
  key := "persona"
  title := "Persona"
  content
  sourceRef := .obj []
  reason := none }

def sampleBlockStep (n : Nat) (op : CoreBlockOp) : CoreBlockStep :=
  ⟨sampleReadService, ⟨1000000000 * n, n, n⟩, op⟩

def sampleAttach : CoreBlockAttachRequest := ⟨"t", "p", "a", 1, "b", "all_scopes", none⟩

def sampleProjectGrant : SpaceGrantRequest := ⟨"t", "p", "a", "project_shared", .project, none⟩

/-- The agent `a` writes a block, opens its space, attaches the block to `b` and writes it again. -/
def sampleBlockSteps : List CoreBlockStep := [
  sampleBlockStep 1 (.upsert (sampleBlockUpsert none "Be brief.")),
  sampleBlockStep 2 (.memory (sampleStep 2 (.grantUpsert sampleProjectGrant))),
  sampleBlockStep 3 (.attach sampleAttach),
  sampleBlockStep 4 (.upsert (sampleBlockUpsert (some 1) "Be kind.")),
  sampleBlockStep 5 (.attach sampleAttach)]

def sampleBlockDb : CoreBlockDb :=
  sampleBlockSteps.foldl (fun db a => a.next db) CoreBlockDb.empty

theorem sampleBlockDb_run : Run CoreBlockSteps CoreBlockDb.empty sampleBlockSteps sampleBlockDb :=
  Run.of_foldl (fun _ _ => rfl) _ _

def sampleBlocksGet : CoreBlocksGetRequest := ⟨"t", "p", "b", "all_scopes"⟩

/-- The contents that `b` reads, with the types of the events of each block. -/
def sampleContents (db : CoreBlockDb) : Option (List (String × List CoreBlockEventType)) :=
  (coreBlocksGet sampleReadService compare db sampleBlocksGet).toOption.map fun response =>
    response.items.map fun item =>
      (item.row.block.content, item.auditHistory.map CoreBlockEvent.eventType)

example
    : sampleContents sampleBlockDb = some [
        ("Be kind.", [.blockCreated, .attachmentAdded, .blockUpdated, .attachmentAdded])] := by
  decide +kernel

/-- Once the space is closed, the block stays attached but is not read. -/
example
    : sampleContents
        ((sampleBlockStep 6 (.memory (sampleStep 6 (.grantRevoke sampleProjectGrant)))).next
          sampleBlockDb)
      = some [] := by
  decide +kernel

theorem coreBlocks_continue_sample
    : sampleBlockDb.Indexed ∧ CoreBlockDb.empty.Continues sampleBlockDb :=
  coreBlocks_continue (Reachable.refl _) sampleBlockDb_run

theorem sampleBlocksGet_ok
    : ∃ res, coreBlocksGet sampleReadService compare sampleBlockDb sampleBlocksGet = .ok res
      ∧ res.items.map (·.row.block.content) = ["Be kind."] := by
  apply Except.map_eq_ok.mp
  decide +kernel

theorem coreBlocksGet_readable_sample
    : ∃ res, coreBlocksGet sampleReadService compare sampleBlockDb sampleBlocksGet = .ok res
      ∧ (res.items.map (·.row.block.blockId)).Nodup ∧ res.items ≠ [] := by
  rcases sampleBlocksGet_ok with ⟨res, hok, hcontents⟩
  rcases coreBlocksGet_readable ⟨_, sampleBlockDb_run⟩ hok with ⟨_, -, hnodup, -⟩
  refine ⟨res, hok, hnodup, ?_⟩
  intro hnil
  rw [hnil] at hcontents
  cases hcontents

theorem coreBlocksGet_history_sample
    : ∃ res, coreBlocksGet sampleReadService compare sampleBlockDb sampleBlocksGet = .ok res
      ∧ ∀ item ∈ res.items,
        item.row.block.Recorded (item.auditHistory.filter (·.attachmentId.isNone)) := by
  rcases sampleBlocksGet_ok with ⟨res, hok, -⟩
  have hhistory := coreBlocksGet_history sampleBlockDb_run (by decide) hok
  exact ⟨res, hok, fun item hitem => (hhistory item hitem).1⟩

end Elf
