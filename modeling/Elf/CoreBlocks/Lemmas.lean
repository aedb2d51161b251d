import Elf.CoreBlocks.Service

/-!
This module contains what a request can do to the tables of the core blocks, and what every sequence of
requests keeps: no two active blocks of an owner share a key in a scope, no block is attached twice for
the same reader, and what makes a block the block it is never changes.
-/

namespace Elf

open Except

/-! ## Requests -/

theorem normalizeRequired_eq_ok {raw field value : String}
    : normalizeRequired raw field = .ok value ↔ Text.trim raw ≠ "" ∧ value = Text.trim raw := by
  unfold normalizeRequired
  dsimp only
  split
  next h => simp [h]
  next h =>
    rw [Except.ok.injEq, eq_comm]
    simp [h]

theorem prepareUpsertRequest_cases (h : prepareUpsertRequest svc req = .ok prepared)
    : prepared.blockId = req.blockId
      ∧ (prepared.scope = "org_shared" → prepared.projectId = orgProjectId) := by
  simp only [prepareUpsertRequest, Except.bind_eq_ok, Except.pure_eq_ok] at h
  rcases h with ⟨-, -, -, -, -, -, scope, -, -, -, -, -, -, -, -, -, -, -, -, -, -, -, -, -, -, -, -, -, rfl⟩
  refine ⟨rfl, ?_⟩
  intro hscope
  dsimp only at hscope ⊢
  unfold targetProjectId
  rw [if_pos hscope]

theorem ensureNoActiveKeyConflict_eq_ok
    (h : ensureNoActiveKeyConflict db req blockId = .ok ())
    : ∀ block ∈ db.blocks,
        block.holdsKey req.tenantId req.projectId req.agentId req.scope req.key = true
          → blockId = some block.blockId := by
  intro block hmem hkey
  have hnone := rejectIf_eq_ok.mp h
  rw [List.any_eq_false] at hnone
  have hblock := hnone block hmem
  rw [hkey] at hblock
  cases blockId with
  | none => simp at hblock
  | some id =>
    simp only [Option.all_some, Bool.true_and, decide_eq_true_eq, not_not] at hblock
    rw [hblock]

/-! ## What a request does to the tables -/

/-- The event as its columns keep it. -/
def CoreBlockEvent.stored (event : CoreBlockEvent) : CoreBlockEvent :=
  { event with ts := timestamptz event.ts }

/-- What a request that succeeds does to the tables. -/
inductive CoreBlockChange (draw : CoreBlockDraw) (db : CoreBlockDb) : CoreBlockDb → Prop where
  | memory (memory : Store) : CoreBlockChange draw db { db with memory }
  | created {req : PreparedUpsertRequest}
    {blocks : Table CoreBlock CoreBlock.blockId} {events : Table CoreBlockEvent CoreBlockEvent.eventId}
    (create : req.blockId = none)
    (org : req.scope = "org_shared" → req.projectId = orgProjectId)
    (unused : ensureNoActiveKeyConflict db req none = .ok ())
    (insert : db.blocks.insert? (req.newBlock draw.rowId draw.now) = some blocks)
    (event : db.events.insert?
      (blockEvent req draw (req.newBlock draw.rowId draw.now) none).stored = some events)
    : CoreBlockChange draw db { db with blocks, events }
  | updated {req : PreparedUpsertRequest} {prev : CoreBlock}
    {events : Table CoreBlockEvent CoreBlockEvent.eventId}
    (update : req.blockId = some prev.blockId)
    (mem : prev ∈ db.blocks) (owns : req.owns prev = true)
    (unused : ensureNoActiveKeyConflict db req (some prev.blockId) = .ok ())
    (event : db.events.insert?
      (blockEvent req draw (req.update draw.now prev) (some (blockSnapshot prev))).stored = some events)
    : CoreBlockChange draw db
      { db with
        blocks := db.blocks.modify prev.blockId (req.update draw.now) (req.update_blockId draw.now)
        events }
  | attached {req : PreparedAttachRequest} {block : CoreBlock}
    {attachments : Table CoreBlockAttachment CoreBlockAttachment.attachmentId}
    {events : Table CoreBlockEvent CoreBlockEvent.eventId}
    (fetch : fetchActiveBlockForAttachment db req = .ok block)
    (first : ∀ attachment ∈ db.attachments, attachment.isActiveFor req.tenantId req.projectId
      req.targetAgentId req.readProfile req.blockId = false)
    (insert : db.attachments.insert? (req.newAttachment draw.rowId draw.now) = some attachments)
    (event : db.events.insert?
      (attachmentAddedEvent req draw (req.newAttachment draw.rowId draw.now)).stored = some events)
    : CoreBlockChange draw db { db with attachments, events }
  | reattached {req : PreparedAttachRequest} {prev : CoreBlockAttachment}
    {events : Table CoreBlockEvent CoreBlockEvent.eventId}
    (mem : prev ∈ db.attachments)
    (active : prev.isActiveFor req.tenantId req.projectId req.targetAgentId req.readProfile
      req.blockId = true)
    (event : db.events.insert?
      (attachmentAddedEvent req draw (req.reattach draw.now prev)).stored = some events)
    : CoreBlockChange draw db
      { db with
        attachments := db.attachments.modify prev.attachmentId (req.reattach draw.now)
          (req.reattach_attachmentId draw.now)
        events }
  | detached {req : PreparedDetachRequest} {prev : CoreBlockAttachment}
    {events : Table CoreBlockEvent CoreBlockEvent.eventId}
    (mem : prev ∈ db.attachments) (attached : prev.detachedAt = none)
    (event : db.events.insert?
      (attachmentRemovedEvent req draw prev (req.detach draw.now prev)).stored = some events)
    : CoreBlockChange draw db
      { db with
        attachments := db.attachments.modify prev.attachmentId (req.detach draw.now)
          (req.detach_attachmentId draw.now)
        events }

variable {svc : ReadService} {draw : CoreBlockDraw} {db db' : CoreBlockDb}

theorem insertCoreBlockEvent_eq_ok (h : insertCoreBlockEvent db event = .ok db')
    : ∃ events, db.events.insert? event.stored = some events ∧ db' = { db with events } := by
  simp only [insertCoreBlockEvent, Except.bind_eq_ok, Table.insert_eq_ok, Except.pure_eq_ok] at h
  exact h

theorem coreBlockUpsert_change (h : coreBlockUpsert svc req draw db = .ok (row, db'))
    : CoreBlockChange draw db db' := by
  unfold coreBlockUpsert at h
  rcases bind_eq_ok.mp h with ⟨prepared, hprepared, h⟩
  have ⟨hid, horg⟩ := prepareUpsertRequest_cases hprepared
  rcases bind_eq_ok.mp h with ⟨⟨row', prevSnapshot, mid⟩, hwrite, h⟩
  rcases bind_eq_ok.mp h with ⟨db'', hevent, h⟩
  cases pure_eq_ok.mp h
  rcases insertCoreBlockEvent_eq_ok hevent with ⟨events, hinsert, rfl⟩
  unfold writeCoreBlock at hwrite
  split at hwrite
  next blockId hblockId =>
    simp only [updateCoreBlock, Except.bind_eq_ok, Except.pure_eq_ok, Prod.mk.injEq,
      fetchOwnedBlockForUpdate, Except.ofOption_eq_ok, Option.filter_eq_some_iff] at hwrite
    rcases hwrite with ⟨prev, ⟨hfind, howns⟩, ⟨⟩, hunused, rfl, rfl, rfl⟩
    rcases (db.blocks.find?_eq_some_iff blockId prev).mp hfind with ⟨hmem, rfl⟩
    exact .updated hblockId hmem howns hunused hinsert
  next hblockId =>
    rcases bind_eq_ok.mp hwrite with ⟨⟨row'', mid'⟩, hinsertBlock, heq⟩
    cases pure_eq_ok.mp heq
    simp only [insertCoreBlock, Except.bind_eq_ok, Except.pure_eq_ok, Prod.mk.injEq,
      Table.insert_eq_ok] at hinsertBlock
    rcases hinsertBlock with ⟨⟨⟩, hunused, blocks, hblocks, rfl, rfl⟩
    exact .created hblockId horg hunused hblocks hinsert

theorem coreBlockAttach_change (h : coreBlockAttach svc req draw db = .ok (attachment, db'))
    : CoreBlockChange draw db db' := by
  unfold coreBlockAttach at h
  rcases bind_eq_ok.mp h with ⟨prepared, -, h⟩
  rcases bind_eq_ok.mp h with ⟨block, hfetch, h⟩
  rcases bind_eq_ok.mp h with ⟨-, -, h⟩
  rcases bind_eq_ok.mp h with ⟨⟨row, mid⟩, hwrite, h⟩
  rcases bind_eq_ok.mp h with ⟨db'', hevent, h⟩
  cases pure_eq_ok.mp h
  rcases insertCoreBlockEvent_eq_ok hevent with ⟨events, hinsert, rfl⟩
  unfold upsertCoreBlockAttachment at hwrite
  split at hwrite
  next existing hexisting =>
    cases hwrite
    have hactive := List.find?_some hexisting
    exact .reattached (List.mem_of_find?_eq_some hexisting) hactive hinsert
  next hnone =>
    simp only [Except.bind_eq_ok, Except.pure_eq_ok, Prod.mk.injEq, Table.insert_eq_ok] at hwrite
    rcases hwrite with ⟨attachments, hattachments, rfl, rfl⟩
    apply CoreBlockChange.attached hfetch _ hattachments hinsert
    intro other hother
    simpa using List.find?_eq_none.mp hnone other hother

theorem coreBlockDetach_change (h : coreBlockDetach req draw db = .ok (response, db'))
    : CoreBlockChange draw db db' := by
  unfold coreBlockDetach at h
  rcases bind_eq_ok.mp h with ⟨prepared, -, h⟩
  split at h
  next =>
    cases pure_eq_ok.mp h
    exact .memory db.memory
  next prev hprev =>
    rcases bind_eq_ok.mp h with ⟨db'', hevent, h⟩
    cases pure_eq_ok.mp h
    rcases insertCoreBlockEvent_eq_ok hevent with ⟨events, hinsert, rfl⟩
    unfold fetchActiveAttachmentForUpdate at hprev
    rw [Option.filter_eq_some_iff] at hprev
    rcases hprev with ⟨hfind, hactive⟩
    simp only [Bool.and_eq_true, decide_eq_true_eq, Option.isNone_iff_eq_none] at hactive
    exact .detached (Table.mem_of_find? hfind) hactive.2 hinsert

/-- The step lemma: a request changes nothing, or does one of the changes. -/
theorem CoreBlockSteps.change (h : CoreBlockSteps db a db') : CoreBlockChange a.draw db db' := by
  unfold CoreBlockSteps CoreBlockStep.next at h
  have hsame : CoreBlockChange a.draw db db := .memory db.memory
  split at h
  next req hop =>
    rcases Transaction.next_cases (coreBlockUpsert a.svc req a.draw) db with ⟨row, hok⟩ | ⟨err, -, heq⟩
    . rw [h] at hok
      exact coreBlockUpsert_change hok
    . rw [← h, heq]
      exact hsame
  next req hop =>
    rcases Transaction.next_cases (coreBlockAttach a.svc req a.draw) db with ⟨row, hok⟩ | ⟨err, -, heq⟩
    . rw [h] at hok
      exact coreBlockAttach_change hok
    . rw [← h, heq]
      exact hsame
  next req hop =>
    rcases Transaction.next_cases (coreBlockDetach req a.draw) db with ⟨row, hok⟩ | ⟨err, -, heq⟩
    . rw [h] at hok
      exact coreBlockDetach_change hok
    . rw [← h, heq]
      exact hsame
  next step hop =>
    rw [← h]
    exact .memory _

/-! ## Unique indexes -/

structure CoreBlockKey where
  tenantId : String
  projectId : String
  agentId : String
  scope : String
  key : String

def CoreBlock.activeKey (block : CoreBlock) : CoreBlockKey :=
  ⟨block.tenantId, block.projectId, block.agentId, block.scope, block.key⟩

/-- For whom a block is attached. -/
structure AttachmentKey where
  tenantId : String
  projectId : String
  agentId : String
  readProfile : String
  blockId : Uuid

def CoreBlockAttachment.openKey (attachment : CoreBlockAttachment) : AttachmentKey :=
  ⟨attachment.tenantId, attachment.projectId, attachment.agentId, attachment.readProfile,
    attachment.blockId⟩

/-- No two active blocks share a key, and no block is attached twice for the same reader. -/
structure CoreBlockDb.Indexed (db : CoreBlockDb) : Prop where
  blocks : db.blocks.UniqueOn (·.status = .active) CoreBlock.activeKey
  attachments : db.attachments.UniqueOn (·.detachedAt = none) CoreBlockAttachment.openKey

theorem holdsKey_of_activeKey {block : CoreBlock} (hactive : block.status = .active)
    (hkey : block.activeKey = ⟨tenantId, projectId, agentId, scope, key⟩)
    : block.holdsKey tenantId projectId agentId scope key = true := by
  simp only [CoreBlock.activeKey, CoreBlockKey.mk.injEq] at hkey
  simp [CoreBlock.holdsKey, hactive, hkey]

theorem isActiveFor_of_openKey {attachment : CoreBlockAttachment} (hopen : attachment.detachedAt = none)
    (hkey : attachment.openKey = ⟨tenantId, projectId, agentId, readProfile, blockId⟩)
    : attachment.isActiveFor tenantId projectId agentId readProfile blockId = true := by
  simp only [CoreBlockAttachment.openKey, AttachmentKey.mk.injEq] at hkey
  simp [CoreBlockAttachment.isActiveFor, hopen, hkey]

theorem owns_activeKey {req : PreparedUpsertRequest} {block : CoreBlock} (h : req.owns block = true)
    : (req.update now block).activeKey
      = ⟨req.tenantId, req.projectId, req.agentId, req.scope, req.key⟩ := by
  simp only [PreparedUpsertRequest.owns, Bool.and_eq_true, decide_eq_true_eq] at h
  simp [CoreBlock.activeKey, PreparedUpsertRequest.update, h]

theorem isActiveFor_iff {attachment : CoreBlockAttachment}
    : attachment.isActiveFor tenantId projectId agentId readProfile blockId = true
      ↔ attachment.openKey = ⟨tenantId, projectId, agentId, readProfile, blockId⟩
        ∧ attachment.detachedAt = none := by
  simp only [CoreBlockAttachment.isActiveFor, CoreBlockAttachment.openKey, AttachmentKey.mk.injEq,
    Bool.and_eq_true, decide_eq_true_eq, Option.isNone_iff_eq_none]
  tauto

theorem CoreBlockChange.indexed (h : CoreBlockChange draw db db') (hdb : db.Indexed)
    : db'.Indexed := by
  cases h with
  | memory memory => exact ⟨hdb.blocks, hdb.attachments⟩
  | created create org unused insert event =>
    refine ⟨hdb.blocks.insert? insert ?_, hdb.attachments⟩
    intro _ block hmem hactive hkey
    have hholds := holdsKey_of_activeKey hactive hkey
    cases ensureNoActiveKeyConflict_eq_ok unused block hmem hholds
  | updated update mem owns unused event =>
    refine ⟨hdb.blocks.modify ?_, hdb.attachments⟩
    intro row hrow hid _ block hmem hne hactive hkey
    rw [db.blocks.eq_of_key_eq hrow mem hid, owns_activeKey owns] at hkey
    have hholds := holdsKey_of_activeKey hactive hkey
    have heq := ensureNoActiveKeyConflict_eq_ok unused block hmem hholds
    exact hne (Option.some.inj heq).symm
  | @attached req block attachments events fetch first insert event =>
    refine ⟨hdb.blocks, hdb.attachments.insert? insert ?_⟩
    intro _ attachment hmem hopen hkey
    have hactive : attachment.isActiveFor req.tenantId req.projectId req.targetAgentId
        req.readProfile req.blockId = true :=
      isActiveFor_of_openKey hopen hkey
    rw [first attachment hmem] at hactive
    cases hactive
  | @reattached req prev events mem active event =>
    refine ⟨hdb.blocks, hdb.attachments.modify ?_⟩
    intro row hrow hid _ attachment hmem hne hopen hkey
    rw [db.attachments.eq_of_key_eq hrow mem hid] at hkey
    have hprev := (isActiveFor_iff.mp active).2
    have heq := hdb.attachments attachment hmem prev mem hopen hprev hkey
    exact hne (congrArg CoreBlockAttachment.attachmentId heq)
  | detached mem attached event =>
    refine ⟨hdb.blocks, hdb.attachments.modify ?_⟩
    intro row _ _ hopen
    cases hopen

theorem CoreBlockDb.Indexed.empty : CoreBlockDb.empty.Indexed :=
  ⟨Table.UniqueOn.empty, Table.UniqueOn.empty⟩

/-! ## Identities -/

/-- The block is the same one, and as active as it was. -/
structure CoreBlock.Continues (block block' : CoreBlock) : Prop where
  blockId : block'.blockId = block.blockId
  tenantId : block'.tenantId = block.tenantId
  projectId : block'.projectId = block.projectId
  agentId : block'.agentId = block.agentId
  scope : block'.scope = block.scope
  status : block'.status = block.status
  createdAt : block'.createdAt = block.createdAt

/-- The attachment is the same one, and left alone once it is detached. -/
structure CoreBlockAttachment.Continues (attachment attachment' : CoreBlockAttachment) : Prop where
  attachmentId : attachment'.attachmentId = attachment.attachmentId
  openKey : attachment'.openKey = attachment.openKey
  closed : attachment.detachedAt ≠ none → attachment' = attachment

/-- What is there stays: blocks and attachments go on, and events are only appended. -/
structure CoreBlockDb.Continues (db db' : CoreBlockDb) : Prop where
  blocks : ∀ block ∈ db.blocks, ∃ block' ∈ db'.blocks, block.Continues block'
  attachments : ∀ attachment ∈ db.attachments, ∃ attachment' ∈ db'.attachments,
    attachment.Continues attachment'
  events : db.events.rows <+: db'.events.rows

theorem CoreBlock.Continues.refl (block : CoreBlock) : block.Continues block :=
  ⟨rfl, rfl, rfl, rfl, rfl, rfl, rfl⟩

theorem CoreBlock.Continues.trans {a b c : CoreBlock} (hab : a.Continues b) (hbc : b.Continues c)
    : a.Continues c := by
  constructor
  . rw [hbc.blockId, hab.blockId]
  . rw [hbc.tenantId, hab.tenantId]
  . rw [hbc.projectId, hab.projectId]
  . rw [hbc.agentId, hab.agentId]
  . rw [hbc.scope, hab.scope]
  . rw [hbc.status, hab.status]
  . rw [hbc.createdAt, hab.createdAt]

theorem CoreBlockAttachment.Continues.refl (attachment : CoreBlockAttachment)
    : attachment.Continues attachment :=
  ⟨rfl, rfl, fun _ => rfl⟩

theorem CoreBlockAttachment.Continues.trans {a b c : CoreBlockAttachment} (hab : a.Continues b)
    (hbc : b.Continues c) : a.Continues c := by
  constructor
  . rw [hbc.attachmentId, hab.attachmentId]
  . rw [hbc.openKey, hab.openKey]
  . intro hclosed
    have hb := hab.closed hclosed
    rw [← hb] at hclosed
    rw [hbc.closed hclosed, hb]

theorem CoreBlockDb.Continues.refl (db : CoreBlockDb) : db.Continues db := by
  constructor
  . intro block hmem
    exact ⟨block, hmem, .refl block⟩
  . intro attachment hmem
    exact ⟨attachment, hmem, .refl attachment⟩
  . apply List.prefix_refl

theorem CoreBlockDb.Continues.trans {a b c : CoreBlockDb} (hab : a.Continues b) (hbc : b.Continues c)
    : a.Continues c := by
  constructor
  . intro block hmem
    rcases hab.blocks block hmem with ⟨block', hmem', hblock⟩
    rcases hbc.blocks block' hmem' with ⟨block'', hmem'', hblock'⟩
    exact ⟨block'', hmem'', hblock.trans hblock'⟩
  . intro attachment hmem
    rcases hab.attachments attachment hmem with ⟨attachment', hmem', hattachment⟩
    rcases hbc.attachments attachment' hmem' with ⟨attachment'', hmem'', hattachment'⟩
    exact ⟨attachment'', hmem'', hattachment.trans hattachment'⟩
  . apply hab.events.trans hbc.events

theorem events_prefix {events events' : Table CoreBlockEvent CoreBlockEvent.eventId}
    (h : events.insert? event = some events') : events.rows <+: events'.rows := by
  rw [Table.rows_insert? h]
  apply List.prefix_append

theorem CoreBlockChange.continues (h : CoreBlockChange draw db db') : db.Continues db' := by
  have hrefl := CoreBlockDb.Continues.refl db
  cases h with
  | memory memory => exact ⟨hrefl.blocks, hrefl.attachments, hrefl.events⟩
  | created create org unused insert event =>
    refine ⟨?_, hrefl.attachments, events_prefix event⟩
    intro block hmem
    exact ⟨block, (Table.mem_insert? insert block).mpr (.inl hmem), .refl block⟩
  | @updated req prev events update mem owns unused event =>
    refine ⟨?_, hrefl.attachments, events_prefix event⟩
    intro block hmem
    refine ⟨_, db.blocks.modified_mem_modify _ _ hmem, ?_⟩
    split
    . exact ⟨rfl, rfl, rfl, rfl, rfl, rfl, rfl⟩
    . apply CoreBlock.Continues.refl
  | attached fetch first insert event =>
    refine ⟨hrefl.blocks, ?_, events_prefix event⟩
    intro attachment hmem
    exact ⟨attachment, (Table.mem_insert? insert attachment).mpr (.inl hmem), .refl attachment⟩
  | @reattached req prev events mem active event =>
    refine ⟨hrefl.blocks, ?_, events_prefix event⟩
    intro attachment hmem
    refine ⟨_, db.attachments.modified_mem_modify _ _ hmem, ?_⟩
    split
    next hid =>
      refine ⟨rfl, rfl, ?_⟩
      intro hclosed
      rw [db.attachments.eq_of_key_eq hmem mem hid, (isActiveFor_iff.mp active).2] at hclosed
      exact absurd rfl hclosed
    next => apply CoreBlockAttachment.Continues.refl
  | @detached req prev events mem attached event =>
    refine ⟨hrefl.blocks, ?_, events_prefix event⟩
    intro attachment hmem
    refine ⟨_, db.attachments.modified_mem_modify _ _ hmem, ?_⟩
    split
    next hid =>
      refine ⟨rfl, rfl, ?_⟩
      intro hclosed
      rw [db.attachments.eq_of_key_eq hmem mem hid, attached] at hclosed
      exact absurd rfl hclosed
    next => apply CoreBlockAttachment.Continues.refl

/-- The run lemma: what was there when the run began is there when it ends. -/
theorem CoreBlockDb.Continues.run (h : Run CoreBlockSteps db as db') : db.Continues db' := by
  apply h.relation CoreBlockDb.Continues.refl (fun _ _ _ => CoreBlockDb.Continues.trans)
  intro s a t hstep
  exact hstep.change.continues

/-! ## Where a block may be attached -/

/-- The block is one that the requests of a project reach. -/
def CoreBlock.InProject (block : CoreBlock) (tenantId projectId : String) : Prop :=
  block.tenantId = tenantId
    ∧ (block.projectId = projectId ∨ (block.projectId = orgProjectId ∧ block.scope = "org_shared"))

structure CoreBlockDb.Linked (db : CoreBlockDb) : Prop where
  org : ∀ block ∈ db.blocks, block.scope = "org_shared" → block.projectId = orgProjectId
  attachments : ∀ attachment ∈ db.attachments, ∃ block ∈ db.blocks,
    block.blockId = attachment.blockId
      ∧ block.InProject attachment.tenantId attachment.projectId

/-- Blocks that go on are where they were. -/
theorem inProject_of_continues {block block' : CoreBlock} (h : block.Continues block')
    (hblock : block.InProject tenantId projectId) : block'.InProject tenantId projectId := by
  unfold CoreBlock.InProject at hblock ⊢
  rw [h.tenantId, h.projectId, h.scope]
  exact hblock

theorem fetchActiveBlockForAttachment_eq_ok
    (h : fetchActiveBlockForAttachment db req = .ok block)
    : block ∈ db.blocks ∧ block.blockId = req.blockId
      ∧ block.InProject req.tenantId req.projectId := by
  unfold fetchActiveBlockForAttachment at h
  rw [ofOption_eq_ok, Option.filter_eq_some_iff] at h
  rcases h with ⟨hfind, hblock⟩
  simp only [Bool.and_eq_true, Bool.or_eq_true, decide_eq_true_eq] at hblock
  exact ⟨Table.mem_of_find? hfind, Table.key_of_find? hfind, hblock.1.1, hblock.2⟩

theorem CoreBlockChange.linked (h : CoreBlockChange draw db db') (hdb : db.Linked) : db'.Linked := by
  have hcontinues := h.continues
  have hold : ∀ attachment ∈ db.attachments, ∀ attachment' : CoreBlockAttachment,
      attachment'.openKey = attachment.openKey → ∃ block ∈ db'.blocks,
        block.blockId = attachment'.blockId
          ∧ block.InProject attachment'.tenantId attachment'.projectId := by
    intro attachment hmem attachment' hkey
    simp only [CoreBlockAttachment.openKey, AttachmentKey.mk.injEq] at hkey
    rcases hdb.attachments attachment hmem with ⟨block, hblock, hid, hproject⟩
    rcases hcontinues.blocks block hblock with ⟨block', hblock', hcontinued⟩
    rw [hkey.1, hkey.2.1, hkey.2.2.2.2, ← hid, ← hcontinued.blockId]
    exact ⟨block', hblock', rfl, inProject_of_continues hcontinued hproject⟩
  cases h with
  | memory memory => exact ⟨hdb.org, hdb.attachments⟩
  | created create org unused insert event =>
    constructor
    . exact Table.forall_insert? insert hdb.org org
    . intro attachment hmem
      exact hold attachment hmem attachment rfl
  | updated update mem owns unused event =>
    constructor
    . apply Table.forall_modify hdb.org
      intro block hmem
      exact hdb.org block hmem
    . intro attachment hmem
      exact hold attachment hmem attachment rfl
  | attached fetch first insert event =>
    refine ⟨hdb.org, ?_⟩
    apply Table.forall_insert? insert hdb.attachments
    rcases fetchActiveBlockForAttachment_eq_ok fetch with ⟨hmem, hid, hproject⟩
    exact ⟨_, hmem, hid, hproject⟩
  | reattached mem active event =>
    refine ⟨hdb.org, ?_⟩
    apply Table.forall_modify hdb.attachments
    intro attachment hmem
    exact hold attachment hmem _ rfl
  | detached mem attached event =>
    refine ⟨hdb.org, ?_⟩
    apply Table.forall_modify hdb.attachments
    intro attachment hmem
    exact hold attachment hmem _ rfl

theorem CoreBlockDb.Linked.empty : CoreBlockDb.empty.Linked := by
  constructor
  . intro block hmem
    cases hmem
  . intro attachment hmem
    cases hmem

end Elf
