/-
# The diffs tell what the requests have changed

Requests to move, delete and read messages, the events of the mailboxes, and what happens outside
come in any order.  The disk and the cache are seen as what the mailboxes have and what has been
told of them: a request changes one message of what they have, and an event tells what is different
and is told from then on.  So a message that is moved or deleted and left alone afterwards is told
once, by the next event of its mailbox.
-/
import Calld.Voicemails.Messages

namespace Calld.Voicemails

open Effect Effect.Program Effect.Interactive

/-! ## What a mailbox has -/

/-- The messages of a mailbox by their ids. -/
def contentOf (disk : Disk) (key : String × String) : String → Option MessageInfo :=
  (index MessageInfo.id ((messagesOnDisk disk key).getD [])).get

/-- The mailbox of a configuration. -/
def VmConf.key (vmConf : VmConf) : String × String := (vmConf.number, vmConf.context)

/-- Every mailbox can be read and has one message an id, and what has messages is listed. -/
structure Ready (disk : Disk) : Prop where
  readable : ∀ key, ∃ g, OnDisk disk key g ∧
    ((located (fakeVmConf key.1 key.2) g).map MessageInfo.id).Nodup
  listed : ∃ listed, listVoicemailsNumberAndContext disk = .ok listed ∧
    ∀ key, messagesOnDisk disk key ≠ some [] → key ∈ listed

section Content

variable {disk disk' : Disk} {key : String × String} {g g' : VoicemailFolder → List ParseResult}
  {vmConf : VmConf} {info m : MessageInfo} {messageId : String} {messages : List MessageInfo}

theorem unambiguous_of_nodup (h : (messages.map MessageInfo.id).Nodup) :
    Unambiguous MessageInfo.id messages := by
  intro a ha b hb hid
  exact List.inj_on_of_nodup_map h ha hb hid

/-- The content of a mailbox that can be read. -/
theorem contentOf_eq_some (hg : OnDisk disk key g)
    (hnodup : ((located (fakeVmConf key.1 key.2) g).map MessageInfo.id).Nodup) :
    contentOf disk key messageId = some m ↔
      m ∈ located (fakeVmConf key.1 key.2) g ∧ m.id = messageId := by
  obtain ⟨messages, hmessages, hperm⟩ := messagesOnDisk_of hg
  have hunambiguous := unambiguous_of_nodup ((hperm.map MessageInfo.id).nodup_iff.mpr hnodup)
  unfold contentOf
  rw [hmessages, Option.getD_some, lists_index_iff.mpr hunambiguous messageId m, hperm.mem_iff]

theorem keyed_contentOf : Keyed MessageInfo.id (contentOf disk key) := keyed_index _ _

theorem located_map (vmConf vmConf' : VmConf) (g : VoicemailFolder → List ParseResult) :
    located vmConf' g = (located vmConf g).map fun m => { m with vmConf := vmConf' } := by
  unfold located
  rw [List.map_flatMap]
  refine List.flatMap_congr fun folder _ => ?_
  rw [List.map_map]
  rfl

theorem mem_located (h : info ∈ located vmConf g) :
    info.vmConf = vmConf ∧ info.folder ∈ folders := by
  obtain ⟨folder, hfolder, hmem⟩ := List.mem_flatMap.mp h
  obtain ⟨result, -, rfl⟩ := List.mem_map.mp hmem
  exact ⟨rfl, hfolder⟩

/-- A search finds what the mailbox has. -/
theorem findMessage_ready (h : Ready disk) : findMessage disk vmConf messageId =
    .ok ((contentOf disk vmConf.key messageId).map fun m => { m with vmConf := vmConf }) := by
  obtain ⟨g, hg, hnodup⟩ := h.readable vmConf.key
  rw [findMessage_of hg, located_map (fakeVmConf vmConf.number vmConf.context) vmConf g,
    List.find?_map]
  refine congrArg (fun x => Except.ok (Option.map _ x)) (Option.ext fun m => ?_)
  rw [contentOf_eq_some hg hnodup]
  constructor
  · intro hfind
    exact ⟨List.mem_of_find?_eq_some hfind, by simpa using List.find?_some hfind⟩
  · rintro ⟨hmem, hid⟩
    -- the message that is found has the same id
    obtain ⟨m', hfind⟩ : ∃ m', (located (fakeVmConf vmConf.number vmConf.context) g).find?
        ((fun m : MessageInfo => decide (m.id = messageId)) ∘
          fun m => { m with vmConf := vmConf }) = some m' :=
      Option.isSome_iff_exists.mp (List.find?_isSome.mpr ⟨m, hmem, decide_eq_true hid⟩)
    have hmem' := List.mem_of_find?_eq_some hfind
    have hid' : m'.id = messageId := by simpa using List.find?_some hfind
    rwa [List.inj_on_of_nodup_map hnodup hmem' hmem (hid'.trans hid.symm)] at hfind

/-- Contents are what the folders have, whatever the order. -/
theorem contentOf_update {rest : List MessageInfo} {m' : Option MessageInfo}
    (hg : OnDisk disk key g)
    (hnodup : ((located (fakeVmConf key.1 key.2) g).map MessageInfo.id).Nodup)
    (hg' : OnDisk disk' key g') (hm' : ∀ w ∈ m', w.id = m.id)
    (hperm : (located (fakeVmConf key.1 key.2) g).Perm (m :: rest))
    (hperm' : (located (fakeVmConf key.1 key.2) g').Perm (m'.toList ++ rest)) :
    ((located (fakeVmConf key.1 key.2) g').map MessageInfo.id).Nodup ∧
      contentOf disk key m.id = some m ∧
        contentOf disk' key = Function.update (contentOf disk key) m.id m' := by
  have hids : (m.id :: rest.map MessageInfo.id).Nodup := (hperm.map MessageInfo.id).nodup hnodup
  obtain ⟨hm, hrest⟩ := List.nodup_cons.mp hids
  have hnodup' : ((located (fakeVmConf key.1 key.2) g').map MessageInfo.id).Nodup := by
    refine (hperm'.map MessageInfo.id).nodup_iff.mpr ?_
    cases m' with
    | none => exact hrest
    | some w =>
      have hw : w.id = m.id := hm' w rfl
      exact List.nodup_cons.mpr ⟨hw ▸ hm, hrest⟩
  refine ⟨hnodup', (contentOf_eq_some hg hnodup).mpr ⟨hperm.mem_iff.mpr (by simp), rfl⟩, ?_⟩
  funext id
  refine Option.ext fun w => ?_
  rw [contentOf_eq_some hg' hnodup', hperm'.mem_iff, Function.update_apply]
  by_cases hid : id = m.id
  · subst hid
    rw [if_pos rfl, List.mem_append, Option.mem_toList]
    constructor
    · rintro ⟨hw | hw, hwid⟩
      · exact hw
      · exact absurd (hwid ▸ List.mem_map_of_mem hw) hm
    · intro hw
      exact ⟨.inl hw, hm' w hw⟩
  · rw [if_neg hid, contentOf_eq_some hg hnodup, hperm.mem_iff, List.mem_append,
      Option.mem_toList, List.mem_cons]
    refine and_congr_left fun hwid => or_congr_left ?_
    constructor
    · intro hw
      exact absurd (hwid.symm.trans (hm' w hw)) hid
    · rintro rfl
      exact absurd hwid.symm hid

/-- One message of one mailbox changes. -/
structure Changes (disk disk' : Disk) (key : String × String) (messageId : String)
    (m : MessageInfo) (m' : Option MessageInfo) : Prop where
  ready : Ready disk'
  contexts : disk'.contexts = disk.contexts
  before : contentOf disk key messageId = some m
  after : contentOf disk' key = Function.update (contentOf disk key) messageId m'
  others : ∀ key', key' ≠ key → contentOf disk' key' = contentOf disk key'

theorem messagesOnDisk_congr (h : ∀ p, disk'.files key.2 key.1 p = disk.files key.2 key.1 p) :
    messagesOnDisk disk' key = messagesOnDisk disk key := by
  unfold messagesOnDisk getVoicemailInfo folderMessages
  have hfiles (folder : VoicemailFolder) :
      disk'.files (fakeVmConf key.1 key.2).context (fakeVmConf key.1 key.2).number folder.path =
        disk.files (fakeVmConf key.1 key.2).context (fakeVmConf key.1 key.2).number folder.path :=
    h folder.path
  simp only [hfiles]

theorem onDisk_congr (hg : OnDisk disk key g)
    (h : ∀ p, disk'.files key.2 key.1 p = disk.files key.2 key.1 p) : OnDisk disk' key g :=
  fun f hf => (inFolder_congr (h f.path)).trans (hg f hf)

/-- One mailbox has changed. -/
theorem changes_of {result : ParseResult} {folder : VoicemailFolder} {rest : List MessageInfo}
    {m' : Option MessageInfo} (h : Ready disk) (hcontexts : disk'.contexts = disk.contexts)
    (hothers : ∀ key', key' ≠ key → ∀ p,
      disk'.files key'.2 key'.1 p = disk.files key'.2 key'.1 p)
    (hg : OnDisk disk key g) (hg' : OnDisk disk' key g')
    (hm' : ∀ w ∈ m', w.id = result.id)
    (hperm : (located (fakeVmConf key.1 key.2) g).Perm
      (⟨result, folder, fakeVmConf key.1 key.2⟩ :: rest))
    (hperm' : (located (fakeVmConf key.1 key.2) g').Perm (m'.toList ++ rest)) :
    Changes disk disk' key result.id ⟨result, folder, fakeVmConf key.1 key.2⟩ m' := by
  have hnodup : ((located (fakeVmConf key.1 key.2) g).map MessageInfo.id).Nodup := by
    obtain ⟨k, hk, hnodup⟩ := h.readable key
    have hlocated : located (fakeVmConf key.1 key.2) g = located (fakeVmConf key.1 key.2) k := by
      refine List.flatMap_congr fun f hf => ?_
      rw [Option.some.inj ((hg f hf).symm.trans (hk f hf))]
    rwa [hlocated]
  obtain ⟨hnodup', hbefore, hafter⟩ := contentOf_update hg hnodup hg' hm' hperm hperm'
  refine ⟨⟨fun key' => ?_, ?_⟩, hcontexts, hbefore, hafter, fun key' hne => ?_⟩
  · by_cases heq : key' = key
    · subst heq
      exact ⟨g', hg', hnodup'⟩
    · obtain ⟨k, hk, hnodupk⟩ := h.readable key'
      exact ⟨k, onDisk_congr hk (hothers key' heq), hnodupk⟩
  · obtain ⟨listed, hlisted, hmem⟩ := h.listed
    refine ⟨listed, ?_, fun key' hne => ?_⟩
    · unfold listVoicemailsNumberAndContext at hlisted ⊢
      rwa [hcontexts]
    · refine hmem key' fun hempty => ?_
      by_cases heq : key' = key
      · -- the message that changes is there
        subst heq
        obtain ⟨messages, hmessages, hlist⟩ := messagesOnDisk_of hg
        rw [hempty] at hmessages
        cases hmessages
        exact absurd (hlist.trans hperm).length_eq (by simp)
      · rw [messagesOnDisk_congr (hothers key' heq)] at hne
        exact hne hempty
  · unfold contentOf
    rw [messagesOnDisk_congr (hothers key' hne)]

/-- A search that has found a message. -/
theorem found_ready (h : Ready disk)
    (hfound : findMessage disk vmConf messageId = .ok (some info)) :
    ∃ m, contentOf disk vmConf.key messageId = some m ∧ info = { m with vmConf := vmConf } ∧
      m.id = messageId ∧ m.folder ∈ folders ∧
        m.vmConf = fakeVmConf vmConf.key.1 vmConf.key.2 := by
  rw [findMessage_ready h] at hfound
  obtain ⟨m, hm, rfl⟩ := Option.map_eq_some_iff.mp (Except.ok.inj hfound)
  obtain ⟨g, hg, hnodup⟩ := h.readable vmConf.key
  obtain ⟨hmem, hid⟩ := (contentOf_eq_some hg hnodup).mp hm
  obtain ⟨hconf, hfolder⟩ := mem_located hmem
  exact ⟨m, hm, rfl, hid, hfolder, hconf⟩

theorem missing_ready (h : Ready disk) :
    findMessage disk vmConf messageId = .ok none ↔
      contentOf disk vmConf.key messageId = none := by
  rw [findMessage_ready h]
  constructor
  · intro hnone
    exact Option.map_eq_none_iff.mp (Except.ok.inj hnone)
  · intro hnone
    rw [hnone]
    rfl

/-- The other mailboxes have other paths. -/
theorem path_ne {key' : String × String} {p p' : String} (hne : key' ≠ key) :
    (key'.2, key'.1, p) ≠ (key.2, key.1, p') := by
  intro heq
  refine hne (Prod.ext ?_ ?_)
  · exact congrArg (fun x => x.2.1) heq
  · exact congrArg (fun x => x.1) heq

theorem deletes_changes (h : Ready disk) (hfound : contentOf disk key messageId = some m)
    (hdeletes : Deletes disk key.2 key.1 m.folder.path messageId disk') :
    Changes disk disk' key messageId m none := by
  obtain ⟨g, hg, hnodup⟩ := h.readable key
  obtain ⟨hmem, hid⟩ := (contentOf_eq_some hg hnodup).mp hfound
  obtain ⟨-, hfolder⟩ := mem_located hmem
  obtain ⟨g', result, hresult, hg', hperm⟩ := onDisk_deletes hg hfolder hdeletes
  have hchanges : Changes disk disk' key result.id _ none :=
    changes_of h hdeletes.contexts (fun key' hne p => hdeletes.others _ _ _ (path_ne hne)) hg hg'
      (fun w hw => by cases hw) (hperm _) (List.Perm.refl _)
  subst hresult
  -- the message is the one that was found
  rwa [← Option.some.inj (hfound.symm.trans hchanges.before)] at hchanges

theorem moves_changes {dest : VoicemailFolder} (h : Ready disk)
    (hfound : contentOf disk key messageId = some m) (hdest : dest ∈ folders)
    (hmoves : Moves disk key.2 key.1 m.folder.path dest.path messageId disk') :
    Changes disk disk' key messageId m (some { m with folder := dest }) := by
  obtain ⟨g, hg, hnodup⟩ := h.readable key
  obtain ⟨hmem, hid⟩ := (contentOf_eq_some hg hnodup).mp hfound
  obtain ⟨hconf, hfolder⟩ := mem_located hmem
  obtain ⟨g', hg', hstays, hmoved⟩ := onDisk_moves hg hfolder hdest hmoves
  have hothers : ∀ key', key' ≠ key → ∀ p,
      disk'.files key'.2 key'.1 p = disk.files key'.2 key'.1 p :=
    fun key' hne p => hmoves.others _ _ _ (path_ne hne) (path_ne hne)
  by_cases heq : m.folder = dest
  · subst heq hid
    have hm : m = ⟨m.result, m.folder, fakeVmConf key.1 key.2⟩ := by
      rw [← hconf]
    obtain ⟨rest, hperm⟩ : ∃ rest, (located (fakeVmConf key.1 key.2) g).Perm (m :: rest) :=
      ⟨_, List.perm_cons_erase hmem⟩
    have hperm' : (located (fakeVmConf key.1 key.2) g).Perm
        (⟨m.result, m.folder, fakeVmConf key.1 key.2⟩ :: rest) := by
      rw [← hm]
      exact hperm
    have hchanges : Changes disk disk' key m.result.id _ (some m) :=
      changes_of h hmoves.contexts hothers hg hg' (fun w hw => by rw [← Option.some.inj hw])
        hperm' ((hstays rfl _).trans hperm)
    rwa [← hm] at hchanges
  · obtain ⟨result, hresult, hrest⟩ := hmoved heq
    obtain ⟨rest, hperm, hperm'⟩ := hrest (fakeVmConf key.1 key.2)
    have hchanges : Changes disk disk' key result.id _
        (some ⟨result, dest, fakeVmConf key.1 key.2⟩) :=
      changes_of h hmoves.contexts hothers hg hg' (fun w hw => by rw [← Option.some.inj hw])
        hperm hperm'
    subst hresult
    have hm := Option.some.inj (hfound.symm.trans hchanges.before)
    have hdest' : { m with folder := dest } =
        (⟨result, dest, fakeVmConf key.1 key.2⟩ : MessageInfo) := by
      rw [hm]
    rw [hdest', hm]
    exact hchanges

end Content

/-! ## What the events tell -/

/-- The disk, and the cache of the event handler. -/
structure Mailboxes where
  disk : Disk
  cache : VoicemailMessagesCache

/-- What the mailboxes have, and what has been told of them. -/
structure Contents where
  now : String × String → String → Option MessageInfo
  told : String × String → String → Option MessageInfo

/-- Every mailbox can be read, and the cache has what has been told. -/
structure Mailboxes.Represents (s : Mailboxes) (c : Contents) : Prop where
  ready : Ready s.disk
  now : c.now = contentOf s.disk
  cached : ∀ key, (s.cache.entry key).get = c.told key
  keyed : ∀ key, Keyed MessageInfo.id (c.told key)
  -- what is purged has nothing to tell
  listed : ∃ listed, listVoicemailsNumberAndContext s.disk = .ok listed ∧
    ∀ key id, c.told key id ≠ none → key ∈ listed

/-- A request, an event with the diff that it has told, or a change made by somebody else. -/
inductive VoicemailStep where
  | request (caller : MessageCaller) (messageId : String) (op : MessageOp)
      (result : Except MessageExn (Option (MessageInfo × Option String)))
  | event (key : String × String) (diff : Except StorageExn (Diff MessageInfo))
  | outside (touched : String × String → String → Prop)

/-- The mailboxes that are listed stay so. -/
def StaysListed (disk disk' : Disk) : Prop :=
  ∀ listed, listVoicemailsNumberAndContext disk = .ok listed →
    ∃ listed', listVoicemailsNumberAndContext disk' = .ok listed' ∧ ∀ key ∈ listed, key ∈ listed'

/-- What the code does, on a disk where the mailboxes can be read. -/
inductive Mailboxes.Step (site : Site) : Mailboxes → VoicemailStep → Mailboxes → Prop
  | request (s : Mailboxes) (disk : Disk) (caller : MessageCaller) (messageId : String)
      (op : MessageOp) (result : Except MessageExn (Option (MessageInfo × Option String)))
      (h : Runs Served (op.code site caller messageId) s.disk result disk) :
      Step site s (.request caller messageId op result) { s with disk := disk }
  | event (s : Mailboxes) (key : String × String) :
      Step site s (.event key (getDiff key.1 key.2 s.disk s.cache).1)
        { s with cache := (getDiff key.1 key.2 s.disk s.cache).2 }
  | outside (s : Mailboxes) (disk : Disk) (touched : String × String → String → Prop)
      (hready : Ready disk) (hlisted : StaysListed s.disk disk)
      (htouched : ∀ key id, ¬ touched key id → contentOf disk key id = contentOf s.disk key id) :
      Step site s (.outside touched) { s with disk := disk }

/-- What becomes of a message. -/
inductive MessageOp.Makes (m : MessageInfo) : MessageOp → Option MessageInfo → Prop
  | get : Makes m .get (some m)
  | move (destFolderId : ℕ) (folder : VoicemailFolder)
      (h : getFolderById destFolderId = some folder) :
      Makes m (.move destFolderId) (some { m with folder := folder })
  | delete : Makes m .delete none

/-- What is returned for a message of a mailbox. -/
def MessageOp.returned (site : Site) (vmConfs : List VmConf) (vmConf : VmConf) (m : MessageInfo) :
    MessageOp → Option (MessageInfo × Option String)
  | .get => some ({ m with vmConf := vmConf }, site.transcription (voicemailIds vmConfs) m.id)
  | _ => none

/-- What the mailboxes have becomes this one at one message. -/
def Contents.set (c : Contents) (key : String × String) (messageId : String)
    (m' : Option MessageInfo) : Contents where
  now := Function.update c.now key (Function.update (c.now key) messageId m')
  told := c.told

theorem Contents.now_set {c : Contents} {key : String × String} {messageId : String}
    {m' : Option MessageInfo} :
    (c.set key messageId m').now key = Function.update (c.now key) messageId m' :=
  Function.update_self _ _ _

theorem Contents.now_set_of_ne {c : Contents} {key key' : String × String} {messageId : String}
    {m' : Option MessageInfo} (h : key' ≠ key) : (c.set key messageId m').now key' = c.now key' :=
  Function.update_of_ne h _ _

/-- A mailbox is told as it is. -/
def Contents.tell (c : Contents) (key : String × String) : Contents where
  now := c.now
  told := Function.update c.told key (c.now key)

@[simp] theorem Contents.told_tell {c : Contents} {key : String × String} :
    (c.tell key).told key = c.now key := Function.update_self _ _ _

theorem Contents.told_tell_of_ne {c : Contents} {key key' : String × String} (h : key' ≠ key) :
    (c.tell key).told key' = c.told key' := Function.update_of_ne h _ _

/-- An operation changes the first message with its id in the mailboxes of whoever asks, and an
event tells the changes of its mailbox. -/
inductive Contents.Step (site : Site) : Contents → VoicemailStep → Contents → Prop
  | done (c : Contents) (caller : MessageCaller) (messageId : String) (op : MessageOp)
      (before after : List VmConf) (vmConf : VmConf) (m : MessageInfo) (m' : Option MessageInfo)
      (hconfs : caller.vmConfs site = .ok (before ++ vmConf :: after))
      (hbefore : ∀ vmConf' ∈ before, c.now vmConf'.key messageId = none)
      (hfound : c.now vmConf.key messageId = some m) (hmakes : op.Makes m m') :
      Step site c (.request caller messageId op
        (.ok (op.returned site (before ++ vmConf :: after) vmConf m)))
        (c.set vmConf.key messageId m')
  | refused (c : Contents) (caller : MessageCaller) (messageId : String) (op : MessageOp)
      (e : MessageExn) (h : e.isNoSuchMessage = true → ∃ vmConfs,
        caller.vmConfs site = .ok vmConfs ∧ ∀ vmConf ∈ vmConfs, c.now vmConf.key messageId = none) :
      Step site c (.request caller messageId op (.error e)) c
  | event (c : Contents) (key : String × String) (diff : Diff MessageInfo)
      (hdescribes : diff.Describes MessageInfo.id (c.told key) (c.now key))
      (hnodup : ∀ kind, (diff.of kind).Nodup) :
      Step site c (.event key (.ok diff)) (c.tell key)
  | outside (c : Contents) (now : String × String → String → Option MessageInfo)
      (touched : String × String → String → Prop) (hkeyed : ∀ key, Keyed MessageInfo.id (now key))
      (htouched : ∀ key id, ¬ touched key id → now key id = c.now key id) :
      Step site c (.outside touched) { c with now := now }

section Events

variable {disk disk' : Disk} {s s' : Mailboxes} {c c' : Contents} {key : String × String}
  {diff : Diff MessageInfo} {messageId : String} {m : MessageInfo} {m' : Option MessageInfo}

theorem nodup_computeDiff {old new : CacheEntry} (hold : Keyed MessageInfo.id old.get)
    (hnew : Keyed MessageInfo.id new.get) (kind : Diff.Kind) :
    ((computeDiff old new).of kind).Nodup := by
  cases kind with
  | created =>
    refine nodup_filterMap_items fun id v w hv hw => (?_ : w.id = id)
    obtain ⟨-, hw⟩ := Option.ite_none_right_eq_some.mp hw
    cases hw
    exact hnew id _ hv
  | updated =>
    refine nodup_filterMap_items fun id v w hv hw => (?_ : w.id = id)
    obtain ⟨v', hv', hw⟩ := Option.bind_eq_some_iff.mp hw
    obtain ⟨-, hw⟩ := Option.ite_none_right_eq_some.mp hw
    cases hw
    exact hnew id _ hv'
  | deleted =>
    refine nodup_filterMap_items fun id v w hv hw => (?_ : w.id = id)
    obtain ⟨-, hw⟩ := Option.ite_none_right_eq_some.mp hw
    cases hw
    exact hold id _ hv

theorem readable_ready (h : Ready disk) (key : String × String) :
    ∃ vmInfo, getVoicemailInfo disk (fakeVmConf key.1 key.2) = .ok vmInfo := by
  obtain ⟨g, hg, -⟩ := h.readable key
  obtain ⟨messages, hmessages, -⟩ := messagesOnDisk_of hg
  unfold messagesOnDisk at hmessages
  cases hread : getVoicemailInfo disk (fakeVmConf key.1 key.2) with
  | error e =>
    rw [hread] at hmessages
    cases hmessages
  | ok vmInfo => exact ⟨vmInfo, rfl⟩

/-- What has messages is listed. -/
theorem mem_listed (h : Ready disk) {listed : List (String × String)}
    (hlisted : listVoicemailsNumberAndContext disk = .ok listed) {id : String}
    (hid : contentOf disk key id ≠ none) : key ∈ listed := by
  obtain ⟨listed', hlisted', hmem⟩ := h.listed
  obtain rfl := Except.ok.inj (hlisted'.symm.trans hlisted)
  refine hmem key fun hempty => hid ?_
  unfold contentOf
  rw [hempty]
  rfl

/-- An event tells what is different in the mailbox, and the cache has it then. -/
theorem getDiff_represents (h : s.Represents c) (key : String × String) :
    ∃ diff, (getDiff key.1 key.2 s.disk s.cache).1 = .ok diff ∧
      diff.Describes MessageInfo.id (c.told key) (c.now key) ∧
      (∀ kind, (diff.of kind).Nodup) ∧
        Mailboxes.Represents { s with cache := (getDiff key.1 key.2 s.disk s.cache).2 }
          (c.tell key) := by
  obtain ⟨listed, hlisted, hmem⟩ := h.listed
  obtain ⟨vmInfo, hread⟩ := readable_ready h.ready key
  have hnew : (vmInfoToCacheEntry vmInfo).get = c.now key := by
    rw [h.now]
    unfold contentOf messagesOnDisk vmInfoToCacheEntry
    rw [hread]
    rfl
  have hkeyed : Keyed MessageInfo.id (s.cache.entry key).get := by
    rw [h.cached key]
    exact h.keyed key
  have hkeyed' : Keyed MessageInfo.id (vmInfoToCacheEntry vmInfo).get := keyed_index _ _
  obtain ⟨u, hclean⟩ : ∃ u, (maybeCleanCache s.disk (s.cache.store (key.1, key.2) vmInfo)).1 =
      .ok u := by
    cases hclean : (maybeCleanCache s.disk (s.cache.store (key.1, key.2) vmInfo)).1 with
    | ok u => exact ⟨u, rfl⟩
    | error e =>
      obtain ⟨-, hfails⟩ := (maybeCleanCache_fails_iff _ _).mp ⟨e, hclean⟩
      rw [hlisted] at hfails
      cases hfails
  rw [getDiff_apply, hread]
  dsimp only
  rw [hclean]
  refine ⟨_, rfl, ?_, nodup_computeDiff hkeyed hkeyed',
    ⟨h.ready, h.now, fun key' => ?_, fun key' => ?_, listed, hlisted, fun key' id => ?_⟩⟩
  · rw [← hnew, ← h.cached key]
    exact computeDiff_describes hkeyed hkeyed'
  · obtain ⟨⟨-, listed', hlisted', hnot⟩, hempty⟩ | ⟨-, hkept⟩ :=
      entry_maybeCleanCache s.disk (s.cache.store (key.1, key.2) vmInfo) key'
    · -- what is purged has no messages
      rw [hempty]
      obtain rfl := Except.ok.inj (hlisted.symm.trans hlisted')
      funext id
      by_contra hne
      by_cases heq : key' = key
      · subst heq
        rw [Contents.told_tell, h.now] at hne
        exact hnot (mem_listed h.ready hlisted fun hnone => hne hnone.symm)
      · rw [Contents.told_tell_of_ne heq] at hne
        exact hnot (hmem key' id fun hnone => hne hnone.symm)
    · rw [hkept, entry_store]
      by_cases heq : key' = key
      · subst heq
        rw [if_pos rfl, Contents.told_tell]
        exact hnew
      · rw [if_neg heq, Contents.told_tell_of_ne heq]
        exact h.cached key'
  · by_cases heq : key' = key
    · subst heq
      rw [Contents.told_tell, h.now]
      exact keyed_contentOf
    · rw [Contents.told_tell_of_ne heq]
      exact h.keyed key'
  · intro hid
    by_cases heq : key' = key
    · subst heq
      rw [Contents.told_tell, h.now] at hid
      exact mem_listed h.ready hlisted hid
    · rw [Contents.told_tell_of_ne heq] at hid
      exact hmem key' id hid

/-- A change of one message on the disk. -/
theorem Changes.represents (h : s.Represents c)
    (hchanges : Changes s.disk disk key messageId m m') :
    Mailboxes.Represents { s with disk := disk } (c.set key messageId m') := by
  obtain ⟨listed, hlisted, hmem⟩ := h.listed
  refine ⟨hchanges.ready, ?_, h.cached, h.keyed, listed, ?_, hmem⟩
  · funext key'
    by_cases heq : key' = key
    · subst heq
      rw [Contents.now_set, h.now, ← hchanges.after]
    · rw [Contents.now_set_of_ne heq, h.now, hchanges.others key' heq]
  · unfold listVoicemailsNumberAndContext at hlisted ⊢
    rwa [hchanges.contexts]

theorem missing_now (h : s.Represents c) {vmConfs : List VmConf}
    (hmissing : Missing s.disk messageId vmConfs) :
    ∀ vmConf ∈ vmConfs, c.now vmConf.key messageId = none := by
  intro vmConf hmem
  rw [h.now]
  exact (missing_ready h.ready).mp (hmissing vmConf hmem)

/-- A request changes what the operation says, or nothing. -/
theorem request_represents {site : Site} {caller : MessageCaller} {op : MessageOp}
    {result : Except MessageExn (Option (MessageInfo × Option String))} (h : s.Represents c)
    (hruns : Runs Served (op.code site caller messageId) s.disk result disk) :
    ∃ c', Contents.Step site c (.request caller messageId op result) c' ∧
      Mailboxes.Represents { s with disk := disk } c' := by
  have hends := messageOp_runs hruns
  cases result with
  | error e =>
    obtain ⟨rfl, hmissing⟩ := hends
    refine ⟨c, .refused c caller messageId op e fun he => ?_, h⟩
    obtain ⟨vmConfs, hconfs, hmissing⟩ := hmissing he
    exact ⟨vmConfs, hconfs, missing_now h hmissing⟩
  | ok returned =>
    obtain ⟨_, vmConf, info, hconfs, ⟨before, after, rfl, hmissing, hfound⟩, hdone⟩ := hends
    obtain ⟨m, hm, rfl, hid, -, -⟩ := found_ready h.ready hfound
    have hnow : c.now vmConf.key messageId = some m := by
      rw [h.now]
      exact hm
    -- what is left is what the operation makes of the message
    suffices hmakes : ∃ m', op.Makes m m' ∧ Changes s.disk disk vmConf.key messageId m m' ∧
        returned = op.returned site (before ++ vmConf :: after) vmConf m by
      obtain ⟨m', hmakes, hchanges, rfl⟩ := hmakes
      exact ⟨_, .done c caller messageId op before after vmConf m m' hconfs
        (missing_now h hmissing) hnow hmakes, hchanges.represents h⟩
    cases op with
    | get =>
      obtain ⟨rfl, rfl⟩ := hdone
      refine ⟨some m, .get, ⟨h.ready, rfl, hm, ?_, fun _ _ => rfl⟩, rfl⟩
      rw [← hm, Function.update_eq_self]
    | move destFolderId =>
      obtain ⟨rfl, folder, hfolder, hmoves⟩ := hdone
      refine ⟨_, .move destFolderId folder hfolder, ?_, rfl⟩
      refine moves_changes h.ready hm (List.mem_of_find?_eq_some hfolder) ?_
      rw [← hid]
      exact hmoves
    | delete =>
      obtain ⟨rfl, hdeletes⟩ := hdone
      exact ⟨none, .delete, deletes_changes h.ready hm hdeletes, rfl⟩

/-- One step of the code is a step of the contents. -/
theorem step_represents {site : Site} {step : VoicemailStep} (h : s.Represents c)
    (hstep : Mailboxes.Step site s step s') :
    ∃ c', Contents.Step site c step c' ∧ s'.Represents c' := by
  cases hstep with
  | request disk caller messageId op result hruns => exact request_represents h hruns
  | event key =>
    obtain ⟨diff, hdiff, hdescribes, hnodup, hrepresents⟩ := getDiff_represents h key
    rw [hdiff]
    exact ⟨_, .event c key diff hdescribes hnodup, hrepresents⟩
  | outside disk touched hready hlisted htouched =>
    obtain ⟨listed, hlist, hmem⟩ := h.listed
    obtain ⟨listed', hlist', hkept⟩ := hlisted listed hlist
    rw [← h.now] at htouched
    exact ⟨_, .outside c (contentOf disk) touched (fun _ => keyed_contentOf) htouched, hready, rfl,
      h.cached, h.keyed, listed', hlist', fun key id hid => hkept key (hmem key id hid)⟩

end Events

/-! ## What is told of a message -/

/-- What a step tells of a message. -/
def VoicemailStep.about (key : String × String) (messageId : String) :
    VoicemailStep → List (Diff.Kind × MessageInfo)
  | .event key' (.ok diff) => if key' = key then diff.about MessageInfo.id messageId else []
  | _ => []

def VoicemailStep.isEventOf (key : String × String) : VoicemailStep → Bool
  | .event key' _ => decide (key' = key)
  | _ => false

/-- A step that does not change the message. -/
def VoicemailStep.Spares (key : String × String) (messageId : String) : VoicemailStep → Prop
  | .request _ messageId' op result =>
    messageId' = messageId → op = .get ∨ ∃ e, result = .error e
  | .event .. => True
  | .outside touched => ¬ touched key messageId

/-- Messages are kept under their ids. -/
structure Contents.Sound (c : Contents) : Prop where
  now : ∀ key, Keyed MessageInfo.id (c.now key)
  told : ∀ key, Keyed MessageInfo.id (c.told key)

section Told

variable {site : Site} {c c' : Contents} {step : VoicemailStep} {steps : List VoicemailStep}
  {key : String × String} {messageId : String}

theorem Contents.sound_step (h : Contents.Step site c step c') (hc : c.Sound) : c'.Sound := by
  cases h with
  | done caller messageId op before after vmConf m m' hconfs hbefore hfound hmakes =>
    refine ⟨fun key id w hw => ?_, hc.told⟩
    by_cases heq : key = vmConf.key
    · subst heq
      rw [Contents.now_set] at hw
      by_cases hid : id = messageId
      · subst hid
        rw [Function.update_self] at hw
        subst hw
        -- a message keeps its id
        have hm : m.id = id := hc.now _ _ _ hfound
        cases hmakes with
        | get => exact hm
        | move => exact hm
      · rw [Function.update_of_ne hid] at hw
        exact hc.now _ id w hw
    · rw [Contents.now_set_of_ne heq] at hw
      exact hc.now key id w hw
  | refused => exact hc
  | event key diff hdescribes hnodup =>
    refine ⟨hc.now, fun key' => ?_⟩
    by_cases heq : key' = key
    · subst heq
      rw [Contents.told_tell]
      exact hc.now key'
    · rw [Contents.told_tell_of_ne heq]
      exact hc.told key'
  | outside now touched hkeyed htouched => exact ⟨hkeyed, hc.told⟩

/-- The message is left as it is. -/
theorem Contents.now_of_spares (h : Contents.Step site c step c')
    (hspares : step.Spares key messageId) : c'.now key messageId = c.now key messageId := by
  cases h with
  | done caller id op before after vmConf m m' hconfs hbefore hfound hmakes =>
    by_cases heq : key = vmConf.key
    · subst heq
      rw [Contents.now_set]
      by_cases hid : messageId = id
      · subst hid
        rw [Function.update_self, hfound]
        obtain rfl | ⟨e, he⟩ := hspares rfl
        · cases hmakes
          rfl
        · cases he
      · exact Function.update_of_ne hid _ _
    · rw [Contents.now_set_of_ne heq]
  | refused => rfl
  | event => rfl
  | outside now touched hkeyed htouched => exact htouched key messageId hspares

/-- An event of the mailbox tells the change of the message, and no other step tells anything. -/
theorem Contents.about_step (h : Contents.Step site c step c') (hc : c.Sound)
    (key : String × String) (messageId : String) :
    (step.isEventOf key = true ∧ c'.told key = c.now key ∧ step.about key messageId =
      (Diff.change (c.told key messageId) (c.now key messageId)).toList) ∨
    (step.isEventOf key = false ∧ c'.told key = c.told key ∧ step.about key messageId = []) := by
  cases h with
  | done | refused | outside => exact .inr ⟨rfl, rfl, rfl⟩
  | event key' diff hdescribes hnodup =>
    unfold VoicemailStep.isEventOf VoicemailStep.about
    by_cases heq : key' = key
    · subst heq
      refine .inl ⟨decide_eq_true rfl, Contents.told_tell, ?_⟩
      exact (if_pos rfl).trans (hdescribes.about_eq (hc.told key') (hc.now key') hnodup)
    · exact .inr ⟨decide_eq_false heq, Contents.told_tell_of_ne (Ne.symm heq), if_neg heq⟩

/-- While a message stays as it is, the diffs of its mailbox tell once what has changed. -/
theorem Contents.told_of_walk (h : Walk (Contents.Step site) c steps c') (hc : c.Sound)
    (hspares : ∀ step ∈ steps, step.Spares key messageId) :
    c'.now key messageId = c.now key messageId ∧
      steps.flatMap (VoicemailStep.about key messageId) =
        if steps.any (·.isEventOf key) then
          (Diff.change (c.told key messageId) (c.now key messageId)).toList
        else [] := by
  induction h with
  | nil c => exact ⟨rfl, rfl⟩
  | cons c c₁ c' step steps hstep rest ih =>
    obtain ⟨hnow, htold⟩ := ih (sound_step hstep hc) fun step hmem => hspares step (by simp [hmem])
    have hsame := now_of_spares hstep (hspares step (by simp))
    refine ⟨hnow.trans hsame, ?_⟩
    rw [List.flatMap_cons, List.any_cons, htold, hsame]
    obtain ⟨hevent, htold₁, habout⟩ | ⟨hevent, htold₁, habout⟩ :=
      about_step hstep hc key messageId
    · rw [hevent, htold₁, habout, Diff.change_self]
      simp
    · rw [hevent, htold₁, habout]
      simp

end Told

/-! ## Runs -/

/-- What the mailboxes have, and what the cache has of them. -/
def Mailboxes.contents (s : Mailboxes) : Contents where
  now := contentOf s.disk
  told key := (s.cache.entry key).get

/-- Every mailbox can be read, and only what has nothing to tell can be purged. -/
def Mailboxes.Sound (s : Mailboxes) : Prop := s.Represents s.contents

section Runs

variable {site : Site} {s s' : Mailboxes} {steps : List VoicemailStep} {caller : MessageCaller}
  {messageId : String} {op : MessageOp} {result : Option (MessageInfo × Option String)}

theorem Mailboxes.Represents.contents_eq {c : Contents} (h : s.Represents c) :
    c = s.contents := by
  obtain ⟨now, told⟩ := c
  obtain rfl : now = contentOf s.disk := h.now
  obtain rfl : told = fun key => (s.cache.entry key).get := funext fun key => (h.cached key).symm
  rfl

/-- The mailboxes that are read are those that are listed. -/
theorem getVoicemailsInfo_of {disk : Disk} {listed : List (String × String)}
    (h : listVoicemailsNumberAndContext disk = .ok listed) :
    getVoicemailsInfo disk = .ok (listed.filterMap fun key =>
      (getVoicemailInfo disk (fakeVmConf key.1 key.2)).toOption) := by
  obtain ⟨contexts, hcontexts, hlist⟩ := exists_of_bind h
  obtain ⟨keys, hkeys, hflatten⟩ := exists_of_bind hlist
  obtain rfl := Except.ok.inj hflatten
  unfold getVoicemailsInfo
  rw [hcontexts]
  show (_ >>= fun infos : List (List (Option VmInfo)) =>
    (pure (infos.flatten.filterMap id) : Except StorageExn (List VmInfo))) = _
  rw [(mapM_of_forall₂ (List.forall₂_map_right_iff.mpr ((forall₂_of_mapM hkeys).imp ?_)) :
    _ = Except.ok (keys.map fun ks => ks.map fun key =>
      (getVoicemailInfo disk (fakeVmConf key.1 key.2)).toOption))]
  · show Except.ok _ = _
    rw [List.filterMap_flatten, List.filterMap_flatten, List.map_map]
    simp only [Function.comp_def, List.filterMap_map, id]
  · rintro ⟨context, numbers⟩ ks hks
    cases numbers with
    | error e =>
      obtain rfl := Except.ok.inj hks
      rfl
    | ok numbers =>
      cases context with
      | none => cases hks
      | some context =>
        refine mapM_of_forall₂ (List.forall₂_map_right_iff.mpr ((forall₂_of_mapM hks).imp ?_))
        intro number key hkey
        cases number with
        | none => cases hkey
        | some number =>
          obtain rfl := Except.ok.inj hkey
          rfl

/-- The entries that are made of what is read. -/
theorem get_foldl_set {disk : Disk} {key : String × String} {infos : List VmInfo}
    (h : ∀ info ∈ infos, getVoicemailInfo disk (fakeVmConf info.number info.context) = .ok info) :
    (((infos.foldl (fun d info => d.set (info.number, info.context) (vmInfoToCacheEntry info))
      (∅ : Effect.Dict (String × String) CacheEntry)).get key).getD ∅).get =
      if key ∈ infos.map (fun info => (info.number, info.context)) then contentOf disk key
      else fun _ => none := by
  induction infos using List.reverseRecOn with
  | nil => rfl
  | append_singleton infos info ih =>
    have hinfo := h info (by simp)
    rw [List.foldl_append, List.foldl_cons, List.foldl_nil, Effect.Dict.get_set]
    by_cases hkey : key = (info.number, info.context)
    · subst hkey
      rw [if_pos rfl, if_pos (by simp)]
      unfold contentOf messagesOnDisk vmInfoToCacheEntry
      rw [hinfo]
      rfl
    · rw [if_neg hkey, ih fun info hmem => h info (by simp [hmem])]
      simp [hkey]

/-- The cache is refreshed with the mailboxes as they are. -/
theorem sound_refreshed {disk : Disk} {cache : VoicemailMessagesCache} {n : ℕ} (h : Ready disk)
    (hrefresh : refreshCache disk (.new n) = .ok cache) :
    Mailboxes.Sound ⟨disk, cache⟩ ∧
      (Mailboxes.contents ⟨disk, cache⟩).told = (Mailboxes.contents ⟨disk, cache⟩).now := by
  obtain ⟨listed, hlisted, hmem⟩ := h.listed
  have hread (key : String × String) : ∃ vmInfo,
      getVoicemailInfo disk (fakeVmConf key.1 key.2) = .ok vmInfo ∧
        (vmInfo.number, vmInfo.context) = key := by
    obtain ⟨vmInfo, hinfo⟩ := readable_ready h key
    obtain ⟨infos, -, hvmInfo⟩ := exists_of_bind hinfo
    obtain rfl := Except.ok.inj hvmInfo
    exact ⟨_, hinfo, rfl⟩
  have hcached (key : String × String) : (cache.entry key).get = contentOf disk key := by
    unfold refreshCache at hrefresh
    rw [getVoicemailsInfo_of hlisted] at hrefresh
    obtain rfl := Except.ok.inj hrefresh
    refine (get_foldl_set (?_ : ∀ info ∈ _, getVoicemailInfo disk _ = .ok info)).trans ?_
    · intro info hinfo
      obtain ⟨key', -, hkey'⟩ := List.mem_filterMap.mp hinfo
      obtain ⟨vmInfo, hvmInfo, rfl⟩ := hread key'
      rw [hvmInfo] at hkey'
      obtain rfl := Option.some.inj hkey'
      exact hvmInfo
    · by_cases hkey : key ∈ listed
      · obtain ⟨vmInfo, hvmInfo, hnumber⟩ := hread key
        refine if_pos (List.mem_map.mpr ⟨vmInfo, List.mem_filterMap.mpr ⟨key, hkey, ?_⟩, hnumber⟩)
        rw [hvmInfo]
        rfl
      · have hempty : contentOf disk key = fun _ => none := by
          funext id
          by_contra hne
          exact hkey (mem_listed h hlisted hne)
        rw [hempty, ite_self]
  refine ⟨⟨h, rfl, fun _ => rfl, fun key => ?_, listed, hlisted, fun key id hid => ?_⟩,
    funext hcached⟩
  · show Keyed MessageInfo.id (cache.entry key).get
    rw [hcached key]
    exact keyed_contentOf
  · refine mem_listed h hlisted (?_ : contentOf disk key id ≠ none)
    rw [← hcached key]
    exact hid

theorem sound_contents (hs : s.Sound) : s.contents.Sound := ⟨fun _ => keyed_contentOf, hs.keyed⟩

end Runs

/-! ## A message that is deleted -/

section Deletion

/-- The files of some messages. -/
def filesOf (results : List ParseResult) :
    List (String × Except OSError (Option ParseResult)) :=
  results.map fun result => (result.id ++ ".txt", .ok (some result))

theorem filter_filesOf {results : List ParseResult} :
    (filesOf results).filter (fun file => isTxt file.1) = filesOf results := by
  refine List.filter_eq_self.mpr fun file hfile => ?_
  obtain ⟨result, -, rfl⟩ := List.mem_map.mp hfile
  show decide (".txt".toList <:+ (result.id ++ ".txt").toList) = true
  rw [String.toList_append]
  exact decide_eq_true (List.suffix_append _ _)

theorem inFolder_of_files {disk : Disk} {context number path : String} {results : List ParseResult}
    (h : disk.files context number path = .ok (filesOf results)) :
    inFolder disk context number path = some results := by
  have hread : (filesOf results).mapM (fun file => readMessageInfoFile file.2) = .ok results :=
    mapM_of_forall₂ (List.forall₂_map_left_iff.mpr (List.forall₂_same.mpr fun _ _ => rfl))
  unfold inFolder
  rw [h]
  dsimp only
  rw [filter_filesOf, hread]
  rfl

/-- A mailbox with messages in its inbox. -/
theorem ready_spool {results : List ParseResult} (h : (results.map (·.id)).Nodup) :
    Ready (spool [("1001", results)]) := by
  have hreadable (key : String × String) :
      ∃ g, OnDisk (spool [("1001", results)]) key g ∧
        (key ≠ ("1001", "default") → located (fakeVmConf key.1 key.2) g = []) ∧
        ((located (fakeVmConf key.1 key.2) g).map MessageInfo.id).Nodup := by
    obtain ⟨number, context⟩ := key
    refine ⟨fun f =>
      if number = "1001" ∧ context = "default" ∧ f.path = "INBOX" then results else [],
      fun f _ => ?_, fun hne => ?_, ?_⟩
    · dsimp only
      by_cases hinbox : number = "1001" ∧ context = "default" ∧ f.path = "INBOX"
      · rw [if_pos hinbox]
        obtain ⟨rfl, hpath⟩ := hinbox
        exact inFolder_of_files (if_pos hpath)
      · rw [if_neg hinbox]
        unfold inFolder
        by_cases hnumber : number = "1001"
        · subst hnumber
          have hpath : ¬ (context = "default" ∧ f.path = "INBOX") := fun h => hinbox ⟨rfl, h⟩
          simp [spool, hpath]
        · simp [spool, Ne.symm hnumber]
    · have hnone (f : VoicemailFolder) :
          ¬ (number = "1001" ∧ context = "default" ∧ f.path = "INBOX") := by
        rintro ⟨rfl, rfl, -⟩
        exact hne rfl
      simp [located, hnone]
    · by_cases hkey : number = "1001" ∧ context = "default"
      · obtain ⟨rfl, rfl⟩ := hkey
        simpa [located, folders, Function.comp_def] using h
      · have hnone (f : VoicemailFolder) :
            ¬ (number = "1001" ∧ context = "default" ∧ f.path = "INBOX") := by
          rintro ⟨rfl, rfl, -⟩
          exact hkey ⟨rfl, rfl⟩
        simp [located, folders, hnone]
  refine ⟨fun key => ?_, [("1001", "default")], rfl, fun key hkey => ?_⟩
  · obtain ⟨g, hg, -, hnodup⟩ := hreadable key
    exact ⟨g, hg, hnodup⟩
  · by_contra hmem
    obtain ⟨g, hg, hempty, -⟩ := hreadable key
    obtain ⟨messages, hmessages, hperm⟩ := messagesOnDisk_of hg
    rw [hempty (by simpa using hmem)] at hperm
    rw [hperm.eq_nil] at hmessages
    exact hkey hmessages

theorem deletes_hello : Deletes (spool [("1001", [hello])]) "default" "1001" "INBOX" "msg-1"
    (spool [("1001", [])]) := by
  refine ⟨rfl, fun results hresults => ?_, fun c n p hne => ?_⟩
  · obtain rfl : [hello] = results := Option.some.inj hresults
    exact ⟨hello, [], rfl, rfl, .refl _⟩
  · by_cases hnumber : n = "1001"
    · subst hnumber
      have hinbox : ¬ (c = "default" ∧ p = "INBOX") := by
        rintro ⟨rfl, rfl⟩
        exact hne rfl
      simp [spool, hinbox]
    · simp [spool, Ne.symm hnumber]

def aliceVoicemail : VmConf := ⟨7, "Alice", "1001", "default", "personal"⟩

/-- The message as Alice finds it. -/
def aliceHello : MessageInfo := { inInbox "1001" hello with vmConf := aliceVoicemail }

/-- Alice has a voicemail, and nobody else has one. -/
def aliceSite : Site where
  spool :=
    { contexts := .ok []
      files := fun _ _ _ => .error .enoent
      isFile := fun _ _ _ _ => false
      regular := by
        intro _ _ _ _ _ _ h
        cases h
      distinct := by
        intro _ _ _ _ h
        cases h }
  voicemail _ _ := .error (.httpError 404)
  userVoicemail userUuid := .ok (if userUuid = "alice" then some aliceVoicemail else none)
  voicemails _ _ _ := .ok []
  transcriptions _ := none

/-- Alice deletes her message, and two events of her mailbox are handled. -/
theorem exists_walk : ∃ (s s' : Mailboxes) (diff diff' : _), s.Sound ∧
    s.contents.told = s.contents.now ∧ s.disk = spool [("1001", [hello])] ∧ Walk (Mailboxes.Step aliceSite) s [
      .request (.user "tenant" "alice") "msg-1" .delete (.ok none),
      .event ("1001", "default") diff,
      .event ("1001", "default") diff'] s' := by
  have hready : Ready (spool [("1001", [hello])]) := ready_spool (by simp)
  obtain ⟨cache, hcache⟩ : ∃ cache,
      refreshCache (spool [("1001", [hello])]) (.new 1500) = .ok cache := ⟨_, rfl⟩
  obtain ⟨hsound, hsettled⟩ := sound_refreshed hready hcache
  have hfound : Served (spool [("1001", [hello])]) (.getMessage aliceVoicemail "msg-1")
      (.ok aliceHello) (spool [("1001", [hello])]) := .found _ _ _ _ rfl
  have hdeletes : Served (spool [("1001", [hello])])
      (.deleteVoicemailMessage "1001" "default" "INBOX" "msg-1") (.ok ()) (spool [("1001", [])]) :=
    .deleted _ _ _ _ _ _ deletes_hello
  have hrequest : Mailboxes.Step aliceSite ⟨spool [("1001", [hello])], cache⟩
      (.request (.user "tenant" "alice") "msg-1" .delete (.ok none))
      ⟨spool [("1001", [])], cache⟩ :=
    .request _ _ _ _ _ _ (.ask _ _ _ _ _ _ _ hfound (.ask _ _ _ _ _ _ _ hdeletes (.ok none _)))
  exact ⟨_, _, _, _, hsound, hsettled, rfl, .cons _ _ _ _ _ hrequest
    (.cons _ _ _ _ _ (.event _ ("1001", "default"))
      (.cons _ _ _ _ _ (.event _ ("1001", "default")) (.nil _)))⟩

end Deletion

end Calld.Voicemails
