/-
# The pages of the voicemail messages

A user reads the messages page by page.  The pages of the user's list are slices of one sorted
list, which has a message for every file; the list of the tenant has the same pages; and the
count of the files is its length.

A file that cannot be read as a message makes every page raise.
-/
import Calld.Voicemails.Services

namespace Calld.Voicemails

open Effect

/-! ## The files -/

/-- A file for a message, in a folder of a mailbox. -/
structure MessageFile where
  vmConf : VmConf
  folder : VoicemailFolder
  name : String
  deriving DecidableEq

namespace MessageFile

/-- Where the file is. -/
def path (file : MessageFile) : String × String × String × String :=
  (file.vmConf.context, file.vmConf.number, file.folder.path, file.name)

/-- The directory has such a file. -/
def Exists (disk : Disk) (file : MessageFile) : Prop :=
  ∃ names, disk.files file.vmConf.context file.vmConf.number file.folder.path = .ok names ∧
    file.name ∈ names.map Prod.fst ∧ ".txt".toList <:+ file.name.toList

/-- The message is that of the file. -/
def Shows (disk : Disk) (file : MessageFile) (m : ListedMessage) : Prop :=
  (∃ names, disk.files file.vmConf.context file.vmConf.number file.folder.path = .ok names ∧
      (file.name, .ok (some m.result)) ∈ names) ∧
    m.folder = file.folder ∧ m.vmConf = file.vmConf ∧ m.voicemail = vmAccessInfo file.vmConf

end MessageFile

/-- The messages are those of all files of the mailboxes, each of them once. -/
def EveryMessageOnce (disk : Disk) (vmConfs : List VmConf) (items : List ListedMessage) : Prop :=
  ∃ files : List MessageFile, (files.map MessageFile.path).Nodup ∧
    (∀ file, file ∈ files ↔
      file.vmConf ∈ vmConfs ∧ file.folder ∈ folders ∧ file.Exists disk) ∧
    List.Forall₂ (MessageFile.Shows disk) files items

/-- A folder of a mailbox whose directory cannot be read, or a file in it that is no message. -/
def Unreadable (disk : Disk) (vmConf : VmConf) (folder : VoicemailFolder) : Prop :=
  match disk.files vmConf.context vmConf.number folder.path with
  | .error e => e ≠ .enoent
  | .ok names => ∃ file ∈ names, ".txt".toList <:+ file.1.toList ∧ ∀ r, file.2 ≠ .ok (some r)

/-- The files of a folder, in the order of the directory. -/
def folderFiles (disk : Disk) (vmConf : VmConf) (folder : VoicemailFolder) : List MessageFile :=
  match disk.files vmConf.context vmConf.number folder.path with
  | .error _ => []
  | .ok names => (names.filter fun file => ".txt".toList <:+ file.1.toList).map fun file =>
      ⟨vmConf, folder, file.1⟩

def messageFiles (disk : Disk) (vmConfs : List VmConf) : List MessageFile :=
  vmConfs.flatMap fun vmConf => folders.flatMap (folderFiles disk vmConf)

section Files

variable {disk : Disk} {spool : Spool} {vmConf : VmConf} {vmConfs : List VmConf}
  {folder : VoicemailFolder} {file : MessageFile}

theorem mem_folderFiles : file ∈ folderFiles disk vmConf folder ↔
    file.vmConf = vmConf ∧ file.folder = folder ∧ file.Exists disk := by
  obtain ⟨c, f, name⟩ := file
  unfold folderFiles MessageFile.Exists
  constructor
  · intro h
    rcases hfiles : disk.files vmConf.context vmConf.number folder.path with e | names <;>
      rw [hfiles] at h
    · cases h
    · obtain ⟨⟨name', content⟩, hmem, heq⟩ := List.mem_map.mp h
      obtain ⟨hname, htxt⟩ := List.mem_filter.mp hmem
      cases heq
      refine ⟨rfl, rfl, names, hfiles, List.mem_map_of_mem hname, by simpa using htxt⟩
  · rintro ⟨hc, hf, names, hfiles, hname, htxt⟩
    dsimp only at hc hf hfiles hname htxt
    subst hc hf
    rw [hfiles]
    obtain ⟨⟨name', content⟩, hmem, rfl⟩ := List.mem_map.mp hname
    exact List.mem_map.mpr ⟨⟨name', content⟩, List.mem_filter.mpr ⟨hmem, by simpa using htxt⟩, rfl⟩

theorem mem_messageFiles : file ∈ messageFiles disk vmConfs ↔
    file.vmConf ∈ vmConfs ∧ file.folder ∈ folders ∧ file.Exists disk := by
  unfold messageFiles
  simp only [List.mem_flatMap, mem_folderFiles]
  constructor
  · rintro ⟨c, hc, f, hf, rfl, rfl, hexists⟩
    exact ⟨hc, hf, hexists⟩
  · rintro ⟨hc, hf, hexists⟩
    exact ⟨_, hc, _, hf, rfl, rfl, hexists⟩

/-- The paths of the files of distinct mailboxes are distinct. -/
theorem nodup_messageFiles (distinct : (vmConfs.map fun c => (c.context, c.number)).Nodup) :
    ((messageFiles spool.toDisk vmConfs).map MessageFile.path).Nodup := by
  have hfolder (c : VmConf) (f : VoicemailFolder) :
      ((folderFiles spool.toDisk c f).map MessageFile.path).Nodup := by
    unfold folderFiles
    rcases hfiles : spool.files c.context c.number f.path with e | names
    · exact List.nodup_nil
    · have hnames : ((names.filter fun file => ".txt".toList <:+ file.1.toList).map
          Prod.fst).Nodup :=
        (spool.distinct _ _ _ _ hfiles).sublist (List.filter_sublist.map _)
      rw [List.map_map]
      rw [← List.nodup_map_iff (f := fun name => (c.context, c.number, f.path, name))
        (fun a b h => by simpa using h), List.map_map] at hnames
      exact hnames
  have hmailbox (c : VmConf) :
      ((folders.flatMap (folderFiles spool.toDisk c)).map MessageFile.path).Nodup := by
    rw [List.map_flatMap, List.nodup_flatMap]
    refine ⟨fun f _ => hfolder c f, ?_⟩
    have hpaths : folders.Pairwise fun f g => f.path ≠ g.path := by decide
    refine hpaths.imp fun {f g} hne p hf hg => ?_
    obtain ⟨file, hfile, rfl⟩ := List.mem_map.mp hf
    obtain ⟨file', hfile', hpath⟩ := List.mem_map.mp hg
    obtain ⟨-, rfl, -⟩ := mem_folderFiles.mp hfile
    obtain ⟨-, rfl, -⟩ := mem_folderFiles.mp hfile'
    exact hne (congrArg (·.2.2.1) hpath).symm
  unfold messageFiles
  rw [List.map_flatMap, List.nodup_flatMap]
  refine ⟨fun c _ => hmailbox c, ?_⟩
  have hkeys : vmConfs.Pairwise fun c d => (c.context, c.number) ≠ (d.context, d.number) :=
    List.pairwise_map.mp distinct
  refine hkeys.imp fun {c d} hne p hc hd => ?_
  obtain ⟨file, hfile, rfl⟩ := List.mem_map.mp hc
  obtain ⟨file', hfile', hpath⟩ := List.mem_map.mp hd
  obtain ⟨f, -, hfile⟩ := List.mem_flatMap.mp hfile
  obtain ⟨f', -, hfile'⟩ := List.mem_flatMap.mp hfile'
  obtain ⟨rfl, -⟩ := mem_folderFiles.mp hfile
  obtain ⟨rfl, -⟩ := mem_folderFiles.mp hfile'
  exact hne (congrArg (fun p => (p.1, p.2.1)) hpath).symm

/-- The messages that a folder lists are those of its files. -/
theorem folderMessages_shows {messages : List MessageInfo}
    (h : folderMessages disk vmConf folder = .ok messages) :
    List.Forall₂ (MessageFile.Shows disk) (folderFiles disk vmConf folder)
      (messages.map (·.listed vmConf)) := by
  unfold folderMessages at h
  unfold folderFiles
  rcases hfiles : disk.files vmConf.context vmConf.number folder.path with e | names <;>
    rw [hfiles] at h
  · cases e with
    | enoent =>
      cases h
      exact .nil
    | other => cases h
  · rw [List.forall₂_map_left_iff, List.forall₂_map_right_iff]
    have hread := List.forall₂_and_left _ _ |>.mpr
      ⟨fun file hfile => (List.mem_filter.mp hfile).1, forall₂_of_mapM h⟩
    refine hread.imp fun file m ⟨hmem, hm⟩ => ?_
    obtain ⟨name, content⟩ := file
    rcases content with e | _ | result
    · cases e <;> cases hm
    · cases hm
    · cases hm
      exact ⟨⟨names, hfiles, hmem⟩, rfl, rfl, rfl⟩

/-- The messages of a mailbox come from its folders. -/
theorem vmMessages_ok {messages : List ListedMessage} (h : vmMessages disk vmConf = .ok messages) :
    ∃ byFolder, folders.mapM (folderMessages disk vmConf) = .ok byFolder ∧
      messages = byFolder.flatten.map (·.listed vmConf) := by
  unfold vmMessages at h
  rcases hfolders : folders.mapM (folderMessages disk vmConf) with e | byFolder <;>
    rw [hfolders] at h
  · cases h
  · cases h
    exact ⟨byFolder, rfl, rfl⟩

theorem allMessages_ok {messages : List ListedMessage}
    (h : allMessages disk vmConfs = .ok messages) :
    ∃ byMailbox, vmConfs.mapM (vmMessages disk) = .ok byMailbox ∧
      messages = byMailbox.flatten := by
  unfold allMessages at h
  rcases hmailboxes : vmConfs.mapM (vmMessages disk) with e | byMailbox <;> rw [hmailboxes] at h
  · cases h
  · cases h
    exact ⟨byMailbox, rfl, rfl⟩

/-- What a folder raises comes from its directory or from a file. -/
theorem folderMessages_error {e : StorageExn} (h : folderMessages disk vmConf folder = .error e) :
    Unreadable disk vmConf folder := by
  unfold folderMessages at h
  unfold Unreadable
  rcases hfiles : disk.files vmConf.context vmConf.number folder.path with e' | names <;>
    rw [hfiles] at h <;> dsimp only at h ⊢
  · cases e' with
    | enoent => cases h
    | other => decide
  · obtain ⟨file, hfile, hraises⟩ := exists_of_mapM_error h
    obtain ⟨hmem, htxt⟩ := List.mem_filter.mp hfile
    refine ⟨file, hmem, by simpa using htxt, fun r hr => ?_⟩
    rw [hr] at hraises
    cases hraises

/-- What the mailboxes raise comes from one of their folders. -/
theorem allMessages_error {e : StorageExn} (h : allMessages disk vmConfs = .error e) :
    ∃ vmConf ∈ vmConfs, ∃ folder ∈ folders, Unreadable disk vmConf folder := by
  unfold allMessages at h
  rcases hmailboxes : vmConfs.mapM (vmMessages disk) with e' | byMailbox <;> rw [hmailboxes] at h
  · obtain ⟨c, hc, hraises⟩ := exists_of_mapM_error hmailboxes
    unfold vmMessages at hraises
    rcases hfolders : folders.mapM (folderMessages disk c) with e'' | byFolder <;>
      rw [hfolders] at hraises
    · obtain ⟨f, hf, hfolder⟩ := exists_of_mapM_error hfolders
      exact ⟨c, hc, f, hf, folderMessages_error hfolder⟩
    · cases hraises
  · cases h

theorem vmMessages_shows {messages : List ListedMessage}
    (h : vmMessages disk vmConf = .ok messages) :
    List.Forall₂ (MessageFile.Shows disk) (folders.flatMap (folderFiles disk vmConf)) messages := by
  obtain ⟨byFolder, hfolders, rfl⟩ := vmMessages_ok h
  rw [List.map_flatten]
  refine forall₂_flatMap_flatten ?_
  rw [List.forall₂_map_right_iff]
  exact (forall₂_of_mapM hfolders).imp fun f ms hms => folderMessages_shows hms

theorem allMessages_shows {messages : List ListedMessage}
    (h : allMessages disk vmConfs = .ok messages) :
    List.Forall₂ (MessageFile.Shows disk) (messageFiles disk vmConfs) messages := by
  obtain ⟨byMailbox, hmailboxes, rfl⟩ := allMessages_ok h
  exact forall₂_flatMap_flatten
    ((forall₂_of_mapM hmailboxes).imp fun c ms hms => vmMessages_shows hms)

/-- Where the messages of a folder can be read, every file for a message is a regular one. -/
theorem folderMessagesCount_ok {messages : List MessageInfo}
    (h : folderMessages spool.toDisk vmConf folder = .ok messages) :
    folderMessagesCount spool vmConf folder = .ok messages.length := by
  unfold folderMessages at h
  unfold folderMessagesCount
  rcases hfiles : spool.files vmConf.context vmConf.number folder.path with e | names <;>
    rw [hfiles] at h
  · cases e with
    | enoent =>
      cases h
      rfl
    | other => cases h
  · have hregular : ∀ file ∈ names, ".txt".toList <:+ file.1.toList →
        spool.isFile vmConf.context vmConf.number folder.path file.1 = true := by
      intro file hfile htxt
      obtain ⟨m, -, hm⟩ := exists_of_mapM h (List.mem_filter.mpr ⟨hfile, by simpa using htxt⟩)
      obtain ⟨name, content⟩ := file
      rcases content with e | _ | result
      · cases e <;> cases hm
      · cases hm
      · exact spool.regular _ _ _ _ _ _ hfiles hfile
    dsimp only
    rw [← (forall₂_of_mapM h).length_eq, ← List.countP_eq_length_filter]
    refine congrArg Except.ok (List.countP_congr fun file hfile => ?_)
    simp only [Bool.and_eq_true, decide_eq_true_eq]
    exact and_iff_right_of_imp (hregular file hfile)

theorem vmMessagesCount_ok {messages : List ListedMessage}
    (h : vmMessages spool.toDisk vmConf = .ok messages) :
    vmMessagesCount spool vmConf = .ok messages.length := by
  obtain ⟨byFolder, hfolders, rfl⟩ := vmMessages_ok h
  have hcounts : folders.mapM (folderMessagesCount spool vmConf) =
      .ok (byFolder.map List.length) := by
    refine mapM_of_forall₂ ?_
    rw [List.forall₂_map_right_iff]
    exact (forall₂_of_mapM hfolders).imp fun f ms hms => folderMessagesCount_ok hms
  unfold vmMessagesCount
  rw [hcounts, List.length_map, List.length_flatten]
  rfl

/-- Where the messages can be read, the files are counted. -/
theorem countAllMessages_ok {messages : List ListedMessage}
    (h : allMessages spool.toDisk vmConfs = .ok messages) :
    countAllMessages spool vmConfs = .ok messages.length := by
  obtain ⟨byMailbox, hmailboxes, rfl⟩ := allMessages_ok h
  have hcounts : vmConfs.mapM (vmMessagesCount spool) = .ok (byMailbox.map List.length) := by
    refine mapM_of_forall₂ ?_
    rw [List.forall₂_map_right_iff]
    exact (forall₂_of_mapM hmailboxes).imp fun c ms hms => vmMessagesCount_ok hms
  unfold countAllMessages
  rw [hcounts, List.length_flatten]
  rfl

end Files

/-! ## Transcriptions -/

section Transcriptions

variable {site : Site} {ids : Finset ℕ} {order : Order} {direction : Option Direction}

/-- What is added to a message: a transcription, or nothing. -/
def Transcribes (g : ListedMessage → ListedMessage) : Prop :=
  ∀ m, (g m).toMessageInfo = m.toMessageInfo ∧ (g m).voicemail = m.voicemail

theorem transcribes_items (items : List (String × String)) :
    Transcribes fun m => if m.result.id = "" then m
      else match transcriptionOf items m.result.id with
        | none => m
        | some text => { m with transcription := some text } := by
  intro m
  dsimp only
  split
  · exact ⟨rfl, rfl⟩
  · split
    · exact ⟨rfl, rfl⟩
    · exact ⟨rfl, rfl⟩

/-- Messages are transcribed one by one. -/
theorem enrichMessages_eq_map (site : Site) (ids : Finset ℕ) :
    ∃ g, Transcribes g ∧ ∀ messages, site.enrichMessages ids messages = messages.map g := by
  by_cases hids : ids = ∅
  · refine ⟨id, fun m => ⟨rfl, rfl⟩, fun messages => ?_⟩
    unfold Site.enrichMessages
    rw [if_pos (.inr hids), List.map_id]
  rcases hknown : site.transcriptions ids with _ | items
  · refine ⟨id, fun m => ⟨rfl, rfl⟩, fun messages => ?_⟩
    unfold Site.enrichMessages
    rw [hknown, List.map_id]
    exact ite_self _
  · refine ⟨_, transcribes_items items, fun messages => ?_⟩
    unfold Site.enrichMessages
    rw [hknown]
    rcases messages with _ | ⟨m, messages⟩
    · rfl
    · have hsome : ¬ ((m :: messages).isEmpty = true ∨ ids = ∅) := by simp [hids]
      exact if_neg hsome

theorem Transcribes.value {g : ListedMessage → ListedMessage} (hg : Transcribes g)
    (m : ListedMessage) : order.value (g m) = order.value m := by
  have := congrArg MessageInfo.result (hg m).1
  cases order <;> simp [Order.value, this]

theorem Transcribes.shows {g : ListedMessage → ListedMessage} (hg : Transcribes g) {disk : Disk}
    {file : MessageFile} {m : ListedMessage} (h : file.Shows disk m) : file.Shows disk (g m) := by
  obtain ⟨hinfo, hvoicemail⟩ := hg m
  unfold MessageFile.Shows at h ⊢
  rw [hinfo, hvoicemail]
  exact h

end Transcriptions

/-! ## Pages -/

/-- The pages of a user, the count and the pages of the tenant agree on the items. -/
structure FaithfulPages (site : Site) (tenantUuid userUuid : String)
    (voicemailType : VoicemailType) (vmConfs : List VmConf) (order : Order)
    (direction : Option Direction) (size : ℕ) (items : List ListedMessage) : Prop where
  complete : EveryMessageOnce site.spool.toDisk vmConfs items
  sorted : items.Pairwise (Precedes order direction)
  pages : ∃ page : ℕ → List ListedMessage,
    (∀ n, items.length ≤ n * size → (List.range n).flatMap page = items) ∧
    (∀ k, site.listUserMessages tenantUuid userUuid voicemailType (some size) (some (k * size))
      direction (some order) = .ok (page k)) ∧
    ∀ k, site.getTenantMessages tenantUuid voicemailType (some userUuid) none (some size)
      (some (k * size)) direction (some order) none none false none =
        .ok ⟨page k, items.length, items.length⟩
  counted : site.countUserMessages tenantUuid userUuid voicemailType = .ok items.length

section Pages

variable {site : Site} {tenantUuid userUuid : String} {voicemailType : VoicemailType}
  {vmConfs : List VmConf} {order : Order} {direction : Option Direction} {size : ℕ}
  {messages sorted : List ListedMessage}

/-- The slice is taken after the sort. -/
theorem slicer_slice (h : slicer none none (some order) direction messages = .ok sorted)
    (limit offset : Option ℕ) : slicer limit offset (some order) direction messages =
      .ok (slice limit (offset.getD 0) sorted) := by
  unfold slicer at h ⊢
  dsimp only at h ⊢
  split at h <;> rename_i hdirection
  · rw [if_pos hdirection]
    rcases hsort : sortM (fun a b => (order.value a).lt (order.value b)) messages.reverse
      with e | l <;> rw [hsort] at h
    · cases h
    · cases h
      rfl
  · rw [if_neg hdirection]
    rcases hsort : sortM (fun a b => (order.value a).lt (order.value b)) messages
      with e | l <;> rw [hsort] at h
    · cases h
    · cases h
      rfl

/-- What the storage lists, where the messages can be read. -/
theorem listMessagesInfos_eq {disk : Disk} (hread : allMessages disk vmConfs = .ok messages)
    (limit offset : Option ℕ) : listMessagesInfos disk vmConfs limit offset (some order) direction =
      slicer limit offset (some order) direction messages := by
  unfold listMessagesInfos
  rw [hread]
  rfl

theorem listMessagesInfos_error {disk : Disk} {e : StorageExn}
    (hread : allMessages disk vmConfs = .error e) (limit offset : Option ℕ)
    (order : Option Order) :
    listMessagesInfos disk vmConfs limit offset order direction = .error (.storage e) := by
  unfold listMessagesInfos
  rw [hread]
  rfl

section Configs

variable (configs : site.getVoicemailsConfigs tenantUuid voicemailType (some userUuid) none false =
  .ok vmConfs)
include configs

/-- A user's list, where the mailboxes are known. -/
theorem listUserMessages_eq (hsome : vmConfs ≠ []) (limit offset : Option ℕ) :
    site.listUserMessages tenantUuid userUuid voicemailType limit offset direction (some order) =
      ((listMessagesInfos site.spool.toDisk vmConfs limit offset (some order)
        direction).mapError .listing).map (site.enrichMessages (voicemailIds vmConfs)) := by
  unfold Site.listUserMessages
  rw [configs]
  obtain ⟨c, l, rfl⟩ := List.exists_cons_of_ne_nil hsome
  show (listMessagesInfos site.spool.toDisk (c :: l) limit offset (some order)
    direction).mapError _ >>= _ = _
  rcases listMessagesInfos site.spool.toDisk (c :: l) limit offset (some order) direction <;> rfl

/-- The list of the tenant, without a filter. -/
theorem getTenantMessages_eq (hsome : vmConfs ≠ []) (limit offset : Option ℕ) :
    site.getTenantMessages tenantUuid voicemailType (some userUuid) none limit offset direction
        (some order) none none false none =
      ((listMessagesInfos site.spool.toDisk vmConfs none none (some order)
        direction).mapError .listing).map fun messages =>
          ⟨slice limit (offset.getD 0) (site.enrichMessages (voicemailIds vmConfs) messages),
            messages.length, (site.enrichMessages (voicemailIds vmConfs) messages).length⟩ := by
  unfold Site.getTenantMessages
  rw [configs]
  obtain ⟨c, l, rfl⟩ := List.exists_cons_of_ne_nil hsome
  show (listMessagesInfos site.spool.toDisk (c :: l) none none (some order)
    direction).mapError _ >>= _ = _
  rcases listMessagesInfos site.spool.toDisk (c :: l) none none (some order) direction <;> rfl

theorem countUserMessages_eq (hsome : vmConfs ≠ []) :
    site.countUserMessages tenantUuid userUuid voicemailType =
      (countAllMessages site.spool vmConfs).mapError fun e => .listing (.storage e) := by
  unfold Site.countUserMessages
  rw [configs]
  obtain ⟨c, l, rfl⟩ := List.exists_cons_of_ne_nil hsome
  rfl

end Configs

/-- The messages that are listed in their order are those of the files. -/
theorem everyMessageOnce_of_perm {spool : Spool}
    (distinct : (vmConfs.map fun c => (c.context, c.number)).Nodup)
    (hread : allMessages spool.toDisk vmConfs = .ok messages) (hperm : sorted.Perm messages)
    {g : ListedMessage → ListedMessage} (hg : Transcribes g) :
    EveryMessageOnce spool.toDisk vmConfs (sorted.map g) := by
  obtain ⟨files, hshows, hfiles⟩ :=
    List.perm_comp_forall₂ hperm (allMessages_shows hread).flip
  refine ⟨files, ?_, fun file => ?_, ?_⟩
  · exact (hfiles.map MessageFile.path).nodup_iff.mpr (nodup_messageFiles distinct)
  · exact hfiles.mem_iff.trans mem_messageFiles
  · rw [List.forall₂_map_right_iff]
    exact hshows.flip.imp fun file m => hg.shows

/-- **The pages of a user's messages are faithful, unless a file cannot be read as a message, and
then every page raises.** -/
theorem voicemail_pages (site : Site) (tenantUuid userUuid : String)
    (voicemailType : VoicemailType) (vmConfs : List VmConf) (order : Order)
    (direction : Option Direction) (size : ℕ)
    (configs : site.getVoicemailsConfigs tenantUuid voicemailType (some userUuid) none false =
      .ok vmConfs)
    (distinct : (vmConfs.map fun c => (c.context, c.number)).Nodup)
    (column : order ≠ .callerIdName) :
    (∃ e : StorageExn,
      (∃ vmConf ∈ vmConfs, ∃ folder ∈ folders, Unreadable site.spool.toDisk vmConf folder) ∧
      (∀ limit offset, site.listUserMessages tenantUuid userUuid voicemailType limit offset
        direction (some order) = .error (.listing (.storage e))) ∧
      ∀ limit offset, site.getTenantMessages tenantUuid voicemailType (some userUuid) none limit
        offset direction (some order) none none false none =
          .error (.listing (.storage e))) ∨
    ∃ items, FaithfulPages site tenantUuid userUuid voicemailType vmConfs order direction size
      items := by
  rcases vmConfs with _ | ⟨vmConf, vmConfs⟩
  · refine .inr ⟨[], ⟨⟨[], List.nodup_nil, by simp, .nil⟩, .nil, ⟨fun _ => [], ?_⟩, ?_⟩⟩
    · refine ⟨by simp, fun k => ?_, fun k => ?_⟩
      · unfold Site.listUserMessages
        rw [configs]
        rfl
      · unfold Site.getTenantMessages
        rw [configs]
        rfl
    · unfold Site.countUserMessages
      rw [configs]
      rfl
  have hsome : vmConf :: vmConfs ≠ [] := List.cons_ne_nil _ _
  rcases hread : allMessages site.spool.toDisk (vmConf :: vmConfs) with e | messages
  · refine .inl ⟨e, allMessages_error hread, fun limit offset => ?_, fun limit offset => ?_⟩
    · rw [listUserMessages_eq configs hsome, listMessagesInfos_error hread]
      rfl
    · rw [getTenantMessages_eq configs hsome, listMessagesInfos_error hread]
      rfl
  have hvalues : ∀ m ∈ messages, order.value m ≠ .none := by
    intro m _
    cases order <;> simp_all [Order.value]
  have hall : ∃ sorted, slicer none none (some order) direction messages = .ok sorted ∧
      IsPage order direction none none messages sorted := slicer_of_values hvalues
  obtain ⟨sorted, hsorted, page, hperm, hpairwise, hslice⟩ := hall
  obtain rfl : sorted = page := hslice
  obtain ⟨g, hg, henrich⟩ := enrichMessages_eq_map site (voicemailIds (vmConf :: vmConfs))
  refine .inr ⟨sorted.map g, ⟨everyMessageOnce_of_perm distinct hread hperm hg, ?_, ?_, ?_⟩⟩
  · refine List.pairwise_map.mpr (hpairwise.imp fun {a b} hab => ?_)
    unfold Precedes at hab ⊢
    rwa [hg.value, hg.value]
  · refine ⟨fun k => slice (some size) (k * size) (sorted.map g), fun n hn => ?_, fun k => ?_,
      fun k => ?_⟩
    · exact flatMap_slice_eq _ hn
    · rw [listUserMessages_eq configs hsome, listMessagesInfos_eq hread, slicer_slice hsorted]
      dsimp only
      rw [slice_map, ← henrich]
      rfl
    · rw [getTenantMessages_eq configs hsome, listMessagesInfos_eq hread, hsorted]
      simp only [Except.mapError, Except.map, henrich, List.length_map, Option.getD_some]
  · rw [countUserMessages_eq configs hsome, countAllMessages_ok hread, List.length_map,
      hperm.length_eq]
    rfl

end Pages

/-! ## A file that is no message -/

/-- An inbox with one message, from a file that can be read or not. -/
def spoolOf (result : Option ParseResult) : Spool where
  contexts := .ok []
  files _ _ path := if path = "INBOX" then .ok [("msg0000.txt", .ok result)] else .error .enoent
  isFile _ _ _ _ := true
  regular _ _ _ _ _ _ _ _ := rfl
  distinct context number path names h := by
    split at h <;> cases h
    exact List.nodup_singleton _

/-- A user with one mailbox. -/
def siteOf (result : Option ParseResult) : Site where
  spool := spoolOf result
  voicemail _ _ := .ok mailbox
  userVoicemail _ := .ok (some mailbox)
  voicemails _ _ _ := .ok []
  transcriptions _ := none

/-- **A file that cannot be parsed is counted, and no page lists it.** -/
theorem malformed_file_raises :
    (siteOf none).getVoicemailsConfigs "tenant" .all (some "alice") none false = .ok [mailbox] ∧
      (siteOf none).countUserMessages "tenant" "alice" .all = .ok 1 ∧
      (siteOf none).listUserMessages "tenant" "alice" .all (some 10) (some 0) none (some .id) =
        .error (.listing (.storage .voicemailMessageStorageError)) ∧
      ¬ ∃ items, FaithfulPages (siteOf none) "tenant" "alice" .all [mailbox] .id none 10 items := by
  refine ⟨rfl, rfl, rfl, ?_⟩
  rintro ⟨items, faithful⟩
  obtain ⟨page, -, hlist, -⟩ := faithful.pages
  have hpage := hlist 0
  cases hpage

/-- A mailbox with a message has its pages. -/
theorem voicemail_pages_inbox :
    (∃ e : StorageExn,
      (∃ vmConf ∈ [mailbox], ∃ folder ∈ folders,
        Unreadable (siteOf (some ⟨none, none, "1", 10, 0, true⟩)).spool.toDisk vmConf folder) ∧
      (∀ limit offset, (siteOf (some ⟨none, none, "1", 10, 0, true⟩)).listUserMessages "tenant"
        "alice" .all limit offset none (some .id) = .error (.listing (.storage e))) ∧
      ∀ limit offset, (siteOf (some ⟨none, none, "1", 10, 0, true⟩)).getTenantMessages "tenant"
        .all (some "alice") none limit offset none (some .id) none none false none =
          .error (.listing (.storage e))) ∨
    ∃ items, FaithfulPages (siteOf (some ⟨none, none, "1", 10, 0, true⟩)) "tenant" "alice" .all
      [mailbox] .id none 10 items :=
  voicemail_pages _ "tenant" "alice" .all [mailbox] .id none 10 rfl (by decide) (by decide)

end Calld.Voicemails
