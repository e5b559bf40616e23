/-
# Moving and deleting messages

A message is looked for in the mailboxes of whoever asks, one after the other, and Asterisk is
asked to move it to another folder or to delete it.  Later Asterisk sends `MessageWaiting` for the
mailbox that has changed, and the diff of the mailbox is told.

Here the two are put together: the diffs tell the changes that have been made by the requests, each
once and as what it was.  The requests come one after the other, and a mailbox is searched at once.
-/
import Calld.Effect.Runs
import Calld.Voicemails.Services
import Calld.Voicemails.Cache

namespace Calld.Voicemails

open Effect Effect.Interactive

/-! ## The storage -/

def isTxt (name : String) : Bool := decide (".txt".toList <:+ name.toList)

/-- The messages of a folder are read until one has the id. -/
def findFile (vmConf : VmConf) (folder : VoicemailFolder) (messageId : String) :
    List (String × Except OSError (Option ParseResult)) → Except StorageExn (Option MessageInfo)
  | [] => pure none
  | file :: files =>
    if isTxt file.1 then do
      let result ← readMessageInfoFile file.2
      if result.id = messageId then pure (some ⟨result, folder, vmConf⟩)
      else findFile vmConf folder messageId files
    else findFile vmConf folder messageId files

/-- So are the folders. -/
def findIn (disk : Disk) (vmConf : VmConf) (messageId : String) :
    List VoicemailFolder → Except StorageExn (Option MessageInfo)
  | [] => pure none
  | folder :: folders =>
    match disk.files vmConf.context vmConf.number folder.path with
    | .error .enoent => findIn disk vmConf messageId folders
    | .error e => throw (.osError e)
    | .ok names => do
      match ← findFile vmConf folder messageId names with
      | some info => pure (some info)
      | none => findIn disk vmConf messageId folders

/-- `_VoicemailAccess.get_message`, with the information of the message. -/
def findMessage (disk : Disk) (vmConf : VmConf) (messageId : String) :
    Except StorageExn (Option MessageInfo) :=
  findIn disk vmConf messageId folders

/-- `get_folder_by_id`. -/
def getFolderById (folderId : ℕ) : Option VoicemailFolder := folders.find? (·.id = folderId)

/-! ## The service -/

inductive MessageExn where
  | service (e : ServiceExn)
  | storage (e : StorageExn)
  | noSuchVoicemailFolder (folderId : ℕ)
  | noSuchVoicemailMessage (messageId : String)
  | ariHTTPError (status : ℕ)
  deriving DecidableEq

def MessageExn.isNoSuchMessage : MessageExn → Bool
  | .noSuchVoicemailMessage _ => true
  | _ => false

/-- What is asked of the storage and of `ari.wazo`. -/
inductive MessageRequest where
  | getMessage (vmConf : VmConf) (messageId : String)
  | moveVoicemailMessage (mailbox context srcFolder destFolder messageId : String)
  | deleteVoicemailMessage (mailbox context folder messageId : String)

@[reducible] def MessageRequest.Reply : MessageRequest → Type
  | .getMessage .. => MessageInfo
  | _ => Unit

abbrev MessageCode (α : Type) : Type :=
  Interactive MessageRequest MessageRequest.Reply MessageExn α

/-- `get_message_info`. -/
def getMessageInfo (messageId : String) : List VmConf → MessageCode MessageInfo
  | [] => throw (.noSuchVoicemailMessage messageId)
  | vmConf :: vmConfs => do
    match ← catching MessageExn.isNoSuchMessage
      (request (MessageRequest.getMessage vmConf messageId)) with
    | none => getMessageInfo messageId vmConfs
    | some info => pure info

/-- `_move_message`. -/
def moveMessageTo (vmConf : VmConf) (messageInfo : MessageInfo) (destFolder : VoicemailFolder) :
    MessageCode Unit :=
  request (MessageRequest.moveVoicemailMessage vmConf.number vmConf.context
    messageInfo.folder.path destFolder.path messageInfo.id)

/-- The loop of `move_user_message`. -/
def moveFrom (messageId : String) (destFolder : VoicemailFolder) : List VmConf → MessageCode Unit
  | [] => throw (.noSuchVoicemailMessage messageId)
  | vmConf :: vmConfs => do
    match ← catching MessageExn.isNoSuchMessage (getMessageInfo messageId [vmConf]) with
    | none => moveFrom messageId destFolder vmConfs
    | some messageInfo => moveMessageTo vmConf messageInfo destFolder

/-- `_delete_message`. -/
def deleteMessageIn (vmConf : VmConf) (messageId : String) : MessageCode Unit := do
  let messageInfo ← getMessageInfo messageId [vmConf]
  request (MessageRequest.deleteVoicemailMessage vmConf.number vmConf.context
    messageInfo.folder.path messageId)

/-- The loop of `delete_user_message`. -/
def deleteFrom (messageId : String) : List VmConf → MessageCode Unit
  | [] => throw (.noSuchVoicemailMessage messageId)
  | vmConf :: vmConfs => do
    match ← catching MessageExn.isNoSuchMessage (deleteMessageIn vmConf messageId) with
    | none => deleteFrom messageId vmConfs
    | some _ => pure ()

/-- Who asks: for a voicemail by its id, or as a user. -/
inductive MessageCaller where
  | voicemail (tenantUuid : String) (voicemailId : ℕ)
  | user (tenantUuid userUuid : String)

/-- The mailboxes of whoever asks. -/
def MessageCaller.vmConfs (site : Site) : MessageCaller → Except ServiceExn (List VmConf)
  | .voicemail tenantUuid voicemailId => do
    let vmConf ← site.getVoicemail tenantUuid voicemailId
    pure [vmConf]
  | .user tenantUuid userUuid =>
    site.getVoicemailsConfigs tenantUuid .all (some userUuid) none false

def lookup {α : Type} : Except ServiceExn α → MessageCode α
  | .ok a => pure a
  | .error e => throw (.service e)

/-- The folder that a message is moved to. -/
def destFolderOf (folderId : ℕ) : MessageCode VoicemailFolder :=
  match getFolderById folderId with
  | some folder => pure folder
  | none => throw (.noSuchVoicemailFolder folderId)

/-- The text that `_enrich_messages_with_transcriptions` gives one message. -/
def Site.transcription (site : Site) (voicemailIds : Finset ℕ) (messageId : String) :
    Option String :=
  if voicemailIds = ∅ ∨ messageId = "" then none
  else (site.transcriptions voicemailIds).bind fun items => transcriptionOf items messageId

/-- `get_message` and `get_user_message`. -/
def getMessage (site : Site) (caller : MessageCaller) (messageId : String) :
    MessageCode (MessageInfo × Option String) := do
  let vmConfs ← lookup (caller.vmConfs site)
  let message ← getMessageInfo messageId vmConfs
  pure (message, site.transcription (voicemailIds vmConfs) message.id)

/-- `move_message` and `move_user_message`. -/
def moveMessage (site : Site) (messageId : String) (destFolderId : ℕ) :
    MessageCaller → MessageCode Unit
  | .voicemail tenantUuid voicemailId => do
    let vmConf ← lookup (site.getVoicemail tenantUuid voicemailId)
    let destFolder ← destFolderOf destFolderId
    let messageInfo ← getMessageInfo messageId [vmConf]
    moveMessageTo vmConf messageInfo destFolder
  | .user tenantUuid userUuid => do
    let destFolder ← destFolderOf destFolderId
    let vmConfs ← lookup ((MessageCaller.user tenantUuid userUuid).vmConfs site)
    moveFrom messageId destFolder vmConfs

/-- `delete_message` and `delete_user_message`. -/
def deleteMessage (site : Site) (messageId : String) : MessageCaller → MessageCode Unit
  | .voicemail tenantUuid voicemailId => do
    let vmConf ← lookup (site.getVoicemail tenantUuid voicemailId)
    deleteMessageIn vmConf messageId
  | .user tenantUuid userUuid => do
    let vmConfs ← lookup ((MessageCaller.user tenantUuid userUuid).vmConfs site)
    deleteFrom messageId vmConfs

inductive MessageOp where
  | get
  | move (destFolderId : ℕ)
  | delete

/-- The code of an operation on a message; only a `get` returns something. -/
def MessageOp.code (site : Site) (caller : MessageCaller) (messageId : String) :
    MessageOp → MessageCode (Option (MessageInfo × Option String))
  | .get => do
    let message ← getMessage site caller messageId
    pure (some message)
  | .move destFolderId => do
    moveMessage site messageId destFolderId caller
    pure none
  | .delete => do
    deleteMessage site messageId caller
    pure none

/-! ## Asterisk -/

/-- The messages that can be read in a folder. -/
def inFolder (disk : Disk) (context number path : String) : Option (List ParseResult) :=
  match disk.files context number path with
  | .error .enoent => some []
  | .error _ => none
  | .ok names =>
    ((names.filter fun file => isTxt file.1).mapM fun file => readMessageInfoFile file.2).toOption

/-- A message with the id has gone from a folder, and nothing else has changed. -/
structure Deletes (disk : Disk) (context number path messageId : String) (disk' : Disk) : Prop where
  contexts : disk'.contexts = disk.contexts
  removed : ∀ results, inFolder disk context number path = some results → ∃ result results',
    result.id = messageId ∧ inFolder disk' context number path = some results' ∧
      results.Perm (result :: results')
  others : ∀ c n p, (c, n, p) ≠ (context, number, path) → disk'.files c n p = disk.files c n p

/-- A message with the id has gone from one folder to another one, and nothing else has changed. -/
structure Moves (disk : Disk) (context number src dest messageId : String) (disk' : Disk) :
    Prop where
  contexts : disk'.contexts = disk.contexts
  stays : src = dest → ∀ results, inFolder disk context number src = some results →
    ∃ results', inFolder disk' context number src = some results' ∧ results'.Perm results
  moved : src ≠ dest → ∀ results others, inFolder disk context number src = some results →
    inFolder disk context number dest = some others → ∃ result results' others',
      result.id = messageId ∧ inFolder disk' context number src = some results' ∧
        inFolder disk' context number dest = some others' ∧
          results.Perm (result :: results') ∧ others'.Perm (result :: others)
  others : ∀ c n p, (c, n, p) ≠ (context, number, src) → (c, n, p) ≠ (context, number, dest) →
    disk'.files c n p = disk.files c n p

/-- What the storage and Asterisk answer.  Asterisk may refuse a request, and does nothing then. -/
inductive Served : Disk → (r : MessageRequest) → Except MessageExn r.Reply → Disk → Prop
  | found (disk : Disk) (vmConf : VmConf) (messageId : String) (info : MessageInfo)
      (h : findMessage disk vmConf messageId = .ok (some info)) :
      Served disk (.getMessage vmConf messageId) (.ok info) disk
  | missing (disk : Disk) (vmConf : VmConf) (messageId : String)
      (h : findMessage disk vmConf messageId = .ok none) :
      Served disk (.getMessage vmConf messageId)
        (.error (.noSuchVoicemailMessage messageId)) disk
  | unread (disk : Disk) (vmConf : VmConf) (messageId : String) (e : StorageExn)
      (h : findMessage disk vmConf messageId = .error e) :
      Served disk (.getMessage vmConf messageId) (.error (.storage e)) disk
  | moved (disk disk' : Disk) (number context src dest messageId : String)
      (h : Moves disk context number src dest messageId disk') :
      Served disk (.moveVoicemailMessage number context src dest messageId) (.ok ()) disk'
  | deleted (disk disk' : Disk) (number context folder messageId : String)
      (h : Deletes disk context number folder messageId disk') :
      Served disk (.deleteVoicemailMessage number context folder messageId) (.ok ()) disk'
  | moveRefused (disk : Disk) (number context src dest messageId : String) (status : ℕ) :
      Served disk (.moveVoicemailMessage number context src dest messageId)
        (.error (.ariHTTPError status)) disk
  | deleteRefused (disk : Disk) (number context folder messageId : String) (status : ℕ) :
      Served disk (.deleteVoicemailMessage number context folder messageId)
        (.error (.ariHTTPError status)) disk

/-! ## Reading a mailbox -/

/-- The folders of a mailbox can be read, and have these messages. -/
def OnDisk (disk : Disk) (key : String × String) (g : VoicemailFolder → List ParseResult) : Prop :=
  ∀ folder ∈ folders, inFolder disk key.2 key.1 folder.path = some (g folder)

/-- The messages with their folders. -/
def located (vmConf : VmConf) (g : VoicemailFolder → List ParseResult) : List MessageInfo :=
  folders.flatMap fun folder => (g folder).map fun result => ⟨result, folder, vmConf⟩

section Reading

variable {disk : Disk} {key : String × String} {g : VoicemailFolder → List ParseResult}
  {vmConf : VmConf} {folder : VoicemailFolder} {messageId : String}

/-- A folder as it is listed. -/
theorem folderMessages_of {results : List ParseResult}
    (h : inFolder disk vmConf.context vmConf.number folder.path = some results) :
    folderMessages disk vmConf folder = .ok (results.map fun r => ⟨r, folder, vmConf⟩) := by
  unfold inFolder at h
  unfold folderMessages
  cases hfiles : disk.files vmConf.context vmConf.number folder.path with
  | error e =>
    rw [hfiles] at h
    cases e with
    | enoent =>
      cases h
      rfl
    | other => cases h
  | ok names =>
    rw [hfiles] at h
    dsimp only at h ⊢
    cases hread : (names.filter fun file => isTxt file.1).mapM
        fun file => readMessageInfoFile file.2 with
    | error e =>
      rw [hread] at h
      cases h
    | ok results' =>
      rw [hread] at h
      cases h
      refine mapM_of_forall₂ (List.forall₂_map_right_iff.mpr ?_)
      refine (forall₂_of_mapM hread).imp fun file result hresult => ?_
      show (readMessageInfoFile file.2 >>= fun result => pure _) = _
      rw [hresult]
      rfl

/-- A mailbox that can be read lists what its folders have. -/
theorem messagesOnDisk_of (h : OnDisk disk key g) : ∃ messages,
    messagesOnDisk disk key = some messages ∧
      messages.Perm (located (fakeVmConf key.1 key.2) g) := by
  have hread : folders.mapM (fun folder => do
      let messages ← folderMessages disk (fakeVmConf key.1 key.2) folder
      pure (⟨folder.id, folder.name, folder.type, sortMessages messages⟩ : FolderInfo)) =
        .ok (folders.map fun folder => ⟨folder.id, folder.name, folder.type,
          sortMessages ((g folder).map fun r => ⟨r, folder, fakeVmConf key.1 key.2⟩)⟩) := by
    refine mapM_of_forall₂ (List.forall₂_map_right_iff.mpr (List.forall₂_same.mpr ?_))
    intro folder hfolder
    show (folderMessages disk (fakeVmConf key.1 key.2) folder >>= fun messages => pure _) = _
    rw [folderMessages_of (h folder hfolder)]
    rfl
  refine ⟨folders.flatMap fun folder => sortMessages
    ((g folder).map fun r => ⟨r, folder, fakeVmConf key.1 key.2⟩), ?_, ?_⟩
  · unfold messagesOnDisk getVoicemailInfo
    rw [hread]
    exact congrArg some (List.flatMap_map _ _ _)
  · exact List.Perm.flatMap_left folders fun folder _ => List.perm_insertionSort _ _

/-- The search of a folder that can be read. -/
theorem findFile_of {names : List (String × Except OSError (Option ParseResult))}
    {results : List ParseResult}
    (h : (names.filter fun file => isTxt file.1).mapM (fun file => readMessageInfoFile file.2) =
      .ok results) :
    findFile vmConf folder messageId names =
      .ok ((results.map fun r => ⟨r, folder, vmConf⟩).find? (·.id = messageId)) := by
  induction names generalizing results with
  | nil =>
    cases h
    rfl
  | cons file names ih =>
    rw [List.filter_cons] at h
    unfold findFile
    by_cases htxt : isTxt file.1 = true
    · rw [if_pos htxt] at h ⊢
      cases forall₂_of_mapM h with
      | cons hfile hrest =>
        rename_i result results
        rw [List.map_cons, List.find?_cons]
        show (readMessageInfoFile file.2 >>= fun result => if result.id = messageId
          then pure (some ⟨result, folder, vmConf⟩)
          else findFile vmConf folder messageId names) = _
        rw [hfile]
        show (if result.id = messageId then pure (some ⟨result, folder, vmConf⟩)
          else findFile vmConf folder messageId names) = _
        by_cases hid : result.id = messageId
        · simp [hid, MessageInfo.id]
          rfl
        · rw [if_neg hid, ih (mapM_of_forall₂ hrest)]
          simp [MessageInfo.id, hid]
    · rw [if_neg htxt] at h ⊢
      exact ih h

/-- The search of a mailbox that can be read finds its first message with the id. -/
theorem findMessage_of (h : OnDisk disk (vmConf.number, vmConf.context) g) :
    findMessage disk vmConf messageId = .ok ((located vmConf g).find? (·.id = messageId)) := by
  unfold findMessage located
  have hall : ∀ folder ∈ folders,
      inFolder disk vmConf.context vmConf.number folder.path = some (g folder) := h
  generalize folders = fs at hall ⊢
  induction fs with
  | nil => rfl
  | cons folder fs ih =>
    have hfolder := hall folder (by simp)
    have hrest := ih fun f hf => hall f (by simp [hf])
    unfold findIn
    rw [List.flatMap_cons, List.find?_append]
    unfold inFolder at hfolder
    cases hfiles : disk.files vmConf.context vmConf.number folder.path with
    | error e =>
      rw [hfiles] at hfolder
      cases e with
      | enoent =>
        rw [← Option.some.inj hfolder]
        exact hrest
      | other => cases hfolder
    | ok names =>
      rw [hfiles] at hfolder
      dsimp only at hfolder ⊢
      cases hread : (names.filter fun file => isTxt file.1).mapM
          fun file => readMessageInfoFile file.2 with
      | error e =>
        rw [hread] at hfolder
        cases hfolder
      | ok results =>
        rw [hread] at hfolder
        rw [findFile_of hread, ← Option.some.inj hfolder]
        cases (results.map fun r => (⟨r, folder, vmConf⟩ : MessageInfo)).find?
            (·.id = messageId) with
        | none => exact hrest
        | some info => rfl

end Reading

/-! ## What Asterisk changes -/

section Changes

variable {disk disk' : Disk} {key : String × String} {g g' : VoicemailFolder → List ParseResult}
  {vmConf : VmConf} {folder src dest : VoicemailFolder} {messageId : String}

/-- One folder of a mailbox has one message less. -/
theorem located_remove {result : ParseResult} (hfolder : folder ∈ folders)
    (hsame : ∀ f ∈ folders, f ≠ folder → g' f = g f)
    (hremoved : (g folder).Perm (result :: g' folder)) :
    (located vmConf g).Perm (⟨result, folder, vmConf⟩ :: located vmConf g') := by
  have hnodup : folders.Nodup := by decide
  unfold located
  generalize folders = fs at hfolder hsame hnodup ⊢
  induction fs with
  | nil => cases hfolder
  | cons f fs ih =>
    obtain ⟨hf, hnodup⟩ := List.nodup_cons.mp hnodup
    rw [List.flatMap_cons, List.flatMap_cons]
    rcases List.mem_cons.mp hfolder with rfl | hmem
    · have hrest : (fs.flatMap fun f => (g f).map fun r => (⟨r, f, vmConf⟩ : MessageInfo)) =
          fs.flatMap fun f => (g' f).map fun r => ⟨r, f, vmConf⟩ := by
        refine List.flatMap_congr fun f hmem => ?_
        have hne : f ≠ folder := by
          rintro rfl
          exact hf hmem
        rw [hsame f (by simp [hmem]) hne]
      rw [hrest]
      exact (hremoved.map _).append_right _
    · have hne : f ≠ folder := by
        rintro rfl
        exact hf hmem
      rw [hsame f (by simp) hne]
      refine ((ih hmem (fun f' h' => hsame f' (by simp [h'])) hnodup).append_left _).trans ?_
      exact List.perm_middle

/-- The paths of the folders are distinct. -/
theorem eq_of_path {f f' : VoicemailFolder} (hf : f ∈ folders) (hf' : f' ∈ folders)
    (h : f.path = f'.path) : f = f' := by
  have hall : ∀ f ∈ folders, ∀ f' ∈ folders, f.path = f'.path → f = f' := by decide
  exact hall f hf f' hf' h

/-- A folder with the same files has the same messages. -/
theorem inFolder_congr {c n p : String} (h : disk'.files c n p = disk.files c n p) :
    inFolder disk' c n p = inFolder disk c n p := by
  unfold inFolder
  rw [h]

/-- The folders of a mailbox that have not changed. -/
theorem onDisk_update {P : String → Prop} {k : VoicemailFolder → List ParseResult}
    (hg : OnDisk disk key g)
    (hothers : ∀ p, ¬ P p → disk'.files key.2 key.1 p = disk.files key.2 key.1 p)
    (hk : ∀ f ∈ folders, P f.path → inFolder disk' key.2 key.1 f.path = some (k f))
    (hsame : ∀ f ∈ folders, ¬ P f.path → k f = g f) : OnDisk disk' key k := by
  intro f hf
  by_cases hpath : P f.path
  · exact hk f hf hpath
  · rw [hsame f hf hpath, ← hg f hf]
    exact inFolder_congr (hothers _ hpath)

/-- A message is deleted in a mailbox that can be read. -/
theorem onDisk_deletes (hg : OnDisk disk key g) (hfolder : folder ∈ folders)
    (h : Deletes disk key.2 key.1 folder.path messageId disk') :
    ∃ g' result, result.id = messageId ∧ OnDisk disk' key g' ∧ ∀ vmConf,
      (located vmConf g).Perm (⟨result, folder, vmConf⟩ :: located vmConf g') := by
  obtain ⟨result, results', hid, hresults', hperm⟩ := h.removed _ (hg folder hfolder)
  refine ⟨Function.update g folder results', result, hid, ?_, fun vmConf => ?_⟩
  · refine onDisk_update (P := (· = folder.path)) hg ?_ ?_ ?_
    · exact fun p hp => h.others _ _ _ fun hpath => hp (congrArg (fun x => x.2.2) hpath)
    · intro f hf hpath
      obtain rfl := eq_of_path hf hfolder hpath
      rw [Function.update_self]
      exact hresults'
    · exact fun f _ hpath => Function.update_of_ne (fun heq => hpath (congrArg _ heq)) _ _
  · refine located_remove hfolder (fun f _ hne => Function.update_of_ne hne _ _) ?_
    rw [Function.update_self]
    exact hperm

/-- A message is moved in a mailbox that can be read. -/
theorem onDisk_moves (hg : OnDisk disk key g) (hsrc : src ∈ folders) (hdest : dest ∈ folders)
    (h : Moves disk key.2 key.1 src.path dest.path messageId disk') :
    ∃ g', OnDisk disk' key g' ∧
      (src = dest → ∀ vmConf, (located vmConf g').Perm (located vmConf g)) ∧
      (src ≠ dest → ∃ result, result.id = messageId ∧ ∀ vmConf, ∃ rest,
        (located vmConf g).Perm (⟨result, src, vmConf⟩ :: rest) ∧
          (located vmConf g').Perm (⟨result, dest, vmConf⟩ :: rest)) := by
  by_cases heq : src = dest
  · subst heq
    obtain ⟨results', hresults', hperm⟩ := h.stays rfl _ (hg src hsrc)
    refine ⟨Function.update g src results', ?_, fun _ vmConf => ?_, fun hne => absurd rfl hne⟩
    · refine onDisk_update (P := (· = src.path)) hg ?_ ?_ ?_
      · exact fun p hp => h.others _ _ _ (fun hpath => hp (congrArg (fun x => x.2.2) hpath))
          (fun hpath => hp (congrArg (fun x => x.2.2) hpath))
      · intro f hf hpath
        obtain rfl := eq_of_path hf hsrc hpath
        rw [Function.update_self]
        exact hresults'
      · exact fun f _ hpath => Function.update_of_ne (fun heq => hpath (congrArg _ heq)) _ _
    · refine List.Perm.flatMap_left folders fun f _ => List.Perm.map _ ?_
      by_cases hf : f = src
      · subst hf
        rw [Function.update_self]
        exact hperm
      · rw [Function.update_of_ne hf]
  · have hpaths : src.path ≠ dest.path := fun hpath => heq (eq_of_path hsrc hdest hpath)
    obtain ⟨result, results', others', hid, hresults', hothers', hremoved, hadded⟩ :=
      h.moved hpaths _ _ (hg src hsrc) (hg dest hdest)
    -- the mailbox between the two changes
    let k : VoicemailFolder → List ParseResult := Function.update g src results'
    refine ⟨Function.update k dest others', ?_, fun hne => absurd hne heq, fun _ =>
      ⟨result, hid, fun vmConf => ⟨located vmConf k, ?_, ?_⟩⟩⟩
    · refine onDisk_update (P := fun p => p = src.path ∨ p = dest.path) hg ?_ ?_ ?_
      · exact fun p hp => h.others _ _ _
          (fun hpath => hp (.inl (congrArg (fun x => x.2.2) hpath)))
          (fun hpath => hp (.inr (congrArg (fun x => x.2.2) hpath)))
      · rintro f hf (hpath | hpath)
        · obtain rfl := eq_of_path hf hsrc hpath
          rw [Function.update_of_ne heq]
          show _ = some (Function.update g f results' f)
          rw [Function.update_self]
          exact hresults'
        · obtain rfl := eq_of_path hf hdest hpath
          rw [Function.update_self]
          exact hothers'
      · intro f _ hpath
        rw [Function.update_of_ne fun heq => hpath (.inr (congrArg _ heq))]
        exact Function.update_of_ne (fun heq => hpath (.inl (congrArg _ heq))) _ _
    · refine located_remove hsrc (fun f _ hne => Function.update_of_ne hne _ _) ?_
      show (g src).Perm (result :: Function.update g src results' src)
      rw [Function.update_self]
      exact hremoved
    · refine located_remove hdest (fun f _ hne => (Function.update_of_ne hne _ _).symm) ?_
      rw [Function.update_self]
      show others'.Perm (result :: Function.update g src results' dest)
      rw [Function.update_of_ne fun h => heq h.symm]
      exact hadded

end Changes

/-! ## What the operations ask for -/

section Operations

variable {site : Site} {caller : MessageCaller} {messageId : String} {vmConfs : List VmConf}
  {vmConf : VmConf} {info : MessageInfo} {s u : Disk}

/-- No mailbox has a message with the id. -/
def Missing (disk : Disk) (messageId : String) (vmConfs : List VmConf) : Prop :=
  ∀ vmConf ∈ vmConfs, findMessage disk vmConf messageId = .ok none

/-- The first mailbox that has a message with the id, and the message. -/
def First (disk : Disk) (messageId : String) (vmConfs : List VmConf) (vmConf : VmConf)
    (info : MessageInfo) : Prop :=
  ∃ before after, vmConfs = before ++ vmConf :: after ∧ Missing disk messageId before ∧
    findMessage disk vmConf messageId = .ok (some info)

theorem First.head (h : findMessage s vmConf messageId = .ok (some info)) :
    First s messageId (vmConf :: vmConfs) vmConf info :=
  ⟨[], vmConfs, rfl, fun _ hc => absurd hc List.not_mem_nil, h⟩

theorem First.cons {vmConf' : VmConf} (h' : findMessage s vmConf' messageId = .ok none)
    (h : First s messageId vmConfs vmConf info) :
    First s messageId (vmConf' :: vmConfs) vmConf info := by
  obtain ⟨before, after, rfl, hmissing, hfound⟩ := h
  exact ⟨vmConf' :: before, after, rfl, List.forall_mem_cons.mpr ⟨h', hmissing⟩, hfound⟩

theorem Missing.cons (h : findMessage s vmConf messageId = .ok none)
    (hrest : Missing s messageId vmConfs) : Missing s messageId (vmConf :: vmConfs) :=
  List.forall_mem_cons.mpr ⟨h, hrest⟩

/-- What an operation that has asked Asterisk for nothing raises. -/
def Refuses (s : Disk) (messageId : String) (vmConfs : List VmConf) (e : MessageExn) : Prop :=
  e.isNoSuchMessage = true → Missing s messageId vmConfs

theorem search_runs {y : Except MessageExn (Option MessageInfo)}
    (h : Runs Served (catching MessageExn.isNoSuchMessage
      (request (MessageRequest.getMessage vmConf messageId))) s y u) :
    u = s ∧ ((∃ info, y = .ok (some info) ∧ findMessage s vmConf messageId = .ok (some info)) ∨
      (y = .ok none ∧ findMessage s vmConf messageId = .ok none) ∨
        ∃ e, y = .error (.storage e)) := by
  obtain ⟨info, hask, rfl⟩ | ⟨e, hask, rfl⟩ := runs_catching h
  · cases runs_request hask with
    | found _ _ _ hfound => exact ⟨rfl, .inl ⟨info, rfl, hfound⟩⟩
  · cases runs_request hask with
    | missing _ _ hmissing => exact ⟨rfl, .inr (.inl ⟨rfl, hmissing⟩)⟩
    | unread _ _ e he => exact ⟨rfl, .inr (.inr ⟨e, rfl⟩)⟩

theorem getMessageInfo_runs {y : Except MessageExn MessageInfo}
    (h : Runs Served (getMessageInfo messageId vmConfs) s y u) :
    u = s ∧ ((∃ vmConf info, First s messageId vmConfs vmConf info ∧ y = .ok info) ∨
      (y = .error (.noSuchVoicemailMessage messageId) ∧ Missing s messageId vmConfs) ∨
        ∃ e, y = .error (.storage e)) := by
  induction vmConfs with
  | nil =>
    obtain ⟨rfl, rfl⟩ := runs_throw h
    exact ⟨rfl, .inr (.inl ⟨rfl, fun _ hc => absurd hc List.not_mem_nil⟩)⟩
  | cons vmConf vmConfs ih =>
    obtain ⟨e, hsearch, rfl⟩ | ⟨found, t, hsearch, hrest⟩ := runs_bind h
    · obtain ⟨rfl, ⟨info, he, -⟩ | ⟨he, -⟩ | ⟨e', he⟩⟩ := search_runs hsearch
      · cases he
      · cases he
      · cases he
        exact ⟨rfl, .inr (.inr ⟨e', rfl⟩)⟩
    · obtain ⟨rfl, ⟨info, he, hfound⟩ | ⟨he, hmissing⟩ | ⟨e', he⟩⟩ := search_runs hsearch
      · cases he
        obtain ⟨rfl, rfl⟩ := runs_pure hrest
        exact ⟨rfl, .inl ⟨vmConf, info, .head hfound, rfl⟩⟩
      · cases he
        obtain ⟨rfl, ⟨vmConf', info, hfirst, rfl⟩ | ⟨rfl, hnone⟩ | ⟨e, rfl⟩⟩ := ih hrest
        · exact ⟨rfl, .inl ⟨vmConf', info, hfirst.cons hmissing, rfl⟩⟩
        · exact ⟨rfl, .inr (.inl ⟨rfl, hnone.cons hmissing⟩)⟩
        · exact ⟨rfl, .inr (.inr ⟨e, rfl⟩)⟩
      · cases he

theorem First.of_singleton {vmConf' : VmConf} (h : First s messageId [vmConf] vmConf' info) :
    findMessage s vmConf messageId = .ok (some info) := by
  obtain ⟨before, after, hsplit, -, hfound⟩ := h
  cases before with
  | nil =>
    cases hsplit
    exact hfound
  | cons c before => simp at hsplit

/-- Of one mailbox. -/
theorem getMessageInfo_one {y : Except MessageExn MessageInfo}
    (h : Runs Served (getMessageInfo messageId [vmConf]) s y u) :
    u = s ∧ ((∃ info, y = .ok info ∧ findMessage s vmConf messageId = .ok (some info)) ∨
      (y = .error (.noSuchVoicemailMessage messageId) ∧
        findMessage s vmConf messageId = .ok none) ∨ ∃ e, y = .error (.storage e)) := by
  obtain ⟨rfl, ⟨vmConf', info, hfirst, rfl⟩ | ⟨rfl, hnone⟩ | he⟩ := getMessageInfo_runs h
  · exact ⟨rfl, .inl ⟨info, rfl, hfirst.of_singleton⟩⟩
  · exact ⟨rfl, .inr (.inl ⟨rfl, hnone vmConf (by simp)⟩)⟩
  · exact ⟨rfl, .inr (.inr he)⟩

theorem moveMessageTo_runs {destFolder : VoicemailFolder} {y : Except MessageExn Unit}
    (h : Runs Served (moveMessageTo vmConf info destFolder) s y u) :
    (y = .ok () ∧ Moves s vmConf.context vmConf.number info.folder.path destFolder.path info.id u) ∨
      (u = s ∧ ∃ status, y = .error (.ariHTTPError status)) := by
  cases runs_request h with
  | moved _ _ _ _ _ _ hmoves => exact .inl ⟨rfl, hmoves⟩
  | moveRefused _ _ _ _ _ status => exact .inr ⟨rfl, status, rfl⟩

theorem deleteMessageIn_runs {y : Except MessageExn Unit}
    (h : Runs Served (deleteMessageIn vmConf messageId) s y u) :
    (∃ info, y = .ok () ∧ findMessage s vmConf messageId = .ok (some info) ∧
      Deletes s vmConf.context vmConf.number info.folder.path messageId u) ∨
    (u = s ∧ ((y = .error (.noSuchVoicemailMessage messageId) ∧
        findMessage s vmConf messageId = .ok none) ∨
      ∃ e, y = .error e ∧ e.isNoSuchMessage = false)) := by
  obtain ⟨e, hget, rfl⟩ | ⟨info, t, hget, hdelete⟩ := runs_bind h
  · obtain ⟨rfl, ⟨info, he, -⟩ | ⟨he, hmissing⟩ | ⟨e', he⟩⟩ := getMessageInfo_one hget
    · cases he
    · cases he
      exact .inr ⟨rfl, .inl ⟨rfl, hmissing⟩⟩
    · cases he
      exact .inr ⟨rfl, .inr ⟨_, rfl, rfl⟩⟩
  · obtain ⟨rfl, ⟨info', he, hfound⟩ | ⟨he, -⟩ | ⟨e', he⟩⟩ := getMessageInfo_one hget
    · cases he
      cases runs_request hdelete with
      | deleted _ _ _ _ _ hdeletes => exact .inl ⟨info, rfl, hfound, hdeletes⟩
      | deleteRefused => exact .inr ⟨rfl, .inr ⟨_, rfl, rfl⟩⟩
    · cases he
    · cases he

theorem deleteFrom_runs {y : Except MessageExn Unit}
    (h : Runs Served (deleteFrom messageId vmConfs) s y u) :
    (∃ vmConf info, y = .ok () ∧ First s messageId vmConfs vmConf info ∧
      Deletes s vmConf.context vmConf.number info.folder.path messageId u) ∨
    (u = s ∧ ∃ e, y = .error e ∧ Refuses s messageId vmConfs e) := by
  induction vmConfs with
  | nil =>
    obtain ⟨rfl, rfl⟩ := runs_throw h
    exact .inr ⟨rfl, _, rfl, fun _ _ hc => absurd hc List.not_mem_nil⟩
  | cons vmConf vmConfs ih =>
    -- the mailbox has the message, it has not, or something else is raised
    have htry {x : Except MessageExn (Option Unit)} {t : Disk}
        (h : Runs Served (catching MessageExn.isNoSuchMessage (deleteMessageIn vmConf messageId))
          s x t) :
        (∃ info, x = .ok (some ()) ∧ findMessage s vmConf messageId = .ok (some info) ∧
          Deletes s vmConf.context vmConf.number info.folder.path messageId t) ∨
        (t = s ∧ ((x = .ok none ∧ findMessage s vmConf messageId = .ok none) ∨
          ∃ e, x = .error e ∧ e.isNoSuchMessage = false)) := by
      obtain ⟨_, hdelete, rfl⟩ | ⟨e, hdelete, rfl⟩ := runs_catching h
      · obtain ⟨info, -, hfound, hdeletes⟩ | ⟨-, ⟨he, -⟩ | ⟨e, he, -⟩⟩ :=
          deleteMessageIn_runs hdelete
        · exact .inl ⟨info, rfl, hfound, hdeletes⟩
        · cases he
        · cases he
      · obtain ⟨info, he, -⟩ | ⟨rfl, ⟨he, hmissing⟩ | ⟨e', he, hother⟩⟩ :=
          deleteMessageIn_runs hdelete
        · cases he
        · cases he
          exact .inr ⟨rfl, .inl ⟨rfl, hmissing⟩⟩
        · cases he
          exact .inr ⟨rfl, .inr ⟨e, if_neg (by simp [hother]), hother⟩⟩
    obtain ⟨e, hdelete, rfl⟩ | ⟨found, t, hdelete, hrest⟩ := runs_bind h
    · obtain ⟨info, he, -⟩ | ⟨rfl, ⟨he, -⟩ | ⟨e', he, hother⟩⟩ := htry hdelete
      · cases he
      · cases he
      · cases he
        exact .inr ⟨rfl, e, rfl, fun h => by simp [hother] at h⟩
    · obtain ⟨info, he, hfound, hdeletes⟩ | ⟨rfl, ⟨he, hmissing⟩ | ⟨e', he, -⟩⟩ := htry hdelete
      · cases he
        obtain ⟨rfl, rfl⟩ := runs_pure hrest
        exact .inl ⟨vmConf, info, rfl, .head hfound, hdeletes⟩
      · cases he
        obtain ⟨vmConf', info, rfl, hfirst, hdeletes⟩ | ⟨rfl, e, rfl, he⟩ := ih hrest
        · exact .inl ⟨vmConf', info, rfl, hfirst.cons hmissing, hdeletes⟩
        · exact .inr ⟨rfl, e, rfl, fun h => (he h).cons hmissing⟩
      · cases he

theorem moveFrom_runs {destFolder : VoicemailFolder} {y : Except MessageExn Unit}
    (h : Runs Served (moveFrom messageId destFolder vmConfs) s y u) :
    (∃ vmConf info, y = .ok () ∧ First s messageId vmConfs vmConf info ∧
      Moves s vmConf.context vmConf.number info.folder.path destFolder.path info.id u) ∨
    (u = s ∧ ∃ e, y = .error e ∧ Refuses s messageId vmConfs e) := by
  induction vmConfs with
  | nil =>
    obtain ⟨rfl, rfl⟩ := runs_throw h
    exact .inr ⟨rfl, _, rfl, fun _ _ hc => absurd hc List.not_mem_nil⟩
  | cons vmConf vmConfs ih =>
    have htry {x : Except MessageExn (Option MessageInfo)} {t : Disk}
        (h : Runs Served (catching MessageExn.isNoSuchMessage (getMessageInfo messageId [vmConf]))
          s x t) :
        t = s ∧ ((∃ info, x = .ok (some info) ∧
            findMessage s vmConf messageId = .ok (some info)) ∨
          (x = .ok none ∧ findMessage s vmConf messageId = .ok none) ∨
            ∃ e, x = .error e ∧ e.isNoSuchMessage = false) := by
      obtain ⟨info, hget, rfl⟩ | ⟨e, hget, rfl⟩ := runs_catching h
      · obtain ⟨rfl, ⟨info', he, hfound⟩ | ⟨he, -⟩ | ⟨e, he⟩⟩ := getMessageInfo_one hget
        · cases he
          exact ⟨rfl, .inl ⟨info, rfl, hfound⟩⟩
        · cases he
        · cases he
      · obtain ⟨rfl, ⟨info, he, -⟩ | ⟨he, hmissing⟩ | ⟨e', he⟩⟩ := getMessageInfo_one hget
        · cases he
        · cases he
          exact ⟨rfl, .inr (.inl ⟨rfl, hmissing⟩)⟩
        · cases he
          exact ⟨rfl, .inr (.inr ⟨_, rfl, rfl⟩)⟩
    obtain ⟨e, hget, rfl⟩ | ⟨found, t, hget, hrest⟩ := runs_bind h
    · obtain ⟨rfl, ⟨info, he, -⟩ | ⟨he, -⟩ | ⟨e', he, hother⟩⟩ := htry hget
      · cases he
      · cases he
      · cases he
        exact .inr ⟨rfl, e, rfl, fun h => by simp [hother] at h⟩
    · obtain ⟨rfl, ⟨info, he, hfound⟩ | ⟨he, hmissing⟩ | ⟨e', he, -⟩⟩ := htry hget
      · cases he
        obtain ⟨rfl, hmoves⟩ | ⟨rfl, status, rfl⟩ := moveMessageTo_runs hrest
        · exact .inl ⟨vmConf, info, rfl, .head hfound, hmoves⟩
        · exact .inr ⟨rfl, _, rfl, fun h => by cases h⟩
      · cases he
        obtain ⟨vmConf', info, rfl, hfirst, hmoves⟩ | ⟨rfl, e, rfl, he⟩ := ih hrest
        · exact .inl ⟨vmConf', info, rfl, hfirst.cons hmissing, hmoves⟩
        · exact .inr ⟨rfl, e, rfl, fun h => (he h).cons hmissing⟩
      · cases he

theorem lookup_bind {α β : Type} {x : Except ServiceExn α} {f : α → MessageCode β}
    {y : Except MessageExn β} (h : Runs Served (lookup x >>= f) s y u) :
    (∃ a, x = .ok a ∧ Runs Served (f a) s y u) ∨ (u = s ∧ ∃ e, y = .error (.service e)) := by
  cases x with
  | ok a => exact .inl ⟨a, rfl, h⟩
  | error e =>
    obtain ⟨rfl, rfl⟩ := runs_throw h
    exact .inr ⟨rfl, e, rfl⟩

theorem destFolderOf_bind {β : Type} {folderId : ℕ} {f : VoicemailFolder → MessageCode β}
    {y : Except MessageExn β} (h : Runs Served (destFolderOf folderId >>= f) s y u) :
    (∃ folder, getFolderById folderId = some folder ∧ Runs Served (f folder) s y u) ∨
      (u = s ∧ ∃ e, y = .error e ∧ e.isNoSuchMessage = false) := by
  unfold destFolderOf at h
  cases hfolder : getFolderById folderId with
  | some folder =>
    rw [hfolder] at h
    exact .inl ⟨folder, rfl, h⟩
  | none =>
    rw [hfolder] at h
    obtain ⟨rfl, rfl⟩ := runs_throw h
    exact .inr ⟨rfl, _, rfl, rfl⟩

/-- What an operation has done: a change of one message, or nothing. -/
def MessageOp.Done (site : Site) (vmConfs : List VmConf) (messageId : String) (s u : Disk)
    (result : Option (MessageInfo × Option String)) (vmConf : VmConf) (info : MessageInfo) :
    MessageOp → Prop
  | .get => u = s ∧ result = some (info, site.transcription (voicemailIds vmConfs) info.id)
  | .move destFolderId => result = none ∧ ∃ destFolder,
    getFolderById destFolderId = some destFolder ∧
      Moves s vmConf.context vmConf.number info.folder.path destFolder.path info.id u
  | .delete => result = none ∧
    Deletes s vmConf.context vmConf.number info.folder.path messageId u

/-- What an operation ends with. -/
def MessageOp.Ends (site : Site) (caller : MessageCaller) (messageId : String) (s u : Disk)
    (op : MessageOp) : Except MessageExn (Option (MessageInfo × Option String)) → Prop
  | .ok result => ∃ vmConfs vmConf info, caller.vmConfs site = .ok vmConfs ∧
    First s messageId vmConfs vmConf info ∧ op.Done site vmConfs messageId s u result vmConf info
  | .error e => u = s ∧ (e.isNoSuchMessage = true →
    ∃ vmConfs, caller.vmConfs site = .ok vmConfs ∧ Missing s messageId vmConfs)

theorem First.single (h : findMessage s vmConf messageId = .ok (some info)) :
    First s messageId [vmConf] vmConf info := .head h

/-- The mailbox of a voicemail. -/
theorem vmConfs_voicemail {tenantUuid : String} {voicemailId : ℕ}
    (h : site.getVoicemail tenantUuid voicemailId = .ok vmConf) :
    (MessageCaller.voicemail tenantUuid voicemailId).vmConfs site = .ok [vmConf] := by
  show (site.getVoicemail tenantUuid voicemailId >>= fun vmConf => pure [vmConf]) = _
  rw [h]
  rfl

theorem getMessage_runs {y : Except MessageExn (MessageInfo × Option String)}
    (h : Runs Served (getMessage site caller messageId) s y u) :
    u = s ∧ ((∃ vmConfs vmConf info, caller.vmConfs site = .ok vmConfs ∧
        First s messageId vmConfs vmConf info ∧
        y = .ok (info, site.transcription (voicemailIds vmConfs) info.id)) ∨
      ∃ e, y = .error e ∧ (e.isNoSuchMessage = true →
        ∃ vmConfs, caller.vmConfs site = .ok vmConfs ∧ Missing s messageId vmConfs)) := by
  obtain ⟨vmConfs, hconfs, hrest⟩ | ⟨rfl, e, rfl⟩ := lookup_bind h
  · obtain ⟨e, hget, rfl⟩ | ⟨info, t, hget, hreturn⟩ := runs_bind hrest
    · obtain ⟨rfl, ⟨_, _, -, he⟩ | ⟨he, hmissing⟩ | ⟨e', he⟩⟩ := getMessageInfo_runs hget
      · cases he
      · cases he
        exact ⟨rfl, .inr ⟨_, rfl, fun _ => ⟨vmConfs, hconfs, hmissing⟩⟩⟩
      · cases he
        exact ⟨rfl, .inr ⟨_, rfl, fun h => by cases h⟩⟩
    · obtain ⟨rfl, rfl⟩ := runs_pure hreturn
      obtain ⟨rfl, ⟨vmConf, info', hfirst, he⟩ | ⟨he, -⟩ | ⟨e', he⟩⟩ := getMessageInfo_runs hget
      · cases he
        exact ⟨rfl, .inl ⟨vmConfs, vmConf, info, hconfs, hfirst, rfl⟩⟩
      · cases he
      · cases he
  · exact ⟨rfl, .inr ⟨_, rfl, fun h => by cases h⟩⟩

theorem moveMessage_runs {destFolderId : ℕ} {y : Except MessageExn Unit}
    (h : Runs Served (moveMessage site messageId destFolderId caller) s y u) :
    (y = .ok () ∧ ∃ vmConfs vmConf info, caller.vmConfs site = .ok vmConfs ∧
      First s messageId vmConfs vmConf info ∧
        (MessageOp.move destFolderId).Done site vmConfs messageId s u none vmConf info) ∨
    (u = s ∧ ∃ e, y = .error e ∧ (e.isNoSuchMessage = true →
      ∃ vmConfs, caller.vmConfs site = .ok vmConfs ∧ Missing s messageId vmConfs)) := by
  cases caller with
  | voicemail tenantUuid voicemailId =>
    obtain ⟨vmConf, hconf, hrest⟩ | ⟨rfl, e, rfl⟩ := lookup_bind h
    · obtain ⟨folder, hfolder, hrest⟩ | ⟨rfl, e, rfl, he⟩ := destFolderOf_bind hrest
      · obtain ⟨e, hget, rfl⟩ | ⟨info, t, hget, hmove⟩ := runs_bind hrest
        · obtain ⟨rfl, ⟨_, he, -⟩ | ⟨he, hmissing⟩ | ⟨e', he⟩⟩ := getMessageInfo_one hget
          · cases he
          · cases he
            exact .inr ⟨rfl, _, rfl, fun _ => ⟨[vmConf], vmConfs_voicemail hconf,
              List.forall_mem_singleton.mpr hmissing⟩⟩
          · cases he
            exact .inr ⟨rfl, _, rfl, fun h => by cases h⟩
        · obtain ⟨rfl, ⟨info', he, hfound⟩ | ⟨he, -⟩ | ⟨e', he⟩⟩ := getMessageInfo_one hget
          · cases he
            obtain ⟨rfl, hmoves⟩ | ⟨rfl, status, rfl⟩ := moveMessageTo_runs hmove
            · exact .inl ⟨rfl, [vmConf], vmConf, info, vmConfs_voicemail hconf, .single hfound, rfl,
                folder, hfolder, hmoves⟩
            · exact .inr ⟨rfl, _, rfl, fun h => by cases h⟩
          · cases he
          · cases he
      · exact .inr ⟨rfl, e, rfl, fun h => by simp [he] at h⟩
    · exact .inr ⟨rfl, _, rfl, fun h => by cases h⟩
  | user tenantUuid userUuid =>
    obtain ⟨folder, hfolder, hrest⟩ | ⟨rfl, e, rfl, he⟩ := destFolderOf_bind h
    · obtain ⟨vmConfs, hconfs, hrest⟩ | ⟨rfl, e, rfl⟩ := lookup_bind hrest
      · obtain ⟨vmConf, info, rfl, hfirst, hmoves⟩ | ⟨rfl, e, rfl, he⟩ := moveFrom_runs hrest
        · exact .inl ⟨rfl, vmConfs, vmConf, info, hconfs, hfirst, rfl, folder, hfolder, hmoves⟩
        · exact .inr ⟨rfl, e, rfl, fun h => ⟨vmConfs, hconfs, he h⟩⟩
      · exact .inr ⟨rfl, _, rfl, fun h => by cases h⟩
    · exact .inr ⟨rfl, e, rfl, fun h => by simp [he] at h⟩

theorem deleteMessage_runs {y : Except MessageExn Unit}
    (h : Runs Served (deleteMessage site messageId caller) s y u) :
    (y = .ok () ∧ ∃ vmConfs vmConf info, caller.vmConfs site = .ok vmConfs ∧
      First s messageId vmConfs vmConf info ∧
        MessageOp.delete.Done site vmConfs messageId s u none vmConf info) ∨
    (u = s ∧ ∃ e, y = .error e ∧ (e.isNoSuchMessage = true →
      ∃ vmConfs, caller.vmConfs site = .ok vmConfs ∧ Missing s messageId vmConfs)) := by
  cases caller with
  | voicemail tenantUuid voicemailId =>
    obtain ⟨vmConf, hconf, hdelete⟩ | ⟨rfl, e, rfl⟩ := lookup_bind h
    · obtain ⟨info, rfl, hfound, hdeletes⟩ | ⟨rfl, ⟨rfl, hmissing⟩ | ⟨e, rfl, he⟩⟩ :=
        deleteMessageIn_runs hdelete
      · exact .inl ⟨rfl, [vmConf], vmConf, info, vmConfs_voicemail hconf, .single hfound, rfl,
          hdeletes⟩
      · exact .inr ⟨rfl, _, rfl, fun _ => ⟨[vmConf], vmConfs_voicemail hconf,
          List.forall_mem_singleton.mpr hmissing⟩⟩
      · exact .inr ⟨rfl, e, rfl, fun h => by simp [he] at h⟩
    · exact .inr ⟨rfl, _, rfl, fun h => by cases h⟩
  | user tenantUuid userUuid =>
    obtain ⟨vmConfs, hconfs, hdelete⟩ | ⟨rfl, e, rfl⟩ := lookup_bind h
    · obtain ⟨vmConf, info, rfl, hfirst, hdeletes⟩ | ⟨rfl, e, rfl, he⟩ := deleteFrom_runs hdelete
      · exact .inl ⟨rfl, vmConfs, vmConf, info, hconfs, hfirst, rfl, hdeletes⟩
      · exact .inr ⟨rfl, e, rfl, fun h => ⟨vmConfs, hconfs, he h⟩⟩
    · exact .inr ⟨rfl, _, rfl, fun h => by cases h⟩

/-- An operation changes one message, the first that has the id in the mailboxes of whoever asks,
or nothing. -/
theorem messageOp_runs {op : MessageOp}
    {y : Except MessageExn (Option (MessageInfo × Option String))}
    (h : Runs Served (op.code site caller messageId) s y u) :
    op.Ends site caller messageId s u y := by
  cases op with
  | get =>
    obtain ⟨e, hget, rfl⟩ | ⟨message, t, hget, hreturn⟩ := runs_bind h
    · obtain ⟨rfl, ⟨_, _, _, -, -, he⟩ | ⟨e', he, hmissing⟩⟩ := getMessage_runs hget
      · cases he
      · cases he
        exact ⟨rfl, hmissing⟩
    · obtain ⟨rfl, rfl⟩ := runs_pure hreturn
      obtain ⟨rfl, ⟨vmConfs, vmConf, info, hconfs, hfirst, he⟩ | ⟨e', he, -⟩⟩ :=
        getMessage_runs hget
      · cases he
        exact ⟨vmConfs, vmConf, info, hconfs, hfirst, rfl, rfl⟩
      · cases he
  | move destFolderId =>
    obtain ⟨e, hmove, rfl⟩ | ⟨_, t, hmove, hreturn⟩ := runs_bind h
    · obtain ⟨he, -⟩ | ⟨rfl, e', he, hmissing⟩ := moveMessage_runs hmove
      · cases he
      · cases he
        exact ⟨rfl, hmissing⟩
    · obtain ⟨rfl, rfl⟩ := runs_pure hreturn
      obtain ⟨-, hdone⟩ | ⟨-, e', he, -⟩ := moveMessage_runs hmove
      · exact hdone
      · cases he
  | delete =>
    obtain ⟨e, hdelete, rfl⟩ | ⟨_, t, hdelete, hreturn⟩ := runs_bind h
    · obtain ⟨he, -⟩ | ⟨rfl, e', he, hmissing⟩ := deleteMessage_runs hdelete
      · cases he
      · cases he
        exact ⟨rfl, hmissing⟩
    · obtain ⟨rfl, rfl⟩ := runs_pure hreturn
      obtain ⟨-, hdone⟩ | ⟨-, e', he, -⟩ := deleteMessage_runs hdelete
      · exact hdone
      · cases he

end Operations

end Calld.Voicemails
