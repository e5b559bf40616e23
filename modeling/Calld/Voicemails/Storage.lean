/-
# The voicemail storage and its cache

The messages of a mailbox are files in the folders of its directory, and whatever reads them
may fail.  `_VoicemailMessagesCache` keeps, for every mailbox, the messages of its last
reading, and tells what is different at the next one.
-/
import Calld.Effect.Diffs
import Calld.Effect.Program

namespace Calld.Voicemails

open Effect Effect.Program

/-! ## The spool directory -/

/-- Why the operating system refuses; of `errno` only `ENOENT` is looked at. -/
inductive OSError where
  | enoent
  | other
  deriving DecidableEq

/-- What `_MessageInfoParser` reads in the file of a message. -/
structure ParseResult where
  callerIdName : Option String
  callerIdNum : Option String
  id : String
  timestamp : ℤ
  duration : ℤ
  empty : Bool
  deriving DecidableEq

/-- What the directory answers: the contexts with their mailboxes, and the files of every
folder of a mailbox, by context, number and folder.  A name is `none` when its bytes are not
UTF-8, and the result of a file when it cannot be parsed. -/
structure Disk where
  contexts : Except OSError (List (Option String × Except OSError (List (Option String))))
  files : String → String → String → Except OSError
    (List (String × Except OSError (Option ParseResult)))

inductive StorageExn where
  | osError (e : OSError)
  | unicodeDecodeError
  | voicemailMessageStorageError
  deriving DecidableEq

/-! ## Folders and messages -/

inductive VoicemailFolderType where
  | new | old | urgent | other
  deriving DecidableEq

/-- `_VoicemailFolder`. -/
structure VoicemailFolder where
  id : ℕ
  path : String
  type : VoicemailFolderType
  isUnread : Bool
  deriving DecidableEq

def VoicemailFolder.name (folder : VoicemailFolder) : String := folder.path.toLower

/-- The folders of `new_filesystem_storage`. -/
def folders : List VoicemailFolder :=
  [⟨1, "INBOX", .new, true⟩, ⟨2, "Old", .old, false⟩, ⟨3, "Urgent", .urgent, true⟩,
    ⟨4, "Work", .other, false⟩, ⟨5, "Family", .other, false⟩, ⟨6, "Friends", .other, false⟩]

structure VmConf where
  id : ℕ
  name : String
  number : String
  context : String
  accesstype : String
  deriving DecidableEq

/-- `_fake_vm_conf`. -/
def fakeVmConf (number context : String) : VmConf where
  id := 0
  name := "fake-vm-conf"
  number := number
  context := context
  accesstype := "personal"

/-- `_MessageAccess.info`. -/
structure MessageInfo where
  result : ParseResult
  folder : VoicemailFolder
  vmConf : VmConf
  deriving DecidableEq

abbrev MessageInfo.id (info : MessageInfo) : String := info.result.id

structure FolderInfo where
  id : ℕ
  name : String
  type : VoicemailFolderType
  messages : List MessageInfo

structure VmInfo where
  id : ℕ
  number : String
  context : String
  name : String
  accesstype : String
  folders : List FolderInfo

/-- `_read_message_info_file`. -/
def readMessageInfoFile : Except OSError (Option ParseResult) → Except StorageExn ParseResult
  | .error .enoent => throw .voicemailMessageStorageError
  | .error e => throw (.osError e)
  | .ok none => throw .voicemailMessageStorageError
  | .ok (some result) => pure result

/-- `_FolderAccess.messages`, with the information of each. -/
def folderMessages (disk : Disk) (vmConf : VmConf) (folder : VoicemailFolder) :
    Except StorageExn (List MessageInfo) :=
  match disk.files vmConf.context vmConf.number folder.path with
  -- no messages have been left in this folder
  | .error .enoent => pure []
  | .error e => throw (.osError e)
  | .ok names =>
    (names.filter fun file => ".txt".toList <:+ file.1.toList).mapM fun file => do
      let result ← readMessageInfoFile file.2
      pure ⟨result, folder, vmConf⟩

/-- `_sort_messages`: the latest first. -/
def sortMessages (messages : List MessageInfo) : List MessageInfo :=
  messages.insertionSort fun a b => b.result.timestamp ≤ a.result.timestamp

/-- `get_voicemail_info`. -/
def getVoicemailInfo (disk : Disk) (vmConf : VmConf) : Except StorageExn VmInfo := do
  let infos ← folders.mapM fun folder => do
    let messages ← folderMessages disk vmConf folder
    pure (⟨folder.id, folder.name, folder.type, sortMessages messages⟩ : FolderInfo)
  pure ⟨vmConf.id, vmConf.number, vmConf.context, vmConf.name, vmConf.accesstype, infos⟩

def decode : Option String → Except StorageExn String
  | some s => pure s
  | none => throw .unicodeDecodeError

/-- `get_voicemails_info`: what cannot be read is left out. -/
def getVoicemailsInfo (disk : Disk) : Except StorageExn (List VmInfo) := do
  let contexts ← disk.contexts.mapError .osError
  let infos ← contexts.mapM fun (context, listed) =>
    match listed with
    | .error _ => pure []
    | .ok numbers => numbers.mapM fun number => do
      let vmConf := fakeVmConf (← decode number) (← decode context)
      pure (getVoicemailInfo disk vmConf).toOption
  pure (infos.flatten.filterMap id)

/-- `list_voicemails_number_and_context`. -/
def listVoicemailsNumberAndContext (disk : Disk) :
    Except StorageExn (List (String × String)) := do
  let contexts ← disk.contexts.mapError .osError
  let keys ← contexts.mapM fun (context, listed) =>
    match listed with
    | .error _ => pure []
    | .ok numbers => do
      let context ← decode context
      numbers.mapM fun number => do
        pure (← decode number, context)
  pure keys.flatten

/-! ## The cache -/

/-- The messages of a mailbox by their ids. -/
abbrev CacheEntry : Type := Effect.Dict String MessageInfo

/-- `_VoicemailMessagesCache`, without the storage; mailboxes are known by number and
context. -/
structure VoicemailMessagesCache where
  cache : Effect.Dict (String × String) CacheEntry
  cacheCleanupCounter : ℕ
  cacheCleanupCounterMax : ℕ

/-- The cache before it is refreshed. -/
def VoicemailMessagesCache.new (cacheCleanupCounterMax : ℕ) : VoicemailMessagesCache where
  cache := ∅
  cacheCleanupCounter := 0
  cacheCleanupCounterMax := cacheCleanupCounterMax

/-- The messages of all folders, in their order. -/
def VmInfo.messages (vmInfo : VmInfo) : List MessageInfo := vmInfo.folders.flatMap (·.messages)

/-- `_vm_info_to_cache_entry`. -/
def vmInfoToCacheEntry (vmInfo : VmInfo) : CacheEntry := index MessageInfo.id vmInfo.messages

/-- `_compute_diff`. -/
def computeDiff (oldCacheEntry newCacheEntry : CacheEntry) : Diff MessageInfo where
  created := newCacheEntry.items.filterMap fun (messageId, newMessageInfo) =>
    if (oldCacheEntry.get messageId).isNone then some newMessageInfo else none
  updated := oldCacheEntry.items.filterMap fun (messageId, oldMessageInfo) =>
    (newCacheEntry.get messageId).bind fun newMessageInfo =>
      if oldMessageInfo ≠ newMessageInfo then some newMessageInfo else none
  deleted := oldCacheEntry.items.filterMap fun (messageId, oldMessageInfo) =>
    if (newCacheEntry.get messageId).isNone then some oldMessageInfo else none

/-- `refresh_cache`, when it returns. -/
def refreshCache (disk : Disk) (c : VoicemailMessagesCache) :
    Except StorageExn VoicemailMessagesCache := do
  let infos ← getVoicemailsInfo disk
  pure { c with
    cache := infos.foldl (fun d vmInfo =>
      d.set (vmInfo.number, vmInfo.context) (vmInfoToCacheEntry vmInfo)) ∅ }

/-- `_clean_cache`: the mailboxes that are no longer listed go. -/
def cleanCache : Program Disk VoicemailMessagesCache StorageExn Unit := do
  match ← ask listVoicemailsNumberAndContext with
  | .error e => throw e
  | .ok listed => change fun c => { c with
      cache := c.cache.filterMap fun key entry => if key ∈ listed then some entry else none }

/-- `_maybe_clean_cache`. -/
def maybeCleanCache : Program Disk VoicemailMessagesCache StorageExn Unit := do
  let c ← look id
  if c.cacheCleanupCounter = c.cacheCleanupCounterMax then
    change fun c => { c with cacheCleanupCounter := 0 }
    cleanCache
  else
    change fun c => { c with cacheCleanupCounter := c.cacheCleanupCounter + 1 }

/-- `self._cache.get(key, {})`. -/
def VoicemailMessagesCache.entry (c : VoicemailMessagesCache) (key : String × String) :
    CacheEntry :=
  (c.cache.get key).getD ∅

/-- `get_diff`. -/
def getDiff (number context : String) :
    Program Disk VoicemailMessagesCache StorageExn (Diff MessageInfo) := do
  let key := (number, context)
  let oldCacheEntry ← look (·.entry key)
  match ← ask (getVoicemailInfo · (fakeVmConf number context)) with
  | .error e => throw e
  | .ok newVmInfo =>
    let newCacheEntry := vmInfoToCacheEntry newVmInfo
    change fun c => { c with cache := c.cache.set key newCacheEntry }
    maybeCleanCache
    pure (computeDiff oldCacheEntry newCacheEntry)

end Calld.Voicemails
