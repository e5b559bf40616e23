/-
# What the cache of the mailboxes does

One lemma an operation: a diff lists what differs between two entries, the cleaning drops
what is no longer listed when it is due, and a reading is stored before the cache is cleaned.
-/
import Calld.Voicemails.Storage

namespace Calld.Voicemails

open Effect Effect.Program

/-- The messages of a mailbox, when they can be read. -/
def messagesOnDisk (disk : Disk) (key : String × String) : Option (List MessageInfo) :=
  (getVoicemailInfo disk (fakeVmConf key.1 key.2)).toOption.map (·.messages)

section Cache

variable {disk : Disk} {c : VoicemailMessagesCache} {number context : String}
  {key key' : String × String} {vmInfo : VmInfo}

/-- Entries of a cache keep every message under its id. -/
def VoicemailMessagesCache.Sound (c : VoicemailMessagesCache) : Prop :=
  ∀ key, Keyed MessageInfo.id (c.entry key).get

/-- The diff of two entries lists what is different between them. -/
theorem computeDiff_describes {old new : CacheEntry} (hold : Keyed MessageInfo.id old.get)
    (hnew : Keyed MessageInfo.id new.get) :
    (computeDiff old new).Describes MessageInfo.id old.get new.get where
  mem_created v := by
    unfold computeDiff
    simp only [List.mem_filterMap, Prod.exists, Effect.Dict.mem_items, Option.isNone_iff_eq_none,
      Option.ite_none_right_eq_some, Option.some.injEq]
    constructor
    · rintro ⟨id, m, hm, hnone, rfl⟩
      rw [hnew id m hm]
      exact ⟨hnone, hm⟩
    · rintro ⟨hnone, hm⟩
      exact ⟨_, v, hm, hnone, rfl⟩
  mem_updated v := by
    unfold computeDiff
    simp only [List.mem_filterMap, Prod.exists, Effect.Dict.mem_items, Option.bind_eq_some_iff,
      Option.ite_none_right_eq_some, Option.some.injEq]
    constructor
    · rintro ⟨id, m, hm, m', hm', hne, rfl⟩
      rw [hnew id m' hm']
      exact ⟨⟨m, hm, hne⟩, hm'⟩
    · rintro ⟨⟨u, hu, hne⟩, hm⟩
      exact ⟨_, u, hu, v, hm, hne, rfl⟩
  mem_deleted v := by
    unfold computeDiff
    simp only [List.mem_filterMap, Prod.exists, Effect.Dict.mem_items, Option.isNone_iff_eq_none,
      Option.ite_none_right_eq_some, Option.some.injEq]
    constructor
    · rintro ⟨id, m, hm, hnone, rfl⟩
      rw [hold id m hm]
      exact ⟨hm, hnone⟩
    · rintro ⟨hm, hnone⟩
      exact ⟨_, v, hm, hnone, rfl⟩

/-- The purge is due, and the mailboxes cannot be listed. -/
def CleaningFails (disk : Disk) (c : VoicemailMessagesCache) : Prop :=
  c.cacheCleanupCounter = c.cacheCleanupCounterMax ∧
    (listVoicemailsNumberAndContext disk).isOk = false

instance : Decidable (CleaningFails disk c) := by
  unfold CleaningFails
  infer_instance

/-- The mailbox is dropped by a purge that is due. -/
def Purged (disk : Disk) (c : VoicemailMessagesCache) (key : String × String) : Prop :=
  c.cacheCleanupCounter = c.cacheCleanupCounterMax ∧
    ∃ listed, listVoicemailsNumberAndContext disk = .ok listed ∧ key ∉ listed

instance lawfulBEqMailbox : LawfulBEq (String × String) := inferInstance

/-- The cache with the listed mailboxes only. -/
def VoicemailMessagesCache.keep (c : VoicemailMessagesCache) (listed : List (String × String)) :
    VoicemailMessagesCache :=
  { c with cache := c.cache.filterMap fun key entry => if key ∈ listed then some entry else none }

theorem entry_keep {listed : List (String × String)} :
    (c.keep listed).entry key = if key ∈ listed then c.entry key else ∅ := by
  unfold VoicemailMessagesCache.keep VoicemailMessagesCache.entry
  dsimp only
  rw [Effect.Dict.get_filterMap]
  cases c.cache.get key with
  | none => split <;> rfl
  | some entry => by_cases hkey : key ∈ listed <;> simp [hkey]

theorem cleanCache_apply : cleanCache disk c =
    match listVoicemailsNumberAndContext disk with
    | .error e => (.error e, c)
    | .ok listed => (.ok (), c.keep listed) := by
  unfold cleanCache
  rw [bind_apply, ask_apply]
  cases listVoicemailsNumberAndContext disk <;> rfl

theorem maybeCleanCache_apply : maybeCleanCache disk c =
    if c.cacheCleanupCounter = c.cacheCleanupCounterMax then
      cleanCache disk { c with cacheCleanupCounter := 0 }
    else (.ok (), { c with cacheCleanupCounter := c.cacheCleanupCounter + 1 }) := by
  unfold maybeCleanCache
  rw [bind_apply, look_apply]
  dsimp only [id]
  split <;> rfl

/-- Whether the cleaning raises. -/
theorem maybeCleanCache_fails_iff (disk : Disk) (c : VoicemailMessagesCache) :
    (∃ e, (maybeCleanCache disk c).1 = .error e) ↔ CleaningFails disk c := by
  unfold CleaningFails
  rw [maybeCleanCache_apply]
  by_cases hdue : c.cacheCleanupCounter = c.cacheCleanupCounterMax
  · rw [if_pos hdue, cleanCache_apply]
    cases listVoicemailsNumberAndContext disk with
    | error e => exact ⟨fun _ => ⟨hdue, rfl⟩, fun _ => ⟨e, rfl⟩⟩
    | ok listed =>
      constructor
      · rintro ⟨e, h⟩
        cases h
      · rintro ⟨-, h⟩
        cases h
  · rw [if_neg hdue]
    constructor
    · rintro ⟨e, h⟩
      cases h
    · intro h
      exact absurd h.1 hdue

/-- The cleaning empties the entries that it purges, and no others. -/
theorem entry_maybeCleanCache (disk : Disk) (c : VoicemailMessagesCache)
    (key : String × String) :
    (Purged disk c key ∧ (maybeCleanCache disk c).2.entry key = ∅) ∨
      (¬ Purged disk c key ∧ (maybeCleanCache disk c).2.entry key = c.entry key) := by
  unfold Purged
  rw [maybeCleanCache_apply]
  by_cases hdue : c.cacheCleanupCounter = c.cacheCleanupCounterMax
  · rw [if_pos hdue, cleanCache_apply]
    cases listVoicemailsNumberAndContext disk with
    | error e =>
      refine .inr ⟨?_, rfl⟩
      rintro ⟨-, listed, h, -⟩
      cases h
    | ok listed =>
      by_cases hkey : key ∈ listed
      · refine .inr ⟨?_, entry_keep.trans (if_pos hkey)⟩
        rintro ⟨-, listed', h, hnot⟩
        cases h
        exact hnot hkey
      · exact .inl ⟨⟨hdue, listed, rfl, hkey⟩, entry_keep.trans (if_neg hkey)⟩
  · rw [if_neg hdue]
    exact .inr ⟨fun h => hdue h.1, rfl⟩

/-- The cache with a mailbox as it has been read. -/
def VoicemailMessagesCache.store (c : VoicemailMessagesCache) (key : String × String)
    (vmInfo : VmInfo) : VoicemailMessagesCache :=
  { c with cache := c.cache.set key (vmInfoToCacheEntry vmInfo) }

theorem entry_store : (c.store key vmInfo).entry key' =
    if key' = key then vmInfoToCacheEntry vmInfo else c.entry key' := by
  unfold VoicemailMessagesCache.store VoicemailMessagesCache.entry
  dsimp only
  rw [Effect.Dict.get_set]
  split <;> rfl

/-- The counter counts up to its maximum, and starts again. -/
theorem counter_maybeCleanCache (disk : Disk) (c : VoicemailMessagesCache) :
    (maybeCleanCache disk c).2.cacheCleanupCounter =
        (if c.cacheCleanupCounter = c.cacheCleanupCounterMax then 0
          else c.cacheCleanupCounter + 1) ∧
      (maybeCleanCache disk c).2.cacheCleanupCounterMax = c.cacheCleanupCounterMax := by
  rw [maybeCleanCache_apply]
  split
  · rw [cleanCache_apply]
    cases listVoicemailsNumberAndContext disk <;> exact ⟨rfl, rfl⟩
  · exact ⟨rfl, rfl⟩

/-- A reading is stored, the cache is cleaned, and then the diff is told. -/
theorem getDiff_apply : getDiff number context disk c =
    match getVoicemailInfo disk (fakeVmConf number context) with
    | .error e => (.error e, c)
    | .ok vmInfo =>
      ((maybeCleanCache disk (c.store (number, context) vmInfo)).1.map fun _ =>
          computeDiff (c.entry (number, context)) (vmInfoToCacheEntry vmInfo),
        (maybeCleanCache disk (c.store (number, context) vmInfo)).2) := by
  unfold getDiff
  rw [bind_apply, look_apply]
  dsimp only
  rw [bind_apply, ask_apply]
  cases getVoicemailInfo disk (fakeVmConf number context) with
  | error e => rfl
  | ok vmInfo =>
    dsimp only
    rw [bind_apply, change_apply]
    dsimp only
    rw [bind_apply]
    unfold VoicemailMessagesCache.store
    cases maybeCleanCache disk _ with
    | mk r c' => cases r <;> rfl

/-- Every reading leaves the entries as they were, emptied, or as the mailbox is now. -/
theorem Sound.getDiff (h : c.Sound) : (Voicemails.getDiff number context disk c).2.Sound := by
  rw [getDiff_apply]
  cases getVoicemailInfo disk (fakeVmConf number context) with
  | error e => exact h
  | ok vmInfo =>
    intro key
    dsimp only
    obtain ⟨-, hempty⟩ | ⟨-, hkept⟩ :=
      entry_maybeCleanCache disk (c.store (number, context) vmInfo) key
    · rw [hempty]
      rintro id m hm
      cases hm
    · rw [hkept, entry_store]
      split
      · exact keyed_index _ _
      · exact h key

/-- A refreshed cache has the messages of the mailboxes under their ids. -/
theorem sound_refreshCache {n : ℕ} (h : refreshCache disk (.new n) = .ok c) : c.Sound := by
  unfold refreshCache at h
  cases hinfos : getVoicemailsInfo disk with
  | error e =>
    rw [hinfos] at h
    cases h
  | ok infos =>
    rw [hinfos] at h
    obtain rfl := Except.ok.inj h
    clear h hinfos
    unfold VoicemailMessagesCache.Sound VoicemailMessagesCache.entry
    dsimp only
    induction infos using List.reverseRecOn with
    | nil =>
      intro key id m hm
      cases hm
    | append_singleton infos vmInfo ih =>
      intro key
      rw [List.foldl_append, List.foldl_cons, List.foldl_nil, Effect.Dict.get_set]
      split
      · exact keyed_index _ _
      · exact ih key
/-- What a diff lists has no id twice, makes the new entry of the old one, and is nothing
exactly when every message has the same information in both. -/
theorem diff_exact {old new : CacheEntry} (hold : Keyed MessageInfo.id old.get)
    (hnew : Keyed MessageInfo.id new.get) :
    (computeDiff old new).Separate MessageInfo.id ∧
      (computeDiff old new).apply MessageInfo.id old.get = new.get ∧
      ((computeDiff old new).created = [] ∧ (computeDiff old new).updated = [] ∧
        (computeDiff old new).deleted = [] ↔ ∀ id, old.get id = new.get id) := by
  have hdescribes := computeDiff_describes hold hnew
  refine ⟨hdescribes.separate, hdescribes.apply_old hold hnew, ?_⟩
  rw [hdescribes.empty_iff hold hnew]
  exact funext_iff

end Cache

/-! ## A small directory -/

/-- A directory with one context, and the messages in the inboxes of its mailboxes. -/
def spool (mailboxes : List (String × List ParseResult)) : Disk where
  contexts := .ok [(some "default", .ok (mailboxes.map fun m => some m.1))]
  files context number folder :=
    match mailboxes.find? (·.1 = number) with
    | some m =>
      if context = "default" ∧ folder = "INBOX" then
        .ok (m.2.map fun result => (result.id ++ ".txt", .ok (some result)))
      else .error .enoent
    | none => .error .enoent

def hello : ParseResult := ⟨none, some "1003", "msg-1", 10, 3, false⟩

def bye : ParseResult := ⟨none, some "1003", "msg-2", 20, 4, false⟩

def inInbox (number : String) (result : ParseResult) : MessageInfo :=
  ⟨result, ⟨1, "INBOX", .new, true⟩, fakeVmConf number "default"⟩

/-- One message goes and another comes. -/
theorem diff_exact_two :
    (computeDiff (index MessageInfo.id [inInbox "1001" hello])
        (index MessageInfo.id [inInbox "1001" bye])).Separate MessageInfo.id :=
  (diff_exact (keyed_index _ _) (keyed_index _ _)).1

/-- A message with the same id in the same folder, but of another duration. -/
theorem duration_updates :
    let old := index MessageInfo.id [inInbox "1001" hello]
    let new := index MessageInfo.id [inInbox "1001" { hello with duration := 5 }]
    (∀ id, (old.get id).map (·.folder) = (new.get id).map (·.folder)) ∧
      (computeDiff old new).updated = [inInbox "1001" { hello with duration := 5 }] := by
  refine ⟨fun id => ?_, by decide⟩
  rw [get_index_singleton, get_index_singleton]
  by_cases h : id = "msg-1"
  · subst h
    rfl
  · have hne : id ≠ (inInbox "1001" hello).id := h
    rw [if_neg hne]
    exact congrArg _ (if_neg hne).symm

end Calld.Voicemails
