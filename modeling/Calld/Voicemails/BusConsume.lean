/-
# The handler of `MessageWaiting`

The event tells that a mailbox has changed.  The handler reads the diff of the mailbox, asks
confd whose it is, and notifies its users, or its tenant, of every message of the diff.
-/
import Calld.Voicemails.Cache

namespace Calld.Voicemails

open Effect Effect.Program

/-! ## Notifications -/

/-- What the handler reads of a voicemail of confd. -/
structure Voicemail where
  id : ℕ
  name : String
  accesstype : String
  tenantUuid : String
  users : List String
  deriving DecidableEq

/-- A message as `UnifiedVoicemailMessageSchema` dumps it, without the transcription, which
is not there. -/
structure MessagePayload where
  id : String
  callerIdName : Option String
  callerIdNum : Option String
  duration : ℤ
  timestamp : ℤ
  empty : Bool
  folder : ℕ × String × VoicemailFolderType
  voicemail : ℕ × String × String
  deriving DecidableEq

/-- `_build_message`. -/
def buildMessage (voicemail : Voicemail) (message : MessageInfo) : MessagePayload where
  id := message.id
  callerIdName := message.result.callerIdName
  callerIdNum := message.result.callerIdNum
  duration := message.result.duration
  timestamp := message.result.timestamp
  empty := message.result.empty
  folder := (message.folder.id, message.folder.name, message.folder.type)
  voicemail := (voicemail.id, voicemail.name, voicemail.accesstype)

/-- Who is notified. -/
inductive Recipient where
  | user (userUuid : String)
  | everyone
  deriving DecidableEq

/-- The events of the notifier; those of a user have the ids of the voicemail and of the
message beside the message. -/
structure Notification where
  kind : Diff.Kind
  recipient : Recipient
  tenantUuid : String
  ids : Option (ℕ × String)
  message : MessagePayload
  deriving DecidableEq

/-- What surrounds a handler: the disk, the answer of confd to
`voicemails.list(number=number, context=context, recurse=True)`, `none` when it fails, and
whether the bus takes the next notification, by the number of those it has taken. -/
structure Surroundings where
  disk : Disk
  voicemails : Option (List Voicemail)
  publish : ℕ → Bool

/-- The cache, and the notifications that the handler has sent. -/
structure HandlerState where
  cache : VoicemailMessagesCache
  sent : List Notification

inductive HandlerExn where
  | keyError
  | valueError
  | storage (e : StorageExn)
  | confd
  | voicemailNotFound (number context : String)
  | publish

abbrev Handler (α : Type) : Type := Program Surroundings HandlerState HandlerExn α

/-- `bus_publisher.publish`. -/
def publish (notification : Notification) : Handler Unit := do
  let taken ← look fun s => s.sent.length
  let accepts ← ask fun env => env.publish taken
  if accepts then
    change fun s => { s with sent := s.sent ++ [notification] }
  else
    throw .publish

def userVoicemailMessage (kind : Diff.Kind) (userUuid tenantUuid : String) (voicemailId : ℕ)
    (messageId : String) (message : MessagePayload) : Handler Unit :=
  publish ⟨kind, .user userUuid, tenantUuid, some (voicemailId, messageId), message⟩

def createUserVoicemailMessage : String → String → ℕ → String → MessagePayload → Handler Unit :=
  userVoicemailMessage .created

def updateUserVoicemailMessage : String → String → ℕ → String → MessagePayload → Handler Unit :=
  userVoicemailMessage .updated

def deleteUserVoicemailMessage : String → String → ℕ → String → MessagePayload → Handler Unit :=
  userVoicemailMessage .deleted

def globalVoicemailMessage (kind : Diff.Kind) (tenantUuid : String) (message : MessagePayload) :
    Handler Unit :=
  publish ⟨kind, .everyone, tenantUuid, none, message⟩

def createGlobalVoicemailMessage : String → MessagePayload → Handler Unit :=
  globalVoicemailMessage .created

def updateGlobalVoicemailMessage : String → MessagePayload → Handler Unit :=
  globalVoicemailMessage .updated

def deleteGlobalVoicemailMessage : String → MessagePayload → Handler Unit :=
  globalVoicemailMessage .deleted

/-! ## The handler -/

/-- `event['Mailbox'].split('@', 1)`, of two parts. -/
def splitMailbox (mailbox : String) : Option (String × String) :=
  match mailbox.toList.span (· ≠ '@') with
  | (number, _ :: context) => some (String.ofList number, String.ofList context)
  | (_, []) => none

/-- `self._voicemail_cache.get_diff`. -/
def cachedDiff (number context : String) : Handler (Diff MessageInfo) := fun env s =>
  match getDiff number context env.disk s.cache with
  | (.ok diff, cache) => (.ok diff, { s with cache := cache })
  | (.error e, cache) => (.error (.storage e), { s with cache := cache })

/-- `_VoicemailMessagesDiff.is_empty`. -/
def isEmpty (diff : Diff MessageInfo) : Bool :=
  diff.created.isEmpty && diff.updated.isEmpty && diff.deleted.isEmpty

/-- `_get_voicemail`. -/
def getVoicemail (number context : String) : Handler Voicemail := do
  match ← ask (·.voicemails) with
  | none => throw .confd
  | some [] => throw (.voicemailNotFound number context)
  | some (voicemail :: _) => pure voicemail

/-- `_send_tenant_notifications_from_diff`. -/
def sendTenantNotificationsFromDiff (voicemail : Voicemail) (diff : Diff MessageInfo) :
    Handler Unit := do
  diff.created.forM fun message =>
    createGlobalVoicemailMessage voicemail.tenantUuid (buildMessage voicemail message)
  diff.updated.forM fun message =>
    updateGlobalVoicemailMessage voicemail.tenantUuid (buildMessage voicemail message)
  diff.deleted.forM fun message =>
    deleteGlobalVoicemailMessage voicemail.tenantUuid (buildMessage voicemail message)

/-- `_send_users_notifications_from_diff`. -/
def sendUsersNotificationsFromDiff (voicemail : Voicemail) (diff : Diff MessageInfo) :
    Handler Unit :=
  voicemail.users.forM fun userUuid => do
    diff.created.forM fun message =>
      let payload := buildMessage voicemail message
      createUserVoicemailMessage userUuid voicemail.tenantUuid voicemail.id payload.id payload
    diff.updated.forM fun message =>
      let payload := buildMessage voicemail message
      updateUserVoicemailMessage userUuid voicemail.tenantUuid voicemail.id payload.id payload
    diff.deleted.forM fun message =>
      let payload := buildMessage voicemail message
      deleteUserVoicemailMessage userUuid voicemail.tenantUuid voicemail.id payload.id payload

/-- `_voicemail_updated`, on the mailbox of the event. -/
def voicemailUpdated (mailbox : Option String) : Handler Unit := do
  let some mailbox := mailbox | throw .keyError
  let some (number, context) := splitMailbox mailbox | throw .valueError
  let diff ← cachedDiff number context
  if isEmpty diff then
    return
  let voicemail ← getVoicemail number context
  if voicemail.accesstype = "personal" then
    sendUsersNotificationsFromDiff voicemail diff
  else if voicemail.accesstype = "global" then
    sendTenantNotificationsFromDiff voicemail diff

/-! ## What the handler sends -/

/-- Whom a change of the voicemail concerns; of another kind of access nobody is notified. -/
def audience (voicemail : Voicemail) : List Recipient :=
  if voicemail.accesstype = "personal" then voicemail.users.map .user
  else if voicemail.accesstype = "global" then [.everyone]
  else []

/-- The notification of one message to one of them. -/
def notification (voicemail : Voicemail) (recipient : Recipient) (kind : Diff.Kind)
    (message : MessageInfo) : Notification where
  kind := kind
  recipient := recipient
  tenantUuid := voicemail.tenantUuid
  ids := match recipient with
    | .user _ => some (voicemail.id, message.id)
    | .everyone => none
  message := buildMessage voicemail message

/-- The notifications of a diff to one of them. -/
def notificationsTo (voicemail : Voicemail) (diff : Diff MessageInfo) (recipient : Recipient) :
    List Notification :=
  diff.created.map (notification voicemail recipient .created) ++
    (diff.updated.map (notification voicemail recipient .updated) ++
      diff.deleted.map (notification voicemail recipient .deleted))

/-- The notifications of a diff. -/
def notifications (voicemail : Voicemail) (diff : Diff MessageInfo) : List Notification :=
  (audience voicemail).flatMap (notificationsTo voicemail diff)

section Sending

variable {env : Surroundings} {s : HandlerState} {voicemail : Voicemail}
  {diff : Diff MessageInfo} {l l' : List Notification}

theorem forM_notificationsTo (recipient : Recipient) :
    (notificationsTo voicemail diff recipient).forM publish = (do
      diff.created.forM fun message => publish (notification voicemail recipient .created message)
      diff.updated.forM fun message => publish (notification voicemail recipient .updated message)
      diff.deleted.forM fun message =>
        publish (notification voicemail recipient .deleted message)) := by
  unfold notificationsTo
  simp only [List.forM_eq_forM, List.forM_append, List.forM_map]

theorem forM_flatMap {α : Type} (as : List α) (f : α → List Notification) :
    (as.flatMap f).forM publish = as.forM fun a => (f a).forM publish := by
  simp only [List.forM_eq_forM]
  induction as with
  | nil => rfl
  | cons a as ih =>
    rw [List.flatMap_cons, List.forM_append, List.forM_cons, ih]

/-- Whoever is concerned, the notifications of the diff are sent one after the other. -/
theorem sends_notifications :
    (if voicemail.accesstype = "personal" then sendUsersNotificationsFromDiff voicemail diff
      else if voicemail.accesstype = "global" then sendTenantNotificationsFromDiff voicemail diff
      else pure ()) = (notifications voicemail diff).forM publish := by
  unfold notifications audience
  rw [forM_flatMap]
  split
  · unfold sendUsersNotificationsFromDiff
    simp only [List.forM_eq_forM, List.forM_map]
    congr 1
    funext u
    exact (forM_notificationsTo (.user u)).symm
  · split
    · rw [List.forM_eq_forM, List.forM_cons, List.forM_nil, forM_notificationsTo]
      unfold sendTenantNotificationsFromDiff
      simp only [bind_assoc, bind_pure_unit]
      rfl
    · rfl

/-- The bus takes so many more notifications. -/
def Accepts (env : Surroundings) (taken n : ℕ) : Prop := ∀ i < n, env.publish (taken + i) = true

instance (taken n : ℕ) : Decidable (Accepts env taken n) := by
  unfold Accepts
  infer_instance

/-- All notifications are sent when the bus takes them; when not, the handler raises. -/
theorem forM_publish (env : Surroundings) (s : HandlerState) (l : List Notification) :
    (Accepts env s.sent.length l.length →
      l.forM publish env s = (.ok (), { s with sent := s.sent ++ l })) ∧
    (¬ Accepts env s.sent.length l.length →
      ∃ sent, l.forM publish env s = (.error .publish, { s with sent := sent })) := by
  rw [List.forM_eq_forM]
  induction l generalizing s with
  | nil =>
    refine ⟨fun _ => by rw [List.append_nil]; rfl, fun h => absurd ?_ h⟩
    intro i hi
    exact absurd hi (Nat.not_lt_zero i)
  | cons n l ih =>
    have hsucc : Accepts env s.sent.length (n :: l).length ↔
        env.publish s.sent.length = true ∧ Accepts env (s.sent ++ [n]).length l.length := by
      unfold Accepts
      rw [List.length_cons, List.length_append, List.length_singleton]
      constructor
      · intro h
        refine ⟨h 0 (by omega), fun i hi => ?_⟩
        have := h (i + 1) (by omega)
        rwa [show s.sent.length + (i + 1) = s.sent.length + 1 + i by omega] at this
      · rintro ⟨h0, h⟩ i hi
        cases i with
        | zero => exact h0
        | succ i =>
          have := h i (by omega)
          rwa [show s.sent.length + 1 + i = s.sent.length + (i + 1) by omega] at this
    have hrun : publish n env s =
        if env.publish s.sent.length = true then (.ok (), { s with sent := s.sent ++ [n] })
        else (.error .publish, s) := by
      unfold publish
      rw [bind_apply, look_apply]
      dsimp only
      rw [bind_apply, ask_apply]
      dsimp only
      split <;> rfl
    rw [hsucc, List.forM_cons, bind_apply, hrun]
    by_cases htaken : env.publish s.sent.length = true
    · rw [if_pos htaken]
      obtain ⟨hall, hnot⟩ := ih { s with sent := s.sent ++ [n] }
      constructor
      · rintro ⟨-, h⟩
        refine (hall h).trans ?_
        rw [List.append_assoc, List.singleton_append]
      · intro h
        exact hnot fun h' => h ⟨htaken, h'⟩
    · rw [if_neg htaken]
      exact ⟨fun h => absurd h.1 htaken, fun _ => ⟨s.sent, rfl⟩⟩

/-- The mailbox of an event, and its messages when they can be read. -/
def reading (mailbox : Option String) (disk : Disk) :
    Option ((String × String) × List MessageInfo) := do
  let key ← splitMailbox (← mailbox)
  let messages ← messagesOnDisk disk key
  pure (key, messages)

/-- The notifications that a diff asks for, when the voicemail is found. -/
def due (voicemails : Option (List Voicemail)) (diff : Diff MessageInfo) :
    Option (List Notification) :=
  if isEmpty diff then some []
  else match voicemails with
    | some (voicemail :: _) => some (notifications voicemail diff)
    | _ => none

/-- Nothing fails after the reading: the cache can be cleaned, and when there is something to
tell, the voicemail is found and the bus takes the notifications. -/
def Undisturbed (env : Surroundings) (cache : VoicemailMessagesCache) (key : String × String)
    (messages : List MessageInfo) : Prop :=
  ¬ CleaningFails env.disk cache ∧
    ∃ l ∈ due env.voicemails (computeDiff (cache.entry key) (index MessageInfo.id messages)),
      Accepts env 0 l.length

theorem cachedDiff_apply (number context : String) :
    cachedDiff number context env s =
      ((getDiff number context env.disk s.cache).1.mapError .storage,
        { s with cache := (getDiff number context env.disk s.cache).2 }) := by
  unfold cachedDiff
  rcases getDiff number context env.disk s.cache with ⟨_ | _, _⟩ <;> rfl

/-- The handler of the event of a mailbox, from its diff on. -/
theorem voicemailUpdated_apply {mailbox number context : String}
    (h : splitMailbox mailbox = some (number, context)) :
    voicemailUpdated (some mailbox) env s =
      match cachedDiff number context env s with
      | (.error e, s) => (.error e, s)
      | (.ok diff, s) =>
        if isEmpty diff then (.ok (), s)
        else match env.voicemails with
          | none => (.error .confd, s)
          | some [] => (.error (.voicemailNotFound number context), s)
          | some (voicemail :: _) => (notifications voicemail diff).forM publish env s := by
  unfold voicemailUpdated
  dsimp only
  rw [h]
  dsimp only
  rw [bind_apply]
  rcases cachedDiff number context env s with ⟨e | diff, s'⟩
  · rfl
  · dsimp only
    split
    · rfl
    · rw [bind_apply]
      unfold getVoicemail
      rw [bind_apply, ask_apply]
      rcases env.voicemails with _ | _ | ⟨voicemail, rest⟩
      · rfl
      · rfl
      · dsimp only
        rw [pure_apply]
        dsimp only
        rw [← sends_notifications]

/-- The handler changes nothing when the mailbox cannot be read. -/
theorem voicemailUpdated_unread {mailbox : Option String} (h : reading mailbox env.disk = none) :
    (voicemailUpdated mailbox env s).2 = s ∧ ∃ e, (voicemailUpdated mailbox env s).1 = .error e := by
  cases mailbox with
  | none => exact ⟨rfl, .keyError, rfl⟩
  | some mailbox =>
    cases hsplit : splitMailbox mailbox with
    | none =>
      unfold voicemailUpdated
      dsimp only
      rw [hsplit]
      exact ⟨rfl, .valueError, rfl⟩
    | some key =>
      obtain ⟨number, context⟩ := key
      have hread : ∃ e, getVoicemailInfo env.disk (fakeVmConf number context) = .error e := by
        unfold reading messagesOnDisk at h
        cases hinfo : getVoicemailInfo env.disk (fakeVmConf number context) with
        | error e => exact ⟨e, rfl⟩
        | ok vmInfo => simp [hsplit, hinfo, Except.toOption] at h
      obtain ⟨e, he⟩ := hread
      rw [voicemailUpdated_apply hsplit, cachedDiff_apply, getDiff_apply, he]
      exact ⟨rfl, .storage e, rfl⟩

/-- The handler reads the mailbox into the cache, and sends what the diff asks for exactly
when nothing fails afterwards. -/
theorem voicemailUpdated_read {mailbox : Option String} {c : VoicemailMessagesCache}
    {key : String × String} {messages : List MessageInfo}
    (h : reading mailbox env.disk = some (key, messages)) :
    (voicemailUpdated mailbox env ⟨c, []⟩).2.cache = (getDiff key.1 key.2 env.disk c).2 ∧
      ((Undisturbed env c key messages ∧ (voicemailUpdated mailbox env ⟨c, []⟩).1 = .ok () ∧
          (voicemailUpdated mailbox env ⟨c, []⟩).2.sent ∈ due env.voicemails
            (computeDiff (c.entry key) (index MessageInfo.id messages))) ∨
        (¬ Undisturbed env c key messages ∧
          ∃ e, (voicemailUpdated mailbox env ⟨c, []⟩).1 = .error e)) := by
  obtain ⟨mailbox, rfl⟩ : ∃ m, mailbox = some m := by
    cases mailbox with
    | none => cases h
    | some m => exact ⟨m, rfl⟩
  obtain ⟨number, context⟩ := key
  have hread : splitMailbox mailbox = some (number, context) ∧
      ∃ vmInfo, getVoicemailInfo env.disk (fakeVmConf number context) = .ok vmInfo ∧
        vmInfo.messages = messages := by
    unfold reading messagesOnDisk at h
    cases hsplit : splitMailbox mailbox with
    | none => simp [hsplit] at h
    | some key =>
      cases hinfo : getVoicemailInfo env.disk (fakeVmConf key.1 key.2) with
      | error e => simp [hsplit, hinfo, Except.toOption] at h
      | ok vmInfo =>
        simp only [hsplit, hinfo, Except.toOption, Option.map_some, Option.bind_eq_bind,
          Option.bind_some, Option.pure_def, Option.some.injEq, Prod.mk.injEq] at h
        obtain ⟨rfl, rfl⟩ := h
        exact ⟨rfl, vmInfo, hinfo, rfl⟩
  obtain ⟨hsplit, vmInfo, hinfo, rfl⟩ := hread
  have hfails := maybeCleanCache_fails_iff env.disk (c.store (number, context) vmInfo)
  rw [voicemailUpdated_apply hsplit, cachedDiff_apply, getDiff_apply, hinfo]
  dsimp only
  unfold Undisturbed
  cases hclean : (maybeCleanCache env.disk (c.store (number, context) vmInfo)).1 with
  | error e =>
    have hcleaning := hfails.mp ⟨e, hclean⟩
    exact ⟨rfl, .inr ⟨fun hu => hu.1 hcleaning, .storage e, rfl⟩⟩
  | ok u =>
    have hcleaning : ¬ CleaningFails env.disk c := by
      intro hcleaning
      obtain ⟨e, he⟩ := hfails.mpr hcleaning
      rw [hclean] at he
      cases he
    simp only [Except.map, Except.mapError]
    unfold due vmInfoToCacheEntry
    by_cases hempty : isEmpty (computeDiff (c.entry (number, context))
        (index MessageInfo.id vmInfo.messages)) = true
    · rw [if_pos hempty, if_pos hempty]
      exact ⟨rfl, .inl ⟨⟨hcleaning, [], rfl, fun i hi => absurd hi (Nat.not_lt_zero i)⟩,
        rfl, rfl⟩⟩
    · rw [if_neg hempty, if_neg hempty]
      rcases hvoicemails : env.voicemails with _ | _ | ⟨voicemail, rest⟩
      · refine ⟨rfl, .inr ⟨?_, _, rfl⟩⟩
        rintro ⟨-, l, hl, -⟩
        cases hl
      · refine ⟨rfl, .inr ⟨?_, _, rfl⟩⟩
        rintro ⟨-, l, hl, -⟩
        cases hl
      · dsimp only
        obtain ⟨hall, hnot⟩ := forM_publish env
          ⟨(maybeCleanCache env.disk (c.store (number, context) vmInfo)).2, []⟩
          (notifications voicemail (computeDiff (c.entry (number, context))
            (index MessageInfo.id vmInfo.messages)))
        by_cases haccepts : Accepts env 0 (notifications voicemail
            (computeDiff (c.entry (number, context))
              (index MessageInfo.id vmInfo.messages))).length
        · rw [hall haccepts]
          exact ⟨rfl, .inl ⟨⟨hcleaning, _, rfl, haccepts⟩, rfl, rfl⟩⟩
        · obtain ⟨sent, hsent⟩ := hnot haccepts
          rw [hsent]
          refine ⟨rfl, .inr ⟨?_, .publish, rfl⟩⟩
          rintro ⟨-, l, hl, hl'⟩
          obtain rfl := Option.some.inj hl
          exact haccepts hl'

end Sending

end Calld.Voicemails
