/-
# The lists of the voicemails service

The service asks confd for the mailboxes, lists their messages from the storage, and adds the
transcriptions that call-logd knows.  A user's list takes its page from the storage; the list
of a tenant filters all messages and takes its page from what is left.
-/
import Calld.Voicemails.Windows

namespace Calld.Voicemails

open Effect

/-! ## What the service asks -/

/-- What the client of confd raises. -/
inductive ConfdError where
  | httpError (status : ℕ)
  | requestException
  deriving DecidableEq

/-- What the service raises. -/
inductive ServiceExn where
  | listing (e : ListExn)
  | noSuchVoicemail (voicemailId : ℕ)
  | noSuchUserVoicemail (userUuid : String)
  | httpError (status : ℕ)
  | wazoConfdUnreachable
  deriving DecidableEq

/-- Confd, call-logd and the directory, during some requests.  What call-logd knows are texts by
the ids of messages, `none` if it does not answer. -/
structure Site where
  spool : Spool
  voicemail : String → ℕ → Except ConfdError VmConf
  userVoicemail : String → Except ConfdError (Option VmConf)
  voicemails : (tenantUuid : String) → (recurse : Bool) → (accesstype : Option String) →
    Except ConfdError (List VmConf)
  transcriptions : Finset ℕ → Option (List (String × String))

/-- `except RequestException`, and `except HTTPError` without a 404. -/
def ConfdError.raised : ConfdError → ServiceExn
  | .httpError status => .httpError status
  | .requestException => .wazoConfdUnreachable

/-- `confd.get_voicemail`. -/
def Site.getVoicemail (site : Site) (tenantUuid : String) (voicemailId : ℕ) :
    Except ServiceExn VmConf :=
  match site.voicemail tenantUuid voicemailId with
  | .ok vmConf => pure vmConf
  | .error (.httpError 404) => throw (.noSuchVoicemail voicemailId)
  | .error e => throw e.raised

/-- `confd.get_user_voicemail`. -/
def Site.getUserVoicemail (site : Site) (userUuid : String) : Except ServiceExn VmConf :=
  match site.userVoicemail userUuid with
  | .ok (some vmConf) => pure vmConf
  | .ok none => throw (.noSuchUserVoicemail userUuid)
  | .error (.httpError 404) => throw (.noSuchUserVoicemail userUuid)
  | .error e => throw e.raised

/-- `confd.get_all_voicemails`. -/
def Site.getAllVoicemails (site : Site) (tenantUuid : String) (recurse : Bool)
    (accesstype : Option String) : Except ServiceExn (List VmConf) :=
  match site.voicemails tenantUuid recurse accesstype with
  | .ok vmConfs => pure vmConfs
  | .error (.httpError 404) => pure []
  | .error e => throw e.raised

/-- `VALID_VOICEMAIL_TYPES`. -/
inductive VoicemailType where
  | all | personal | global
  deriving DecidableEq, Repr

/-- The access type that is asked for. -/
def VoicemailType.accesstype : VoicemailType → Option String
  | .all => none
  | .personal => some "personal"
  | .global => some "global"

/-- `_get_voicemails_configs`. -/
def Site.getVoicemailsConfigs (site : Site) (tenantUuid : String) (voicemailType : VoicemailType)
    (userUuid : Option String) (voicemailId : Option ℕ) (recurse : Bool) :
    Except ServiceExn (List VmConf) :=
  match voicemailId, userUuid with
  | some voicemailId, _ =>
    match site.getVoicemail tenantUuid voicemailId with
    | .ok vmConf => pure [vmConf]
    | .error (.noSuchVoicemail _) => pure []
    | .error e => throw e
  | none, some userUuid => do
    let personal ←
      if voicemailType = .all ∨ voicemailType = .personal then
        match site.getUserVoicemail userUuid with
        | .ok vmConf => pure [vmConf]
        | .error (.noSuchUserVoicemail _) => pure []
        | .error e => throw e
      else pure []
    let global ←
      if voicemailType = .all ∨ voicemailType = .global then
        site.getAllVoicemails tenantUuid false (some "global")
      else pure []
    pure (personal ++ global)
  | none, none => site.getAllVoicemails tenantUuid recurse voicemailType.accesstype

/-! ## Transcriptions -/

/-- `transcriptions_by_message_id.get(..)`: the last one of an id counts. -/
def transcriptionOf (items : List (String × String)) (messageId : String) : Option String :=
  items.reverse.lookup messageId

/-- `_enrich_messages_with_transcriptions`. -/
def Site.enrichMessages (site : Site) (voicemailIds : Finset ℕ) (messages : List ListedMessage) :
    List ListedMessage :=
  if messages.isEmpty ∨ voicemailIds = ∅ then messages
  else
    match site.transcriptions voicemailIds with
    | none => messages
    | some items => messages.map fun message =>
      if message.result.id = "" then message
      else match transcriptionOf items message.result.id with
        | none => message
        | some text => { message with transcription := some text }

def voicemailIds (vmConfs : List VmConf) : Finset ℕ := (vmConfs.map (·.id)).toFinset

/-! ## The lists -/

/-- `count_user_messages`. -/
def Site.countUserMessages (site : Site) (tenantUuid userUuid : String)
    (voicemailType : VoicemailType) : Except ServiceExn ℕ := do
  let vmConfs ← site.getVoicemailsConfigs tenantUuid voicemailType (some userUuid) none false
  if vmConfs.isEmpty then pure 0
  else (countAllMessages site.spool vmConfs).mapError fun e => .listing (.storage e)

/-- `list_user_messages`. -/
def Site.listUserMessages (site : Site) (tenantUuid userUuid : String)
    (voicemailType : VoicemailType) (limit offset : Option ℕ) (direction : Option Direction)
    (order : Option Order) : Except ServiceExn (List ListedMessage) := do
  let vmConfs ← site.getVoicemailsConfigs tenantUuid voicemailType (some userUuid) none false
  if vmConfs.isEmpty then pure []
  else
    let messages ← (listMessagesInfos site.spool.toDisk vmConfs limit offset order
      direction).mapError .listing
    pure (site.enrichMessages (voicemailIds vmConfs) messages)

/-- The result of `get_tenant_messages`. -/
structure TenantMessages where
  items : List ListedMessage
  total : ℕ
  filtered : ℕ

/-- `get_tenant_messages`. -/
def Site.getTenantMessages (site : Site) (tenantUuid : String) (voicemailType : VoicemailType)
    (userUuid : Option String) (voicemailId : Option ℕ) (limit offset : Option ℕ)
    (direction : Option Direction) (order : Option Order) (from_ until_ : Option AwareDateTime)
    (recurse : Bool) (transcribed : Option Bool) : Except ServiceExn TenantMessages := do
  let vmConfs ← site.getVoicemailsConfigs tenantUuid voicemailType userUuid voicemailId recurse
  if vmConfs.isEmpty then pure ⟨[], 0, 0⟩
  else
    let allMessages ← (listMessagesInfos site.spool.toDisk vmConfs none none order
      direction).mapError .listing
    let filteredMessages := site.enrichMessages (voicemailIds vmConfs)
      (within from_ until_ allMessages)
    let filteredMessages := match transcribed with
      | none => filteredMessages
      | some transcribed => filteredMessages.filter (·.transcription.isSome = transcribed)
    pure ⟨slice limit (offset.getD 0) filteredMessages, allMessages.length,
      filteredMessages.length⟩

end Calld.Voicemails
