/-
# Recording of calls

The requests `record_start`, `record_stop`, `record_pause` and `record_resume` of the calls
service and the handlers of the `MixMonitorStart` and `MixMonitorStop` events, over the part
of Asterisk they work on: the channels with their variables, the monitors that run, and the
monitor events that calld has not consumed yet.

An environment says which requests to Asterisk fail and how.  Of `make_call_from_channel`
the model keeps the id of the call, its recording state and whether it is an autoprov call.
-/
import Calld.Effect.Rules
import Calld.Transfers.System

namespace Calld.Calls

open Effect Effect.Program

/-! ## Channels -/

/-- The channel variables that the recording code reads. -/
inductive Variable where
  | callRecordActive
  | recordingPaused
  | recordingUuid
  | recordPending
  | tenantUuid
  | queueName
  | groupName
  | callRecordSide
  | queueDtmfRecordToggleEnabled
  | groupDtmfRecordToggleEnabled
  | userDtmfRecordToggleEnabled
  | localChanMatchUuid
  | sharedRecordGroupCallee
  | sharedRecordQueueCallee
  | recordingStartSound
  | recordingStopSound
  deriving DecidableEq, Repr

/-- A channel; an unset variable is `none`. -/
structure Channel where
  id : ChannelId
  name : String
  state : String
  context : String
  vars : Variable → Option String

namespace Channel

/-- `channel.json['channelvars'][v]`: Asterisk embeds an unset variable as `''`. -/
def var (channel : Channel) (v : Variable) : String := (channel.vars v).getD ""

/-- Assign a variable. -/
def setVar (channel : Channel) (v : Variable) (value : String) : Channel :=
  { channel with vars := Function.update channel.vars v (some value) }

/-- `channel.json['name'].startswith(p)`. -/
def nameStartsWith (channel : Channel) (p : String) : Bool :=
  p.toList.isPrefixOf channel.name.toList

end Channel

/-- `call.record_state`. -/
inductive RecordState where
  | inactive
  | active
  | paused
  deriving DecidableEq, Repr

/-- The recording state of the call made from a channel. -/
def recordState (channel : Channel) : RecordState :=
  if channel.var .recordingPaused = "1" then .paused
  else if channel.var .callRecordActive = "1" then .active
  else .inactive

/-- The call made from a channel. -/
structure Call where
  id : ChannelId
  recordState : RecordState
  isAutoprov : Bool
  deriving DecidableEq, Repr

/-- `make_call_from_channel`. -/
def Channel.call (channel : Channel) : Call where
  id := channel.id
  recordState := recordState channel
  isAutoprov := channel.context = "xivo-provisioning"

/-! ## Asterisk -/

/-- A monitor has started or stopped. -/
inductive MonitorEventName where
  | mixMonitorStart
  | mixMonitorStop
  deriving DecidableEq, Repr

/-- An event of a monitor, with the channel variable that comes with it. -/
structure MonitorEvent where
  event : MonitorEventName
  uniqueid : ChannelId
  channel : String
  recordingPaused : String
  deriving DecidableEq, Repr

/-- `call_record_started`, `call_record_resumed`, `call_record_paused` and
`call_record_stopped`. -/
inductive RecordEvent where
  | started
  | resumed
  | paused
  | stopped
  deriving DecidableEq, Repr

/-- What is published on the bus. -/
inductive Notification where
  | callUpdated (call : Call)
  | callRecord (event : RecordEvent) (call : Call)
  deriving DecidableEq, Repr

/-- The channels, each with an id of its own, how many monitors run on each, the events to
come and what calld has published. -/
structure Asterisk where
  channels : List Channel
  nodup : (channels.map (·.id)).Nodup
  monitors : ChannelId → ℕ
  events : List MonitorEvent
  published : List Notification

namespace Asterisk

/-- `ari.channels.get`. -/
def get (a : Asterisk) (c : ChannelId) : Option Channel := a.channels.find? (·.id = c)

/-- The channels after an assignment to a variable of one of them. -/
def assign (c : ChannelId) (v : Variable) (value : String) (channel : Channel) : Channel :=
  if channel.id = c then channel.setVar v value else channel

@[simp] theorem assign_id (c : ChannelId) (v : Variable) (value : String) (channel : Channel) :
    (assign c v value channel).id = channel.id := by
  unfold assign
  split <;> rfl

/-- Assign a variable of a channel. -/
def setVar (a : Asterisk) (c : ChannelId) (v : Variable) (value : String) : Asterisk where
  channels := a.channels.map (assign c v value)
  nodup := by
    rw [List.map_map]
    exact (List.map_congr_left fun ch _ => assign_id c v value ch) ▸ a.nodup
  monitors := a.monitors
  events := a.events
  published := a.published

/-- Emit the event of a monitor of a channel. -/
def emit (a : Asterisk) (event : MonitorEventName) (channel : Channel) : Asterisk :=
  { a with events := a.events ++ [⟨event, channel.id, channel.name, channel.var .recordingPaused⟩] }

/-- The action `MixMonitor`: a monitor starts on an existing channel. -/
def startMonitor (a : Asterisk) (c : ChannelId) : Asterisk :=
  match a.get c with
  | some channel =>
    { a with monitors := Function.update a.monitors c (a.monitors c + 1) }.emit
      .mixMonitorStart channel
  | none => a

/-- The action `StopMixMonitor`: a running monitor stops. -/
def stopMonitor (a : Asterisk) (c : ChannelId) : Asterisk :=
  match a.get c with
  | some channel =>
    if a.monitors c = 0 then a
    else { a with monitors := Function.update a.monitors c (a.monitors c - 1) }.emit
      .mixMonitorStop channel
  | none => a

/-- Publish a notification. -/
def publish (a : Asterisk) (n : Notification) : Asterisk :=
  { a with published := a.published ++ [n] }

end Asterisk

/-! ## The environment -/

/-- A request to ARI or to wazo-amid. -/
inductive Request where
  | getChannel (c : ChannelId)
  | listChannels
  | getChannelVar (c : ChannelId) (v : Variable)
  | setChannelVar (c : ChannelId) (v : Variable) (value : String)
  | makeCall (c : ChannelId)
  | originate (filename : String)
  | mixMonitor (c : ChannelId) (filename : String) (options : Option String)
  | stopMixMonitor (c : ChannelId)
  | playBeep (c : ChannelId) (beep : String)
  deriving DecidableEq, Repr

/-- What the code raises. -/
inductive Exn where
  | noSuchCall (c : ChannelId)
  | recordingUnauthorized (c : ChannelId)
  | recordingNotStarted (c : ChannelId)
  | recordingPauseError (message : String) (c : ChannelId)
  | wazoAmidError
  | ariNotFound
  | ariNotInStasis
  | ariServerError (originalMessage : String)
  | requestFailed
  | failedToSet (v : Variable) (value : String)
  deriving DecidableEq, Repr

/-- `except ARINotFound`. -/
def isARINotFound : Exn → Bool
  | .ariNotFound => true
  | _ => false

/-- The outside of one request: what fails, whether an assigned variable is read back
within the twenty attempts, and the next `uuid.uuid4()`. -/
structure Env where
  fails : Request → Option Exn
  settles : ChannelId → Variable → Bool
  uuid4 : String
  uuid4_ne : uuid4 ≠ ""

/-- The code of the calls plugin. -/
abbrev Code := Program Env Asterisk Exn

/-- Make a request: it raises what the environment says, or is done. -/
def ask (r : Request) : Code Unit := fun env a =>
  match env.fails r with
  | some e => (.error e, a)
  | none => (.ok (), a)

/-- `ari.channels.get(channelId=c)`. -/
def getChannel (c : ChannelId) : Code Channel := do
  ask (.getChannel c)
  match ← look (·.get c) with
  | some channel => pure channel
  | none => throw .ariNotFound

/-- `getChannelVar`: the variable of a channel, 404 when it is not set. -/
def getChannelVar (c : ChannelId) (v : Variable) : Code String := do
  ask (.getChannelVar c v)
  match ← look fun a => (a.get c).bind (·.vars v) with
  | some value => pure value
  | none => throw .ariNotFound

/-- `set_channel_id_var_sync(…, bypass_stasis=True)`. -/
def setChannelIdVarSync (c : ChannelId) (v : Variable) (value : String) : Code Unit := do
  ask (.setChannelVar c v value)
  let _ ← getChannel c
  change (·.setVar c v value)
  if ← Program.ask (·.settles c v) then pure () else throw (.failedToSet v value)

/-- `make_call_from_channel`. -/
def makeCallFromChannel (channel : Channel) : Code Call := do
  ask (.makeCall channel.id)
  pure channel.call

/-- `ami.record_start`. -/
def amiRecordStart (c : ChannelId) (filename : String) (options : Option String) : Code Unit := do
  ask (.mixMonitor c filename options)
  change (·.startMonitor c)

/-- `ami.record_resume`: append to the file. -/
def amiRecordResume (c : ChannelId) (filename : String) (options : Option String) : Code Unit :=
  amiRecordStart c filename (some (options.getD "" ++ "a"))

/-- `ami.record_stop`. -/
def amiRecordStop (c : ChannelId) : Code Unit := do
  ask (.stopMixMonitor c)
  change (·.stopMonitor c)

/-- The sound to play that a variable gives, if it is set. -/
def soundOf (v : Variable) (c : ChannelId) : Code (Option String) :=
  catching isARINotFound (getChannelVar c v)

/-- `ami.play_beep(…, sound or DEFAULT_RECORD_BEEP)`. -/
def playBeep (c : ChannelId) (sound : Option String) : Code Unit :=
  ask (.playBeep c (if sound.getD "" = "" then "beep" else sound.getD ""))

/-- `play_record_start_announcement`. -/
def playRecordStartAnnouncement (channel : Channel) : Code Unit := do
  let announcement ← soundOf .recordingStartSound channel.id
  playBeep channel.id announcement

/-! ## The requests of the service -/

/-- `is_group_auto_recorded` and `is_queue_auto_recorded`, by their variable. -/
def isAutoRecorded (v : Variable) (c : ChannelId) : Code Bool :=
  tryCatch (do
    let value ← getChannelVar c v
    pure (value = "1")) fun e =>
      match e with
      | .ariNotFound | .ariNotInStasis => pure false
      | .ariServerError message =>
        if message = "Unable to read provided function" then pure false else throw e
      | _ => throw e

/-- `is_group_auto_recorded`. -/
def isGroupAutoRecorded : ChannelId → Code Bool := isAutoRecorded .sharedRecordGroupCallee

/-- `is_queue_auto_recorded`. -/
def isQueueAutoRecorded : ChannelId → Code Bool := isAutoRecorded .sharedRecordQueueCallee

/-- `if tenant_uuid and channel_helper.tenant_uuid() != tenant_uuid: raise NoSuchCall`. -/
def checkTenant (tenant : Option TenantUuid) (call : ChannelId) : Code Unit :=
  if tenant.getD "" = "" then pure ()
  else do
    let tenantUuid ← catching isARINotFound (getChannelVar call .tenantUuid)
    if tenantUuid = tenant then pure () else throw (.noSuchCall call)

/-- `channel_name.startswith('Local/') and channel_name.endswith(';1')`. -/
def isSide1OfLocal (channel : Channel) : Bool :=
  channel.nameStartsWith "Local/" && ";1".toList.isSuffixOf channel.name.toList

/-- `'agentcallback' in channel_name`. -/
def isAgentCallback (channel : Channel) : Bool :=
  decide ("agentcallback".toList <:+: channel.name.toList)

/-- The "real" channel behind a local one: no local channel, with the same
`WAZO_LOCAL_CHAN_MATCH_UUID`, not recorded as the caller, and up. -/
def isRealChannel (localChanUuid : String) (channel : Channel) : Bool :=
  !channel.nameStartsWith "Local" &&
    channel.var .localChanMatchUuid = localChanUuid &&
    channel.var .callRecordSide ≠ "caller" &&
    channel.state = "Up"

/-- `_find_channel_to_record`. -/
def findChannelToRecord (call : ChannelId) : Code Channel := do
  let some channel ← catching isARINotFound (getChannel call) | throw (.noSuchCall call)
  if !isSide1OfLocal channel then pure channel
  else do
    let isGroupCallee ← isGroupAutoRecorded channel.id
    let isQueueCallee ← isQueueAutoRecorded channel.id
    if !(isGroupCallee || isAgentCallback channel || isQueueCallee) then pure channel
    else if channel.var .localChanMatchUuid = "" then pure channel
    else do
      ask .listChannels
      let channels ← look (·.channels)
      pure ((channels.find? (isRealChannel (channel.var .localChanMatchUuid))).getD channel)

/-- `_toggle_record_allowed`. -/
def toggleRecordAllowed (channel : Channel) : Bool :=
  let isQueueCall := channel.var .queueName ≠ ""
  let isGroupCall := channel.var .groupName ≠ ""
  let isCallee := channel.var .callRecordSide ≠ "caller"
  if isQueueCall && isCallee then channel.var .queueDtmfRecordToggleEnabled = "1"
  else if isGroupCall && isCallee then channel.var .groupDtmfRecordToggleEnabled = "1"
  else channel.var .userDtmfRecordToggleEnabled = "1"

/-- `CALL_RECORDING_FILENAME_TEMPLATE`. -/
def recordingFilename (tenantUuid recordingUuid : String) : String :=
  "/var/lib/wazo/sounds/tenants/" ++ tenantUuid ++ "/monitor/" ++ recordingUuid ++ ".wav"

/-- `if not call_record_active or call_record_active == '0'`. -/
def notActive (channel : Channel) : Bool :=
  channel.var .callRecordActive = "" || channel.var .callRecordActive = "0"

/-- Automatic recordings bypass the permissions of the toggle. -/
def isAutomatic (call : ChannelId) (channel : Channel) : Code Bool := do
  if ← isQueueAutoRecorded call then pure true
  else if ← isGroupAutoRecorded call then pure true
  else pure (channel.var .recordPending = "1")

/-- `record_start`. -/
def recordStart (tenant : Option TenantUuid) (call : ChannelId) : Code Unit := do
  checkTenant tenant call
  let channel ← findChannelToRecord call
  if channel.var .callRecordActive = "1" then
    -- a new party answered a call that is recorded already
    playRecordStartAnnouncement channel
  else do
    if !(← isAutomatic call channel) && !toggleRecordAllowed channel then
      throw (.recordingUnauthorized call)
    let recordingUuid ← Program.ask (·.uuid4)
    let filename := recordingFilename (channel.var .tenantUuid) recordingUuid
    setChannelIdVarSync channel.id .recordingUuid recordingUuid
    amiRecordStart channel.id filename none
    playRecordStartAnnouncement channel

/-- Publish one of the recording notifications of a call. -/
def notify (event : RecordEvent) (call : Call) : Code Unit :=
  change (·.publish (.callRecord event call))

/-- `record_stop`. -/
def recordStop (tenant : Option TenantUuid) (call : ChannelId) : Code Unit := do
  checkTenant tenant call
  let channel ← findChannelToRecord call
  if !toggleRecordAllowed channel then throw (.recordingUnauthorized call)
  if notActive channel then pure ()
  else do
    let recordingBeep ← soundOf .recordingStopSound channel.id
    amiRecordStop channel.id
    playBeep channel.id recordingBeep
    let call ← makeCallFromChannel channel
    notify .stopped call

/-- `record_pause`. -/
def recordPause (tenant : Option TenantUuid) (call : ChannelId) : Code Unit := do
  checkTenant tenant call
  let channel ← findChannelToRecord call
  if !toggleRecordAllowed channel then throw (.recordingUnauthorized call)
  if notActive channel then throw (.recordingNotStarted call)
  if channel.var .recordingPaused = "1" then pure ()
  else do
    if channel.var .tenantUuid = "" then
      throw (.recordingPauseError "Missing channel variable WAZO_TENANT_UUID" call)
    if channel.var .recordingUuid = "" then
      throw (.recordingPauseError "Missing channel variable WAZO_RECORDING_UUID" call)
    setChannelIdVarSync channel.id .recordingPaused "1"
    let recordingBeep ← soundOf .recordingStopSound channel.id
    amiRecordStop channel.id
    playBeep channel.id recordingBeep
    let call ← makeCallFromChannel channel
    ask (.originate (recordingFilename (channel.var .tenantUuid) (channel.var .recordingUuid)))
    notify .paused call

/-- `record_resume`. -/
def recordResume (tenant : Option TenantUuid) (call : ChannelId) : Code Unit := do
  checkTenant tenant call
  let channel ← findChannelToRecord call
  if !toggleRecordAllowed channel then throw (.recordingUnauthorized call)
  if notActive channel then throw (.recordingNotStarted call)
  if channel.var .recordingPaused = "" || channel.var .recordingPaused = "0" then pure ()
  else if channel.var .recordingUuid = "" then pure ()
  else do
    if channel.var .recordingPaused = "1" then
      setChannelIdVarSync channel.id .recordingPaused "0"
    let filename := recordingFilename (channel.var .tenantUuid) (channel.var .recordingUuid)
    let recordingBeep ← soundOf .recordingStartSound channel.id
    amiRecordResume channel.id filename none
    playBeep channel.id recordingBeep

/-! ## The handlers of the monitor events -/

/-- `event['Channel'].startswith(p)`. -/
def MonitorEvent.channelStartsWith (event : MonitorEvent) (p : String) : Bool :=
  p.toList.isPrefixOf event.channel.toList

/-- `_relay_channel_updated`. -/
def relayChannelUpdated (event : MonitorEvent) : Code Unit :=
  if event.channelStartsWith "Local/" then pure ()
  else do
    let some channel ← catching isARINotFound (getChannel event.uniqueid) | pure ()
    let call ← makeCallFromChannel channel
    if call.isAutoprov then pure () else change (·.publish (.callUpdated call))

/-- `_mix_monitor_start`. -/
def mixMonitorStart (event : MonitorEvent) : Code Unit :=
  if event.channelStartsWith "Local/s@wazo-record-listening-channel" then pure ()
  else do
    let some _ ← catching isARINotFound
      (setChannelIdVarSync event.uniqueid .callRecordActive "1") | pure ()
    relayChannelUpdated event
    let channel ← getChannel event.uniqueid
    let call ← makeCallFromChannel channel
    let hasBeenPaused := event.recordingPaused != "0"
    if hasBeenPaused then notify .started call else notify .resumed call

/-- `_mix_monitor_stop`. -/
def mixMonitorStop (event : MonitorEvent) : Code Unit :=
  if event.channelStartsWith "Local/s@wazo-record-listening-channel" then pure ()
  else if event.recordingPaused ≠ "1" then do
    let some _ ← catching isARINotFound
      (setChannelIdVarSync event.uniqueid .callRecordActive "0") | pure ()
    relayChannelUpdated event
  else relayChannelUpdated event

/-- The handler of an event. -/
def consume (event : MonitorEvent) : Code Unit :=
  match event.event with
  | .mixMonitorStart => mixMonitorStart event
  | .mixMonitorStop => mixMonitorStop event

end Calld.Calls
