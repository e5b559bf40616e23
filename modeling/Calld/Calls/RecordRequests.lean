/-
# What the recording requests do

When nothing fails, a request about the recording of a call is refused or not by what does
not change while calls are recorded (`permits`), and when it is not refused it does what
`Op.effect` says (`request_healthy`).
-/
import Calld.Calls.Recording

namespace Calld.Calls

open Effect Effect.Program

/-! ## Requests -/

/-- The requests about the recording of a call. -/
inductive Op where
  | start
  | stop
  | pause
  | resume
  deriving DecidableEq, Repr

/-- The code of a request. -/
def Op.code : Op → Option TenantUuid → ChannelId → Code Unit
  | .start => recordStart
  | .stop => recordStop
  | .pause => recordPause
  | .resume => recordResume

/-! ## What is refused -/

/-- The variables that recording a call assigns. -/
def Variable.isRecording : Variable → Bool
  | .callRecordActive | .recordingPaused | .recordingUuid => true
  | _ => false

/-- The channel with an id. -/
def channelOf (channels : List Channel) (c : ChannelId) : Option Channel :=
  channels.find? (·.id = c)

/-- A variable of the channel with an id. -/
def varOf (channels : List Channel) (c : ChannelId) (v : Variable) : Option String :=
  (channelOf channels c).bind (·.vars v)

/-- The channel that is recorded for a call. -/
def recordedChannel (channels : List Channel) (call : ChannelId) : Option Channel :=
  (channelOf channels call).map fun channel =>
    if isSide1OfLocal channel &&
        (varOf channels channel.id .sharedRecordGroupCallee = some "1" ||
          isAgentCallback channel ||
          varOf channels channel.id .sharedRecordQueueCallee = some "1") &&
        channel.var .localChanMatchUuid ≠ "" then
      (channels.find? (isRealChannel (channel.var .localChanMatchUuid))).getD channel
    else channel

/-- The tenant of a request is none or the one of the call. -/
def tenantMatches (channels : List Channel) (tenant : Option TenantUuid) (call : ChannelId) :
    Bool :=
  tenant.getD "" = "" || varOf channels call .tenantUuid = tenant

/-- The automatic recordings. -/
def automatic (channels : List Channel) (call : ChannelId) (channel : Channel) : Bool :=
  varOf channels call .sharedRecordQueueCallee = some "1" ||
    varOf channels call .sharedRecordGroupCallee = some "1" ||
    channel.var .recordPending = "1"

/-- The permission of a request, whatever the state of the recording. -/
def permits (channels : List Channel) (op : Op) (tenant : Option TenantUuid)
    (call : ChannelId) : Bool :=
  tenantMatches channels tenant call &&
    match recordedChannel channels call, op with
    | none, _ => false
    | some channel, .start => automatic channels call channel || toggleRecordAllowed channel
    | some channel, .pause => toggleRecordAllowed channel && channel.var .tenantUuid ≠ ""
    | some channel, _ => toggleRecordAllowed channel

/-! ## Requests when nothing fails -/

/-- Nothing fails and assigned variables are read back. -/
def Env.Healthy (env : Env) : Prop :=
  (∀ r, env.fails r = none) ∧ ∀ c v, env.settles c v = true

variable {env : Env} {a : Asterisk} {c call : ChannelId} {channel : Channel}
  {tenant : Option TenantUuid}

theorem ask_healthy (h : env.Healthy) (r : Request) : ask r env a = (.ok (), a) := by
  unfold ask
  rw [h.1]

theorem getChannel_healthy (h : env.Healthy) (c : ChannelId) :
    getChannel c env a =
      ((match a.get c with | some channel => .ok channel | none => .error Exn.ariNotFound), a) := by
  unfold getChannel
  rw [bind_of_ok (ask_healthy h _), bind_apply, look_apply]
  cases a.get c <;> rfl

theorem getChannelVar_healthy (h : env.Healthy) (c : ChannelId) (v : Variable) :
    getChannelVar c v env a =
      ((match varOf a.channels c v with
        | some value => .ok value
        | none => .error Exn.ariNotFound), a) := by
  unfold getChannelVar
  rw [bind_of_ok (ask_healthy h _), bind_apply, look_apply]
  show (match varOf a.channels c v with
    | some value => (pure value : Code String)
    | none => throw Exn.ariNotFound) env a = _
  cases varOf a.channels c v <;> rfl

theorem catching_getChannelVar_healthy (h : env.Healthy) (c : ChannelId) (v : Variable) :
    catching isARINotFound (getChannelVar c v) env a = (.ok (varOf a.channels c v), a) := by
  unfold catching
  rw [getChannelVar_healthy h]
  cases varOf a.channels c v <;> rfl

theorem setChannelIdVarSync_healthy (h : env.Healthy) (hc : a.get c = some channel)
    (v : Variable) (value : String) :
    setChannelIdVarSync c v value env a = (.ok (), a.setVar c v value) := by
  have found : getChannel c env a = (.ok channel, a) := by
    rw [getChannel_healthy h, hc]
  unfold setChannelIdVarSync
  rw [bind_of_ok (ask_healthy h _), bind_of_ok found, bind_of_ok (change_apply ..), bind_apply,
    ask_apply]
  rw [h.2]
  rfl

theorem playBeep_healthy (h : env.Healthy) (c : ChannelId) (sound : Option String) :
    playBeep c sound env a = (.ok (), a) := ask_healthy h _

theorem announcement_healthy (h : env.Healthy) (channel : Channel) :
    playRecordStartAnnouncement channel env a = (.ok (), a) := by
  unfold playRecordStartAnnouncement soundOf
  rw [bind_of_ok (catching_getChannelVar_healthy h ..), playBeep_healthy h]

theorem soundOf_healthy (h : env.Healthy) (v : Variable) (c : ChannelId) :
    soundOf v c env a = (.ok (varOf a.channels c v), a) :=
  catching_getChannelVar_healthy h ..

theorem makeCallFromChannel_healthy (h : env.Healthy) (channel : Channel) :
    makeCallFromChannel channel env a = (.ok channel.call, a) := by
  unfold makeCallFromChannel
  rw [bind_of_ok (ask_healthy h _), pure_apply]

theorem amiRecordStart_healthy (h : env.Healthy) (c : ChannelId) (filename : String)
    (options : Option String) :
    amiRecordStart c filename options env a = (.ok (), a.startMonitor c) := by
  unfold amiRecordStart
  rw [bind_of_ok (ask_healthy h _), change_apply]

theorem amiRecordResume_healthy (h : env.Healthy) (c : ChannelId) (filename : String)
    (options : Option String) :
    amiRecordResume c filename options env a = (.ok (), a.startMonitor c) :=
  amiRecordStart_healthy h ..

theorem amiRecordStop_healthy (h : env.Healthy) (c : ChannelId) :
    amiRecordStop c env a = (.ok (), a.stopMonitor c) := by
  unfold amiRecordStop
  rw [bind_of_ok (ask_healthy h _), change_apply]

theorem isAutoRecorded_healthy (h : env.Healthy) (v : Variable) (c : ChannelId) :
    isAutoRecorded v c env a = (.ok (varOf a.channels c v = some "1"), a) := by
  unfold isAutoRecorded
  rw [tryCatch_apply, bind_apply, getChannelVar_healthy h]
  cases varOf a.channels c v with
  | none => rfl
  | some value => simp

theorem isGroupAutoRecorded_healthy (h : env.Healthy) (c : ChannelId) :
    isGroupAutoRecorded c env a =
      (.ok (varOf a.channels c .sharedRecordGroupCallee = some "1"), a) :=
  isAutoRecorded_healthy h ..

theorem isQueueAutoRecorded_healthy (h : env.Healthy) (c : ChannelId) :
    isQueueAutoRecorded c env a =
      (.ok (varOf a.channels c .sharedRecordQueueCallee = some "1"), a) :=
  isAutoRecorded_healthy h ..

theorem checkTenant_healthy (h : env.Healthy) (tenant : Option TenantUuid) (call : ChannelId) :
    checkTenant tenant call env a =
      ((if tenantMatches a.channels tenant call then .ok () else .error (.noSuchCall call)), a) := by
  unfold checkTenant tenantMatches
  by_cases ht : tenant.getD "" = ""
  · simp [ht]
  · rw [if_neg ht, bind_of_ok (catching_getChannelVar_healthy h ..)]
    by_cases hv : varOf a.channels call .tenantUuid = tenant <;> simp [ht, hv]

theorem findChannelToRecord_healthy (h : env.Healthy) (call : ChannelId) :
    findChannelToRecord call env a =
      ((match recordedChannel a.channels call with
        | some channel => .ok channel
        | none => .error (.noSuchCall call)), a) := by
  have got : catching isARINotFound (getChannel call) env a =
      (.ok (channelOf a.channels call), a) := by
    unfold catching
    rw [getChannel_healthy h]
    show _ = (Except.ok (a.get call), a)
    cases a.get call <;> rfl
  unfold findChannelToRecord recordedChannel
  rw [bind_of_ok got]
  cases channelOf a.channels call with
  | none => rfl
  | some channel =>
    by_cases side : isSide1OfLocal channel = true
    · simp only [side, Bool.not_true, Bool.false_eq_true, if_false, Bool.true_and, Option.map_some]
      rw [bind_of_ok (isGroupAutoRecorded_healthy h _),
        bind_of_ok (isQueueAutoRecorded_healthy h _)]
      by_cases auto : (varOf a.channels channel.id .sharedRecordGroupCallee = some "1" ||
          isAgentCallback channel ||
          varOf a.channels channel.id .sharedRecordQueueCallee = some "1") = true
      · by_cases uuid : channel.var .localChanMatchUuid = ""
        · simp [auto, uuid]
        · simp only [auto, Bool.not_true, Bool.false_eq_true, if_false, uuid, Bool.true_and]
          rw [bind_of_ok (ask_healthy h _)]
          simp [bind_apply, uuid]
      · simp [auto]
    · simp [side]

theorem isAutomatic_healthy (h : env.Healthy) (call : ChannelId) (channel : Channel) :
    isAutomatic call channel env a = (.ok (automatic a.channels call channel), a) := by
  unfold isAutomatic automatic
  rw [bind_of_ok (isQueueAutoRecorded_healthy h _)]
  by_cases queue : varOf a.channels call .sharedRecordQueueCallee = some "1"
  · simp [queue]
  · simp only [queue, decide_false, Bool.false_eq_true, if_false, Bool.false_or]
    rw [bind_of_ok (isGroupAutoRecorded_healthy h _)]
    by_cases group : varOf a.channels call .sharedRecordGroupCallee = some "1" <;> simp [group]

/-! ## What a permitted request does to Asterisk -/

/-- Start a recording that is not active, under a new name. -/
def startEffect (uuid : String) (channel : Channel) (a : Asterisk) : Asterisk :=
  if channel.var .callRecordActive = "1" then a
  else (a.setVar channel.id .recordingUuid uuid).startMonitor channel.id

/-- Stop an active recording. -/
def stopEffect (channel : Channel) (a : Asterisk) : Asterisk :=
  if notActive channel then a
  else (a.stopMonitor channel.id).publish (.callRecord .stopped channel.call)

/-- Pause an active recording that is not paused. -/
def pauseEffect (channel : Channel) (a : Asterisk) : Asterisk :=
  if notActive channel || channel.var .recordingPaused = "1" || channel.var .recordingUuid = "" then a
  else ((a.setVar channel.id .recordingPaused "1").stopMonitor channel.id).publish
    (.callRecord .paused channel.call)

/-- Resume an active recording that is paused. -/
def resumeEffect (channel : Channel) (a : Asterisk) : Asterisk :=
  if notActive channel then a
  else if channel.var .recordingPaused = "" || channel.var .recordingPaused = "0" then a
  else if channel.var .recordingUuid = "" then a
  else if channel.var .recordingPaused = "1" then
    (a.setVar channel.id .recordingPaused "0").startMonitor channel.id
  else a.startMonitor channel.id

/-- The effect of a permitted request, the recorded channel being `channel`. -/
def Op.effect : Op → String → Channel → Asterisk → Asterisk
  | .start, uuid => startEffect uuid
  | .stop, _ => stopEffect
  | .pause, _ => pauseEffect
  | .resume, _ => resumeEffect

/-- The two checks that every request begins with. -/
theorem checked (h : env.Healthy) (tenant : Option TenantUuid) (call : ChannelId)
    (p : Channel → Code Unit) :
    (do checkTenant tenant call; let channel ← findChannelToRecord call; p channel : Code Unit) env a =
      if tenantMatches a.channels tenant call then
        match recordedChannel a.channels call with
        | some channel => p channel env a
        | none => (.error (.noSuchCall call), a)
      else (.error (.noSuchCall call), a) := by
  rw [bind_apply, checkTenant_healthy h]
  by_cases ht : tenantMatches a.channels tenant call = true
  · simp only [ht, if_true]
    rw [bind_apply, findChannelToRecord_healthy h]
    cases recordedChannel a.channels call <;> rfl
  · simp [ht]

theorem recordStart_healthy (h : env.Healthy) (hc : a.get channel.id = some channel)
    (hr : recordedChannel a.channels call = some channel) :
    (recordStart tenant call env a).2 =
      if permits a.channels .start tenant call then startEffect env.uuid4 channel a else a := by
  unfold recordStart permits startEffect
  rw [checked h, hr]
  by_cases ht : tenantMatches a.channels tenant call = true
  · by_cases active : channel.var .callRecordActive = "1"
    · simp [ht, active, announcement_healthy h]
    · simp only [ht, if_true, active, if_false, Bool.true_and]
      rw [bind_of_ok (isAutomatic_healthy h ..)]
      by_cases allowed : (automatic a.channels call channel || toggleRecordAllowed channel) = true
      · have proceeds : (!automatic a.channels call channel && !toggleRecordAllowed channel) = false := by
          rw [← Bool.not_or, allowed]
          rfl
        simp only [proceeds, allowed, if_true, Bool.false_eq_true, if_false]
        rw [bind_of_ok (ask_apply ..), bind_of_ok (setChannelIdVarSync_healthy h hc ..),
          bind_of_ok (amiRecordStart_healthy h ..), announcement_healthy h]
      · have refused : (!automatic a.channels call channel && !toggleRecordAllowed channel) = true := by
          rw [← Bool.not_or, Bool.not_eq_true] at *
          rw [allowed]
          rfl
        simp only [refused, allowed, if_true, Bool.false_eq_true, if_false]
        rfl
  · simp [ht]

theorem recordStop_healthy (h : env.Healthy)
    (hr : recordedChannel a.channels call = some channel) :
    (recordStop tenant call env a).2 =
      if permits a.channels .stop tenant call then stopEffect channel a else a := by
  unfold recordStop permits stopEffect
  rw [checked h, hr]
  by_cases ht : tenantMatches a.channels tenant call = true
  · by_cases allowed : toggleRecordAllowed channel = true
    · by_cases idle : notActive channel = true
      · simp [ht, allowed, idle]
      · simp only [ht, allowed, idle, if_true, Bool.true_and, Bool.not_true, Bool.false_eq_true,
          if_false]
        rw [bind_of_ok (soundOf_healthy h ..), bind_of_ok (amiRecordStop_healthy h _),
          bind_of_ok (playBeep_healthy h ..), bind_of_ok (makeCallFromChannel_healthy h _)]
        rfl
    · simp only [ht, allowed]
      rfl
  · simp [ht]

theorem recordPause_healthy (h : env.Healthy) (hc : a.get channel.id = some channel)
    (hr : recordedChannel a.channels call = some channel) :
    (recordPause tenant call env a).2 =
      if permits a.channels .pause tenant call then pauseEffect channel a else a := by
  unfold recordPause permits pauseEffect
  rw [checked h, hr]
  by_cases ht : tenantMatches a.channels tenant call = true
  · by_cases allowed : toggleRecordAllowed channel = true
    · by_cases idle : notActive channel = true
      · by_cases tenantless : channel.var .tenantUuid = "" <;>
          simp [ht, allowed, idle, tenantless]
      · by_cases paused : channel.var .recordingPaused = "1"
        · by_cases tenantless : channel.var .tenantUuid = "" <;>
            simp [ht, allowed, idle, tenantless, paused]
        · by_cases tenantless : channel.var .tenantUuid = ""
          · simp [ht, allowed, idle, tenantless, paused]
          · by_cases uuid : channel.var .recordingUuid = ""
            · simp [ht, allowed, idle, tenantless, paused, uuid]
            · simp only [ht, allowed, idle, tenantless, paused, uuid, if_true, if_false,
                Bool.not_true, Bool.false_eq_true, decide_false, Bool.or_false, ne_eq, not_false_eq_true,
                decide_true, Bool.and_true]
              rw [bind_of_ok (setChannelIdVarSync_healthy h hc ..), bind_of_ok (soundOf_healthy h ..),
                bind_of_ok (amiRecordStop_healthy h _), bind_of_ok (playBeep_healthy h ..),
                bind_of_ok (makeCallFromChannel_healthy h _), bind_of_ok (ask_healthy h _)]
              rfl
    · simp only [ht, allowed]
      rfl
  · simp [ht]

theorem recordResume_healthy (h : env.Healthy) (hc : a.get channel.id = some channel)
    (hr : recordedChannel a.channels call = some channel) :
    (recordResume tenant call env a).2 =
      if permits a.channels .resume tenant call then resumeEffect channel a else a := by
  unfold recordResume permits resumeEffect
  rw [checked h, hr]
  by_cases ht : tenantMatches a.channels tenant call = true
  · by_cases allowed : toggleRecordAllowed channel = true
    · by_cases idle : notActive channel = true
      · simp [ht, allowed, idle]
      · by_cases running : channel.var .recordingPaused = "" ∨ channel.var .recordingPaused = "0"
        · simp [ht, allowed, idle, running]
        · by_cases uuid : channel.var .recordingUuid = ""
          · simp [ht, allowed, idle, uuid]
          · have ready : (channel.var .recordingPaused = "" || channel.var .recordingPaused = "0") = false := by
              simpa using running
            simp only [ht, allowed, idle, uuid, ready, if_true, if_false, Bool.not_true,
              Bool.false_eq_true, Bool.true_and]
            by_cases paused : channel.var .recordingPaused = "1"
            · rw [if_pos paused, if_pos paused, bind_of_ok (setChannelIdVarSync_healthy h hc ..),
                bind_of_ok (soundOf_healthy h ..), bind_of_ok (amiRecordResume_healthy h ..),
                playBeep_healthy h]
            · rw [if_neg paused, if_neg paused, bind_of_ok (soundOf_healthy h ..),
                bind_of_ok (amiRecordResume_healthy h ..), playBeep_healthy h]
    · simp only [ht, allowed]
      rfl
  · simp [ht]

/-- **What a request does** when nothing fails. -/
theorem request_healthy (tenant : Option TenantUuid) (h : env.Healthy) (op : Op)
    (hc : a.get channel.id = some channel) (hr : recordedChannel a.channels call = some channel) :
    (op.code tenant call env a).2 =
      if permits a.channels op tenant call then op.effect env.uuid4 channel a else a := by
  cases op with
  | start => exact recordStart_healthy h hc hr
  | stop => exact recordStop_healthy h hr
  | pause => exact recordPause_healthy h hc hr
  | resume => exact recordResume_healthy h hc hr

/-- A request about no call. -/
theorem request_missing (h : env.Healthy) (op : Op)
    (hr : recordedChannel a.channels call = none) : (op.code tenant call env a).2 = a := by
  have refused : ∀ p : Channel → Code Unit,
      ((do checkTenant tenant call; let channel ← findChannelToRecord call; p channel : Code Unit)
        env a).2 = a := by
    intro p
    rw [checked h, hr]
    split <;> rfl
  cases op with
  | start => exact refused _
  | stop => exact refused _
  | pause => exact refused _
  | resume => exact refused _

end Calld.Calls
