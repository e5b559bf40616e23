/-
# The recording state machine

`RecordState.next` is the reference machine.  `recordingMachine` runs the requests about a
call and the handlers of the monitor events in any order; beside Asterisk it carries the
state of the reference machine, driven by the requests that are not refused, and its
transitions.

The two agree whenever no event is left to be consumed, in the runs in which no paused
recording is stopped, no recording is started again after having been resumed, no request
overtakes the event of an earlier one, and nothing fails (`careful_follows`).
-/
import Calld.Calls.RecordRequests
import Calld.Effect.Machine

namespace Calld.Calls

open Effect Effect.Program

/-! ## The reference machine -/

/-- Inactive, active, paused: the next state and the transition that is announced. -/
def RecordState.next : RecordState → Op → RecordState × Option RecordEvent
  | .inactive, .start => (.active, some .started)
  | .active, .pause => (.paused, some .paused)
  | .paused, .resume => (.active, some .resumed)
  | .active, .stop => (.inactive, some .stopped)
  | .paused, .stop => (.inactive, some .stopped)
  | r, _ => (r, none)

/-! ## Runs -/

/-- Asterisk, and the reference machine with the transitions it has made. -/
structure Recorded where
  asterisk : Asterisk
  reference : RecordState
  transitions : List RecordEvent

/-- A request about the call, or the handler of the next event, each with its outside. -/
inductive RecordStep where
  | request (op : Op) (tenant : Option TenantUuid) (env : Env)
  | consume (env : Env)

/-- `not recording_paused or recording_paused == '0'`. -/
def notPaused (channel : Channel) : Bool :=
  channel.var .recordingPaused = "" || channel.var .recordingPaused = "0"

/-- No recording of the call yet, and nothing published. -/
def Recorded.Fresh (call : ChannelId) (s : Recorded) : Prop :=
  s.asterisk.events = [] ∧ s.asterisk.published = [] ∧ s.reference = .inactive ∧
    s.transitions = [] ∧
    ∀ channel, recordedChannel s.asterisk.channels call = some channel →
      notActive channel = true ∧ notPaused channel = true ∧ s.asterisk.monitors channel.id = 0

/-- The requests about a call and the events of Asterisk, in any order. -/
def recordingMachine (call : ChannelId) : Machine Recorded RecordStep where
  init := Recorded.Fresh call
  step
    | .request op tenant env, s =>
      let asterisk := (op.code tenant call env s.asterisk).2
      if permits s.asterisk.channels op tenant call then
        let (reference, transition) := s.reference.next op
        some ⟨asterisk, reference, s.transitions ++ transition.toList⟩
      else some { s with asterisk := asterisk }
    | .consume env, s =>
      match s.asterisk.events with
      | [] => none
      | event :: events =>
        some { s with asterisk := (consume event env { s.asterisk with events := events }).2 }

/-- The recording notifications among what is published. -/
def recordEvents (published : List Notification) : List (RecordEvent × ChannelId) :=
  published.filterMap fun n =>
    match n with
    | .callRecord event call => some (event, call.id)
    | .callUpdated _ => none

/-- Once all events are consumed, the recording state of the call is the one of the
reference machine and the recording notifications are its transitions. -/
def Recorded.Follows (call : ChannelId) (s : Recorded) : Prop :=
  s.asterisk.events = [] → ∀ channel, recordedChannel s.asterisk.channels call = some channel →
    recordState channel = s.reference ∧
      recordEvents s.asterisk.published = s.transitions.map fun event => (event, channel.id)

/-! ## The condition -/

/-- The leg on which the beeps of a paused recording are heard. -/
def isListening (channel : Channel) : Bool :=
  channel.nameStartsWith "Local/s@wazo-record-listening-channel"

/-- Nothing fails; and a permitted request overtakes no event but the one of a pause, is
not about the leg of a paused recording, does not stop a paused recording and does not
start a recording that has been resumed before. -/
def Recorded.Careful (call : ChannelId) (s : Recorded) : RecordStep → Prop
  | .consume env => env.Healthy
  | .request op tenant env =>
    env.Healthy ∧ (permits s.asterisk.channels op tenant call = true →
      (∀ event ∈ s.asterisk.events,
        event.event = .mixMonitorStop ∧ event.recordingPaused = "1") ∧
      ∀ channel, recordedChannel s.asterisk.channels call = some channel →
        isListening channel = false ∧
        (op = .stop → channel.var .recordingPaused ≠ "1") ∧
        (op = .start → channel.var .callRecordActive ≠ "1" →
          channel.var .recordingPaused ≠ "0"))

/-! ## Assignments to recording variables -/

@[simp] theorem Channel.var_setVar_self (channel : Channel) (v : Variable) (value : String) :
    (channel.setVar v value).var v = value := by
  simp [Channel.var, Channel.setVar]

@[simp] theorem Channel.var_setVar_of_ne (channel : Channel) {v w : Variable} (h : w ≠ v)
    (value : String) : (channel.setVar v value).var w = channel.var w := by
  simp [Channel.var, Channel.setVar, h]

/-- A change of a channel that recording may make. -/
structure Keeps (f : Channel → Channel) : Prop where
  id : ∀ channel, (f channel).id = channel.id
  name : ∀ channel, (f channel).name = channel.name
  state : ∀ channel, (f channel).state = channel.state
  vars : ∀ channel v, v.isRecording = false → (f channel).vars v = channel.vars v

variable {f : Channel → Channel} {channels : List Channel} {channel : Channel}
  {c call : ChannelId} {v : Variable} {value : String} {a : Asterisk}

theorem Keeps.var (h : Keeps f) (hv : v.isRecording = false) (channel : Channel) :
    (f channel).var v = channel.var v := by
  unfold Channel.var
  rw [h.vars channel v hv]

theorem keeps_assign (hv : v.isRecording = true) : Keeps (Asterisk.assign c v value) := by
  constructor
  · exact Asterisk.assign_id c v value
  · intro channel
    unfold Asterisk.assign
    split <;> rfl
  · intro channel
    unfold Asterisk.assign
    split <;> rfl
  · intro channel w hw
    have ne : w ≠ v := by
      intro e
      rw [e, hv] at hw
      cases hw
    unfold Asterisk.assign Channel.setVar
    split
    · exact Function.update_of_ne ne ..
    · rfl

theorem channelOf_map (h : Keeps f) (channels : List Channel) (c : ChannelId) :
    channelOf (channels.map f) c = (channelOf channels c).map f := by
  unfold channelOf
  rw [List.find?_map]
  congr 1
  apply List.find?_congr
  intro channel _
  rw [Function.comp_apply, h.id]

theorem varOf_map (h : Keeps f) (hv : v.isRecording = false) (channels : List Channel)
    (c : ChannelId) : varOf (channels.map f) c v = varOf channels c v := by
  unfold varOf
  rw [channelOf_map h]
  cases channelOf channels c with
  | none => rfl
  | some channel => exact h.vars channel v hv

theorem Keeps.isSide1OfLocal (h : Keeps f) (channel : Channel) :
    isSide1OfLocal (f channel) = Calls.isSide1OfLocal channel := by
  unfold Calls.isSide1OfLocal Channel.nameStartsWith
  rw [h.name]

theorem Keeps.isAgentCallback (h : Keeps f) (channel : Channel) :
    isAgentCallback (f channel) = Calls.isAgentCallback channel := by
  unfold Calls.isAgentCallback
  rw [h.name]

theorem Keeps.isRealChannel (h : Keeps f) (uuid : String) (channel : Channel) :
    isRealChannel uuid (f channel) = Calls.isRealChannel uuid channel := by
  unfold Calls.isRealChannel Channel.nameStartsWith
  rw [h.name, h.state, h.var (v := .localChanMatchUuid) rfl, h.var (v := .callRecordSide) rfl]

theorem find?_real_map (h : Keeps f) (channels : List Channel) (uuid : String) :
    (channels.map f).find? (isRealChannel uuid) =
      (channels.find? (isRealChannel uuid)).map f := by
  rw [List.find?_map]
  congr 1
  apply List.find?_congr
  intro channel _
  exact h.isRealChannel uuid channel

/-- Which channel is recorded does not depend on what recording changes. -/
theorem recordedChannel_map (h : Keeps f) (channels : List Channel) (call : ChannelId) :
    recordedChannel (channels.map f) call = (recordedChannel channels call).map f := by
  unfold recordedChannel
  rw [channelOf_map h]
  rcases channelOf channels call with _ | channel
  · rfl
  · rw [Option.map_some, Option.map_some, Option.map_some, h.isSide1OfLocal, h.isAgentCallback, h.id,
      varOf_map h rfl, varOf_map h rfl, h.var (v := .localChanMatchUuid) rfl, find?_real_map h]
    congr 1
    split
    · cases channels.find? (isRealChannel (channel.var .localChanMatchUuid)) <;> rfl
    · rfl

theorem channelOf_of_mem (nodup : (channels.map (·.id)).Nodup) (h : channel ∈ channels) :
    channelOf channels channel.id = some channel := by
  induction channels with
  | nil => cases h
  | cons channel' channels ih =>
    rw [List.map_cons, List.nodup_cons] at nodup
    unfold channelOf
    rcases List.mem_cons.mp h with rfl | h
    · rw [List.find?_cons_of_pos (by simp)]
    · have ne : channel'.id ≠ channel.id := by
        intro e
        exact nodup.1 (e ▸ List.mem_map_of_mem h)
      rw [List.find?_cons_of_neg (by simpa using ne)]
      exact ih nodup.2 h

/-- The recorded channel is one of Asterisk's. -/
theorem get_recorded (hr : recordedChannel a.channels call = some channel) :
    a.get channel.id = some channel := by
  have mem : channel ∈ a.channels := by
    unfold recordedChannel at hr
    obtain ⟨channel', got, hr⟩ := Option.map_eq_some_iff.mp hr
    have mem' : channel' ∈ a.channels := List.mem_of_find?_eq_some got
    split at hr
    · rcases real : a.channels.find? (isRealChannel (channel'.var .localChanMatchUuid)) with _ | r
      · rw [real] at hr
        exact hr ▸ mem'
      · rw [real] at hr
        exact hr ▸ List.mem_of_find?_eq_some real
    · exact hr ▸ mem'
  exact channelOf_of_mem a.nodup mem

/-! ## Monitors -/

theorem get_setVar (value : String) (hv : v.isRecording = true) (hc : a.get c = some channel) :
    (a.setVar c v value).get c = some (channel.setVar v value) := by
  have id : channel.id = c := by simpa using List.find?_some hc
  show channelOf (a.channels.map _) c = _
  rw [channelOf_map (keeps_assign hv), show channelOf a.channels c = some channel from hc,
    Option.map_some, Asterisk.assign, if_pos id]

theorem recordedChannel_setVar (hv : v.isRecording = true)
    (hr : recordedChannel a.channels call = some channel) :
    recordedChannel (a.setVar channel.id v value).channels call =
      some (channel.setVar v value) := by
  show recordedChannel (a.channels.map _) call = _
  rw [recordedChannel_map (keeps_assign hv), hr, Option.map_some, Asterisk.assign, if_pos rfl]

/-- The event of a monitor of a channel. -/
def eventOf (event : MonitorEventName) (channel : Channel) : MonitorEvent :=
  ⟨event, channel.id, channel.name, channel.var .recordingPaused⟩

@[simp] theorem eventOf_uniqueid (event : MonitorEventName) (channel : Channel) :
    (eventOf event channel).uniqueid = channel.id := rfl

@[simp] theorem eventOf_recordingPaused (event : MonitorEventName) (channel : Channel) :
    (eventOf event channel).recordingPaused = channel.var .recordingPaused := rfl

theorem startMonitor_of_get (hc : a.get c = some channel) :
    a.startMonitor c = { a with
      monitors := Function.update a.monitors c (a.monitors c + 1),
      events := a.events ++ [eventOf .mixMonitorStart channel] } := by
  unfold Asterisk.startMonitor
  rw [hc]
  rfl

theorem stopMonitor_of_get (hc : a.get c = some channel) (hm : a.monitors c ≠ 0) :
    a.stopMonitor c = { a with
      monitors := Function.update a.monitors c (a.monitors c - 1),
      events := a.events ++ [eventOf .mixMonitorStop channel] } := by
  unfold Asterisk.stopMonitor
  rw [hc]
  exact if_neg hm

/-! ## The invariant -/

/-- Where the recording of a channel stands: the monitors that run, the event still to be
consumed, the state of the reference machine and the transition still to be announced. -/
inductive Phase (channel : Channel) (monitors : ℕ) :
    List MonitorEvent → RecordState → List RecordEvent → Prop where
  | inactive (active : notActive channel = true) (paused : notPaused channel = true)
      (running : monitors = 0) : Phase channel monitors [] .inactive []
  | active (active : channel.var .callRecordActive = "1") (paused : notPaused channel = true)
      (uuid : channel.var .recordingUuid ≠ "") (running : monitors = 1) :
      Phase channel monitors [] .active []
  | paused (active : channel.var .callRecordActive = "1")
      (paused : channel.var .recordingPaused = "1") (uuid : channel.var .recordingUuid ≠ "")
      (running : monitors = 0) : Phase channel monitors [] .paused []
  | starting (paused : notPaused channel = true) (uuid : channel.var .recordingUuid ≠ "")
      (running : monitors = 1) :
      Phase channel monitors [eventOf .mixMonitorStart channel] .active
        [if channel.var .recordingPaused = "0" then .resumed else .started]
  | stopping (paused : notPaused channel = true) (running : monitors = 0) :
      Phase channel monitors [eventOf .mixMonitorStop channel] .inactive []

/-- The event of the monitor that a pause has stopped. -/
def pauseEvent (channel : Channel) : MonitorEvent :=
  ⟨.mixMonitorStop, channel.id, channel.name, "1"⟩

/-- Announcements of the recording of a channel. -/
def about (channel : Channel) (events : List RecordEvent) : List (RecordEvent × ChannelId) :=
  events.map fun event => (event, channel.id)

/-- A request has added to the events and to the announcements and has moved the phase. -/
def Moved (call : ChannelId) (channel : Channel) (a a' : Asterisk) (r : RecordState)
    (transition : Option RecordEvent) : Prop :=
  ∃ channel' quiet tail pending,
    recordedChannel a'.channels call = some channel' ∧
    channel'.id = channel.id ∧ channel'.name = channel.name ∧
    a'.events = a.events ++ (quiet ++ tail) ∧
    (∀ event ∈ quiet, event = pauseEvent channel) ∧
    Phase channel' (a'.monitors channel.id) tail r pending ∧
    recordEvents a'.published ++ about channel pending =
      recordEvents a.published ++ about channel transition.toList

theorem notPaused_ne (h : notPaused channel = true) : channel.var .recordingPaused ≠ "1" := by
  intro e
  simp [notPaused, e] at h

theorem notActive_ne (h : notActive channel = true) : channel.var .callRecordActive ≠ "1" := by
  intro e
  simp [notActive, e] at h

theorem notActive_of_active (h : channel.var .callRecordActive = "1") :
    notActive channel = false := by
  simp [notActive, h]

/-- A request that leaves everything as it is. -/
theorem Moved.stay {r : RecordState} {a' : Asterisk} (ha : a' = a)
    (hr : recordedChannel a.channels call = some channel)
    (h : Phase channel (a.monitors channel.id) [] r []) : Moved call channel a a' r none := by
  rw [ha]
  exact ⟨channel, [], [], [], hr, rfl, rfl, by simp, by simp, h, rfl⟩

theorem recordEvents_publish (event : RecordEvent) (call : Call) :
    recordEvents (a.publish (.callRecord event call)).published =
      recordEvents a.published ++ [(event, call.id)] := by
  simp [recordEvents, Asterisk.publish]

/-- Starting a recording that has not been resumed. -/
theorem moved_start {uuid : String} (hr : recordedChannel a.channels call = some channel)
    (hu : uuid ≠ "") (active : notActive channel = true) (paused : notPaused channel = true)
    (fresh : channel.var .recordingPaused ≠ "0") (running : a.monitors channel.id = 0) :
    Moved call channel a (startEffect uuid channel a) .active (some .started) := by
  have got := get_setVar (v := .recordingUuid) uuid rfl (get_recorded hr)
  unfold startEffect
  rw [if_neg (notActive_ne active), startMonitor_of_get got]
  refine ⟨channel.setVar .recordingUuid uuid, [], [eventOf .mixMonitorStart _], [.started],
    recordedChannel_setVar rfl hr, rfl, rfl, rfl, by simp, ?_, rfl⟩
  have phase : Phase (channel.setVar .recordingUuid uuid) 1 _ .active _ :=
    .starting (by simpa [notPaused] using paused) (by simpa using hu) rfl
  rw [Channel.var_setVar_of_ne _ (by decide), if_neg fresh] at phase
  simpa [Asterisk.setVar, running] using phase

/-- Pausing an active recording. -/
theorem moved_pause (hr : recordedChannel a.channels call = some channel)
    (active : channel.var .callRecordActive = "1") (paused : notPaused channel = true)
    (hu : channel.var .recordingUuid ≠ "") (running : a.monitors channel.id = 1) :
    Moved call channel a (pauseEffect channel a) .paused (some .paused) := by
  have got := get_setVar (v := .recordingPaused) "1" rfl (get_recorded hr)
  have one : (a.setVar channel.id .recordingPaused "1").monitors channel.id ≠ 0 := by
    show a.monitors channel.id ≠ 0
    omega
  have proceeds : (notActive channel || channel.var .recordingPaused = "1" ||
      channel.var .recordingUuid = "") = false := by
    simp [notActive_of_active active, notPaused_ne paused, hu]
  unfold pauseEffect
  simp only [proceeds, Bool.false_eq_true, if_false]
  rw [stopMonitor_of_get got one]
  refine ⟨channel.setVar .recordingPaused "1", [pauseEvent channel], [], [],
    recordedChannel_setVar rfl hr, rfl, rfl, ?_, by simp, ?_, ?_⟩
  · simp [eventOf, pauseEvent, Asterisk.publish, Asterisk.setVar, Channel.setVar, Channel.var]
  · have phase : Phase (channel.setVar .recordingPaused "1") 0 _ .paused _ :=
      .paused (by simpa using active) (by simp) (by simpa using hu) rfl
    simpa [Asterisk.publish, Asterisk.setVar, running] using phase
  · rw [recordEvents_publish]
    exact List.append_nil _

/-- Resuming a paused recording. -/
theorem moved_resume (hr : recordedChannel a.channels call = some channel)
    (active : channel.var .callRecordActive = "1") (paused : channel.var .recordingPaused = "1")
    (hu : channel.var .recordingUuid ≠ "") (running : a.monitors channel.id = 0) :
    Moved call channel a (resumeEffect channel a) .active (some .resumed) := by
  have got := get_setVar (v := .recordingPaused) "0" rfl (get_recorded hr)
  unfold resumeEffect
  rw [if_neg (by simp [notActive_of_active active]), if_neg (by simp [paused]), if_neg hu,
    if_pos paused, startMonitor_of_get got]
  refine ⟨channel.setVar .recordingPaused "0", [], [eventOf .mixMonitorStart _], [.resumed],
    recordedChannel_setVar rfl hr, rfl, rfl, rfl, by simp, ?_, rfl⟩
  have phase : Phase (channel.setVar .recordingPaused "0") 1 _ .active _ :=
    .starting (by simp [notPaused]) (by simpa using hu) rfl
  rw [Channel.var_setVar_self, if_pos rfl] at phase
  simpa [Asterisk.setVar, running] using phase

/-- Stopping an active recording. -/
theorem moved_stop (hr : recordedChannel a.channels call = some channel)
    (active : channel.var .callRecordActive = "1") (paused : notPaused channel = true)
    (running : a.monitors channel.id = 1) :
    Moved call channel a (stopEffect channel a) .inactive (some .stopped) := by
  have one : a.monitors channel.id ≠ 0 := by omega
  unfold stopEffect
  rw [if_neg (by simp [notActive_of_active active]), stopMonitor_of_get (get_recorded hr) one]
  refine ⟨channel, [], [eventOf .mixMonitorStop channel], [], hr, rfl, rfl, rfl, by simp, ?_, ?_⟩
  · have phase : Phase channel 0 _ .inactive _ := .stopping paused rfl
    simpa [Asterisk.publish, running] using phase
  · rw [recordEvents_publish]
    exact List.append_nil _

/-- **One request** moves the recording and the reference machine alike. -/
theorem effect_moved {uuid : String} {r : RecordState} (op : Op)
    (hr : recordedChannel a.channels call = some channel) (hu : uuid ≠ "")
    (phase : Phase channel (a.monitors channel.id) [] r [])
    (hstop : op = .stop → channel.var .recordingPaused ≠ "1")
    (hstart : op = .start → channel.var .callRecordActive ≠ "1" →
      channel.var .recordingPaused ≠ "0") :
    Moved call channel a (op.effect uuid channel a) (r.next op).1 (r.next op).2 := by
  cases phase with
  | inactive active paused running =>
    have phase : Phase channel (a.monitors channel.id) [] .inactive [] :=
      .inactive active paused running
    cases op with
    | start => exact moved_start hr hu active paused (hstart rfl (notActive_ne active)) running
    | stop => exact .stay (show stopEffect channel a = a from if_pos active) hr phase
    | pause =>
      have idle : pauseEffect channel a = a := if_pos (by simp [active])
      exact .stay idle hr phase
    | resume => exact .stay (show resumeEffect channel a = a from if_pos active) hr phase
  | active active paused hu' running =>
    have phase : Phase channel (a.monitors channel.id) [] .active [] :=
      .active active paused hu' running
    cases op with
    | start => exact .stay (show startEffect uuid channel a = a from if_pos active) hr phase
    | stop => exact moved_stop hr active paused running
    | pause => exact moved_pause hr active paused hu' running
    | resume =>
      have idle : resumeEffect channel a = a := by
        unfold resumeEffect
        rw [notActive_of_active active, if_neg Bool.false_ne_true]
        exact if_pos paused
      exact .stay idle hr phase
  | paused active paused hu' running =>
    have phase : Phase channel (a.monitors channel.id) [] .paused [] :=
      .paused active paused hu' running
    cases op with
    | start => exact .stay (show startEffect uuid channel a = a from if_pos active) hr phase
    | stop => exact absurd paused (hstop rfl)
    | pause =>
      have idle : pauseEffect channel a = a := if_pos (by simp [paused])
      exact .stay idle hr phase
    | resume => exact moved_resume hr active paused hu' running

/-! ## The handlers -/

variable {env : Env} {event : MonitorEvent}

/-- At most a `call_updated` has been published. -/
def Relayed (a a' : Asterisk) : Prop := a' = a ∨ ∃ call, a' = a.publish (.callUpdated call)

theorem Relayed.channels_eq {a' : Asterisk} (h : Relayed a a') : a'.channels = a.channels := by
  rcases h with rfl | ⟨_, rfl⟩ <;> rfl

theorem Relayed.monitors_eq {a' : Asterisk} (h : Relayed a a') : a'.monitors = a.monitors := by
  rcases h with rfl | ⟨_, rfl⟩ <;> rfl

theorem Relayed.events_eq {a' : Asterisk} (h : Relayed a a') : a'.events = a.events := by
  rcases h with rfl | ⟨_, rfl⟩ <;> rfl

theorem Relayed.recordEvents_eq {a' : Asterisk} (h : Relayed a a') :
    recordEvents a'.published = recordEvents a.published := by
  rcases h with rfl | ⟨_, rfl⟩
  · rfl
  · simp [recordEvents, Asterisk.publish]

theorem relayChannelUpdated_healthy (event : MonitorEvent) (h : env.Healthy)
    (hc : a.get event.uniqueid = some channel) :
    ∃ a', relayChannelUpdated event env a = (.ok (), a') ∧ Relayed a a' := by
  have got : catching isARINotFound (getChannel event.uniqueid) env a = (.ok (some channel), a) := by
    unfold catching
    rw [getChannel_healthy h, hc]
  unfold relayChannelUpdated
  split
  · exact ⟨a, rfl, .inl rfl⟩
  · rw [bind_of_ok got]
    simp only
    rw [bind_of_ok (makeCallFromChannel_healthy h _)]
    split
    · exact ⟨a, rfl, .inl rfl⟩
    · exact ⟨_, rfl, .inr ⟨_, rfl⟩⟩

theorem catching_setVar_healthy (h : env.Healthy) (hc : a.get c = some channel) (v : Variable)
    (value : String) :
    catching isARINotFound (setChannelIdVarSync c v value) env a =
      (.ok (some ()), a.setVar c v value) := by
  unfold catching
  rw [setChannelIdVarSync_healthy h hc]

/-- The event of a monitor that has started: the recording is active, and announced. -/
theorem mixMonitorStart_healthy (h : env.Healthy) (hc : a.get channel.id = some channel)
    (listening : isListening channel = false) :
    ∃ a', Relayed (a.setVar channel.id .callRecordActive "1") a' ∧
      (mixMonitorStart (eventOf .mixMonitorStart channel) env a).2 =
        a'.publish (.callRecord (if channel.var .recordingPaused = "0" then .resumed else .started)
          (channel.setVar .callRecordActive "1").call) := by
  have other : (eventOf .mixMonitorStart channel).channelStartsWith
      "Local/s@wazo-record-listening-channel" = false := listening
  have got := get_setVar (v := .callRecordActive) "1" rfl hc
  obtain ⟨a', run, relayed⟩ :=
    relayChannelUpdated_healthy (eventOf .mixMonitorStart channel) h got
  have got' : getChannel channel.id env a' = (.ok (channel.setVar .callRecordActive "1"), a') := by
    rw [getChannel_healthy h, show a'.get channel.id = _ from
      (congrArg (channelOf · channel.id) relayed.channels_eq).trans got]
  refine ⟨a', relayed, ?_⟩
  unfold mixMonitorStart
  rw [other, if_neg Bool.false_ne_true, eventOf_uniqueid, eventOf_recordingPaused,
    bind_of_ok (catching_setVar_healthy h hc ..)]
  simp only
  rw [bind_of_ok run, bind_of_ok got', bind_of_ok (makeCallFromChannel_healthy h _)]
  by_cases paused : channel.var .recordingPaused = "0"
  · rw [if_pos paused, if_neg (by simp [paused])]
    rfl
  · rw [if_neg paused, if_pos (by simpa using paused)]
    rfl

/-- The event of a monitor that has stopped for good: the recording is not active. -/
theorem mixMonitorStop_healthy (h : env.Healthy) (hc : a.get channel.id = some channel)
    (listening : isListening channel = false) (paused : channel.var .recordingPaused ≠ "1") :
    Relayed (a.setVar channel.id .callRecordActive "0")
      (mixMonitorStop (eventOf .mixMonitorStop channel) env a).2 := by
  have other : (eventOf .mixMonitorStop channel).channelStartsWith
      "Local/s@wazo-record-listening-channel" = false := listening
  have got := get_setVar (v := .callRecordActive) "0" rfl hc
  obtain ⟨a', run, relayed⟩ :=
    relayChannelUpdated_healthy (eventOf .mixMonitorStop channel) h got
  unfold mixMonitorStop
  rw [other, if_neg Bool.false_ne_true, eventOf_uniqueid, eventOf_recordingPaused, if_pos paused,
    bind_of_ok (catching_setVar_healthy h hc ..)]
  simp only
  rw [run]
  exact relayed

/-- The event of a pause. -/
theorem pauseEvent_healthy (h : env.Healthy) (hc : a.get channel.id = some channel) :
    Relayed a (mixMonitorStop (pauseEvent channel) env a).2 := by
  obtain ⟨a', run, relayed⟩ := relayChannelUpdated_healthy (pauseEvent channel) h hc
  unfold mixMonitorStop
  split
  · exact .inl rfl
  · rw [if_neg (by simp [pauseEvent]), run]
    exact relayed

/-! ## One step, every run -/

/-- The recorded channel is in a phase, behind the events of some pauses. -/
def Recorded.Tracks (call : ChannelId) (s : Recorded) : Prop :=
  (recordedChannel s.asterisk.channels call = none → s.asterisk.events = []) ∧
  ∀ channel, recordedChannel s.asterisk.channels call = some channel →
    ∃ quiet tail pending,
      s.asterisk.events = quiet ++ tail ∧
      (∀ event ∈ quiet, event = pauseEvent channel) ∧
      (s.asterisk.events ≠ [] → isListening channel = false) ∧
      Phase channel (s.asterisk.monitors channel.id) tail s.reference pending ∧
      recordEvents s.asterisk.published ++ about channel pending = about channel s.transitions

variable {s s' : Recorded}

theorem tracks_fresh (h : s.Fresh call) : s.Tracks call := by
  obtain ⟨events, published, reference, transitions, idle⟩ := h
  refine ⟨fun _ => events, ?_⟩
  intro channel hr
  obtain ⟨active, paused, running⟩ := idle channel hr
  refine ⟨[], [], [], events, by simp, fun h => absurd events h, ?_, ?_⟩
  · rw [reference]
    exact .inactive active paused running
  · rw [published, transitions]
    rfl

/-- Only the events of pauses are before a permitted request. -/
theorem Phase.settled {monitors : ℕ} {tail : List MonitorEvent} {r : RecordState}
    {pending : List RecordEvent} (h : Phase channel monitors tail r pending)
    (hq : ∀ event ∈ tail, event.event = .mixMonitorStop ∧ event.recordingPaused = "1") :
    tail = [] ∧ pending = [] := by
  cases h with
  | inactive => exact ⟨rfl, rfl⟩
  | active => exact ⟨rfl, rfl⟩
  | paused => exact ⟨rfl, rfl⟩
  | starting => cases (hq _ (List.mem_singleton_self _)).1
  | stopping paused => exact absurd (hq _ (List.mem_singleton_self _)).2 (notPaused_ne paused)

theorem tracks_request (op : Op) (tenant : Option TenantUuid) (h : s.Tracks call)
    (hc : s.Careful call (.request op tenant env))
    (hs : (recordingMachine call).step (.request op tenant env) s = some s') :
    s'.Tracks call := by
  obtain ⟨healthy, careful⟩ := hc
  rcases hr : recordedChannel s.asterisk.channels call with _ | channel
  · have same : (op.code tenant call env s.asterisk).2 = s.asterisk := request_missing healthy op hr
    have none' : ∀ t : Recorded, t.asterisk = s.asterisk → t.Tracks call := by
      intro t ht
      unfold Recorded.Tracks
      rw [ht]
      refine ⟨fun _ => h.1 hr, fun channel hr' => ?_⟩
      rw [hr] at hr'
      cases hr'
    dsimp only [recordingMachine] at hs
    split at hs <;> cases hs <;> exact none' _ same
  · have effect := request_healthy tenant healthy op (get_recorded hr) hr
    dsimp only [recordingMachine] at hs
    rw [effect] at hs
    by_cases permitted : permits s.asterisk.channels op tenant call = true
    · rw [if_pos permitted, if_pos permitted] at hs
      cases hs
      obtain ⟨quiet, tail, pending, events, hquiet, -, phase, announced⟩ := h.2 channel hr
      obtain ⟨before, careful⟩ := careful permitted
      obtain ⟨listening, hstop, hstart⟩ := careful channel hr
      obtain ⟨rfl, rfl⟩ := phase.settled fun event he =>
        before event (events ▸ List.mem_append_right quiet he)
      obtain ⟨channel', quiet', tail', pending', hr', id', name', events', hquiet', phase', announced'⟩ :=
        effect_moved op hr env.uuid4_ne phase hstop hstart
      refine ⟨fun hn => absurd (hr'.symm.trans hn) (Option.some_ne_none _), ?_⟩
      intro channel'' hr''
      cases hr'.symm.trans hr''
      have pause : pauseEvent channel' = pauseEvent channel := by
        unfold pauseEvent
        rw [id', name']
      have subject : ∀ es, about channel' es = about channel es := by
        intro es
        unfold about
        rw [id']
      refine ⟨quiet ++ quiet', tail', pending', ?_, ?_, ?_, ?_, ?_⟩
      · rw [events', events, List.append_nil, List.append_assoc]
      · intro event he
        rw [pause]
        exact (List.mem_append.mp he).elim (hquiet event) (hquiet' event)
      · intro _
        unfold isListening Channel.nameStartsWith
        rw [name']
        exact listening
      · rw [id']
        exact phase'
      · rw [subject, subject, announced', show about channel (s.transitions ++ _) = _ from
          List.map_append .., ← show _ = List.map _ s.transitions from announced]
        simp [about]
    · rw [if_neg permitted, if_neg permitted] at hs
      cases hs
      exact h

/-- The state after a handler, by the recorded channel. -/
theorem tracks_of_phase {a' : Asterisk} {channel' : Channel} {quiet tail : List MonitorEvent}
    {r : RecordState} {pending transitions : List RecordEvent}
    (hr : recordedChannel a'.channels call = some channel')
    (id : channel'.id = channel.id) (name : channel'.name = channel.name)
    (events : a'.events = quiet ++ tail) (hquiet : ∀ event ∈ quiet, event = pauseEvent channel)
    (listening : isListening channel = false)
    (phase : Phase channel' (a'.monitors channel.id) tail r pending)
    (announced : recordEvents a'.published ++ about channel pending = about channel transitions) :
    Recorded.Tracks call ⟨a', r, transitions⟩ := by
  refine ⟨fun hn => absurd (hr.symm.trans hn) (Option.some_ne_none _), ?_⟩
  intro channel'' hr''
  cases hr.symm.trans hr''
  refine ⟨quiet, tail, pending, events, ?_, ?_, id ▸ phase, ?_⟩
  · intro event he
    rw [hquiet event he]
    unfold pauseEvent
    rw [id, name]
  · intro _
    unfold isListening Channel.nameStartsWith
    rw [name]
    exact listening
  · unfold about
    rw [id]
    exact announced

/-- A handler takes the recording to its next phase. -/
theorem tracks_consume (h : s.Tracks call) (healthy : env.Healthy)
    (hs : (recordingMachine call).step (.consume env) s = some s') : s'.Tracks call := by
  rcases hr : recordedChannel s.asterisk.channels call with _ | channel
  · dsimp only [recordingMachine] at hs
    rw [h.1 hr] at hs
    cases hs
  · obtain ⟨quiet, tail, pending, events, hquiet, listening, phase, announced⟩ := h.2 channel hr
    have get : ∀ es, ({ s.asterisk with events := es } : Asterisk).get channel.id = some channel :=
      fun _ => get_recorded hr
    dsimp only [recordingMachine] at hs
    rcases quiet with _ | ⟨event, quiet⟩
    · rw [List.nil_append] at events
      rw [events] at hs listening
      generalize reference : s.reference = r at phase
      cases phase with
      | inactive => cases hs
      | active => cases hs
      | paused => cases hs
      | starting paused uuid running =>
        have listening := listening (List.cons_ne_nil _ _)
        obtain ⟨a', relayed, run⟩ := mixMonitorStart_healthy healthy (get []) listening
        cases hs
        have hr' : recordedChannel a'.channels call =
            some (channel.setVar .callRecordActive "1") :=
          (congrArg (recordedChannel · call) relayed.channels_eq).trans
            (recordedChannel_setVar (a := { s.asterisk with events := [] }) rfl hr)
        have phase : Phase (channel.setVar .callRecordActive "1") (a'.monitors channel.id) []
            s.reference [] := by
          rw [reference, relayed.monitors_eq]
          exact .active (by simp) (by simpa [notPaused] using paused) (by simpa using uuid) running
        show Recorded.Tracks call ⟨(mixMonitorStart _ env _).2, _, _⟩
        rw [run]
        refine tracks_of_phase hr' rfl rfl (show _ = [] ++ [] from relayed.events_eq) (fun _ => nofun)
          listening phase ?_
        rw [recordEvents_publish, relayed.recordEvents_eq]
        exact (List.append_nil _).trans announced
      | stopping paused running =>
        have listening := listening (List.cons_ne_nil _ _)
        have relayed := mixMonitorStop_healthy healthy (get []) listening (notPaused_ne paused)
        cases hs
        have hr' := (congrArg (recordedChannel · call) relayed.channels_eq).trans
          (recordedChannel_setVar (a := { s.asterisk with events := [] }) rfl hr)
        have phase : Phase (channel.setVar .callRecordActive "0")
            ((mixMonitorStop (eventOf .mixMonitorStop channel) env
              { s.asterisk with events := [] }).2.monitors channel.id) [] s.reference [] := by
          rw [reference, relayed.monitors_eq]
          exact .inactive (by simp [notActive]) (by simpa [notPaused] using paused) running
        exact tracks_of_phase hr' rfl rfl (show _ = [] ++ [] from relayed.events_eq) (fun _ => nofun)
          listening phase (relayed.recordEvents_eq ▸ announced)
    · rw [List.cons_append] at events
      rw [events] at hs listening
      have listening := listening (List.cons_ne_nil _ _)
      have same : event = pauseEvent channel := hquiet event List.mem_cons_self
      have relayed := pauseEvent_healthy healthy (get (quiet ++ tail))
      cases hs
      rw [same]
      have phase : Phase channel ((mixMonitorStop (pauseEvent channel) env
          { s.asterisk with events := quiet ++ tail }).2.monitors channel.id) tail s.reference pending := by
        rw [relayed.monitors_eq]
        exact phase
      exact tracks_of_phase ((congrArg (recordedChannel · call) relayed.channels_eq).trans hr) rfl rfl
        relayed.events_eq (fun e he => hquiet e (List.mem_cons_of_mem _ he)) listening phase
        (relayed.recordEvents_eq ▸ announced)

/-- **Recording follows its state machine** in every careful run. -/
theorem careful_follows (h : (recordingMachine call).Reaches (Recorded.Careful call) s) :
    s.Follows call := by
  have tracks : s.Tracks call := by
    refine h.invariant (fun _ => tracks_fresh) ?_
    intro s step s' hs hc hstep
    cases step with
    | request op tenant env => exact tracks_request op tenant hs hc hstep
    | consume env => exact tracks_consume hs hc hstep
  intro events channel hr
  obtain ⟨quiet, tail, pending, events', -, -, phase, announced⟩ := tracks.2 channel hr
  obtain ⟨-, rfl⟩ := List.append_eq_nil_iff.mp (events'.symm.trans events)
  generalize reference : s.reference = r at phase
  unfold recordState
  cases phase with
  | inactive active paused =>
    rw [if_neg (notPaused_ne paused), if_neg (notActive_ne active)]
    exact ⟨rfl, (List.append_nil _).symm.trans announced⟩
  | active active paused =>
    rw [if_neg (notPaused_ne paused), if_pos active]
    exact ⟨rfl, (List.append_nil _).symm.trans announced⟩
  | paused active paused =>
    rw [if_pos paused]
    exact ⟨rfl, (List.append_nil _).symm.trans announced⟩

/-! ## Runs on one call -/

/-- Nothing fails. -/
def Env.calm : Env where
  fails := fun _ => none
  settles := fun _ _ => true
  uuid4 := "0a9e"
  uuid4_ne := by decide

theorem Env.calm_healthy : Env.calm.Healthy := ⟨fun _ => rfl, fun _ _ => rfl⟩

/-- A phone call whose user may record it. -/
def phoneCall : Channel where
  id := ⟨"1700000000.1", by decide⟩
  name := "PJSIP/abcd-00000001"
  state := "Up"
  context := "default"
  vars
    | .tenantUuid => some "tenant"
    | .callRecordSide => some "caller"
    | .userDtmfRecordToggleEnabled => some "1"
    | _ => none

/-- Asterisk with the phone call. -/
def unrecorded : Recorded where
  asterisk :=
    { channels := [phoneCall]
      nodup := List.nodup_singleton _
      monitors := fun _ => 0
      events := []
      published := [] }
  reference := .inactive
  transitions := []

theorem unrecorded_fresh : unrecorded.Fresh phoneCall.id := by
  refine ⟨rfl, rfl, rfl, rfl, ?_⟩
  have idle : ∀ channel ∈ recordedChannel unrecorded.asterisk.channels phoneCall.id,
      notActive channel = true ∧ notPaused channel = true ∧
        unrecorded.asterisk.monitors channel.id = 0 := by decide
  exact fun channel hr => idle channel hr

/-- Requests one after the other, each followed by the handler of its event if it has one. -/
def served (steps : List RecordStep) : Recorded :=
  ((recordingMachine phoneCall.id).run steps unrecorded).getD unrecorded

/-- A request of the user. -/
def asked (op : Op) : RecordStep := .request op none .calm

theorem served_reachable (steps : List RecordStep) :
    (recordingMachine phoneCall.id).Reachable (served steps) := by
  unfold served
  rcases h : (recordingMachine phoneCall.id).run steps unrecorded with _ | s
  · exact .init unrecorded_fresh
  · exact Machine.Reaches.reachable_run (.init unrecorded_fresh) h

/-- A recording is paused, then stopped. -/
def stoppedWhilePaused : List RecordStep :=
  [asked .start, .consume .calm, asked .pause, .consume .calm, asked .stop]

/-- A recording is paused, resumed and stopped, then another one is started. -/
def startedAfterResume : List RecordStep :=
  [asked .start, .consume .calm, asked .pause, .consume .calm, asked .resume, .consume .calm,
    asked .stop, .consume .calm, asked .start, .consume .calm]

/-- The state of a call and the notifications about it do not follow the requests: a paused
recording stays paused when it is stopped, and the recording started after one that has
been resumed is announced as resumed. -/
theorem stopped_recording_stays_paused :
    (∃ s, (recordingMachine phoneCall.id).Reachable s ∧ s.asterisk.events = [] ∧
      s.reference = .inactive ∧
      (recordedChannel s.asterisk.channels phoneCall.id).map recordState = some .paused) ∧
    (∃ s, (recordingMachine phoneCall.id).Reachable s ∧ s.asterisk.events = [] ∧
      s.transitions = [.started, .paused, .resumed, .stopped, .started] ∧
      (recordEvents s.asterisk.published).map Prod.fst =
        [.started, .paused, .resumed, .stopped, .resumed]) := by
  refine ⟨⟨served stoppedWhilePaused, served_reachable _, ?_⟩,
    ⟨served startedAfterResume, served_reachable _, ?_⟩⟩
  · decide
  · decide

/-- A recording is started. -/
def started : List RecordStep := [asked .start, .consume .calm]

theorem careful_follows_started : (served started).Follows phoneCall.id := by
  have run : (recordingMachine phoneCall.id).run started unrecorded = some (served started) := rfl
  have careful : ∀ channel ∈ recordedChannel unrecorded.asterisk.channels phoneCall.id,
      isListening channel = false ∧ (Op.start = .stop → channel.var .recordingPaused ≠ "1") ∧
        (Op.start = .start → channel.var .callRecordActive ≠ "1" →
          channel.var .recordingPaused ≠ "0") := by decide
  have meets : (recordingMachine phoneCall.id).Meets (Recorded.Careful phoneCall.id) started
      unrecorded := by
    refine ⟨⟨Env.calm_healthy, fun _ => ⟨fun _ => nofun, fun channel hr => careful channel hr⟩⟩, ?_⟩
    exact fun t _ => ⟨Env.calm_healthy, fun _ _ => trivial⟩
  exact careful_follows (Machine.Reaches.run (.init unrecorded_fresh) meets run)

end Calld.Calls
