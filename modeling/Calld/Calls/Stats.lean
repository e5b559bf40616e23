/-
# The statistics of the calls

`CallsStasis` sends statistics of the calls to collectd.  It keeps the state of every channel
in a global variable of Asterisk: a channel that enters the application rings, the channel
that has been dialed for a ringing one talks, and what is sent when a channel is destroyed
depends on its state.
-/
import Calld.Effect.Machine
import Calld.Effect.Program

namespace Calld.CallStats

open Effect Effect.Program

/-! ## Statistics -/

/-- What a statistic counts; that of a connection names the channel that has dialed. -/
inductive StatKind where
  | start
  | connect (originator : String)
  | ended
  | duration (seconds : Nat)
  | abandoned
  deriving DecidableEq, Repr

/-- A collectd event, and the channel for which it is sent. -/
structure Stat where
  kind : StatKind
  channel : String
  app : String
  appInstance : Option String
  deriving DecidableEq, Repr

/-! ## States -/

/-- The names of the call states. -/
inductive StateName where
  | ringing
  | talking
  | onHook
  deriving DecidableEq, Repr

/-- `ChannelCacheEntry`. -/
structure ChannelCacheEntry where
  app : String
  appInstance : Option String
  state : StateName
  deriving DecidableEq, Repr

/-- The global variables `XIVO_CHANNELS_…`, the statistics, the pairs of channels that have
been bridged, originator first, and the channels that are destroyed. -/
structure World where
  channels : String → Option ChannelCacheEntry
  stats : List Stat
  bridged : List (String × String)
  destroyed : String → Bool

/-- Before the first event. -/
def World.start : World where
  channels := fun _ => none
  stats := []
  bridged := []
  destroyed := fun _ => false

/-- The requests to ARI. -/
inductive Request where
  | getGlobalVar (channel : String)
  | setGlobalVar (channel : String)
  | deleteGlobalVar (channel : String)
  | getChannel (channel : String)
  | setTenant (channel tenantUuid : String)
  | answer (channel : String)
  | createBridge
  | addChannel (channel : String)
  deriving DecidableEq, Repr

/-- What the handlers raise. -/
inductive Exn where
  | keyError
  | attributeError
  | invalidCallEvent
  | invalidStartCallEvent
  | invalidConnectCallEvent
  /-- `iso8601.ParseError` -/
  | parseError
  | requestFailed
  deriving DecidableEq, Repr

/-- `except KeyError`. -/
def isKeyError (e : Exn) : Bool := e = .keyError

/-- `except InvalidConnectCallEvent`. -/
def isInvalidConnectCallEvent (e : Exn) : Bool := e = .invalidConnectCallEvent

/-- The outside of an event: which requests fail, which channels Asterisk still has, and the
seconds between the dates of the event, if they are dates. -/
structure Env where
  fails : Request → Bool
  found : String → Bool
  seconds : Option Nat

/-- The code of the handlers. -/
abbrev Code := Program Env World Exn

/-- Make a request. -/
def request (r : Request) : Code Unit := do
  if ← ask (·.fails r) then throw .requestFailed else pure ()

/-- `ari.channels.get`, which raises `ARINotFound` for a channel that is no more. -/
def channelExists (channel : String) : Code Bool := do
  request (.getChannel channel)
  if ← look (·.destroyed channel) then pure false else ask (·.found channel)

/-! ## The persistor -/

/-- `StatePersistor.get`. -/
def persistorGet (channel : String) : Code ChannelCacheEntry := do
  request (.getGlobalVar channel)
  match ← look (·.channels channel) with
  | some entry => pure entry
  | none => throw .keyError

/-- `StatePersistor.upsert`. -/
def upsert (channel : String) (entry : ChannelCacheEntry) : Code Unit := do
  request (.setGlobalVar channel)
  change fun s => { s with channels := Function.update s.channels channel (some entry) }

/-- `StatePersistor.remove`. -/
def remove (channel : String) : Code Unit := do
  request (.deleteGlobalVar channel)
  change fun s => { s with channels := Function.update s.channels channel none }

/-! ## Events -/

/-- `CallEvent`: the channel and the application that its statistics go to. -/
structure CallEvent where
  channel : String
  app : String
  appInstance : Option String

/-- The event `StasisStart`; one of a blind transfer carries the tenant of the channel that is
replaced, if that has one. -/
structure StasisStart where
  channel : String
  application : String
  args : Option (List String)
  replaceChannel : Option (Option String)

/-- `CallEvent.__init__`. -/
def callEvent (channel : String) : Code CallEvent := do
  match ← catching isKeyError (persistorGet channel) with
  | some entry => pure ⟨channel, entry.app, entry.appInstance⟩
  | none => throw .invalidCallEvent

/-- `StartCallEvent.__init__`. -/
def startCallEvent (event : StasisStart) : Code CallEvent :=
  match event.args with
  | none => throw .invalidStartCallEvent
  | some args => pure ⟨event.channel, event.application, args.head?⟩

/-- `is_connect_event`. -/
def StasisStart.isConnectEvent (event : StasisStart) : Bool :=
  (event.args.bind (·[1]?)) = some "dialed_from"

/-- The channel that has dialed. -/
def StasisStart.originator (event : StasisStart) : Option String := event.args.bind (·[2]?)

/-- `ConnectCallEvent.__init__`, with the channel that has dialed. -/
def connectCallEvent (event : StasisStart) : Code (CallEvent × String) := do
  let call ← startCallEvent event
  match event.originator with
  | none => throw .invalidConnectCallEvent
  | some originator =>
    if ← channelExists originator then pure (call, originator)
    else throw .invalidConnectCallEvent

/-! ## The states and what they send -/

/-- `StatSender`: `publish_soon`. -/
def send (kind : StatKind) (call : CallEvent) : Code Unit :=
  change fun s => { s with stats := s.stats ++ [⟨kind, call.channel, call.app, call.appInstance⟩] }

/-- `StatSender.duration`, with `CallEvent.duration`. -/
def sendDuration (call : CallEvent) : Code Unit := do
  match ← ask (·.seconds) with
  | none => throw .parseError
  | some seconds => send (.duration seconds) call

/-- `_bridge_connect_user`. -/
def bridgeConnectUser (call : CallEvent) (originator : String) : Code Unit := do
  request (.answer call.channel)
  request (.answer originator)
  request .createBridge
  request (.addChannel originator)
  request (.addChannel call.channel)
  change fun s => { s with bridged := s.bridged ++ [(originator, call.channel)] }

/-- `ring`; a state that does not override it gives none. -/
def StateName.ring (call : CallEvent) : StateName → Code (Option StateName)
  | .onHook => do
    send .start call
    pure (some .ringing)
  | .ringing | .talking => pure none

/-- `connect`. -/
def StateName.connect (call : CallEvent) (originator : String) :
    StateName → Code (Option StateName)
  | .ringing => do
    bridgeConnectUser call originator
    send (.connect originator) call
    pure (some .talking)
  | .talking | .onHook => pure none

/-- `hangup`. -/
def StateName.hangup (call : CallEvent) : StateName → Code (Option StateName)
  | .ringing => do
    send .ended call
    sendDuration call
    send .abandoned call
    pure (some .onHook)
  | .talking => do
    send .ended call
    sendDuration call
    pure (some .onHook)
  | .onHook => pure none

/-! ## The handlers -/

/-- The entry of a channel in its new state, which has a name unless it is none. -/
def persist (call : CallEvent) (newState : Option StateName) : Code Unit :=
  match newState with
  | none => throw .attributeError
  | some state => upsert call.channel ⟨call.app, call.appInstance, state⟩

/-- `_stasis_start_blind_transfer_channel`; nothing here reads the variable that it sets. -/
def stasisStartBlindTransferChannel (event : StasisStart) : Code Unit :=
  match event.replaceChannel with
  | none => pure ()
  | some none => throw .keyError
  | some (some tenantUuid) => request (.setTenant event.channel tenantUuid)

/-- `_stasis_start_connect`. -/
def stasisStartConnect (event : StasisStart) : Code Unit := do
  match ← catching isInvalidConnectCallEvent (connectCallEvent event) with
  | none => pure ()
  | some (call, originator) =>
    let entry ← persistorGet originator
    let newState ← entry.state.connect call originator
    persist call newState

/-- `_stasis_start_new_call`. -/
def stasisStartNewCall (event : StasisStart) : Code Unit := do
  let call ← startCallEvent event
  let newState ← StateName.onHook.ring call
  persist call newState

/-- `stasis_start`. -/
def stasisStart (event : StasisStart) : Code Unit := do
  stasisStartBlindTransferChannel event
  if event.isConnectEvent then stasisStartConnect event else stasisStartNewCall event

/-- `channel_destroyed`. -/
def channelDestroyed (channel : String) : Code Unit := do
  match ← catching isKeyError (persistorGet channel) with
  | none => pure ()
  | some entry =>
    let call ← callEvent channel
    let _ ← entry.state.hangup call
    remove channel

/-! ## The machine -/

/-- An event of Asterisk, with its outside. -/
inductive Label where
  | stasisStart (event : StasisStart) (env : Env)
  | channelDestroyed (channel : String) (env : Env)

/-- The events in any order, but none of a channel that is destroyed. -/
def machine : Machine World Label where
  init s := s = World.start
  step
    | .stasisStart event env, s =>
      if s.destroyed event.channel then none else some (stasisStart event env s).2
    | .channelDestroyed channel env, s =>
      if s.destroyed channel then none
      else
        let s := (channelDestroyed channel env s).2
        some { s with destroyed := Function.update s.destroyed channel true }

/-! ## Balance -/

namespace World

/-- How many statistics of a channel are of a kind. -/
def count (s : World) (kind : StatKind) (channel : String) : Nat :=
  s.stats.countP fun stat => stat.kind = kind ∧ stat.channel = channel

/-- A statistic counts a connection of the channel, which has dialed or has been dialed. -/
def connects (s : World) (channel : String) : Nat :=
  s.stats.countP fun stat =>
    match stat.kind with
    | .connect originator => originator = channel ∨ stat.channel = channel
    | _ => false

/-- A start has been counted for the channel. -/
def Started (s : World) (channel : String) : Prop := s.count .start channel ≠ 0

/-- The channel has been connected with another. -/
def Connected (s : World) (channel : String) : Prop :=
  ∃ pair ∈ s.bridged, pair.1 = channel ∨ pair.2 = channel

instance (s : World) (channel : String) : Decidable (s.Started channel) :=
  inferInstanceAs (Decidable (_ ≠ _))

instance (s : World) (channel : String) : Decidable (s.Connected channel) :=
  inferInstanceAs (Decidable (∃ pair ∈ s.bridged, _))

/-- The statistics of a channel: one end when it is destroyed, if it has been started, and one
abandonment if it has never been connected besides; one connection if it has. -/
structure Balanced (s : World) (channel : String) : Prop where
  ended : s.count .ended channel =
    if s.destroyed channel ∧ s.Started channel then 1 else 0
  abandoned : s.count .abandoned channel =
    if s.destroyed channel ∧ s.Started channel ∧ ¬ s.Connected channel then 1 else 0
  connects : s.connects channel = if s.Connected channel then 1 else 0

end World

/-! ## The condition -/

/-- The handler of a blind transfer does not raise. -/
def Transfers (event : StasisStart) (env : Env) : Prop :=
  match event.replaceChannel with
  | none => True
  | some none => False
  | some (some tenantUuid) => env.fails (.setTenant event.channel tenantUuid) = false

/-- The event starts a call. -/
def Starts (event : StasisStart) (env : Env) : Prop :=
  Transfers event env ∧ event.args ≠ none ∧ event.isConnectEvent = false

/-- The requests that connect two channels are answered. -/
def Bridges (env : Env) (originator channel : String) : Prop :=
  ∀ r ∈ [Request.getChannel originator, .getGlobalVar originator, .answer channel,
    .answer originator, .createBridge, .addChannel originator, .addChannel channel],
    env.fails r = false

/-- The event connects its channel with the one that has dialed, which rings. -/
def Connects (s : World) (event : StasisStart) (env : Env) (originator : String) : Prop :=
  Transfers event env ∧ event.isConnectEvent = true ∧ event.originator = some originator ∧
    s.destroyed originator = false ∧ env.found originator = true ∧
    Bridges env originator event.channel ∧
    (s.channels originator).map (·.state) = some .ringing

/-- No channel is connected with another one; a channel that starts, or starts again, has not
been connected; and the state of a channel is read and written. -/
def Careful (s : World) : Label → Prop
  | .stasisStart event env =>
    (∀ originator, Connects s event env originator →
      originator = event.channel ∧ env.fails (.setGlobalVar event.channel) = false) ∧
    (Starts event env →
      if env.fails (.setGlobalVar event.channel) then s.channels event.channel ≠ none
      else ¬ s.Connected event.channel)
  | .channelDestroyed channel env =>
    ∀ entry ∈ s.channels channel, env.fails (.getGlobalVar channel) = false ∧
      (entry.state = .ringing → env.seconds ≠ none)

end Calld.CallStats
