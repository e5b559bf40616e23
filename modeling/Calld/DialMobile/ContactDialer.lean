/-
# The contact dialer

A `_ContactDialer` dials the contacts of a user from a thread of its own.  The thread waits on an
event, which `kick` sets when a contact has registered and `stop` sets when the call is over; the
thread of the bus, which handles the end of the channels, looks into the channels that have been
dialed and waits for the thread to end.

Both threads move one statement at a time, between what happens in Asterisk: contacts register,
channels are created before the answer to `originate` has come, are answered, and end.
-/
import Calld.Effect.Machine
import Calld.DialMobile.Service

namespace Calld.DialMobile

open Effect

/-! ## The state -/

/-- Where the thread of the dialer stands, before the statement or the request. -/
inductive DialerPhase where
  /-- the caller channel is asked for -/
  | starting
  /-- `_get_contacts` -/
  | fetching
  /-- the loop of `_dial_current_contacts`, with the contacts that are left -/
  | dialing (contacts : List String)
  /-- `originate` has been asked for a contact -/
  | originating (contact : String) (contacts : List String)
  /-- Asterisk has created the channel, and its answer is on its way -/
  | created (contact : String) (channel : ChannelId) (contacts : List String)
  /-- the contact is in `_called_contacts` -/
  | called (channel : ChannelId) (contacts : List String)
  /-- the channel is in `_dialed_channels`: `_on_contact_dialed` -/
  | dialed (contacts : List String)
  /-- the test of the loop of `_run` -/
  | testing
  | waiting
  | clearing
  | checking
  /-- `_channel_is_up` -/
  | probing
  /-- `_remove_unanswered_channels`, with the channels that are left -/
  | cleaning (channels : List ChannelId)
  /-- a channel is not answered, and is hung up -/
  | hanging (channel : ChannelId) (channels : List ChannelId)
  /-- the thread has ended, by itself or by an exception -/
  | finished
  deriving DecidableEq, Repr

/-- Where `_on_channel_gone` stands. -/
inductive GonePhase where
  | idle
  /-- the set of `_dialed_channels` is iterated over; it had that size -/
  | reading (channel : ChannelId) (size : ℕ) (stopped : Bool)
  /-- `stop`, before the test that the thread is alive -/
  | stopping (channel : ChannelId) (stopped : Bool)
  /-- `should_stop` is set, and the event is not -/
  | waking (channel : ChannelId) (stopped : Bool)
  /-- the thread is joined -/
  | joining (channel : ChannelId) (stopped : Bool)
  /-- the caller is hung up, unless it is the channel that has gone -/
  | refusing (channel : ChannelId) (stopped : Bool)
  deriving DecidableEq, Repr

/-- What `_on_channel_gone` raises. -/
inductive GoneError where
  /-- `_NoSuchChannel` -/
  | noSuchChannel
  /-- the set changes size during the iteration -/
  | runtimeError
  | ariError
  deriving DecidableEq, Repr

/-- How `_on_channel_gone` has ended; `stopped` when `stop` had been called before it began. -/
structure GoneResult where
  channel : ChannelId
  stopped : Bool
  result : Except GoneError Unit

/-- A channel in Asterisk. -/
inductive Leg where
  | unborn
  | ringing
  | up
  | gone
  deriving DecidableEq, Repr

/-- The dialer, its thread and a handler of the thread of the bus, among the channels and the
contacts of Asterisk.  `kicked` are the contacts that had registered at the last `kick`,
`originated` the contacts for which Asterisk has created a channel, and `hungUp` the channels that
Asterisk has been asked to hang up. -/
structure ContactDialer where
  caller : ChannelId
  shouldStop : Bool
  wakeup : Bool
  calledContacts : List String
  dialedChannels : List ChannelId
  phase : DialerPhase
  handler : GonePhase
  registered : List String
  channels : ChannelId → Leg
  kicked : List String
  originated : List (String × ChannelId)
  hungUp : List ChannelId
  handled : List GoneResult

namespace ContactDialer

def goTo (s : ContactDialer) (phase : DialerPhase) : ContactDialer := { s with phase := phase }

@[simp] theorem goTo_phase (s : ContactDialer) (p : DialerPhase) : (s.goTo p).phase = p := rfl

@[simp] theorem goTo_calledContacts (s : ContactDialer) (p : DialerPhase) :
    (s.goTo p).calledContacts = s.calledContacts := rfl

@[simp] theorem goTo_kicked (s : ContactDialer) (p : DialerPhase) :
    (s.goTo p).kicked = s.kicked := rfl

def handle (s : ContactDialer) (handler : GonePhase) : ContactDialer := { s with handler := handler }

/-- `_on_channel_gone` ends. -/
def finish (s : ContactDialer) (channel : ChannelId) (stopped : Bool)
    (result : Except GoneError Unit) : ContactDialer :=
  { s with handler := .idle, handled := s.handled ++ [⟨channel, stopped, result⟩] }

/-- The contacts for which a channel has been created. -/
def contacts (s : ContactDialer) : List String := s.originated.map (·.1)

/-- The channels that the dialer has originated. -/
def legs (s : ContactDialer) : List ChannelId := s.originated.map (·.2)

end ContactDialer

/-! ## The thread of the dialer -/

/-- What a request of the dialer gives: an answer, `ARINotFound`, or another exception. -/
inductive DialerAnswer where
  | ok (value : String)
  | notFound
  | raises
  deriving DecidableEq, Repr

/-- `[contact for contact in value.split('&') if contact]`. -/
def contactsOf (value : String) : List String :=
  ((value.toList.splitOn '&').map String.ofList).filter (· ≠ "")

namespace ContactDialer

/-- The loop of `_run` is left; `order` is the order of the set of the dialed channels. -/
def leave (s : ContactDialer) (order : List ChannelId) : Option ContactDialer :=
  if order.Perm s.dialedChannels then some (s.goTo (.cleaning order)) else none

/-- The next step of the thread. -/
def threadStep (s : ContactDialer) (answer : DialerAnswer) (order : List ChannelId) :
    Option ContactDialer :=
  match s.phase with
  | .starting =>
    match answer with
    | .ok _ => some (s.goTo .fetching)
    | _ => some (s.goTo .finished)
  | .fetching =>
    match answer with
    | .ok value => some (s.goTo (.dialing (contactsOf value)))
    | .notFound => some (s.goTo (.dialing []))
    | .raises => some (s.goTo .finished)
  | .dialing [] => some (s.goTo .testing)
  | .dialing (contact :: contacts) =>
    if s.shouldStop then some (s.goTo .testing)
    else if contact ∈ s.calledContacts then some (s.goTo (.dialing contacts))
    else some (s.goTo (.originating contact contacts))
  | .originating _ _ =>
    match answer with
    | .ok _ => none
    | _ => some (s.goTo .finished)
  | .created contact channel contacts =>
    match answer with
    | .ok _ => some { s.goTo (.called channel contacts) with
        calledContacts := s.calledContacts ++ [contact] }
    | _ => some (s.goTo .finished)
  | .called channel contacts =>
    some { s.goTo (.dialed contacts) with dialedChannels := s.dialedChannels ++ [channel] }
  | .dialed contacts =>
    match answer with
    | .ok _ => some (s.goTo (.dialing contacts))
    | _ => some (s.goTo .finished)
  | .testing => if s.shouldStop then s.leave order else some (s.goTo .waiting)
  | .waiting => if s.wakeup then some (s.goTo .clearing) else none
  | .clearing => some { s.goTo .checking with wakeup := false }
  | .checking => if s.shouldStop then s.leave order else some (s.goTo .probing)
  | .probing =>
    match answer with
    | .ok _ => some (s.goTo .fetching)
    | .notFound => s.leave order
    | .raises => some (s.goTo .finished)
  | .cleaning [] => some (s.goTo .finished)
  | .cleaning (channel :: channels) =>
    if answer = .raises then some (s.goTo .finished)
    else if s.channels channel = .ringing then some (s.goTo (.hanging channel channels))
    else some (s.goTo (.cleaning channels))
  | .hanging channel channels =>
    if answer = .raises then some (s.goTo .finished)
    else some { s.goTo (.cleaning channels) with hungUp := s.hungUp ++ [channel] }
  | .finished => none

/-! ## `_on_channel_gone` -/

/-- The next step of the handler. -/
def handlerStep (s : ContactDialer) (answer : DialerAnswer) : Option ContactDialer :=
  match s.handler with
  | .idle => none
  | .reading channel size stopped =>
    if s.dialedChannels.length ≠ size then some (s.finish channel stopped (.error .runtimeError))
    else if channel ∉ s.dialedChannels ∧ channel ≠ s.caller then
      some (s.finish channel stopped (.error .noSuchChannel))
    else some (s.handle (.stopping channel stopped))
  | .stopping channel stopped =>
    if s.phase = .finished then some (s.handle (.refusing channel stopped))
    else some { s.handle (.waking channel stopped) with shouldStop := true }
  | .waking channel stopped => some { s.handle (.joining channel stopped) with wakeup := true }
  | .joining channel stopped =>
    if s.phase = .finished then some (s.handle (.refusing channel stopped)) else none
  | .refusing channel stopped =>
    if channel = s.caller then some (s.finish channel stopped (.ok ()))
    else if answer = .raises then some (s.finish channel stopped (.error .ariError))
    else some { s.finish channel stopped (.ok ()) with hungUp := s.hungUp ++ [s.caller] }

end ContactDialer

/-! ## The machine -/

/-- Who moves. -/
inductive DialerLabel where
  | thread (answer : DialerAnswer) (order : List ChannelId)
  | handler (answer : DialerAnswer)
  | kick
  /-- `stop` by another thread, which sets `should_stop` and then the event -/
  | stop
  | wake
  | register (contact : String)
  | unregister (contact : String)
  /-- Asterisk carries `originate` out -/
  | create (channel : ChannelId)
  | answered (channel : ChannelId)
  | destroyed (channel : ChannelId)
  /-- the end of a channel is handled -/
  | gone (channel : ChannelId)

namespace ContactDialer

def step (label : DialerLabel) (s : ContactDialer) : Option ContactDialer :=
  match label with
  | .thread answer order => s.threadStep answer order
  | .handler answer => s.handlerStep answer
  | .kick => some { s with wakeup := true, kicked := s.registered }
  | .stop => if s.phase = .finished then none else some { s with shouldStop := true }
  | .wake => some { s with wakeup := true }
  | .register contact => some { s with registered := contact :: s.registered }
  | .unregister contact => some { s with registered := s.registered.filter (· ≠ contact) }
  | .create channel =>
    match s.phase with
    | .originating contact contacts =>
      if s.channels channel = .unborn then
        some { s.goTo (.created contact channel contacts) with
          channels := Function.update s.channels channel .ringing
          originated := s.originated ++ [(contact, channel)] }
      else none
    | _ => none
  | .answered channel =>
    if s.channels channel = .ringing then
      some { s with channels := Function.update s.channels channel .up }
    else none
  | .destroyed channel =>
    if s.channels channel = .unborn then none
    else some { s with channels := Function.update s.channels channel .gone }
  | .gone channel =>
    if s.handler = .idle ∧ s.channels channel = .gone then
      some (s.handle (.reading channel s.dialedChannels.length s.shouldStop))
    else none

/-- The dialer as `__init__` leaves it, for a caller that there is. -/
structure Fresh (s : ContactDialer) : Prop where
  caller : s.channels s.caller ≠ .unborn
  shouldStop : s.shouldStop = false
  wakeup : s.wakeup = false
  calledContacts : s.calledContacts = []
  dialedChannels : s.dialedChannels = []
  phase : s.phase = .starting
  handler : s.handler = .idle
  kicked : s.kicked = []
  originated : s.originated = []
  hungUp : s.hungUp = []
  handled : s.handled = []

end ContactDialer

/-- The dialer and everything around it, in any interleaving. -/
def dialerMachine : Machine ContactDialer DialerLabel where
  init := ContactDialer.Fresh
  step := ContactDialer.step

end Calld.DialMobile
