/-
# Switchboards under concurrent requests

Any number of requests, stasis events and timers of the switchboards run at the same time,
one request to Asterisk at a time, while channels are moved and hung up by others.

Every time a channel is put into a bridge a stay begins, which has a number of its own and
lasts until the channel leaves.  What the service remembers beside the state of Asterisk is
for the statements: the operators that were offered a call and the fallbacks that were
executed, each with the stay in which the call was found.
-/
import Calld.Effect.Dict
import Calld.Switchboards.Services

namespace Calld.Switchboards

open Effect Effect.Interactive

/-! ## The world -/

/-- Where a channel is: a bridge, the number of the stay, and when it began. -/
structure Place where
  bridge : String
  entry : ℕ
  since : ℤ
  deriving DecidableEq, Repr

/-- A call of `call_later`, and the stay for which it was made. -/
structure Timer where
  due : ℤ
  timeout : ℤ
  switchboardUuid : String
  callId : String
  entry : ℕ
  deriving DecidableEq, Repr

/-- A channel that the answer request of a number has originated for an operator, for a call
that it had found in a stay. -/
structure Offer where
  request : ℕ
  callId : String
  entry : ℕ
  deriving DecidableEq, Repr

/-- A fallback that was executed: for which stay, where the call was, and when. -/
structure Fallback where
  switchboardUuid : String
  callId : String
  entry : ℕ
  place : Option Place
  time : ℤ
  deriving DecidableEq, Repr

/-- Asterisk, the lock, the event loop, and what has been done so far. -/
structure World where
  place : Dict String Place
  entries : ℕ
  locked : Bool
  now : ℤ
  timers : List Timer
  timeouts : ℕ → Option ℤ
  offers : List Offer
  fallbacks : List Fallback

/-- The channels in a bridge. -/
def World.channelsOf (w : World) (bridgeId : String) : List String :=
  w.place.keys.filter fun c => (w.place.get c).map (·.bridge) = some bridgeId

/-- What happens to the world. -/
inductive Change where
  | nothing
  | acquire
  | release
  | enter (channel bridgeId : String)
  | leave (channel : String)
  | arm (t : Timer)
  | offer (o : Offer)
  | redirect (t : Timer) (entry : ℕ)
  deriving DecidableEq, Repr

def World.apply (w : World) : Change → World
  | .nothing => w
  | .acquire => { w with locked := true }
  | .release => { w with locked := false }
  | .enter c b =>
    { w with place := w.place.set c ⟨b, w.entries, w.now⟩, entries := w.entries + 1 }
  | .leave c => { w with place := w.place.pop c }
  | .arm t =>
    { w with
      timers := t :: w.timers
      timeouts := Function.update w.timeouts t.entry (some t.timeout) }
  | .offer o => { w with offers := o :: w.offers }
  | .redirect t entry =>
    { w with
      place := w.place.pop t.callId
      fallbacks := ⟨t.switchboardUuid, t.callId, entry, w.place.get t.callId, w.now⟩ ::
        w.fallbacks }

/-! ## The answers of the outside -/

/-- What the outside answers: an exception, or what the request asks for. -/
inductive Answer where
  | failure (f : Failure)
  | done
  | switchboard (json : SwitchboardJson)
  | user (json : UserJson)
  | line (json : LineJson)
  | bridge (json : BridgeJson)
  | bridges (json : List BridgeJson)
  | channel (json : ChannelJson)
  | text (value : String)

/-- The answer to a request.  The lock is given to one at a time, and `bridges.get` tells the
channels of the bridge; a bridge that is not found has none. -/
def Request.reply (w : World) : (r : Request) → Answer → Option (Except Exn r.Reply)
  | .acquire, .done => if w.locked then none else some (.ok ())
  | .acquire, _ => none
  | .release, .done => some (.ok ())
  | .release, _ => none
  | .bridgesGet id, .bridge json =>
    if json.id = id ∧ json.channels.Perm (w.channelsOf id) then some (.ok json) else none
  | .bridgesGet id, .failure f =>
    if f = .ariNotFound → w.channelsOf id = [] then some (.error (.raised f)) else none
  | .bridgesCreateWithId _ id, .bridge json => if json.id = id then some (.ok json) else none
  | .bridgesCreate _, .bridge json => some (.ok json)
  | .bridgesList, .bridges json => some (.ok json)
  | .confdSwitchboard .., .switchboard json => some (.ok json)
  | .confdUser .., .user json => some (.ok json)
  | .confdLine .., .line json => some (.ok json)
  | .channelsGet id, .channel json => if json.id = id then some (.ok json) else none
  | .getChannelVar .., .text value => some (.ok value)
  | .originate _, .text value => some (.ok value)
  | .startMoh .., .done => some (.ok ())
  | .addChannel .., .done => some (.ok ())
  | .removeChannel .., .done => some (.ok ())
  | .setChannelVar .., .done => some (.ok ())
  | .answer _, .done => some (.ok ())
  | .hangup _, .done => some (.ok ())
  | .continueInDialplan .., .done => some (.ok ())
  | .publish _, .done => some (.ok ())
  | .callLater .., .done => some (.ok ())
  | _, .failure f => some (.error (.raised f))
  | _, _ => none

/-- What a request that is answered does, whoever asks it. -/
def Request.change (w : World) : Request → Answer → Change
  | .acquire, _ => .acquire
  | .release, _ => .release
  | .addChannel b c, .done => .enter c b
  | .removeChannel b c, .done =>
    if (w.place.get c).map (·.bridge) = some b then .leave c else .nothing
  | .hangup c, .done => .leave c
  | .continueInDialplan c _ _ _, .done => .leave c
  | _, _ => .nothing

/-! ## Phases -/

/-- How far an answer request has got: it has not tested whether the call is queued, has
found it in a stay, has originated the operator, has seen the call out of the queue or could
not see to it; or it has refused, as the call is not queued. -/
inductive AnswerStage where
  | untested
  | found (entry : ℕ)
  | offered (entry : ℕ)
  | cleared (entry : ℕ)
  | kept (entry : ℕ)
  | refused
  deriving DecidableEq, Repr

inductive QueueStage where
  | waiting
  | entered (entry : ℕ)
  | armed
  deriving DecidableEq, Repr

inductive FallbackStage where
  | untested
  | found (entry : ℕ)
  | missed
  | redirected
  deriving DecidableEq, Repr

/-- What a program is there for, and how far it has got. -/
inductive Role where
  | answering (switchboardUuid callId : String) (stage : AnswerStage)
  | queueing (switchboardUuid callId : String) (stage : QueueStage)
  | fallback (t : Timer) (stage : FallbackStage)
  | other
  deriving DecidableEq, Repr

/-- The phase of a program: its role, and whether it has the lock. -/
structure Phase where
  role : Role
  inLock : Bool
  deriving DecidableEq, Repr

/-- The stay in which a call is found. -/
def World.stage {σ : Type} (w : World) (found : ℕ → σ) (missing : σ) (callId : String)
    (json : BridgeJson) : σ :=
  match w.place.get callId with
  | some p => if callId ∈ json.channels then found p.entry else missing
  | none => missing

/-- The stage of an answer request for a call, after an answer. -/
def AnswerStage.next (w : World) (callId : String) :
    AnswerStage → Request → Answer → AnswerStage
  | .untested, .bridgesGet _, .bridge json => w.stage .found .refused callId json
  | .untested, .bridgesGet _, .failure .ariNotFound => .refused
  | .found n, .originate _, .text _ => .offered n
  | .offered n, .bridgesGet _, .failure f => if f = .ariNotFound then .cleared n else .kept n
  | .offered n, .removeChannel .., .failure f =>
    if f = .ariNotFound ∨ f = .ariUnprocessable then .cleared n else .kept n
  | .offered n, .removeChannel .., _ => .cleared n
  | stage, _, _ => stage

/-- The stage of a new queued call of a switchboard, after an answer. -/
def QueueStage.next (w : World) (switchboardUuid callId : String) :
    QueueStage → Request → Answer → QueueStage
  | stage, .addChannel b c, .done =>
    if b = bridgeQueueId switchboardUuid ∧ c = callId then .entered w.entries else stage
  | .entered _, .callLater .., .done => .armed
  | stage, _, _ => stage

/-- The stage of the fallback of a call, after an answer. -/
def FallbackStage.next (w : World) (callId : String) :
    FallbackStage → Request → Answer → FallbackStage
  | .untested, .bridgesGet _, .bridge json => w.stage .found .missed callId json
  | .untested, .bridgesGet _, .failure _ => .missed
  | .found _, .continueInDialplan .., _ => .redirected
  | stage, _, _ => stage

/-- The role after an answer. -/
def Role.next (w : World) : Role → Request → Answer → Role
  | .answering sb c stage, r, x => .answering sb c (stage.next w c r x)
  | .queueing sb c stage, r, x => .queueing sb c (stage.next w sb c r x)
  | .fallback t stage, r, x => .fallback t (stage.next w t.callId r x)
  | .other, _, _ => .other

/-- Neither the lock nor the event loop. -/
def Request.Plain : Request → Prop
  | .acquire | .release | .callLater .. => False
  | _ => True

/-- What is asked in a role. -/
def Role.takes (inLock : Bool) : Role → Request → Prop
  | .answering _ _ .untested, .acquire => inLock = false
  | .answering _ _ .untested, .confdSwitchboard .. => True
  | .answering sb _ .untested, .bridgesGet id => id = bridgeQueueId sb
  | .answering _ _ (.found _), .channelsGet _ => True
  | .answering _ _ (.found _), .confdUser .. => True
  | .answering _ _ (.found _), .confdLine .. => True
  | .answering _ _ (.found _), .originate _ => inLock = true
  | .answering sb _ (.offered _), .bridgesGet id => id = bridgeQueueId sb
  | .answering sb c (.offered _), .removeChannel b c' => b = bridgeQueueId sb ∧ c' = c
  | .answering _ _ (.offered _), _ => False
  | .answering .., .release => inLock = true
  | .answering .., _ => False
  | .queueing sb c (.entered _), .callLater _ _ sb' c' => sb' = sb ∧ c' = c
  | .queueing .., r => r.Plain
  | .fallback t .untested, .bridgesGet id => id = bridgeQueueId t.switchboardUuid
  | .fallback t (.found _), .continueInDialplan c .. => c = t.callId
  | .fallback .., _ => False
  | .other, .acquire => inLock = false
  | .other, .release => inLock = true
  | .other, r => r.Plain

/-- The lock after an answer. -/
def Request.lock (inLock : Bool) : Request → Bool
  | .acquire => true
  | .release => false
  | _ => inLock

/-- The phase after an answer. -/
def Phase.next (w : World) (k : Phase) (r : Request) (x : Answer) : Phase :=
  ⟨k.role.next w r x, r.lock k.inLock⟩

/-- What an answer does: to originate, to redirect and to arm a timer is recorded. -/
def Phase.change (w : World) (i : ℕ) (k : Phase) (r : Request) (x : Answer) : Change :=
  match k.role, r, x with
  | .answering _ c (.found n), .originate _, .text _ => .offer ⟨i, c, n⟩
  | .queueing sb c (.entered n), .callLater delay _ _ _, .done =>
    .arm ⟨w.now + delay, delay, sb, c, n⟩
  | .fallback t (.found n), .continueInDialplan .., .done => .redirect t n
  | _, r, x => r.change w x

/-- Asterisk, confd, the lock and the event loop. -/
def switchboardService : Service Request Request.Reply Exn World Phase Answer where
  takes k r := k.role.takes k.inLock r
  answer x i w k r :=
    (r.reply w x).map fun a => (a, w.apply (k.change w i r x), k.next w r x)

/-! ## The system -/

/-- What runs: the requests of the HTTP interface, the events of Asterisk, and the timers of
the event loop. -/
inductive Job where
  | queuedCalls (tenantUuid switchboardUuid : String)
  | heldCalls (tenantUuid switchboardUuid : String)
  | answerQueuedCall (tenantUuid switchboardUuid callId userUuid : String) (lineId : Option ℤ)
  | holdCall (tenantUuid switchboardUuid callId : String)
  | answerHeldCall (tenantUuid switchboardUuid callId userUuid : String) (lineId : Option ℤ)
  | stasisStart (event : StasisStart)
  | unqueue (tenantUuid switchboardUuid : String)
  | unhold (tenantUuid switchboardUuid : String)
  | noanswerTimeout (timer : ℕ)

/-- What happens beside: time passes, and a channel is put into a bridge by others, or out of
every bridge. -/
inductive Outside where
  | tick (time : ℕ)
  | move (channel : String) (bridgeId : Option String)

/-- The role of the handler of `StasisStart`. -/
def StasisStart.role (event : StasisStart) : Role :=
  match event.args with
  | "switchboard" :: "switchboard_queue" :: _ :: switchboardUuid :: _ =>
    .queueing switchboardUuid event.channelId .waiting
  | _ => .other

/-- A program that returns nothing. -/
def silent {α : Type} (code : Code α) : Code (Option String) := do
  let _ ← code
  pure none

/-- The switchboards of a wazo-calld. -/
def switchboards : System Request Request.Reply Exn (Option String) World Phase Answer Job
    Outside where
  toService := switchboardService
  init w := (∀ c p, w.place.get c = some p → p.entry < w.entries) ∧ w.locked = false ∧
    w.timers = [] ∧ (∀ n, w.timeouts n = none) ∧ w.offers = [] ∧ w.fallbacks = []
  launch
    | .queuedCalls tenant sb, w => some (w, ⟨.other, false⟩, silent (queuedCalls tenant sb))
    | .heldCalls tenant sb, w => some (w, ⟨.other, false⟩, silent (heldCalls tenant sb))
    | .answerQueuedCall tenant sb call user line, w =>
      some (w, ⟨.answering sb call .untested, false⟩,
        some <$> answerQueuedCall tenant sb call user line)
    | .holdCall tenant sb call, w =>
      some (w, ⟨.other, false⟩, silent (holdCall tenant sb call))
    | .answerHeldCall tenant sb call user line, w =>
      some (w, ⟨.other, false⟩, some <$> answerHeldCall tenant sb call user line)
    | .stasisStart event, w => some (w, ⟨event.role, false⟩, silent (stasisStart event))
    | .unqueue tenant sb, w =>
      some (w, ⟨.other, false⟩, silent (notifyLeft notifyQueuedCalls tenant sb))
    | .unhold tenant sb, w =>
      some (w, ⟨.other, false⟩, silent (notifyLeft notifyHeldCalls tenant sb))
    | .noanswerTimeout n, w =>
      (w.timers[n]?).bind fun t =>
        if t.due ≤ w.now then
          some ({ w with timers := w.timers.eraseIdx n }, ⟨.fallback t .untested, false⟩,
            silent (onQueuedCallNoanswerTimeout t.switchboardUuid t.callId))
        else none
  outside
    | .tick time, w => some { w with now := w.now + time }
    | .move c (some b), w => some (w.apply (.enter c b))
    | .move c none, w => some (w.apply (.leave c))

abbrev SwitchboardPool : Type := Pool Request Request.Reply Exn (Option String) World Phase

abbrev SwitchboardLabel : Type := System.Label Answer Job Outside

/-! ## Scripts -/

/-- The switchboards before anything has happened. -/
def noCalls : SwitchboardPool :=
  ⟨{ place := ∅, entries := 0, locked := false, now := 0, timers := [], timeouts := fun _ => none,
     offers := [], fallbacks := [] }, fun _ => none⟩

theorem noCalls_init : switchboards.machine.init noCalls :=
  ⟨⟨fun _ _ hp => (Option.some_ne_none _ hp.symm).elim, rfl, rfl, fun _ => rfl, rfl, rfl⟩,
    fun _ => rfl⟩

/-- Where a list of steps leads. -/
def after (steps : List SwitchboardLabel) : SwitchboardPool :=
  (switchboards.machine.run steps noCalls).getD noCalls

theorem after_reaches {C : SwitchboardPool → SwitchboardLabel → Prop}
    {steps : List SwitchboardLabel} (h : switchboards.machine.Meets C steps noCalls) :
    switchboards.machine.Reaches C (after steps) := by
  unfold after
  cases hrun : switchboards.machine.run steps noCalls with
  | none => exact .init noCalls_init
  | some s => exact Machine.Reaches.run (.init noCalls_init) h hrun

/-- The queue of a switchboard. -/
def redQueue : String := bridgeQueueId "red"

/-- The queue, when the call is in it. -/
def queued : Answer := .bridge ⟨redQueue, "holding", ["1.1"]⟩

/-- The queue, when nobody is in it. -/
def unqueued : Answer := .bridge ⟨redQueue, "holding", []⟩

/-- A call is put into the queue, and two operators want to answer it. -/
def twoOperators : List SwitchboardLabel :=
  [.outside (.move "1.1" (some redQueue)),
    .start 0 (.answerQueuedCall "tenant" "red" "1.1" "alice" none),
    .start 1 (.answerQueuedCall "tenant" "red" "1.1" "bob" none)]

/-- An answer request takes the lock and finds the call. -/
def finds (i : ℕ) : List SwitchboardLabel :=
  [.answer i .done, .answer i (.switchboard ⟨none, none⟩), .answer i queued]

/-- It originates the operator. -/
def originates (i : ℕ) : List SwitchboardLabel :=
  [.answer i (.channel ⟨"1.1", ⟨"caller", "1000"⟩⟩), .answer i (.user ⟨"tenant", [1]⟩),
    .answer i (.line ⟨"sip", "abcdef"⟩), .answer i (.text "2.1")]

/-- It takes the call out of the queue, and gives the lock back. -/
def leaves (i : ℕ) : List SwitchboardLabel :=
  [.answer i queued, .answer i .done, .answer i .done]

end Calld.Switchboards
