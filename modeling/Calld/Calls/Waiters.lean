/-
# The queues of the dial echo requests

Any number of originates run against the dial echo manager, with the handlers that set the
results.  A queue is in the table from the registration of its request until `wait` has ended,
in whatever way; an originate that ARI refuses in between raises without waiting, and its
queue stays.
-/
import Calld.Calls.DialEcho

namespace Calld.DialEcho

open Effect Effect.Interactive

/-! ## The manager and its programs -/

/-- The table of the queues and their contents.  For the statements: the request that every
queue was made for, and the results that were set, by request. -/
structure EchoWorld where
  queues : Effect.Dict String ℕ
  contents : ℕ → List DialEchoResult
  owners : List String
  results : List (String × DialEchoResult)

/-- How far a program has come with a request. -/
inductive EchoPhase where
  | fresh
  | registered (id : String)
  | originated (id : String)
  | waiting (id : String) (queue : ℕ)
  | received (id : String) (result : DialEchoResult)
  | expired (id : String)
  | closed (id : String) (result : Option DialEchoResult)
  /-- the originate has been refused -/
  | abandoned (id : String)
  | setting (id : String) (result : DialEchoResult)
  | found (id : String) (queue : ℕ) (result : DialEchoResult)
  | settled
  deriving DecidableEq, Repr

namespace EchoPhase

/-- The request whose queue is in the table. -/
def holds : EchoPhase → Option String
  | .registered id | .originated id | .waiting id _ | .received id _ | .expired id
  | .abandoned id => some id
  | _ => none

/-- The request of an originate. -/
def request : EchoPhase → Option String
  | .closed id _ => some id
  | k => k.holds

/-- What a program asks next. -/
def takes : EchoPhase → EchoRequest → Prop
  | .fresh, r => r.Outer ∨ r = .newQueue
  | .registered _, .channelsOriginate _ => True
  | .originated id, .getQueue id' => id' = id
  | .waiting _ queue, .queueGet queue' _ => queue' = queue
  | .received id _, .popQueue id' => id' = id
  | .expired id, .popQueue id' => id' = id
  | .closed _ _, r => r.Outer
  | .setting id _, .getQueue id' => id' = id
  | .found _ queue result, .queuePut queue' result' => queue' = queue ∧ result' = result
  | _, _ => False

/-- After the queue has been looked for. -/
def lookedUp : EchoPhase → Option ℕ → EchoPhase
  | .originated id, some queue => .waiting id queue
  | .originated id, none => .closed id none
  | .setting id result, some queue => .found id queue result
  | _, _ => .settled

/-- After the queue has been removed. -/
def removed : EchoPhase → EchoPhase
  | .received id result => .closed id (some result)
  | .expired id => .closed id none
  | k => k

/-- After ARI has answered. -/
def answered (k : EchoPhase) (accepted : Bool) : EchoPhase :=
  match k with
  | .registered id => if accepted then .originated id else .abandoned id
  | k => k

/-- The request that a result is set for. -/
def target : EchoPhase → String
  | .found id _ _ => id
  | _ => ""

end EchoPhase

/-- What comes from outside: the answers, the next `uuid4`, and whether the time is up. -/
structure Outside where
  reply : (r : EchoRequest) → Except EchoExn r.Reply
  uuid4 : String
  timeUp : Bool

/-- Whether an answer is none of the errors. -/
def isOk {α : Type} : Except EchoExn α → Bool
  | .ok _ => true
  | .error _ => false

/-- A queue for a new request. -/
def EchoWorld.register (w : EchoWorld) (id : String) : EchoWorld where
  queues := w.queues.set id w.owners.length
  contents := Function.update w.contents w.owners.length []
  owners := w.owners ++ [id]
  results := w.results

/-- A result is put into a queue, for a request. -/
def EchoWorld.put (w : EchoWorld) (id : String) (queue : ℕ) (result : DialEchoResult) :
    EchoWorld :=
  { w with
    contents := Function.update w.contents queue (w.contents queue ++ [result])
    results := w.results ++ [(id, result)] }

/-- The manager; no `uuid4` comes twice, and a queue is waited for while it is empty. -/
def echoService : Service EchoRequest EchoRequest.Reply EchoExn EchoWorld EchoPhase Outside where
  takes := EchoPhase.takes
  answer x _ w k
    | .newQueue =>
      if x.uuid4 ∈ w.owners then none
      else some (.ok x.uuid4, w.register x.uuid4, .registered x.uuid4)
    | .getQueue id => some (.ok (w.queues.get id), w, k.lookedUp (w.queues.get id))
    | .popQueue id => some (.ok (), { w with queues := w.queues.pop id }, k.removed)
    | .queueGet queue _ =>
      match k, w.contents queue with
      | .waiting id _, result :: results =>
        some (.ok result, { w with contents := Function.update w.contents queue results },
          .received id result)
      | .waiting id _, [] => if x.timeUp then some (.error .emptyQueue, w, .expired id) else none
      | _, _ => none
    | .queuePut queue result => some (.ok (), w.put k.target queue result, .settled)
    | .channelsOriginate arguments =>
      some (x.reply (.channelsOriginate arguments), w,
        k.answered (isOk (x.reply (.channelsOriginate arguments))))
    | r => some (x.reply r, w, k)

/-- What is started: an originate, the handler of an event, or the setting of any result. -/
inductive EchoJob where
  | originate (tenantUuid : String) (request : CallRequest)
  | userEvent (event : UserEvent)
  | setResult (id : String) (result : DialEchoResult)

/-- The result that the handler of an event sets. -/
def UserEvent.phase (event : UserEvent) : EchoPhase :=
  match event.userEvent, event.wazoDialEchoRequestId, event.channelId with
  | some "dial_echo", some id, some channelId => .setting id ⟨some channelId⟩
  | _, _, _ => .settled

/-- A program that returns no call. -/
def noCall (code : EchoCode Unit) : EchoCode (Option OriginatedCall) := do
  code
  pure none

def EchoJob.phase : EchoJob → EchoPhase
  | .originate .. => .fresh
  | .userEvent event => event.phase
  | .setResult id result => .setting id result

def EchoJob.code : EchoJob → EchoCode (Option OriginatedCall)
  | .originate tenantUuid request => some <$> DialEcho.originate tenantUuid request
  | .userEvent event => noCall (onUserEvent event)
  | .setResult id result => noCall (setDialEchoResult id result)

/-- The originates and the handlers of a wazo-calld. -/
def echoSystem : System EchoRequest EchoRequest.Reply EchoExn (Option OriginatedCall) EchoWorld
    EchoPhase Outside EchoJob Empty where
  toService := echoService
  init w := w.queues = ∅ ∧ w.owners = [] ∧ (∀ queue, w.contents queue = []) ∧ w.results = []
  launch job w := some (w, job.phase, job.code)
  outside e _ := nomatch e

abbrev EchoPool : Type :=
  Pool EchoRequest EchoRequest.Reply EchoExn (Option OriginatedCall) EchoWorld EchoPhase

abbrev EchoLabel : Type := System.Label Outside EchoJob Empty

/-! ## Contracts -/

section Contracts

variable {k : EchoPhase} {id : String}

/-- A phase in which nothing is asked of the manager: before the request, or after it. -/
def EchoPhase.Idle (k : EchoPhase) : Prop := k = .fresh ∨ ∃ id result, k = .closed id result

/-- What has nothing to do with the manager leaves the phase as it is. -/
theorem outer_keeps {α : Type} {p : EchoCode α} (hk : k.Idle) (hp : p.Asks EchoRequest.Outer) :
    echoService.Keeps (fun k' _ => k' = k) (fun k' _ => k' = k) k p := by
  refine hp.keeps (fun r hr => ?_) fun r hr x i w y hy => ?_
  · obtain rfl | ⟨id, result, rfl⟩ := hk
    · exact .inl hr
    · exact hr
  · cases r with
    | newQueue | getQueue | popQueue | queueGet | queuePut => exact hr.elim
    | channelsOriginate arguments =>
      obtain rfl := Option.some.inj hy
      obtain rfl | ⟨id, result, rfl⟩ := hk <;> rfl
    | showDialplan | usersGet | linesGet | endpointsGet | channelsGet | makeCall =>
      obtain rfl := Option.some.inj hy
      rfl

theorem extensionExists_asks (context exten : String) (priority : ℕ) :
    (extensionExists context exten priority).Asks EchoRequest.Outer := by
  unfold extensionExists
  refine Asks.tryCatch (.bind (.request trivial) fun _ => .pure _) fun e => ?_
  cases e <;> trivial

theorem User.get_asks (user : User) : user.get.Asks EchoRequest.Outer := by
  unfold User.get
  refine Asks.tryCatch (.request trivial) fun e => ?_
  split <;> trivial

theorem User.mobilePhoneNumber_asks (user : User) :
    user.mobilePhoneNumber.Asks EchoRequest.Outer :=
  .bind user.get_asks fun _ => .pure _

theorem User.mainLine_asks (user : User) : user.mainLine.Asks EchoRequest.Outer := by
  unfold User.mainLine
  refine .bind user.get_asks fun confdUser => ?_
  split <;> trivial

theorem User.line_asks (user : User) (lineId : ℕ) :
    (user.line lineId).Asks EchoRequest.Outer := by
  unfold User.line
  refine .bind user.get_asks fun confdUser => ?_
  split <;> trivial

theorem User.lineGet_asks (user : User) (lineId : ℕ) :
    (user.lineGet lineId).Asks EchoRequest.Outer := by
  unfold User.lineGet
  refine Asks.tryCatch (.request trivial) fun e => ?_
  cases e <;> trivial

theorem sourceLine_asks (user : User) (source : CallSource) :
    (sourceLine user source).Asks EchoRequest.Outer := by
  unfold sourceLine
  split
  · exact user.mainLine_asks
  · exact user.line_asks _

theorem sourceEndpoint_asks (user : User) (source : CallSource) :
    (sourceEndpoint user source).Asks EchoRequest.Outer := by
  unfold sourceEndpoint
  split
  · trivial
  · refine .bind (sourceLine_asks user source) fun lineId =>
      .bind (user.lineGet_asks lineId) fun line => .bind (user.lineGet_asks lineId) fun line' => ?_
    split
    · refine .bind (.bind (user.lineGet_asks lineId) fun _ =>
        .bind (.request trivial) fun _ => .pure _) fun online => ?_
      split <;> trivial
    · trivial

theorem originateFromLine_asks (user : User) (request : CallRequest) :
    (originateFromLine user request).Asks EchoRequest.Outer := by
  unfold originateFromLine
  refine .bind (sourceEndpoint_asks user request.source) fun endpoint => ?_
  cases request.source.autoAnswer with
  | none => trivial
  | some autoAnswer => exact .request trivial

theorem refreshCallFromChannel_asks (channelId : String) :
    (refreshCallFromChannel channelId).Asks EchoRequest.Outer :=
  .bind (.catching (.request trivial)) fun _ => .request trivial

/-- The queue is removed in every way out of `wait`. -/
theorem wait_keeps (timeout : ℕ) :
    echoService.Keeps (fun k _ => ∃ result, k = .closed id result)
      (fun k _ => ∃ result, k = .closed id result) (.originated id) (wait id timeout) := by
  unfold wait
  refine Service.Keeps.bind (.request rfl fun x i w y hy => ?_)
  obtain rfl := Option.some.inj hy
  cases hqueue : w.queues.get id with
  | none => exact ⟨none, by simp [EchoPhase.lookedUp]⟩
  | some queue =>
    simp only [EchoPhase.lookedUp]
    refine Service.Keeps.bind (.tryCatch (.request rfl fun x i w y hy => ?_))
    cases hcontents : w.contents queue with
    | nil =>
      simp only [echoService, hcontents, Option.mem_def, Option.ite_none_right_eq_some] at hy
      obtain ⟨-, hy⟩ := hy
      obtain rfl := Option.some.inj hy
      refine Service.Keeps.bind (.request rfl fun x i w y hy => ?_)
      obtain rfl := Option.some.inj hy
      exact ⟨none, rfl⟩
    | cons result results =>
      simp only [echoService, hcontents, Option.mem_def] at hy
      obtain rfl := Option.some.inj hy
      cases hchannel : result.channelId with
      | none =>
        simp only [hchannel]
        refine Service.Keeps.bind (.request rfl fun x i w y hy => ?_)
        obtain rfl := Option.some.inj hy
        exact ⟨some result, rfl⟩
      | some channelId =>
        simp only [hchannel]
        refine Service.Keeps.bind (.request rfl fun x i w y hy => ?_)
        obtain rfl := Option.some.inj hy
        exact ⟨some result, rfl⟩

/-- The originate has ended with no queue, unless ARI has refused it. -/
def EchoPhase.Ends (k : EchoPhase) : Prop := k.holds = none ∨ ∃ id, k = .abandoned id

theorem EchoPhase.Idle.holds (h : k.Idle) : k.holds = none := by
  obtain rfl | ⟨id, result, rfl⟩ := h <;> rfl

theorem originateFromMobile_keeps (user : User) (request : CallRequest) :
    echoService.Keeps (fun k _ => k.Idle) (fun k _ => k.Ends) .fresh
      (originateFromMobile user request) := by
  have houter {α : Type} {p : EchoCode α} (hp : p.Asks EchoRequest.Outer) :
      echoService.Keeps (fun k' _ => k' = .fresh) (fun k' _ => k' = .fresh) .fresh p :=
    outer_keeps (.inl rfl) hp
  have hends (k : EchoPhase) (_ : EchoExn) (hk : k = .fresh) : k.Ends := .inl (by rw [hk]; rfl)
  unfold originateFromMobile
  refine (houter user.mobilePhoneNumber_asks).after (fun k number hk => ?_) hends
  obtain rfl := hk
  split
  · exact .inl rfl
  · rename_i sourceMobile _
    refine (houter user.mainLine_asks).after (fun k lineId hk => ?_) hends
    obtain rfl := hk
    refine (houter (user.lineGet_asks lineId)).after (fun k line hk => ?_) hends
    obtain rfl := hk
    refine (houter (extensionExists_asks _ _ _)).after (fun k exists_ hk => ?_) hends
    obtain rfl := hk
    split
    · refine Service.Keeps.bind (.request (.inr rfl) fun x₀ i w y hy => ?_)
      simp only [echoService, Option.mem_def, Option.ite_none_left_eq_some] at hy
      obtain ⟨-, hy⟩ := hy
      obtain rfl := Option.some.inj hy
      refine Service.Keeps.bind (.request trivial fun x i w y hy => ?_)
      obtain rfl := Option.some.inj hy
      cases x.reply (.channelsOriginate _) with
      | error e => exact .inr ⟨x₀.uuid4, rfl⟩
      | ok channelId =>
        refine Service.Keeps.bind (.tryCatch ((wait_keeps 5).mono (fun k channelId hk => ?_)
          fun k e hk => ?_))
        · obtain ⟨result, rfl⟩ := hk
          have hget : Asks EchoRequest.Outer (send (.channelsGet channelId)) := .request trivial
          refine (outer_keeps (.inr ⟨_, result, rfl⟩) hget).mono (fun k _ hk => ?_)
            fun k _ hk => ?_
          · rw [hk]
            exact .inr ⟨_, result, rfl⟩
          · rw [hk]
            exact .inl rfl
        · obtain ⟨result, rfl⟩ := hk
          split <;> exact .inl rfl
    · exact .inl rfl

theorem originate_keeps (tenantUuid : String) (request : CallRequest) :
    echoService.Keeps (fun k _ => k.holds = none) (fun k _ => k.Ends) .fresh
      (originate tenantUuid request) := by
  have hends (k : EchoPhase) (_ : EchoExn) (hk : k = .fresh) : k.Ends := .inl (by rw [hk]; rfl)
  unfold originate
  refine (outer_keeps (.inl rfl) (extensionExists_asks _ _ _)).after (fun k exists_ hk => ?_) hends
  obtain rfl := hk
  split
  · refine (outer_keeps (.inl rfl) (.bind (User.get_asks _) fun _ => .pure _)).after
      (fun k _ hk => ?_) hends
    obtain rfl := hk
    have hchannel : echoService.Keeps (fun k _ => k.Idle) (fun k _ => k.Ends) .fresh
        (originateChannel ⟨request.source.user, tenantUuid⟩ request) := by
      unfold originateChannel
      split
      · exact originateFromMobile_keeps _ request
      · refine (outer_keeps (.inl rfl) (originateFromLine_asks _ request)).mono
          (fun k _ hk => .inl hk) hends
    refine hchannel.after (fun k channelId hk => ?_) fun _ _ hk => hk
    refine (outer_keeps hk (refreshCallFromChannel_asks channelId)).after (fun k' _ hk' => ?_)
      fun k' _ hk' => .inl ?_
    · rw [hk']
      exact hk.holds
    · rw [hk']
      exact hk.holds
  · exact .inl rfl

theorem setDialEchoResult_keeps (result : DialEchoResult) :
    echoService.Keeps (fun k _ => k.holds = none) (fun k _ => k.Ends) (.setting id result)
      (setDialEchoResult id result) := by
  unfold setDialEchoResult
  refine Service.Keeps.bind (.request rfl fun x i w y hy => ?_)
  obtain rfl := Option.some.inj hy
  cases w.queues.get id with
  | none => rfl
  | some queue =>
    refine .request ⟨rfl, rfl⟩ fun x i w y hy => ?_
    obtain rfl := Option.some.inj hy
    rfl

theorem onUserEvent_keeps (event : UserEvent) :
    echoService.Keeps (fun k _ => k.holds = none) (fun k _ => k.Ends) event.phase
      (onUserEvent event) := by
  obtain ⟨name, id, channelId⟩ := event
  cases name with
  | none => exact .inl rfl
  | some name =>
    unfold onUserEvent
    by_cases hname : name = "dial_echo"
    · subst hname
      cases id with
      | none => exact .inl rfl
      | some id =>
        cases channelId with
        | none => exact .inl rfl
        | some channelId => exact setDialEchoResult_keeps ⟨some channelId⟩
    · have hphase : UserEvent.phase ⟨some name, id, channelId⟩ = .settled := by
        unfold UserEvent.phase
        split
        · rename_i heq _ _
          exact absurd (Option.some.inj heq) hname
        · rfl
      simp only [hname, ne_eq, not_false_eq_true, if_true, hphase]
      rfl

/-- Every program keeps to its phases, and ends without a queue, or abandoned. -/
theorem echo_launch_keeps (job : EchoJob) (w w' : EchoWorld) (k : EchoPhase)
    (p : EchoCode (Option OriginatedCall)) (h : echoSystem.launch job w = some (w', k, p)) :
    echoService.Keeps (fun k _ => k.holds = none) (fun k _ => k.Ends) k p := by
  obtain ⟨rfl, rfl, rfl⟩ : w = w' ∧ job.phase = k ∧ job.code = p := by
    simpa [echoSystem] using h
  cases job with
  | originate tenantUuid request =>
    exact (originate_keeps tenantUuid request).after (fun _ _ hk => hk) fun _ _ hk => hk
  | userEvent event => exact (onUserEvent_keeps event).after (fun _ _ hk => hk) fun _ _ hk => hk
  | setResult id result =>
    exact (setDialEchoResult_keeps result).after (fun _ _ hk => hk) fun _ _ hk => hk

end Contracts

/-! ## Moves -/

/-- What an answer does, by the phase and the request. -/
inductive Moves (x : Outside) (w : EchoWorld) :
    EchoPhase → EchoRequest → EchoWorld → EchoPhase → Prop
  | outer {k : EchoPhase} {r : EchoRequest} (hk : k.Idle) (hr : r.Outer) : Moves x w k r w k
  | register (h : x.uuid4 ∉ w.owners) :
      Moves x w .fresh .newQueue (w.register x.uuid4) (.registered x.uuid4)
  | accepted {id : String} {arguments : OriginateArguments}
      (h : isOk (x.reply (.channelsOriginate arguments)) = true) :
      Moves x w (.registered id) (.channelsOriginate arguments) w (.originated id)
  | refused {id : String} {arguments : OriginateArguments}
      (h : isOk (x.reply (.channelsOriginate arguments)) = false) :
      Moves x w (.registered id) (.channelsOriginate arguments) w (.abandoned id)
  | lookUp {id : String} {queue : ℕ} (h : w.queues.get id = some queue) :
      Moves x w (.originated id) (.getQueue id) w (.waiting id queue)
  | miss {id : String} (h : w.queues.get id = none) :
      Moves x w (.originated id) (.getQueue id) w (.closed id none)
  | receive {id : String} {queue timeout : ℕ} {result : DialEchoResult}
      {results : List DialEchoResult} (h : w.contents queue = result :: results) :
      Moves x w (.waiting id queue) (.queueGet queue timeout)
        { w with contents := Function.update w.contents queue results } (.received id result)
  | expire {id : String} {queue timeout : ℕ} :
      Moves x w (.waiting id queue) (.queueGet queue timeout) w (.expired id)
  | remove {id : String} {result : DialEchoResult} :
      Moves x w (.received id result) (.popQueue id) { w with queues := w.queues.pop id }
        (.closed id (some result))
  | removeExpired {id : String} :
      Moves x w (.expired id) (.popQueue id) { w with queues := w.queues.pop id } (.closed id none)
  | find {id : String} {queue : ℕ} {result : DialEchoResult}
      (h : w.queues.get id = some queue) :
      Moves x w (.setting id result) (.getQueue id) w (.found id queue result)
  | ignore {id : String} {result : DialEchoResult} (h : w.queues.get id = none) :
      Moves x w (.setting id result) (.getQueue id) w .settled
  | put {id : String} {queue : ℕ} {result : DialEchoResult} :
      Moves x w (.found id queue result) (.queuePut queue result) (w.put id queue result) .settled

theorem moves_of_answer {x : Outside} {i : ℕ} {w : EchoWorld} {k : EchoPhase} {r : EchoRequest}
    {y : Except EchoExn r.Reply × EchoWorld × EchoPhase} (ht : k.takes r)
    (ha : echoService.answer x i w k r = some y) : Moves x w k r y.2.1 y.2.2 := by
  have houter (hk : k.Idle) (hr : r.Outer) : Moves x w k r y.2.1 y.2.2 := by
    have hsame : y.2.1 = w ∧ y.2.2 = k := by
      cases r with
      | newQueue | getQueue | popQueue | queueGet | queuePut => exact hr.elim
      | channelsOriginate arguments =>
        obtain rfl := Option.some.inj ha
        obtain rfl | ⟨id, result, rfl⟩ := hk <;> exact ⟨rfl, rfl⟩
      | showDialplan | usersGet | linesGet | endpointsGet | channelsGet | makeCall =>
        obtain rfl := Option.some.inj ha
        exact ⟨rfl, rfl⟩
    rw [hsame.1, hsame.2]
    exact .outer hk hr
  match k, r, ht with
  | .closed id result, _, hr => exact houter (.inr ⟨id, result, rfl⟩) hr
  | .fresh, _, .inl hr => exact houter (.inl rfl) hr
  | .fresh, _, .inr rfl =>
    simp only [echoService, Option.ite_none_left_eq_some] at ha
    obtain ⟨hfresh, ha⟩ := ha
    obtain rfl := Option.some.inj ha
    exact .register hfresh
  | .registered id, .channelsOriginate arguments, _ =>
    obtain rfl := Option.some.inj ha
    cases haccepted : isOk (x.reply (.channelsOriginate arguments)) with
    | true =>
      simp only [EchoPhase.answered]
      exact .accepted haccepted
    | false =>
      simp only [EchoPhase.answered]
      exact .refused haccepted
  | .originated id, .getQueue _, rfl =>
    obtain rfl := Option.some.inj ha
    cases hqueue : w.queues.get id with
    | some queue =>
      simp only [EchoPhase.lookedUp]
      exact .lookUp hqueue
    | none =>
      simp only [EchoPhase.lookedUp]
      exact .miss hqueue
  | .waiting id queue, .queueGet _ timeout, rfl =>
    cases hcontents : w.contents queue with
    | nil =>
      simp only [echoService, hcontents, Option.ite_none_right_eq_some] at ha
      obtain ⟨-, ha⟩ := ha
      obtain rfl := Option.some.inj ha
      exact .expire
    | cons result results =>
      simp only [echoService, hcontents] at ha
      obtain rfl := Option.some.inj ha
      exact .receive hcontents
  | .received id result, .popQueue _, rfl =>
    obtain rfl := Option.some.inj ha
    exact .remove
  | .expired id, .popQueue _, rfl =>
    obtain rfl := Option.some.inj ha
    exact .removeExpired
  | .setting id result, .getQueue _, rfl =>
    obtain rfl := Option.some.inj ha
    cases hqueue : w.queues.get id with
    | some queue =>
      simp only [EchoPhase.lookedUp]
      exact .find hqueue
    | none =>
      simp only [EchoPhase.lookedUp]
      exact .ignore hqueue
  | .found id queue result, .queuePut _ _, ⟨rfl, rfl⟩ =>
    obtain rfl := Option.some.inj ha
    exact .put

/-! ## Who holds a queue -/

section Tracking

variable {w w' : EchoWorld} {ph : ℕ → Option EchoPhase} {i : ℕ} {k k' : EchoPhase} {x : Outside}
  {r : EchoRequest} {id : String}

/-- The request of a program. -/
def requesting (ph : ℕ → Option EchoPhase) (i : ℕ) : Option String :=
  (ph i).bind EchoPhase.request

/-- The request of a program whose queue is in the table. -/
def holding (ph : ℕ → Option EchoPhase) (i : ℕ) : Option String := (ph i).bind EchoPhase.holds

theorem requesting_update :
    requesting (Function.update ph i (some k)) = Function.update (requesting ph) i k.request := by
  funext j
  unfold requesting
  by_cases hj : j = i
  · subst hj
    simp
  · simp [Function.update_of_ne hj]

theorem holding_update :
    holding (Function.update ph i (some k)) = Function.update (holding ph) i k.holds := by
  funext j
  unfold holding
  by_cases hj : j = i
  · subst hj
    simp
  · simp [Function.update_of_ne hj]

theorem EchoPhase.request_of_holds (h : k.holds = some id) : k.request = some id := by
  cases k with
  | closed id' result => cases h
  | _ => exact h

theorem requesting_of_holding (h : holding ph i = some id) : requesting ph i = some id := by
  obtain ⟨k, hk, hholds⟩ := Option.bind_eq_some_iff.mp h
  exact Option.bind_eq_some_iff.mpr ⟨k, hk, k.request_of_holds hholds⟩

/-- The queue that a program has at hand is that of its request, and a result that it has got
was set for its request. -/
def EchoPhase.Own (w : EchoWorld) : EchoPhase → Prop
  | .waiting id queue | .found id queue _ => w.owners[queue]? = some id
  | .received id result | .closed id (some result) => (id, result) ∈ w.results
  | _ => True

/-- The manager has gone on: there are more queues, and more results have been set. -/
structure EchoWorld.Grows (w w' : EchoWorld) : Prop where
  owners : w.owners <+: w'.owners
  results : ∀ p ∈ w.results, p ∈ w'.results

theorem EchoWorld.Grows.owner {queue : ℕ} (h : w.Grows w') (hq : w.owners[queue]? = some id) :
    w'.owners[queue]? = some id := by
  obtain ⟨more, hmore⟩ := h.owners
  obtain ⟨hlt, -⟩ := List.getElem?_eq_some_iff.mp hq
  rw [← hmore, List.getElem?_append_left hlt, hq]

theorem EchoPhase.Own.grow (h : k.Own w) (hgrows : w.Grows w') : k.Own w' := by
  cases k with
  | waiting id queue => exact hgrows.owner h
  | found id queue result => exact hgrows.owner h
  | received id result => exact hgrows.results _ h
  | closed id result =>
    cases result with
    | none => trivial
    | some result => exact hgrows.results _ h
  | _ => trivial

/-- The table has the queues of the programs that hold one, every request is that of one
program, and the results in a queue were set for its request. -/
structure Tracked (w : EchoWorld) (ph : ℕ → Option EchoPhase) : Prop where
  table : ∀ id queue, w.queues.get id = some queue → w.owners[queue]? = some id
  held : ∀ id, (w.queues.get id).isSome ↔ ∃ i, holding ph i = some id
  unique : ∀ i j id, requesting ph i = some id → requesting ph j = some id → i = j
  issued : ∀ i id, requesting ph i = some id → id ∈ w.owners
  own : ∀ i k, ph i = some k → k.Own w
  contents : ∀ queue, ∀ result ∈ w.contents queue, ∃ id,
    w.owners[queue]? = some id ∧ (id, result) ∈ w.results

namespace Tracked

/-- A step that neither makes nor removes a queue. -/
theorem move (h : Tracked w ph) (hi : ph i = some k) (hgrows : w.Grows w')
    (hqueues : w'.queues = w.queues) (hholds : k'.holds = k.holds)
    (hrequest : k'.request = k.request) (hown : k'.Own w')
    (hcontents : ∀ queue, ∀ result ∈ w'.contents queue, ∃ id,
      w'.owners[queue]? = some id ∧ (id, result) ∈ w'.results) :
    Tracked w' (Function.update ph i (some k')) := by
  have hholding : holding (Function.update ph i (some k')) = holding ph := by
    have hk : holding ph i = k'.holds := by rw [hholds, holding, hi, Option.bind_some]
    rw [holding_update, ← hk, Function.update_eq_self]
  have hrequesting : requesting (Function.update ph i (some k')) = requesting ph := by
    have hk : requesting ph i = k'.request := by
      rw [hrequest, requesting, hi, Option.bind_some]
    rw [requesting_update, ← hk, Function.update_eq_self]
  refine ⟨?_, ?_, ?_, ?_, ?_, hcontents⟩
  · intro id queue hq
    rw [hqueues] at hq
    exact hgrows.owner (h.table id queue hq)
  · rw [hqueues, hholding]
    exact h.held
  · rw [hrequesting]
    exact h.unique
  · rw [hrequesting]
    exact fun j id hj => hgrows.owners.subset (h.issued j id hj)
  · exact System.forall_update (fun j k hj => (h.own j k hj).grow hgrows) hown

/-- The same, without a change of the manager. -/
theorem stay (h : Tracked w ph) (hi : ph i = some k) (hholds : k'.holds = k.holds)
    (hrequest : k'.request = k.request) (hown : k'.Own w) :
    Tracked w (Function.update ph i (some k')) :=
  h.move hi ⟨List.prefix_rfl, fun _ hp => hp⟩ rfl hholds hrequest hown h.contents

/-- A request is registered. -/
theorem register (h : Tracked w ph) (hi : ph i = some .fresh) (hid : id ∉ w.owners) :
    Tracked (w.register id) (Function.update ph i (some (.registered id))) := by
  have hgrows : w.Grows (w.register id) :=
    ⟨List.prefix_append _ _, fun _ hp => hp⟩
  have hfree : holding ph i = none := by rw [holding, hi]; rfl
  refine ⟨?_, ?_, ?_, ?_, ?_, ?_⟩
  · intro id' queue hq
    unfold EchoWorld.register at hq ⊢
    rw [Effect.Dict.get_set] at hq
    split at hq
    · rename_i heq
      obtain rfl := Option.some.inj hq
      rw [List.getElem?_concat_length, heq]
    · exact hgrows.owner (h.table id' queue hq)
  · intro id'
    unfold EchoWorld.register
    rw [Effect.Dict.get_set, holding_update]
    by_cases heq : id' = id
    · subst heq
      rw [if_pos rfl]
      exact ⟨fun _ => ⟨i, Function.update_self ..⟩, fun _ => rfl⟩
    · rw [if_neg heq, h.held id']
      constructor
      · rintro ⟨j, hj⟩
        have hne : j ≠ i := by
          rintro rfl
          rw [hfree] at hj
          cases hj
        exact ⟨j, by rw [Function.update_of_ne hne, hj]⟩
      · rintro ⟨j, hj⟩
        by_cases hne : j = i
        · subst hne
          rw [Function.update_self] at hj
          exact absurd (Option.some.inj hj).symm heq
        · exact ⟨j, by rwa [Function.update_of_ne hne] at hj⟩
  · intro j j' id' hj hj'
    rw [requesting_update] at hj hj'
    obtain hji | ⟨hji, hold⟩ : j = i ∧ id' = id ∨ j ≠ i ∧ requesting ph j = some id' := by
      by_cases hji : j = i
      · subst hji
        rw [Function.update_self] at hj
        exact .inl ⟨rfl, (Option.some.inj hj).symm⟩
      · rw [Function.update_of_ne hji] at hj
        exact .inr ⟨hji, hj⟩
    · obtain ⟨rfl, rfl⟩ := hji
      by_contra hne
      rw [Function.update_of_ne (Ne.symm hne)] at hj'
      exact hid (h.issued j' id' hj')
    · by_cases hji' : j' = i
      · subst hji'
        rw [Function.update_self] at hj'
        obtain rfl := Option.some.inj hj'
        exact absurd (h.issued j _ hold) hid
      · rw [Function.update_of_ne hji'] at hj'
        exact h.unique j j' id' hold hj'
  · intro j id' hj
    rw [requesting_update] at hj
    unfold EchoWorld.register
    by_cases hji : j = i
    · subst hji
      rw [Function.update_self] at hj
      obtain rfl := Option.some.inj hj
      simp
    · rw [Function.update_of_ne hji] at hj
      exact List.mem_append_left _ (h.issued j id' hj)
  · exact System.forall_update (fun j k hj => (h.own j k hj).grow hgrows) trivial
  · intro queue result hresult
    unfold EchoWorld.register at hresult
    dsimp only at hresult
    by_cases hqueue : queue = w.owners.length
    · subst hqueue
      rw [Function.update_self] at hresult
      cases hresult
    · rw [Function.update_of_ne hqueue] at hresult
      obtain ⟨id', howner, hmem⟩ := h.contents queue result hresult
      exact ⟨id', hgrows.owner howner, hmem⟩

/-- The queue of a request is removed. -/
theorem remove (h : Tracked w ph) (hi : ph i = some k) (hholds : k.holds = some id)
    (hholds' : k'.holds = none) (hrequest : k'.request = k.request) (hown : k'.Own w) :
    Tracked { w with queues := w.queues.pop id } (Function.update ph i (some k')) := by
  have hholding : holding ph i = some id := by rw [holding, hi]; exact hholds
  have hrequesting : requesting (Function.update ph i (some k')) = requesting ph := by
    have hk : requesting ph i = k'.request := by
      rw [hrequest, requesting, hi, Option.bind_some]
    rw [requesting_update, ← hk, Function.update_eq_self]
  refine ⟨?_, ?_, ?_, ?_, ?_, h.contents⟩
  · intro id' queue hq
    dsimp only at hq
    rw [Effect.Dict.get_pop] at hq
    split at hq
    · cases hq
    · exact h.table id' queue hq
  · intro id'
    dsimp only
    rw [Effect.Dict.get_pop, holding_update, hholds']
    by_cases heq : id' = id
    · subst heq
      rw [if_pos rfl]
      refine ⟨nofun, ?_⟩
      rintro ⟨j, hj⟩
      by_cases hji : j = i
      · subst hji
        rw [Function.update_self] at hj
        cases hj
      · rw [Function.update_of_ne hji] at hj
        exact absurd (h.unique j i id' (requesting_of_holding hj)
          (requesting_of_holding hholding)) hji
    · rw [if_neg heq, h.held id']
      constructor
      · rintro ⟨j, hj⟩
        have hne : j ≠ i := by
          rintro rfl
          rw [hholding] at hj
          exact heq (Option.some.inj hj).symm
        exact ⟨j, by rw [Function.update_of_ne hne, hj]⟩
      · rintro ⟨j, hj⟩
        by_cases hji : j = i
        · subst hji
          rw [Function.update_self] at hj
          cases hj
        · exact ⟨j, by rwa [Function.update_of_ne hji] at hj⟩
  · rw [hrequesting]
    exact h.unique
  · rw [hrequesting]
    exact h.issued
  · exact System.forall_update h.own hown

/-- Every answer keeps the table of those who hold a queue. -/
theorem answer (h : Tracked w ph) (hi : ph i = some k) (hmoves : Moves x w k r w' k') :
    Tracked w' (Function.update ph i (some k')) := by
  have hown := h.own i k hi
  cases hmoves with
  | outer hk hr => exact h.stay hi rfl rfl hown
  | register hid => exact h.register hi hid
  | accepted haccepted => exact h.stay hi rfl rfl trivial
  | refused hrefused => exact h.stay hi rfl rfl trivial
  | lookUp hqueue => exact h.stay hi rfl rfl (h.table _ _ hqueue)
  | @miss id hqueue =>
    -- a request that is registered is in the table
    have hheld : holding ph i = some id := by rw [holding, hi]; rfl
    have hsome := (h.held id).mpr ⟨i, hheld⟩
    rw [hqueue] at hsome
    cases hsome
  | @receive id queue timeout result results hcontents =>
    refine h.move hi ⟨List.prefix_rfl, fun _ hp => hp⟩ rfl rfl rfl ?_ ?_
    · obtain ⟨id', howner, hmem⟩ := h.contents queue result (by rw [hcontents]; simp)
      have hid : w.owners[queue]? = some id := hown
      rw [howner] at hid
      exact Option.some.inj hid ▸ hmem
    · intro queue' result' hresult
      by_cases hqueue : queue' = queue
      · subst hqueue
        dsimp only at hresult
        rw [Function.update_self] at hresult
        exact h.contents _ _ (by rw [hcontents]; exact List.mem_cons_of_mem _ hresult)
      · dsimp only at hresult
        rw [Function.update_of_ne hqueue] at hresult
        exact h.contents _ _ hresult
  | expire => exact h.stay hi rfl rfl trivial
  | remove => exact h.remove hi rfl rfl rfl hown
  | removeExpired => exact h.remove hi rfl rfl rfl trivial
  | find hqueue => exact h.stay hi rfl rfl (h.table _ _ hqueue)
  | ignore hqueue => exact h.stay hi rfl rfl trivial
  | @put id queue result =>
    have hgrows : w.Grows (w.put id queue result) :=
      ⟨List.prefix_rfl, fun _ hp => List.mem_append_left _ hp⟩
    refine h.move hi hgrows rfl rfl rfl trivial ?_
    intro queue' result' hresult
    unfold EchoWorld.put at hresult ⊢
    by_cases hqueue : queue' = queue
    · subst hqueue
      dsimp only at hresult
      rw [Function.update_self] at hresult
      rcases List.mem_append.mp hresult with hold | hnew
      · obtain ⟨id', howner, hmem⟩ := h.contents _ _ hold
        exact ⟨id', howner, List.mem_append_left _ hmem⟩
      · obtain rfl := List.mem_singleton.mp hnew
        exact ⟨id, hown, by simp⟩
    · dsimp only at hresult
      rw [Function.update_of_ne hqueue] at hresult
      obtain ⟨id', howner, hmem⟩ := h.contents _ _ hresult
      exact ⟨id', howner, List.mem_append_left _ hmem⟩

end Tracked

end Tracking

/-! ## Runs -/

section Runs

variable {s s' : EchoPool} {a : EchoLabel} {C : EchoPool → EchoLabel → Prop}

theorem UserEvent.phase_cases (event : UserEvent) :
    (∃ id result, event.phase = .setting id result) ∨ event.phase = .settled := by
  unfold UserEvent.phase
  split
  · exact .inl ⟨_, _, rfl⟩
  · exact .inr rfl

theorem EchoJob.requests_nothing (job : EchoJob) :
    job.phase.holds = none ∧ job.phase.request = none ∧ ∀ w, job.phase.Own w := by
  cases job with
  | originate => exact ⟨rfl, rfl, fun _ => trivial⟩
  | setResult => exact ⟨rfl, rfl, fun _ => trivial⟩
  | userEvent event =>
    show event.phase.holds = none ∧ event.phase.request = none ∧ ∀ w, event.phase.Own w
    obtain ⟨id, result, hphase⟩ | hphase := event.phase_cases
    · rw [hphase]
      exact ⟨rfl, rfl, fun _ => trivial⟩
    · rw [hphase]
      exact ⟨rfl, rfl, fun _ => trivial⟩

/-- A program that starts holds no queue. -/
theorem Tracked.start {w : EchoWorld} {ph : ℕ → Option EchoPhase} {i : ℕ} (h : Tracked w ph)
    (hi : ph i = none) (job : EchoJob) :
    Tracked w (Function.update ph i (some job.phase)) := by
  obtain ⟨hholds, hrequest, hown⟩ := job.requests_nothing
  have hholding : holding (Function.update ph i (some job.phase)) = holding ph := by
    have hk : holding ph i = job.phase.holds := by rw [hholds, holding, hi]; rfl
    rw [holding_update, ← hk, Function.update_eq_self]
  have hrequesting : requesting (Function.update ph i (some job.phase)) = requesting ph := by
    have hk : requesting ph i = job.phase.request := by rw [hrequest, requesting, hi]; rfl
    rw [requesting_update, ← hk, Function.update_eq_self]
  refine ⟨h.table, ?_, ?_, ?_, System.forall_update h.own (hown w), h.contents⟩
  · rw [hholding]
    exact h.held
  · rw [hrequesting]
    exact h.unique
  · rw [hrequesting]
    exact h.issued

/-- In every run, failures and timeouts included, the table is that of those who hold a
queue. -/
theorem tracked_of_reachable (h : echoSystem.machine.Reachable s) :
    Tracked s.world s.phases := by
  refine System.invariant_phases echo_launch_keeps ?_ ?_ ?_ ?_ (System.reaches_of_reachable h)
  · rintro w ⟨hqueues, howners, hcontents, hresults⟩
    refine ⟨?_, ?_, nofun, nofun, nofun, ?_⟩
    · intro id queue hq
      rw [hqueues] at hq
      cases hq
    · intro id
      rw [hqueues]
      exact ⟨nofun, fun ⟨i, hi⟩ => by cases hi⟩
    · intro queue result hresult
      rw [hcontents queue] at hresult
      cases hresult
  · intro w ph i job w' k p htracked hi hlaunch
    obtain ⟨rfl, rfl, -⟩ : w = w' ∧ job.phase = k ∧ job.code = p := by
      simpa [echoSystem] using hlaunch
    exact htracked.start hi job
  · intro w ph i x k r y htracked hi htakes _ hanswer
    exact htracked.answer hi (moves_of_answer htakes hanswer)
  · intro w ph e
    exact nomatch e

/-- The program has returned or raised. -/
def Ended {α : Type} : EchoCode α → Prop
  | .ask .. => False
  | _ => True

/-- Nobody has waited for another request's result, whoever has returned or raised has no queue
left, and every queue is that of an originate under way. -/
structure NoWaiterLeft (s : EchoPool) : Prop where
  own : ∀ i id result, s.phases i = some (.received id result) ∨
    s.phases i = some (.closed id (some result)) → (id, result) ∈ s.world.results
  gone : ∀ i k p, s.tasks i = some (k, p) → Ended p →
    ∀ id, k.request = some id → s.world.queues.get id = none
  table : ∀ id queue, s.world.queues.get id = some queue →
    ∃ i k p, s.tasks i = some (k, p) ∧ ¬ Ended p ∧ k.request = some id

/-- No originate has been refused between the registration and the wait. -/
def NoneAbandoned (s : EchoPool) : Prop := ∀ i id, s.phases i ≠ some (.abandoned id)

theorem phases_of_tasks {i : ℕ} {k : EchoPhase} {p : EchoCode (Option OriginatedCall)}
    (h : s.tasks i = some (k, p)) : s.phases i = some k := by
  simp [Pool.phases, h]

theorem tasks_of_phases {i : ℕ} {k : EchoPhase} (h : s.phases i = some k) :
    ∃ p, s.tasks i = some (k, p) := by
  obtain ⟨⟨k', p⟩, ht, rfl⟩ := Option.map_eq_some_iff.mp h
  exact ⟨p, ht⟩

/-- A program that has ended holds no queue, unless it has been abandoned; one that has been
abandoned has ended. -/
theorem ended_cases (h : echoSystem.machine.Reachable s) {i : ℕ} {k : EchoPhase}
    {p : EchoCode (Option OriginatedCall)} (ht : s.tasks i = some (k, p)) :
    (Ended p → k.holds = none ∨ ∃ id, k = .abandoned id) ∧
      ∀ id, k = .abandoned id → Ended p := by
  have hkeeps := System.keeps_of_reaches echo_launch_keeps h i k p ht
  cases p with
  | ok call => exact ⟨fun _ => .inl hkeeps, fun _ _ => trivial⟩
  | error e => exact ⟨fun _ => hkeeps, fun _ _ => trivial⟩
  | ask r next =>
    refine ⟨fun hended => hended.elim, ?_⟩
    rintro id rfl
    exact (hkeeps.1 : False).elim

/-- Queues are left exactly by the originates that have been refused. -/
theorem noWaiterLeft_iff (h : echoSystem.machine.Reachable s) :
    NoWaiterLeft s ↔ NoneAbandoned s := by
  have htracked := tracked_of_reachable h
  constructor
  · intro hleft i id hphase
    obtain ⟨p, ht⟩ := tasks_of_phases hphase
    have hended := (ended_cases h ht).2 id rfl
    have hnone := hleft.gone i _ p ht hended id rfl
    have hholding : holding s.phases i = some id := by rw [holding, hphase]; rfl
    have hsome := (htracked.held id).mpr ⟨i, hholding⟩
    rw [hnone] at hsome
    cases hsome
  · intro hnone
    refine ⟨?_, ?_, ?_⟩
    · rintro i id result (hphase | hphase)
      · exact htracked.own i _ hphase
      · exact htracked.own i _ hphase
    · intro i k p ht hended id hrequest
      have hphase := phases_of_tasks ht
      have hholds : k.holds = none := by
        rcases (ended_cases h ht).1 hended with hholds | ⟨id', rfl⟩
        · exact hholds
        · exact absurd hphase (hnone i id')
      rw [← Option.not_isSome_iff_eq_none, htracked.held id]
      rintro ⟨j, hj⟩
      have hreq : requesting s.phases i = some id := by
        rw [requesting, hphase]
        exact hrequest
      obtain rfl := htracked.unique j i id (requesting_of_holding hj) hreq
      rw [holding, hphase, Option.bind_some, hholds] at hj
      cases hj
    · intro id queue hqueue
      obtain ⟨i, hi⟩ := (htracked.held id).mp (by rw [hqueue]; rfl)
      obtain ⟨k, hphase, hholds⟩ := Option.bind_eq_some_iff.mp hi
      obtain ⟨p, ht⟩ := tasks_of_phases hphase
      refine ⟨i, k, p, ht, fun hended => ?_, k.request_of_holds hholds⟩
      rcases (ended_cases h ht).1 hended with hnot | ⟨id', rfl⟩
      · rw [hnot] at hholds
        cases hholds
      · exact hnone i id' hphase

/-- ARI accepts the originate of an echo request. -/
def Accepted (_ : EchoWorld) (ph : ℕ → Option EchoPhase) (i : ℕ) (x : Outside) :
    EchoRequest → Prop
  | .channelsOriginate arguments =>
    ∀ k ∈ ph i, ∀ id, k = .registered id → isOk (x.reply (.channelsOriginate arguments)) = true
  | _ => True

/-- A step leaves a queue behind exactly when ARI refuses the originate in it. -/
theorem noneAbandoned_step (h : echoSystem.machine.Reachable s) (hnone : NoneAbandoned s)
    (hstep : echoSystem.machine.step a s = some s') :
    NoneAbandoned s' ↔ System.Answers Accepted s a := by
  obtain ⟨i, job, w, k, p, rfl, -, hlaunch, rfl⟩ | ⟨i, x, k, r, next, y, rfl, ht, ha, rfl⟩ |
    ⟨e, -⟩ := System.step_cases hstep
  · refine ⟨fun _ => trivial, fun _ j id => ?_⟩
    obtain ⟨-, rfl, -⟩ : s.world = w ∧ job.phase = k ∧ job.code = p := by
      simpa [echoSystem] using hlaunch
    rw [System.phases_update]
    by_cases hj : j = i
    · subst hj
      rw [Function.update_self]
      intro hphase
      have hholds := job.requests_nothing.1
      rw [Option.some.inj hphase] at hholds
      cases hholds
    · rw [Function.update_of_ne hj]
      exact hnone j id
  · have hphase := phases_of_tasks ht
    have htakes : k.takes r := (System.keeps_of_reaches echo_launch_keeps h i k _ ht).1
    have hmoves := moves_of_answer htakes ha
    have hasked : s.asked i = some r := by simp [Pool.asked, ht]
    have hanswers : System.Answers Accepted s (.answer i x : EchoLabel) ↔
        Accepted s.world s.phases i x r := by
      simp [System.Answers, hasked]
    -- only the phase of this program has changed
    have hrest : NoneAbandoned ⟨y.2.1, Function.update s.tasks i (some (y.2.2, next y.1))⟩ ↔
        ∀ id, y.2.2 ≠ .abandoned id := by
      unfold NoneAbandoned
      rw [System.phases_update]
      constructor
      · intro hall id hy
        exact hall i id (by rw [Function.update_self, hy])
      · intro hy j id
        by_cases hj : j = i
        · subst hj
          rw [Function.update_self]
          exact fun heq => hy id (Option.some.inj heq)
        · rw [Function.update_of_ne hj]
          exact hnone j id
    rw [hrest, hanswers]
    generalize y.2.1 = w' at hmoves
    generalize y.2.2 = k' at hmoves ⊢
    cases hmoves with
    | @refused id arguments hrefused =>
      constructor
      · exact fun hall => absurd rfl (hall id)
      · intro haccepted
        have htrue := haccepted _ hphase id rfl
        rw [hrefused] at htrue
        cases htrue
    | @accepted id arguments haccepted =>
      exact ⟨fun _ _ _ _ _ => haccepted, by simp⟩
    | outer hk hr =>
      refine ⟨fun _ => ?_, fun _ id hid => ?_⟩
      · cases r with
        | channelsOriginate arguments =>
          intro k' hk' id hid
          rw [Option.mem_def.mp hk'] at hphase
          obtain rfl := Option.some.inj hphase
          subst hid
          obtain hk | ⟨id', result, hk⟩ := hk <;> cases hk
        | _ => trivial
      · exact hnone i id (hid ▸ hphase)
    | _ => exact ⟨fun _ => trivial, by simp⟩
  · exact e.elim

/-- In every run in which ARI accepts the originates from mobiles, nobody waits for another
request's result, and every queue is removed before its originate ends; the first originate
that is refused leaves its queue. -/
theorem no_waiter_left (h : echoSystem.machine.Reaches (System.Answers Accepted) s) :
    NoWaiterLeft s ∧ ∀ a s', echoSystem.machine.step a s = some s' →
      (NoWaiterLeft s' ↔ System.Answers Accepted s a) := by
  have hreachable : echoSystem.machine.Reachable s := h.mono fun _ _ _ => trivial
  have hnone : NoneAbandoned s := by
    refine h.invariant_along (I := NoneAbandoned) (fun s hs i id hphase => ?_)
      fun s a s' hreach hnone hC hstep => ?_
    · simp [Pool.phases, hs.2 i] at hphase
    · exact (noneAbandoned_step (hreach.mono fun _ _ _ => trivial) hnone hstep).mpr hC
  refine ⟨(noWaiterLeft_iff hreachable).mpr hnone, fun a s' hstep => ?_⟩
  rw [noWaiterLeft_iff (.step hreachable trivial hstep)]
  exact noneAbandoned_step hreachable hnone hstep

end Runs

/-! ## Calls from one mobile -/

/-- The answers for a user with a mobile phone, by whether ARI accepts the originate. -/
def mobileUser (accepted : Bool) : (r : EchoRequest) → Except EchoExn r.Reply
  | .showDialplan .. => .ok ["1"]
  | .usersGet .. => .ok ⟨[1], some "5551234"⟩
  | .linesGet .. => .ok ⟨⟨"sip", "abc"⟩, "default"⟩
  | .endpointsGet .. => .ok "online"
  | .channelsOriginate _ => if accepted then .ok "leg" else .error .ariError
  | .channelsGet channelId => .ok (channelId.getD "")
  | .makeCall _ => .ok ()
  | _ => .error .keyError

/-- An answer from outside, in time. -/
def outside (accepted : Bool) : Outside := ⟨mobileUser accepted, "request", false⟩

/-- Alice calls 1001 from the mobile. -/
def fromMobile : EchoJob :=
  .originate "tenant" ⟨⟨"alice", true, false, none, some false⟩, ⟨"default", "1001", 1⟩, ∅⟩

/-- The mobile has answered. -/
def mobileAnswers : EchoJob := .userEvent ⟨some "dial_echo", some "request", some "mobile"⟩

/-- A program is answered, several times. -/
def answering (accepted : Bool) (i n : ℕ) : List EchoLabel :=
  List.replicate n (.answer i (outside accepted))

/-- No request has been registered, and no program runs. -/
def noRequests : EchoPool := ⟨⟨∅, fun _ => [], [], []⟩, fun _ => none⟩

theorem noRequests_init : echoSystem.machine.init noRequests :=
  ⟨⟨rfl, rfl, fun _ => rfl, rfl⟩, fun _ => rfl⟩

/-- Where a list of steps leads. -/
def echoAfter (steps : List EchoLabel) : EchoPool :=
  (echoSystem.machine.run steps noRequests).getD noRequests

theorem echoAfter_reaches {C : EchoPool → EchoLabel → Prop} {steps : List EchoLabel}
    (h : echoSystem.machine.Meets C steps noRequests) :
    echoSystem.machine.Reaches C (echoAfter steps) := by
  unfold echoAfter
  cases hrun : echoSystem.machine.run steps noRequests with
  | none => exact .init noRequests_init
  | some s => exact Machine.Reaches.run (.init noRequests_init) h hrun

/-- ARI refuses the originate. -/
def refusedCall : List EchoLabel := .start 0 fromMobile :: answering false 0 8

/-- **The originate has raised, and its queue is still in the table.** -/
theorem refused_queue_left : ¬ ∀ s, echoSystem.machine.Reachable s → NoWaiterLeft s := by
  intro hall
  have hleft := hall _ (echoAfter_reaches (Machine.meets_true refusedCall _))
  have htask : (echoAfter refusedCall).tasks 0 = some (.abandoned "request", .error .ariError) :=
    rfl
  have hnone := hleft.gone 0 _ _ htask trivial "request" rfl
  have hqueue : (echoAfter refusedCall).world.queues.get "request" = some 0 := rfl
  rw [hqueue] at hnone
  cases hnone

/-- ARI accepts the originate, the mobile answers while it is waited for, and the call is
returned. -/
def acceptedCall : List EchoLabel :=
  .start 0 fromMobile :: (answering true 0 9 ++
    .start 1 mobileAnswers :: (answering true 1 2 ++ answering true 0 5))

/-- A step that is answered by an ARI that accepts the originates. -/
def Accepting : EchoLabel → Prop
  | .answer _ x => x = outside true
  | _ => True

theorem answers_of_accepting {s : EchoPool} {a : EchoLabel} (h : Accepting a) :
    System.Answers Accepted s a := by
  cases a with
  | start i job => trivial
  | outside e => trivial
  | answer i x =>
    obtain rfl : x = outside true := h
    intro r hr
    cases r with
    | channelsOriginate arguments => exact fun _ _ _ _ => rfl
    | _ => trivial

theorem acceptedCall_accepting : ∀ a ∈ acceptedCall, Accepting a := by
  simp [acceptedCall, answering, Accepting]

/-- The queue of the call is gone after it. -/
theorem no_waiter_left_accepted :
    (echoAfter acceptedCall).tasks 0 =
      some (.closed "request" (some ⟨some "mobile"⟩), .ok (some ⟨"mobile", "1001"⟩)) ∧
    NoWaiterLeft (echoAfter acceptedCall) :=
  ⟨rfl, (no_waiter_left (echoAfter_reaches (Machine.meets_of_mem fun a ha _ =>
    answers_of_accepting (acceptedCall_accepting a ha)))).1⟩

end Calld.DialEcho
