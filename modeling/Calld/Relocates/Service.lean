/-
# The relocates plugin as a machine

Users ask for relocates, complete and cancel them; channels enter the stasis application
and leave it.  A handler looks its relocate up in the collection and then waits for the
lock of the relocate, so that the two are sections of their own: the relocate may have moved
on in between.  A creation is cut at the insertion into the collection, which is atomic with
the search for duplicates, at the lock, and where Asterisk has originated the recipient and
calld does not know it yet.
-/
import Calld.Effect.Machine
import Calld.Relocates.Relocate

namespace Calld.Relocates

open Effect Effect.Program

/-! ## Tasks -/

/-- `LocationField.locations`. -/
inductive Location where
  | line (lineId : ℕ)
  | mobile
  deriving DecidableEq, Repr

/-- A request to create a relocate. -/
structure RelocateRequest where
  initiatorCall : ChannelId
  location : Location
  completions : List Completion
  timeout : ℕ
  autoAnswer : Bool
  userUuid : UserUuid
  deriving DecidableEq, Repr

/-- How a channel is seen to leave. -/
inductive HangupEvent where
  | channelDestroyed
  | stasisEnd
  deriving DecidableEq, Repr

/-- What is left of a handler. -/
inductive Task where
  /-- `create_from_user`, up to the lock against duplicates -/
  | createFromUser (r : RelocateRequest)
  /-- `create`, its section against duplicates -/
  | insert (u : RelocateUuid) (r : RelocateRequest) (relocatedChannel : ChannelId)
      (endpoint : String)
  | initiate (u : RelocateUuid) (endpoint : String)
  /-- the recipient has been originated, and the lock is held -/
  | started (u : RelocateUuid) (c : ChannelId)
  | onStasisStart (args : List String)
  | stasisStarted (u : RelocateUuid) (role : String)
  | onHangup (event : HangupEvent) (c : ChannelId)
  | hangupOf (u : RelocateUuid) (c : ChannelId)
  | completeFromUser (u : RelocateUuid) (userUuid : UserUuid)
  | complete (u : RelocateUuid)
  | cancelFromUser (u : RelocateUuid) (userUuid : UserUuid)
  | cancel (u : RelocateUuid)
  deriving DecidableEq, Repr

/-! ## The collection -/

/-- `RelocateCollection.get`. -/
def World.get (w : World) (u : RelocateUuid) (userUuid : Option UserUuid) :
    Option RelocateUuid :=
  if u ∈ w.collection then
    match userUuid with
    | none => some u
    | some userUuid =>
      if userUuid ≠ "" ∧ (w.relocates u).initiator ≠ some userUuid then none else some u
  else none

/-- `RelocateCollection.find_by_channel`. -/
def World.findByChannel (w : World) (c : ChannelId) : Option RelocateUuid :=
  w.collection.find? fun u => (w.relocates u).has c

/-! ## Creations -/

/-- `AUTO_ANSWER_VARIABLES`. -/
def autoAnswerVariables : Dict String :=
  [("PJSIP_HEADER(add,Alert-Info)", "<http://wazo.community>;info=alert-autoanswer;delay=0;xivo-autoanswer"),
   ("PJSIP_HEADER(add,Answer-After)", "0"),
   ("PJSIP_HEADER(add,Answer-Mode)", "Auto"),
   ("PJSIP_HEADER(add,Call-Info)", ";answer-after=0"),
   ("PJSIP_HEADER(add,P-Auto-answer)", "normal")]

/-- The variables of the recipient. -/
def RelocateRequest.variables_ (r : RelocateRequest) (tenantUuid : Option TenantUuid) :
    Dict String :=
  let tenant : Dict String := match tenantUuid with
    | none | some "" => []
    | some tenantUuid => [("WAZO_TENANT_UUID", tenantUuid)]
  let user : Dict String := match r.location with
    | .line _ => []
    | .mobile => [("WAZO_DEREFERENCED_USERUUID", r.userUuid)]
  tenant ++ user ++ if r.autoAnswer then autoAnswerVariables else []

/-- Whose call it is. -/
def checkUser (r : RelocateRequest) : Code Unit := do
  let userUuid ← outside (·.channelUser r.initiatorCall)
  if userUuid = some r.userUuid then pure () else throw .userPermissionDenied

/-- The line or the mobile of the user. -/
def checkLocation (r : RelocateRequest) : Code Unit := do
  let found ← catching isInvalidUser (match r.location with
    | .line lineId => do
      let _ ← outside (·.lineInterface r.userUuid lineId)
      pure ()
    | .mobile => do
      let _ ← outside (·.mobilePhoneNumber r.userUuid)
      let _ ← outside (·.mainLineContext r.userUuid)
      pure ())
  match found with
  | none => throw .relocateCreationError
  | some _ => pure ()

/-- The peer of a call. -/
def peerOf (c : ChannelId) : Code ChannelId :=
  tryCatch (outside (·.onlyConnectedChannel c)) fun e =>
    if e = .outside .tooManyChannels then throw .tooManyChannelCandidates
    else if e = .outside .notEnoughChannels then throw .relocateCreationError
    else throw e

/-- `channel.exists`. -/
def checkExists (c : ChannelId) : Code Unit := do
  if ← outside (·.channelExists c) then pure () else throw .relocateCreationError

/-- `destination_factory.from_type`. -/
def endpointOf : Code String :=
  tryCatch (outside (·.fromType)) fun e =>
    if e = .outside .invalidDestination then throw .relocateCreationError else throw e

/-- `Relocate(state_factory)`, of a user. -/
def newRelocate (userUuid : UserUuid) (vars : Dict String) : Code RelocateUuid := do
  let u ← ask (·.uuid4)
  change fun w => { w with
    uuids := insert u w.uuids
    relocates := Function.update w.relocates u
      { Relocate.new with initiator := some userUuid, recipientVariables := vars } }
  pure u

/-- `create_from_user`, up to the lock against duplicates. -/
def createFromUser (r : RelocateRequest) : Code (List Task) := do
  checkUser r
  let tenantUuid ← outside (·.channelTenant r.initiatorCall)
  checkLocation r
  let u ← newRelocate r.userUuid (r.variables_ tenantUuid)
  let relocatedChannel ← peerOf r.initiatorCall
  checkExists r.initiatorCall
  let endpoint ← endpointOf
  change fun w => { w with
    channels := insert relocatedChannel (insert r.initiatorCall w.channels) }
  pure [.insert u r relocatedChannel endpoint]

/-- `create`, its section against duplicates. -/
def insertRelocate (u : RelocateUuid) (r : RelocateRequest) (relocatedChannel : ChannelId)
    (endpoint : String) : Code (List Task) := do
  match ← look (·.findByChannel r.initiatorCall) with
  | some _ => throw .relocateAlreadyStarted
  | none => do
    change fun w => { w.update u fun relocate => { relocate with
        relocatedChannel := some relocatedChannel
        initiatorChannel := some r.initiatorCall
        completions := r.completions
        timeout := r.timeout } with
      collection := w.collection ++ [u]
      trace := w.trace ++ [.added u] }
    pure [.initiate u endpoint]

/-- The parameters of the originate of a relocate. -/
def Relocate.originateRequest (u : RelocateUuid) (r : Relocate) (endpoint : String) :
    OriginateRequest where
  endpoint := endpoint
  app := "callcontrol"
  appArgs := ["relocate", u, "recipient"]
  originator := r.relocatedChannel
  variables_ := r.recipientVariables
  timeout := r.timeout

/-- `RelocateStateReady.initiate`, up to the answer of Asterisk. -/
def initiate (u : RelocateUuid) (endpoint : String) : Code (List Task) := do
  let r ← look (·.relocates u)
  match r.state with
  | .ready =>
    match ← catching isHTTPError (outside (·.originate (r.originateRequest u endpoint))) with
    | none => do
      setState u .ended
      publish .ended u
      throw .relocateCreationError
    | some c => do
      change fun w => { w with
        locked := insert u w.locked
        channels := insert c w.channels
        trace := w.trace ++ [.originated u c] }
      pure [.started u c]
  | .recipientRing | .waitingForCompletion | .waitingForRelocated | .ended =>
    throw .attributeError

/-- `RelocateStateReady.initiate`, its end. -/
def started (u : RelocateUuid) (c : ChannelId) : Code (List Task) :=
  ensuring (do
    change fun w => w.update u fun r => { r with recipientChannel := some c }
    setState u .recipientRing
    publish .initiated u
    pure []) fun w => { w with locked := w.locked.erase u }

/-! ## Events and requests -/

/-- `on_stasis_start`, up to the lock. -/
def onStasisStart (args : List String) : Code (List Task) := do
  match args with
  | ["relocate", u, role] =>
    match ← look (·.get u none) with
    | none => throw .keyError
    | some u => pure [.stasisStarted u role]
  | _ => pure []

/-- `on_stasis_start`, under the lock. -/
def stasisStarted (u : RelocateUuid) (role : String) : Code (List Task) := do
  if role = "recipient" then invoke .recipientAnswered u
  else if role = "relocated" then invoke .relocatedAnswered u
  else pure ()
  pure []

/-- `on_hangup`, up to the lock. -/
def onHangup (c : ChannelId) : Code (List Task) := do
  match ← look (·.findByChannel c) with
  | none => pure []
  | some u => pure [.hangupOf u c]

/-- The operation that the hangup of a channel is. -/
def RelocateRole.hangup : RelocateRole → Operation
  | .relocated => .relocatedHangup
  | .initiator => .initiatorHangup
  | .recipient => .recipientHangup

/-- `on_hangup`, under the lock. -/
def hangupOf (u : RelocateUuid) (c : ChannelId) : Code (List Task) := do
  match ← look fun w => (w.relocates u).role c with
  | none => throw .keyError
  | some role => do
    invoke role.hangup u
    pure []

/-- `complete_from_user` and `cancel_from_user`, up to the lock. -/
def fromUser (u : RelocateUuid) (userUuid : UserUuid) (next : RelocateUuid → Task) :
    Code (List Task) := do
  match ← look (·.get u (some userUuid)) with
  | none => throw .noSuchRelocate
  | some u => pure [next u]

/-- The next section of a handler, with the tasks that follow it. -/
def Task.code : Task → Code (List Task)
  | .createFromUser r => Relocates.createFromUser r
  | .insert u r relocatedChannel endpoint => insertRelocate u r relocatedChannel endpoint
  | .initiate u endpoint => Relocates.initiate u endpoint
  | .started u c => Relocates.started u c
  | .onStasisStart args => Relocates.onStasisStart args
  | .stasisStarted u role => Relocates.stasisStarted u role
  | .onHangup _ c => Relocates.onHangup c
  | .hangupOf u c => Relocates.hangupOf u c
  | .completeFromUser u userUuid => fromUser u userUuid .complete
  | .complete u => do
    invoke .complete u
    pure []
  | .cancelFromUser u userUuid => fromUser u userUuid .cancel
  | .cancel u => do
    invoke .cancel u
    pure []

/-! ## The machine -/

/-- The plugin, and the handlers that are under way. -/
structure Sys where
  world : World
  tasks : List Task

/-- What happens next. -/
inductive Label where
  | arrive (t : Task)
  /-- a channel is hung up, by its party or by Asterisk -/
  | gone (c : ChannelId)
  | run (t : Task) (env : Env)

/-- What comes from the outside; a channel is not destroyed before it is gone. -/
def Task.Arrives (w : World) : Task → Prop
  | .createFromUser _ | .onStasisStart _ | .completeFromUser .. | .cancelFromUser ..
  | .onHangup .stasisEnd _ => True
  | .onHangup .channelDestroyed c => .gone c ∈ w.trace
  | .insert .. | .initiate .. | .started .. | .stasisStarted .. | .hangupOf .. | .complete _
  | .cancel _ => False

instance (w : World) (t : Task) : Decidable (t.Arrives w) := by
  cases t with
  | onHangup event c => cases event <;> unfold Task.Arrives <;> infer_instance
  | _ => unfold Task.Arrives; infer_instance

/-- The relocate whose lock a section takes. -/
def Task.lock : Task → Option RelocateUuid
  | .initiate u _ | .stasisStarted u _ | .hangupOf u _ | .complete u | .cancel u => some u
  | .createFromUser _ | .insert .. | .started .. | .onStasisStart _ | .onHangup ..
  | .completeFromUser .. | .cancelFromUser .. => none

/-- A section can be run: no other section has the lock that it takes. -/
def Task.Free (t : Task) (w : World) : Prop := ∀ u ∈ t.lock, u ∉ w.locked

instance (t : Task) (w : World) : Decidable (t.Free w) :=
  inferInstanceAs (Decidable (∀ u ∈ t.lock, u ∉ w.locked))

/-- An id that originate may answer for a new channel. -/
def isNewChannel (w : World) : Except Outage ChannelId → Bool
  | .ok c => c ∉ w.channels
  | .error _ => true

/-- The request that a section makes of originate. -/
def Task.originateRequest (w : World) : Task → Option OriginateRequest
  | .initiate u endpoint => some ((w.relocates u).originateRequest u endpoint)
  | _ => none

/-- The answers are possible ones: a new uuid, and the id of a new channel. -/
def Env.Possible (env : Env) (w : World) (t : Task) : Prop :=
  env.uuid4 ∉ w.uuids ∧
    ∀ request ∈ t.originateRequest w, isNewChannel w (env.originate request) = true

instance (env : Env) (w : World) (t : Task) : Decidable (env.Possible w t) :=
  inferInstanceAs (Decidable (_ ∧ ∀ request ∈ t.originateRequest w, _))

/-- The tasks that follow a section; after an exception there are none. -/
def following : Except Exn (List Task) → List Task
  | .ok ts => ts
  | .error _ => []

@[simp] theorem following_ok (ts : List Task) : following (.ok ts) = ts := rfl

@[simp] theorem following_error (e : Exn) : following (.error e) = [] := rfl

/-- The state after a section. -/
def Sys.after (s : Sys) (t : Task) (env : Env) : Sys :=
  ⟨(t.code env s.world).2, s.tasks.erase t ++ following (t.code env s.world).1⟩

/-- A channel is gone. -/
def World.gone (w : World) (c : ChannelId) : World :=
  { w with channels := insert c w.channels, trace := w.trace ++ [.gone c] }

/-- One step: something arrives, a channel is gone, a section is run. -/
def step : Label → Sys → Option Sys
  | .arrive t, s => if t.Arrives s.world then some ⟨s.world, t :: s.tasks⟩ else none
  | .gone c, s => some ⟨s.world.gone c, s.tasks⟩
  | .run t env, s =>
    if t ∈ s.tasks ∧ t.Free s.world ∧ env.Possible s.world t then some (s.after t env) else none

/-- The plugin before anything has happened. -/
def Sys.start : Sys := ⟨World.initial, []⟩

/-- The plugin from its start on. -/
def machine : Machine Sys Label where
  init s := s = Sys.start
  step := step

/-- What a step is. -/
theorem step_cases {s s' : Sys} {a : Label} (h : machine.step a s = some s') :
    (∃ t, a = .arrive t ∧ t.Arrives s.world ∧ s' = ⟨s.world, t :: s.tasks⟩) ∨
    (∃ c, a = .gone c ∧ s' = ⟨s.world.gone c, s.tasks⟩) ∨
    (∃ t env, a = .run t env ∧ t ∈ s.tasks ∧ t.Free s.world ∧ env.Possible s.world t ∧
      s' = s.after t env) := by
  cases a with
  | arrive t =>
    obtain ⟨ht, hs⟩ := Option.ite_none_right_eq_some.mp h
    exact .inl ⟨t, rfl, ht, (Option.some.inj hs).symm⟩
  | gone c => exact .inr (.inl ⟨c, rfl, (Option.some.inj h).symm⟩)
  | run t env =>
    obtain ⟨⟨ht, hfree, hp⟩, hs⟩ := Option.ite_none_right_eq_some.mp h
    exact .inr (.inr ⟨t, env, rfl, ht, hfree, hp, (Option.some.inj hs).symm⟩)

/-! ## Scripts -/

theorem initiatorId_nonempty : "1700000000.1" ≠ "" := by decide

theorem relocatedId_nonempty : "1700000000.2" ≠ "" := by decide

theorem recipientId_nonempty : "1700000000.3" ≠ "" := by decide

/-- The channel of a user, who asks for a relocate. -/
def initiatorId : ChannelId := ⟨"1700000000.1", initiatorId_nonempty⟩

/-- The channel of the user's peer. -/
def relocatedId : ChannelId := ⟨"1700000000.2", relocatedId_nonempty⟩

/-- The channel of another device of the user. -/
def recipientId : ChannelId := ⟨"1700000000.3", recipientId_nonempty⟩

/-- Nothing goes wrong; the next uuid is given. -/
def Env.calm (u : RelocateUuid) : Env where
  uuid4 := u
  originate := fun _ => .ok recipientId
  hangup := fun _ => .ok ()
  createBridge := fun name => .ok name
  addChannel := fun _ _ => .ok ()
  isInStasis := fun _ => .ok true
  setChannelVar := fun _ _ _ => .ok ()
  redirect := fun _ _ _ => .ok ()
  busPublish := fun _ _ _ _ => .ok ()
  pubsub := fun _ => .ok ()
  channelUser := fun _ => .ok (some "user")
  channelTenant := fun _ => .ok (some "tenant")
  lineInterface := fun _ _ => .ok "PJSIP/line"
  mobilePhoneNumber := fun _ => .ok "+15551234567"
  mainLineContext := fun _ => .ok "default"
  onlyConnectedChannel := fun _ => .ok relocatedId
  channelExists := fun _ => .ok true
  fromType := .ok "PJSIP/line"

/-- Nothing goes wrong. -/
def calm : Env := .calm "relocate-0"

/-- A user asks for the relocate of a call to a line. -/
def request : RelocateRequest where
  initiatorCall := initiatorId
  location := .line 1
  completions := [.answer]
  timeout := 30
  autoAnswer := false
  userUuid := "user"

/-- A handler is called and its first section run. -/
def called (t : Task) (env : Env) : List Label := [.arrive t, .run t env]

/-- A relocate is put in the collection. -/
def inserts (u : RelocateUuid) : List Label :=
  called (.createFromUser request) (.calm u) ++
    [.run (.insert u request relocatedId "PJSIP/line") calm]

/-- A relocate is created; `env` answers the originate. -/
def creates (u : RelocateUuid) (env : Env) : List Label :=
  inserts u ++ [.run (.initiate u "PJSIP/line") env]

/-- A relocate is created, and its recipient rings. -/
def rings (u : RelocateUuid) : List Label :=
  creates u calm ++ [.run (.started u recipientId) calm]

/-- Where a list of steps leads. -/
def served (steps : List Label) : Sys := (machine.run steps Sys.start).getD Sys.start

theorem served_reachable (steps : List Label) : machine.Reachable (served steps) := by
  unfold served
  cases h : machine.run steps Sys.start with
  | none => exact .init rfl
  | some s => exact Machine.Reaches.reachable_run (.init rfl) h

end Calld.Relocates
