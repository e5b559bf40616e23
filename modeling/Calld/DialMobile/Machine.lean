/-
# The dial-mobile service as a machine

Events of Asterisk and of the bus arrive, timers fire, and any handler that is under way
runs its next section.  The tasks under way are those that have arrived, and those that the
sections have left behind.

What a section leaves alone is read off its footprint, the changes it is made of.
-/
import Calld.DialMobile.Handlers
import Calld.Effect.Changes
import Calld.Effect.Machine

namespace Calld.DialMobile

open Effect Effect.Program

/-! ## The machine -/

/-- The service, and the handlers that are under way. -/
structure Sys where
  world : World
  tasks : List Task

/-- What happens next. -/
inductive Label where
  | arrive (t : Task)
  | fire (timer : ℕ)
  | run (t : Task) (env : Env)

/-- What comes from the outside: an event, or a dialer thread that is alive. -/
def Task.Arrives (w : World) : Task → Prop
  | .sendPush _ | .dialAllContacts .. | .contactAvailable _ | .joinBridge .. | .pickup ..
  | .channelDestroyed _ | .bridgeEnter .. | .cancelPush _ => True
  | .contactDialed b | .dialerWakes b => b ∈ w.running
  | _ => False

instance (w : World) (t : Task) : Decidable (t.Arrives w) := by
  cases t <;> unfold Task.Arrives <;> infer_instance

/-- The tasks that follow a section; after an exception there are none. -/
def following : Except Exn (List Task) → List Task
  | .ok ts => ts
  | .error _ => []

@[simp] theorem following_ok (ts : List Task) : following (.ok ts) = ts := rfl

@[simp] theorem following_error (e : Exn) : following (.error e) = [] := rfl

/-- One step: something arrives, a timer fires, a section is run. -/
def step : Label → Sys → Option Sys
  | .arrive t, s => if t.Arrives s.world then some ⟨s.world, t :: s.tasks⟩ else none
  | .fire timer, s => (s.world.timers.get timer).map fun call =>
      ⟨{ s.world with timers := s.world.timers.pop timer }, .pstnFallback timer call :: s.tasks⟩
  | .run t env, s =>
    if t ∈ s.tasks ∧ env.Possible s.world then
      some ⟨(t.code env s.world).2, s.tasks.erase t ++ following (t.code env s.world).1⟩
    else none

/-- The service from its start on. -/
def machine : Machine Sys Label where
  init s := s = ⟨World.initial, []⟩
  step := step

/-- The state after a section. -/
def Sys.after (s : Sys) (t : Task) (env : Env) : Sys :=
  ⟨(t.code env s.world).2, s.tasks.erase t ++ following (t.code env s.world).1⟩

/-- The state after a timer has fired. -/
def Sys.fired (s : Sys) (timer : ℕ) (call : CallId) : Sys :=
  ⟨{ s.world with timers := s.world.timers.pop timer }, .pstnFallback timer call :: s.tasks⟩

section Rules

variable {s s' : Sys} {a : Label}

/-- What a step is. -/
theorem step_cases (h : machine.step a s = some s') :
    (∃ t, a = .arrive t ∧ t.Arrives s.world ∧ s' = ⟨s.world, t :: s.tasks⟩) ∨
    (∃ timer call, a = .fire timer ∧ s.world.timers.get timer = some call ∧
      s' = s.fired timer call) ∨
    (∃ t env, a = .run t env ∧ t ∈ s.tasks ∧ env.Possible s.world ∧ s' = s.after t env) := by
  cases a with
  | arrive t =>
    obtain ⟨ht, hs⟩ := Option.ite_none_right_eq_some.mp h
    exact .inl ⟨t, rfl, ht, (Option.some.inj hs).symm⟩
  | fire timer =>
    obtain ⟨call, hcall, hs⟩ := Option.map_eq_some_iff.mp h
    exact .inr (.inl ⟨timer, call, rfl, hcall, hs.symm⟩)
  | run t env =>
    obtain ⟨⟨ht, hp⟩, hs⟩ := Option.ite_none_right_eq_some.mp h
    exact .inr (.inr ⟨t, env, rfl, ht, hp, (Option.some.inj hs).symm⟩)

/-- A fact about the world, and one about every task under way. -/
def Holds (W : World → Prop) (B : Task → World → Prop) (s : Sys) : Prop :=
  W s.world ∧ ∀ t ∈ s.tasks, B t s.world

/-- Such facts are kept by a step, when they are by what arrives, by a timer that fires
and by every section. -/
theorem Holds.step {W : World → Prop} {B : Task → World → Prop}
    (harrive : ∀ w t, W w → t.Arrives w → B t w)
    (hfire : ∀ w timer call, W w → w.timers.get timer = some call →
      let w' := { w with timers := w.timers.pop timer }
      W w' ∧ (∀ t, B t w → B t w') ∧ B (.pstnFallback timer call) w')
    (hrun : ∀ w t env, W w → B t w → env.Possible w →
      let w' := (t.code env w).2
      W w' ∧ (∀ u, B u w → B u w') ∧ ∀ u ∈ following (t.code env w).1, B u w')
    (h : Holds W B s) (hs : machine.step a s = some s') : Holds W B s' := by
  obtain ⟨t, rfl, ht, rfl⟩ | ⟨timer, call, rfl, hcall, rfl⟩ | ⟨t, env, rfl, ht, hp, rfl⟩ :=
    step_cases hs
  · refine ⟨h.1, fun u hu => ?_⟩
    rcases List.mem_cons.mp hu with rfl | hu
    · exact harrive _ _ h.1 ht
    · exact h.2 u hu
  · obtain ⟨hW, hB, hnew⟩ := hfire _ timer call h.1 hcall
    refine ⟨hW, fun u hu => ?_⟩
    rcases List.mem_cons.mp hu with rfl | hu
    · exact hnew
    · exact hB u (h.2 u hu)
  · obtain ⟨hW, hB, hnew⟩ := hrun _ t env h.1 (h.2 t ht) hp
    refine ⟨hW, fun u hu => ?_⟩
    rcases List.mem_append.mp hu with hu | hu
    · exact hB u (h.2 u (List.mem_of_mem_erase hu))
    · exact hnew u hu

end Rules

/-! ## Scripts -/

/-- The service before anything has happened. -/
def Sys.start : Sys := ⟨World.initial, []⟩

/-- Where a list of steps leads. -/
def served (steps : List Label) : Sys := (machine.run steps Sys.start).getD Sys.start

theorem served_reachable (steps : List Label) : machine.Reachable (served steps) := by
  unfold served
  cases h : machine.run steps Sys.start with
  | none => exact .init rfl
  | some s => exact Machine.Reaches.reachable_run (.init rfl) h

theorem callerId_nonempty : "1700000000.1" ≠ "" := by decide

/-- The channel of a caller, and the linkedid of its call. -/
def callerId : ChannelId := ⟨"1700000000.1", callerId_nonempty⟩

/-- The channel of a mobile that is called. -/
def mobileId : ChannelId := ⟨"1700000000.2", by decide⟩

/-- The channel of a PSTN leg. -/
def pstnId : ChannelId := ⟨"1700000000.3", by decide⟩

/-- Nothing goes wrong; the next uuid and the next channel are given. -/
def Env.calm (b : BridgeUuid) (c : ChannelId) : Env where
  uuid4 := b
  confdUser := .ok ⟨true, some "+15551234567", [1]⟩
  confdLineContext := .ok "default"
  ring := .ok ()
  pickupMark := .ok "101%default"
  getChannel := .ok ()
  isUp := fun _ => .ok true
  hangup := fun _ => .ok ()
  answer := fun _ => .ok ()
  bridge := .ok ()
  originate := .ok c
  mobileContacts := .ok true
  notifier := .ok ()

/-- A push is requested for a mobile that calls may be forwarded from. -/
def pushRequest (userUuid : UserUuid) : PushRequest where
  tenantUuid := some "tenant"
  userUuid := userUuid
  callId := callerId
  sipCallId := "sip-call"
  callerIdName := "Alice"
  callerIdNumber := "100"
  videoEnabled := false
  ringTimeout := 30
  originCallId := callerId
  pushMobileTimestamp := "2026-01-01T00:00:00"

/-- Nothing goes wrong. -/
def calm : Env := .calm "b-2" mobileId

/-- A handler is called and its first section run. -/
def called (t : Task) (env : Env) : List Label := [.arrive t, .run t env]

/-- The user of a call is sent a push; the timer fires and a PSTN leg rings. -/
def legRings : List Label :=
  called (.dialAllContacts callerId callerId "aor") (.calm "b-1" mobileId) ++
    called (.sendPush (pushRequest "user")) calm ++
    [.run (.publishPush ((pushRequest "user").push 0)) calm, .fire 2,
      .run (.pstnFallback 2 callerId) calm, .run (.fallbackLookup 2 callerId) calm,
      .run (.fallbackCaller 2 callerId callerId) calm,
      .run (.fallbackCommit 2 callerId) (.calm "b-2" pstnId)]

/-! ## Changes -/

/-- What the sections do to the world, one assignment at a time. -/
inductive Change where
  | event (e : Event)
  | object
  | incomingCall (call : CallId) (incoming : IncomingCall)
  | fallback (call : CallId) (state : PSTNFallback)
  | timerStarted (timer : ℕ) (call : CallId)
  | timerStopped (timer : ℕ)
  | callKnown (call : CallId) (lock ringTimeout : ℕ)
  | registered (dialer : Dialer) (call : CallId)
  | removed (b : BridgeUuid) (dialer : Dialer)
  | ended (b : BridgeUuid)
  | contact (b : BridgeUuid) (c : ChannelId)
  | leg (c : ChannelId)
  | named (b : BridgeUuid)
  | pruned (b : BridgeUuid) (call : CallId)
  | forgotten (b : BridgeUuid)

/-- The world after a change. -/
def Change.apply : Change → World → World
  | event e, w => { w with trace := w.trace ++ [e] }
  | object, w => { w with objects := w.objects + 1 }
  | incomingCall call incoming, w => { w with incomingCalls := w.incomingCalls.set call incoming }
  | fallback call state, w => { w with pstnFallbacks := w.pstnFallbacks.set call state }
  | timerStarted timer call, w => { w with timers := w.timers.set timer call }
  | timerStopped timer, w => { w with timers := w.timers.pop timer }
  | callKnown call lock ringTimeout, w => { w with
      callLocks := w.callLocks.setdefault call lock
      callRingTime := w.callRingTime.set call ringTimeout }
  | registered dialer call, w => { w with
      contactDialers := w.contactDialers.set dialer.futureBridgeUuid dialer
      dialersByAor := w.dialersByAor.set dialer.aor
        (insert dialer ((w.dialersByAor.get dialer.aor).getD ∅))
      callerChannelLegByBridge :=
        w.callerChannelLegByBridge.set dialer.futureBridgeUuid dialer.callerChannelId
      originCallIdByBridgeUuid := w.originCallIdByBridgeUuid.set dialer.futureBridgeUuid call
      bridgeUuidByOriginCallId := w.bridgeUuidByOriginCallId.set call dialer.futureBridgeUuid
      running := insert dialer.futureBridgeUuid w.running
      uuids := insert dialer.futureBridgeUuid w.uuids
      channels := insert dialer.callerChannelId w.channels }
  | removed b dialer, w =>
      unregisterDialerByAor dialer { w with contactDialers := w.contactDialers.pop b }
  | ended b, w => { w with running := w.running.erase b }
  | contact b c, w => { w with
      dialedChannels := Function.update w.dialedChannels b (w.dialedChannels b ++ [c])
      channels := insert c w.channels }
  | leg c, w => { w with channels := insert c w.channels }
  | named b, w => { w with uuids := insert b w.uuids }
  | pruned b call, w => { w with
      originCallIdByBridgeUuid := w.originCallIdByBridgeUuid.pop b
      bridgeUuidByOriginCallId := w.bridgeUuidByOriginCallId.pop call
      callRingTime := w.callRingTime.pop call
      pstnFallbacks := w.pstnFallbacks.pop call
      callLocks := w.callLocks.pop call
      incomingCalls := w.incomingCalls.pop call
      callerChannelLegByBridge := w.callerChannelLegByBridge.pop b }
  | forgotten b, w =>
      { w with callerChannelLegByBridge := w.callerChannelLegByBridge.pop b }

/-! ## Footprints -/

/-- The changes of `_cancel_pstn_fallback`. -/
def Change.CancelsFallback : Change → Prop
  | fallback _ .cancelled | timerStopped _ | event (.hungUp _) | event (.fallbackCancelled _) => True
  | _ => False

/-- The changes of `cancel_push_mobile`. -/
def Change.CancelsPush : Change → Prop
  | incomingCall _ (.pushCancelled _) | event (.cancelPushNotification _) => True
  | _ => False

/-- The changes of `_prune_call_state`. -/
def Change.Prunes : Change → Prop
  | pruned .. | forgotten _ | event (.pruned ..) => True
  | _ => False

/-- The changes of `dialer.stop`, and of a hangup. -/
def Change.Stops : Change → Prop
  | ended _ | event (.hungUp _) => True
  | _ => False

/-- The changes a task may make. -/
def Task.May : Task → Change → Prop
  | .sendPush _, k => match k with
    | .object | .callKnown .. | .incomingCall _ (.pending _) | .event (.pushRequested _) => True
    | _ => False
  | .publishPush push, k => match k with
    | .event (.pushNotification _) | .object | .timerStarted .. | .event (.fallbackArmed ..) => True
    | .incomingCall _ incoming => incoming = .notified push
    | .fallback _ (.pending _) => True
    | _ => False
  | .dialAllContacts .., k => match k with
    | .registered .. | .event (.dialed ..) => True
    | _ => False
  | .contactAvailable _, k => match k with
    | .event (.kicked _) => True
    | _ => False
  | .contactDialed _, k => match k with
    | .ended _ | .contact .. => True
    | _ => False
  | .onContactDialed _, k => k.CancelsFallback
  | .dialerWakes _, k => k.Stops
  | .joinBridge .., k => match k with
    | .named _ | .fallback _ (.dialAnswered _) => True
    | k => k.CancelsFallback
  | .pickup .., _ => False
  | .joinPop .., k => match k with
    | .removed .. => True
    | k => k.Stops
  | .joinAnswer .., k => match k with
    | .event (.hungUp _) | .event (.foundGone _) | .event (.bridged ..) => True
    | _ => False
  | .joinCancel .., k => k.CancelsPush
  | .joinPrune _, k => k.Prunes
  | .channelDestroyed _, k => match k with
    | .event (.channelGone _) => True
    | _ => False
  | .goneScan .., k => match k with
    | .fallback _ .cancelled | .event (.fallbackCancelled _) => True
    | _ => False
  | .goneDialers _, k => k.Stops
  | .goneRemove _, k => match k with
    | .removed .. => True
    | _ => False
  | .goneFallback .., k => k.CancelsFallback
  | .gonePush .., k => k.CancelsPush
  | .gonePrune .., k => k.Prunes
  | .bridgeEnter .., _ => False
  | .cancelPush _, k => k.CancelsPush
  | .completePush _, k => match k with
    | .incomingCall _ (.received _) | .event (.pushCompleted _) => True
    | _ => False
  | .pstnFallback .., k => match k with
    | .fallback _ .triggering => True
    | _ => False
  | .fallbackLookup .., _ => False
  | .fallbackCaller .., _ => False
  | .fallbackCommit .., k => match k with
    | .leg _ | .event (.pstnOriginated ..) | .fallback _ (.dialing _) => True
    | k => k.CancelsPush
  | .fallbackAbort _, k => match k with
    | .fallback _ .cancelled | .event (.fallbackCancelled _) => True
    | _ => False

theorem Change.CancelsPush.commit {k : Change} (h : k.CancelsPush) (timer : ℕ) (call : CallId) :
    (Task.fallbackCommit timer call).May k := by
  cases k with
  | event e => cases e <;> trivial
  | _ => trivial

/-- A program is made of changes of the kind `K`. -/
abbrev MadeOf {α : Type} (env : Env) (K : Change → Prop) (p : Code α) : Prop :=
  Within env (Changes Change.apply K) (fun _ => True) p

section Footprints

variable {env : Env} {K : Change → Prop} {α : Type}

theorem madeOf_outside (answer : Env → Except Exn α) : MadeOf env K (outside answer) :=
  fun w => ⟨(Changes Change.apply K).refl w, fun _ _ => trivial⟩

theorem madeOf_change {g : World → World} (k : Change) (h : K k) (hg : k.apply = g) :
    MadeOf env K (change g : Code Unit) :=
  .change fun w => hg ▸ Changes.single h w

theorem madeOf_note {e : Event} (h : K (.event e)) : MadeOf env K (note e) :=
  madeOf_change (.event e) h rfl

theorem madeOf_newObject (h : K .object) : MadeOf env K newObject :=
  fun w => ⟨Changes.single h w, fun _ _ => trivial⟩

theorem madeOf_catching {C : Exn → Bool} {p : Code α} (h : MadeOf env K p) :
    MadeOf env K (catching C p) :=
  h.catching fun _ _ => .inr trivial

theorem madeOf_try {p q : Code α} (hp : MadeOf env K p) (hq : MadeOf env K q) :
    MadeOf env K (tryCatch p fun _ => q) :=
  hp.tryCatch fun _ _ => hq

theorem madeOf_onRaise {p : Code α} {q : Code Unit} (hp : MadeOf env K p) (hq : MadeOf env K q) :
    MadeOf env K (onRaise p q) :=
  hp.tryCatch fun _ _ => hq.bind fun _ => .throw trivial

theorem madeOf_hangupIfThere (c : ChannelId) (h : K (.event (.hungUp c))) :
    MadeOf env K (hangupIfThere c) :=
  ((madeOf_note h).bind fun _ => madeOf_outside _).ignoring fun _ _ => .inr trivial

theorem madeOf_cancelled (call : CallId) (h : K (.fallback call .cancelled))
    (hn : K (.event (.fallbackCancelled call))) : MadeOf env K (cancelled call) :=
  (madeOf_change (.fallback call .cancelled) h rfl).bind fun _ => madeOf_note hn

theorem madeOf_cancelPSTNFallback (call : CallId) (h : ∀ k, k.CancelsFallback → K k) :
    MadeOf env K (cancelPSTNFallback call) := by
  have hc : MadeOf env K (cancelled call) :=
    madeOf_cancelled call (h _ trivial) (h _ trivial)
  refine .bind (.look _) fun lock => ?_
  cases lock with
  | none =>
    refine .bind (.look _) fun fallback => ?_
    cases fallback with
    | none => exact .pure ()
    | some _ => exact .throw trivial
  | some _ =>
    refine .bind (.look _) fun fallback => ?_
    match fallback with
    | none | some .cancelled | some (.dialAnswered _) => exact .pure ()
    | some (.pending timer) =>
      exact (madeOf_change (.timerStopped timer) (h _ trivial) rfl).bind fun _ => hc
    | some (.dialing c) => exact (madeOf_hangupIfThere c (h _ trivial)).bind fun _ => hc
    | some .triggering => exact hc

theorem madeOf_joinFallback (c : ChannelId) (call : CallId) (h : ∀ k, k.CancelsFallback → K k)
    (ha : K (.fallback call (.dialAnswered c))) : MadeOf env K (joinFallback c call) := by
  refine .bind (.look _) fun fallback => ?_
  match fallback with
  | some (.dialing c') =>
    dsimp only
    split
    · exact madeOf_change (.fallback call (.dialAnswered c)) ha rfl
    · exact madeOf_cancelPSTNFallback call h
  | none | some .cancelled | some (.dialAnswered _) => exact .pure ()
  | some (.pending _) | some .triggering => exact madeOf_cancelPSTNFallback call h

theorem madeOf_cancelPushMobile (env : Env) (call : CallId) (h : ∀ k, k.CancelsPush → K k) :
    MadeOf env K (cancelPushMobile call) := by
  refine .bind (.look _) fun incoming => ?_
  match incoming with
  | some (.received _) | some (.pushCancelled _) | none => exact .pure ()
  | some (.notified push) =>
    refine (madeOf_outside _).bind fun _ => (madeOf_note (h _ ?_)).bind fun _ =>
      madeOf_change (.incomingCall call (.pushCancelled push)) (h _ trivial) rfl
    exact trivial
  | some (.pending push) =>
    exact madeOf_change (.incomingCall call (.pushCancelled push)) (h _ trivial) rfl

theorem madeOf_pruneCallState (b : BridgeUuid) (h : ∀ k, k.Prunes → K k) :
    MadeOf env K (pruneCallState b) := by
  refine .bind (.look _) fun call => ?_
  cases call with
  | some call =>
    exact (madeOf_change (.pruned b call) (h _ trivial) rfl).bind fun _ =>
      madeOf_note (h _ trivial)
  | none => exact madeOf_change (.forgotten b) (h _ trivial) rfl

theorem madeOf_removeUnansweredChannels (b : BridgeUuid) (h : ∀ k, k.Stops → K k) :
    MadeOf env K (removeUnansweredChannels b) := by
  refine .bind (.look _) fun channels => .forM fun c _ => ?_
  refine (madeOf_catching (madeOf_outside _)).bind fun up => ?_
  match up with
  | some false => exact madeOf_hangupIfThere c (h _ trivial)
  | some true | none => exact .pure ()

theorem madeOf_stop (b : BridgeUuid) (h : ∀ k, k.Stops → K k) : MadeOf env K (stop b) := by
  refine .bind (.look _) fun alive => ?_
  split
  · refine (madeOf_change (.ended b) (h _ trivial) rfl).bind fun _ => madeOf_try ?_ (.pure ())
    exact madeOf_removeUnansweredChannels b h
  · exact .pure ()

theorem madeOf_onChannelGone (c : ChannelId) (b : BridgeUuid) (h : ∀ k, k.Stops → K k) :
    MadeOf env K (onChannelGone c b) := by
  refine (madeOf_stop b h).bind fun _ => .bind (.look _) fun dialer => ?_
  cases dialer with
  | none => exact .pure ()
  | some dialer =>
    dsimp only
    split
    · exact .pure ()
    · exact madeOf_hangupIfThere _ (h _ trivial)

theorem madeOf_fallbackLookup (timer : ℕ) (call : CallId) :
    MadeOf env K (fallbackLookup timer call) := by
  refine .bind (.look _) fun incoming => ?_
  match incoming with
  | none | some (.received _) | some (.pushCancelled _) => exact .pure _
  | some (.pending push) | some (.notified push) =>
    refine (madeOf_catching (madeOf_outside _)).bind fun user => ?_
    cases user with
    | none => exact .pure _
    | some user =>
      dsimp only
      split
      · exact .pure _
      · refine (madeOf_catching (madeOf_outside _)).bind fun context => ?_
        cases context <;> exact .pure _

/-- The footprint of a section. -/
theorem Task.madeOf_may (t : Task) (env : Env) : MadeOf env t.May t.code := by
  cases t with
  | sendPush r =>
    exact (madeOf_newObject trivial).bind fun _ => (madeOf_newObject trivial).bind fun lock =>
      (madeOf_change (.callKnown r.originCallId lock r.ringTimeout) trivial rfl).bind fun _ =>
      (madeOf_change (.incomingCall r.originCallId (.pending _)) trivial rfl).bind fun _ =>
      (madeOf_note trivial).bind fun _ => .pure _
  | publishPush push =>
    refine .bind ?_ fun enabled => .bind (.look _) fun incoming => ?_
    · refine (madeOf_catching (madeOf_outside _)).bind fun user => ?_
      cases user <;> exact .pure _
    · match incoming with
      | some (.pending _) =>
        refine (madeOf_outside _).bind fun _ => (madeOf_note trivial).bind fun _ => .bind
          (madeOf_change (.incomingCall push.originCallId (.notified push)) ?_ rfl) fun _ => .bind ?_
          fun _ => .pure _
        · rfl
        · cases enabled with
          | false => exact .pure _
          | true =>
            exact (madeOf_newObject trivial).bind fun timer =>
              (madeOf_change (.fallback push.originCallId (.pending timer)) trivial rfl).bind
              fun _ => (madeOf_change (.timerStarted timer push.originCallId) trivial rfl).bind
              fun _ => madeOf_note trivial
      | some (.notified _) | some (.received _) | some (.pushCancelled _) | none => exact .pure _
  | dialAllContacts caller origin aor =>
    exact (madeOf_outside _).bind fun _ => .bind (.look _) fun ringingTime => .bind
      ((madeOf_outside _).tryCatch fun e _ => by split <;> [exact .pure _; exact .throw trivial])
      fun pickupMark => .bind (.ask _) fun b => (madeOf_change
        (.registered ⟨b, caller, aor, ringingTime, pickupMark⟩ origin) trivial rfl).bind
      fun _ => (madeOf_note trivial).bind fun _ => .pure _
  | contactAvailable aor =>
    exact .bind (.look _) fun dialers => .bind (.forM fun b _ => madeOf_note trivial)
      fun _ => .pure _
  | contactDialed b =>
    refine .bind (.look _) fun alive => ?_
    split
    · refine .bind (madeOf_onRaise (madeOf_outside _) ?_) fun c => ?_
      · exact madeOf_change (.ended b) trivial rfl
      · exact (madeOf_change (.contact b c) trivial rfl).bind fun _ => .pure _
    · exact .pure _
  | onContactDialed b =>
    refine .bind (.look _) fun call => ?_
    cases call with
    | none => exact .pure _
    | some call => exact (madeOf_cancelPSTNFallback call fun _ hk => hk).bind fun _ => .pure _
  | dialerWakes b =>
    refine (madeOf_catching (madeOf_onRaise (madeOf_outside _) ?_)).bind fun up => ?_
    · exact madeOf_change (.ended b) trivial rfl
    · cases up with
      | none =>
        exact (madeOf_try (madeOf_removeUnansweredChannels b fun _ hk => hk) (.pure _)).bind
          fun _ => .pure _
      | some _ => exact .pure _
  | joinBridge c b =>
    refine (madeOf_change (.named b) trivial rfl).bind fun _ => .bind (.look _) fun call => ?_
    cases call with
    | none => exact .pure _
    | some call =>
      refine .bind (.look _) fun lock => ?_
      cases lock with
      | none => exact .pure _
      | some _ =>
        exact (madeOf_joinFallback c call (fun k hk => by
          cases k with
          | fallback call state => cases state <;> trivial
          | _ => trivial) trivial).bind fun _ => .pure _
  | pickup c exten context =>
    refine .bind (.look _) fun b => ?_
    cases b <;> exact .pure _
  | joinPop c b call =>
    refine .bind (.look _) fun dialer => ?_
    cases dialer with
    | none =>
      exact (madeOf_hangupIfThere c trivial).bind fun _ => .pure _
    | some dialer =>
      exact (madeOf_change (.removed b dialer) trivial rfl).bind fun _ =>
        (madeOf_stop b fun k hk => by cases k <;> trivial).bind fun _ => .pure _
  | joinAnswer c b call =>
    refine madeOf_try (.bind (.look _) fun caller => ?_) (.pure _)
    refine (madeOf_catching (madeOf_outside _)).bind fun answered => ?_
    cases answered with
    | none =>
      refine (madeOf_hangupIfThere c trivial).bind fun _ => ?_
      cases call <;> exact .pure _
    | some _ =>
      refine (madeOf_catching (madeOf_outside _)).bind fun answered => ?_
      cases answered with
      | none => exact (madeOf_note trivial).bind fun _ => .pure _
      | some _ =>
        exact (madeOf_outside _).bind fun _ => (madeOf_note trivial).bind fun _ => .pure _
  | joinCancel b call =>
    exact madeOf_try ((madeOf_cancelPushMobile _ call fun _ hk => hk).bind fun _ => .pure _)
      (.pure _)
  | joinPrune b => exact (madeOf_pruneCallState b fun _ hk => hk).bind fun _ => .pure _
  | channelDestroyed c =>
    exact (madeOf_note trivial).bind fun _ => .bind (.look _) fun calls => .pure _
  | goneScan c calls =>
    cases calls with
    | nil => exact .pure _
    | cons call calls =>
      refine .bind (.bind (.look _) fun fallback => ?_) fun _ => .pure _
      match fallback with
      | some (.dialing c') =>
        dsimp only
        split
        · exact madeOf_cancelled call trivial trivial
        · exact .pure _
      | none | some (.pending _) | some .triggering | some (.dialAnswered _) | some .cancelled =>
        exact .pure _
  | goneDialers c =>
    exact .bind (.look _) fun bs => .bind (.forM fun b _ => madeOf_onChannelGone c b fun _ hk => hk)
      fun _ => .pure _
  | goneRemove bs =>
    cases bs with
    | nil => exact .pure _
    | cons b bs =>
      refine .bind (.look _) fun dialer => ?_
      cases dialer with
      | none => exact .throw trivial
      | some dialer =>
        refine (madeOf_change (.removed b dialer) trivial rfl).bind fun _ =>
          .bind (.look _) fun call => ?_
        cases call <;> exact .pure _
  | goneFallback b call bs =>
    exact (madeOf_cancelPSTNFallback call fun _ hk => hk).bind fun _ => .pure _
  | gonePush b call bs =>
    exact (madeOf_cancelPushMobile _ call fun _ hk => hk).bind fun _ => .pure _
  | gonePrune b bs => exact (madeOf_pruneCallState b fun _ hk => hk).bind fun _ => .pure _
  | bridgeEnter linkedid userUuid =>
    refine .bind (.look _) fun incoming => ?_
    match incoming with
    | some (.pending push) | some (.notified push) =>
      dsimp only
      split
      · refine (madeOf_catching (madeOf_outside _)).bind fun mobile => ?_
        match mobile with
        | some true | some false | none => exact .pure _
      · exact .pure _
    | none | some (.received _) | some (.pushCancelled _) => exact .pure _
  | cancelPush call => exact (madeOf_cancelPushMobile _ call fun _ hk => hk).bind fun _ => .pure _
  | completePush call =>
    refine .bind (.bind (.look _) fun incoming => ?_) fun _ => .pure _
    match incoming with
    | none | some (.received _) | some (.pushCancelled _) => exact .pure _
    | some (.pending push) | some (.notified push) =>
      exact (madeOf_change (.incomingCall call (.received push)) trivial rfl).bind fun _ =>
        madeOf_note trivial
  | pstnFallback timer call =>
    refine .bind (.look _) fun lock => ?_
    cases lock with
    | none => exact .pure _
    | some _ =>
      refine .bind (.look _) fun fallback => ?_
      match fallback with
      | some (.pending _) =>
        exact (madeOf_change (.fallback call .triggering) trivial rfl).bind fun _ => .pure _
      | none | some .triggering | some (.dialing _) | some (.dialAnswered _) | some .cancelled =>
        exact .pure _
  | fallbackLookup timer call => exact madeOf_fallbackLookup timer call
  | fallbackCaller timer call origin =>
    refine .bind (.look _) fun b => ?_
    cases b with
    | none => exact .pure _
    | some _ =>
      refine (madeOf_catching (madeOf_outside _)).bind fun caller => ?_
      cases caller <;> exact .pure _
  | fallbackCommit timer call =>
    refine .bind (.look _) fun fallback => ?_
    match fallback with
    | some .triggering =>
      refine (madeOf_catching (madeOf_outside _)).bind fun c => ?_
      cases c with
      | none => exact .pure _
      | some c =>
        exact (madeOf_change (.leg c) trivial rfl).bind fun _ => (madeOf_note trivial).bind
          fun _ => (madeOf_cancelPushMobile _ call fun k hk => hk.commit timer call).bind
          fun _ => (madeOf_change (.fallback call (.dialing c)) trivial rfl).bind fun _ => .pure _
    | none | some (.pending _) | some (.dialing _) | some (.dialAnswered _) | some .cancelled =>
      exact .pure _
  | fallbackAbort call =>
    refine .bind (.look _) fun fallback => ?_
    match fallback with
    | some .triggering => exact (madeOf_cancelled call trivial trivial).bind fun _ => .pure _
    | none | some (.pending _) | some (.dialing _) | some (.dialAnswered _) | some .cancelled =>
      exact .pure _

end Footprints

end Calld.DialMobile
