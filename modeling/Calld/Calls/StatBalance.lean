/-
# The statistics balance

Only the channel that an event is about changes its state, while a connection concerns two:
the channel that has dialed rings on, and is abandoned when it is destroyed, and the channel
that has been dialed ends without having been started.  The statistics of every channel
balance in the runs in which no channel is connected with another one.
-/
import Calld.Calls.Stats

namespace Calld.CallStats

open Effect Effect.Program

/-! ## The handlers, evaluated -/

/-- The call of the event, when it has these arguments. -/
def StasisStart.callWith (event : StasisStart) (args : List String) : CallEvent :=
  ⟨event.channel, event.application, args.head?⟩

section Handlers

variable {env : Env} {s : World} {event : StasisStart} {channel originator : String}
  {call : CallEvent} {entry : ChannelCacheEntry}

/-- A request is answered, or ends the code. -/
theorem request_bind {α : Type} (r : Request) (p : Unit → Code α) :
    (request r >>= p) env s =
      if env.fails r then (.error .requestFailed, s) else p () env s := by
  unfold request
  rw [bind_apply, bind_apply]
  simp only [ask_apply]
  cases env.fails r <;> rfl

theorem request_apply (r : Request) :
    request r env s = if env.fails r then (.error .requestFailed, s) else (.ok (), s) := by
  unfold request
  rw [bind_apply]
  simp only [ask_apply]
  cases env.fails r <;> rfl

/-- The world after a statistic. -/
def World.sent (s : World) (kind : StatKind) (call : CallEvent) : World :=
  { s with stats := s.stats ++ [⟨kind, call.channel, call.app, call.appInstance⟩] }

/-- The world after the state of a channel has been written. -/
def World.entered (s : World) (channel : String) (entry : Option ChannelCacheEntry) : World :=
  { s with channels := Function.update s.channels channel entry }

/-- The world after two channels have been bridged. -/
def World.joined (s : World) (originator channel : String) : World :=
  { s with bridged := s.bridged ++ [(originator, channel)] }

@[simp] theorem send_apply (kind : StatKind) :
    send kind call env s = (.ok (), s.sent kind call) := rfl

theorem upsert_snd : (upsert channel entry env s).2 =
    if env.fails (.setGlobalVar channel) then s else s.entered channel (some entry) := by
  unfold upsert
  rw [request_bind]
  split <;> rfl

theorem remove_snd : (remove channel env s).2 =
    if env.fails (.deleteGlobalVar channel) then s else s.entered channel none := by
  unfold remove
  rw [request_bind]
  split <;> rfl

theorem persistorGet_apply : persistorGet channel env s =
    if env.fails (.getGlobalVar channel) then (.error .requestFailed, s)
    else
      match s.channels channel with
      | some entry => (.ok entry, s)
      | none => (.error .keyError, s) := by
  unfold persistorGet
  rw [request_bind]
  split
  · rfl
  · rw [bind_apply]
    simp only [look_apply]
    cases s.channels channel <;> rfl

/-- The two channels are bridged, or nothing is noted. -/
theorem bridgeConnectUser_cases (call : CallEvent) :
    (Bridges env originator call.channel →
      bridgeConnectUser call originator env s = (.ok (), s.joined originator call.channel)) ∧
    (¬ Bridges env originator call.channel → env.fails (.getChannel originator) = false →
      env.fails (.getGlobalVar originator) = false →
      ∃ e, bridgeConnectUser call originator env s = (.error e, s)) := by
  unfold bridgeConnectUser Bridges
  simp only [request_bind, List.forall_mem_cons, List.not_mem_nil, false_implies, implies_true,
    and_true]
  cases env.fails (.answer call.channel) <;> cases env.fails (.answer originator) <;>
    cases env.fails .createBridge <;> cases env.fails (.addChannel originator) <;>
    cases env.fails (.addChannel call.channel) <;>
    simp [World.joined]

theorem transfers_cases :
    (Transfers event env → stasisStartBlindTransferChannel event env s = (.ok (), s)) ∧
    (¬ Transfers event env → ∃ e, stasisStartBlindTransferChannel event env s = (.error e, s)) := by
  unfold Transfers stasisStartBlindTransferChannel
  match event.replaceChannel with
  | none => exact ⟨fun _ => rfl, fun h => absurd trivial h⟩
  | some none => exact ⟨fun h => h.elim, fun _ => ⟨_, rfl⟩⟩
  | some (some tenantUuid) =>
    dsimp only
    rw [request_apply]
    cases env.fails (.setTenant event.channel tenantUuid) <;> simp

/-- The channel that has dialed is found, or there is no connection. -/
theorem connectCallEvent_cases (env : Env) {args : List String} (hargs : event.args = some args) :
    (∃ originator, event.originator = some originator ∧ s.destroyed originator = false ∧
      env.found originator = true ∧ env.fails (.getChannel originator) = false ∧
      connectCallEvent event env s = (.ok (event.callWith args, originator), s)) ∨
    ((∀ originator, ¬ Connects s event env originator) ∧
      ∃ e, connectCallEvent event env s = (.error e, s)) := by
  have hstart : startCallEvent event env s = (.ok (event.callWith args), s) := by
    unfold startCallEvent
    rw [hargs]
    rfl
  unfold connectCallEvent
  rw [bind_of_ok hstart]
  cases horig : event.originator with
  | none =>
    refine .inr ⟨fun o hc => ?_, _, rfl⟩
    rw [hc.2.2.1] at horig
    cases horig
  | some originator =>
    have hne : ∀ o, Connects s event env o → o = originator := by
      intro o hc
      exact Option.some.inj (hc.2.2.1.symm.trans horig)
    dsimp only
    unfold channelExists
    rw [bind_apply, request_bind]
    cases hfails : env.fails (.getChannel originator) with
    | true =>
      refine .inr ⟨fun o hc => ?_, _, rfl⟩
      obtain rfl := hne o hc
      have := hc.2.2.2.2.2.1 (.getChannel o) (by simp)
      rw [hfails] at this
      cases this
    | false =>
      rw [if_neg (by decide), bind_apply]
      simp only [look_apply]
      cases hgone : s.destroyed originator with
      | true =>
        refine .inr ⟨fun o hc => ?_, _, rfl⟩
        obtain rfl := hne o hc
        rw [hc.2.2.2.1] at hgone
        cases hgone
      | false =>
        rw [if_neg (by decide)]
        simp only [ask_apply]
        cases hfound : env.found originator with
        | true => exact .inl ⟨originator, rfl, hgone, hfound, hfails, rfl⟩
        | false =>
          refine .inr ⟨fun o hc => ?_, _, rfl⟩
          obtain rfl := hne o hc
          rw [hc.2.2.2.2.1] at hfound
          cases hfound

/-- A new call is counted, and its channel rings if its state can be written. -/
theorem stasisStart_starts (h : Starts event env) :
    ∃ call : CallEvent, call.channel = event.channel ∧ (stasisStart event env s).2 =
      if env.fails (.setGlobalVar event.channel) then s.sent .start call
      else (s.sent .start call).entered event.channel
        (some ⟨call.app, call.appInstance, .ringing⟩) := by
  obtain ⟨htransfers, hargs, hconnect⟩ := h
  obtain ⟨args, hargs⟩ := Option.ne_none_iff_exists'.mp hargs
  refine ⟨event.callWith args, rfl, ?_⟩
  have hstart : startCallEvent event env s = (.ok (event.callWith args), s) := by
    unfold startCallEvent
    rw [hargs]
    rfl
  unfold stasisStart
  rw [bind_of_ok (transfers_cases.1 htransfers), hconnect, if_neg (by decide)]
  unfold stasisStartNewCall
  rw [bind_of_ok hstart]
  exact upsert_snd

/-- Two channels are connected, and that one talks which has been dialed, if its state can be
written. -/
theorem stasisStart_connects (h : Connects s event env originator) :
    ∃ call : CallEvent, call.channel = event.channel ∧ (stasisStart event env s).2 =
      if env.fails (.setGlobalVar event.channel) then
        (s.joined originator event.channel).sent (.connect originator) call
      else ((s.joined originator event.channel).sent (.connect originator) call).entered
        event.channel (some ⟨call.app, call.appInstance, .talking⟩) := by
  have hargs : event.args ≠ none := by
    intro hnone
    have := h.2.1
    simp [StasisStart.isConnectEvent, hnone] at this
  obtain ⟨args, hargs⟩ := Option.ne_none_iff_exists'.mp hargs
  refine ⟨event.callWith args, rfl, ?_⟩
  obtain ⟨o, ho, -, -, -, hrun⟩ | ⟨hno, -⟩ :=
    connectCallEvent_cases (s := s) env hargs
  · obtain ⟨htransfers, hconnect, horig, -, -, hbridges, hringing⟩ := h
    cases ho.symm.trans horig
    obtain ⟨entry, hentry, hstate⟩ := Option.map_eq_some_iff.mp hringing
    have hget : persistorGet originator env s = (.ok entry, s) := by
      rw [persistorGet_apply, hbridges (.getGlobalVar originator) (by simp), hentry]
      rfl
    have hbridge := (bridgeConnectUser_cases (s := s) (event.callWith args)).1 hbridges
    unfold stasisStart
    rw [bind_of_ok (transfers_cases.1 htransfers), hconnect, if_pos rfl]
    unfold stasisStartConnect
    rw [bind_apply]
    simp only [catching, hrun]
    rw [bind_of_ok hget, hstate]
    rw [bind_apply]
    dsimp only [StateName.connect]
    rw [bind_of_ok hbridge]
    exact upsert_snd
  · exact absurd h (hno originator)

/-- Another event changes nothing. -/
theorem stasisStart_idle (hstarts : ¬ Starts event env)
    (hconnects : ∀ originator, ¬ Connects s event env originator) :
    (stasisStart event env s).2 = s := by
  unfold stasisStart
  by_cases htransfers : Transfers event env
  · rw [bind_of_ok (transfers_cases.1 htransfers)]
    cases hconnect : event.isConnectEvent with
    | false =>
      have hargs : event.args = none := by
        by_contra hargs
        exact hstarts ⟨htransfers, hargs, hconnect⟩
      rw [if_neg (by decide)]
      unfold stasisStartNewCall startCallEvent
      rw [hargs]
      rfl
    | true =>
      have hargs : event.args ≠ none := by
        intro hnone
        simp [StasisStart.isConnectEvent, hnone] at hconnect
      obtain ⟨args, hargs⟩ := Option.ne_none_iff_exists'.mp hargs
      rw [if_pos rfl]
      unfold stasisStartConnect
      rw [bind_apply]
      obtain ⟨o, ho, hgone, hfound, hchannel, hrun⟩ | ⟨-, e, hrun⟩ :=
        connectCallEvent_cases (s := s) env hargs
      · simp only [catching, hrun]
        rw [bind_apply, persistorGet_apply]
        cases hget : env.fails (.getGlobalVar o) with
        | true => rfl
        | false =>
          rw [if_neg (by decide)]
          cases hentry : s.channels o with
          | none => rfl
          | some entry =>
            dsimp only
            rw [bind_apply]
            cases hstate : entry.state with
            | talking | onHook => rfl
            | ringing =>
              have hbridges : ¬ Bridges env o event.channel := by
                intro hbridges
                exact hconnects o ⟨htransfers, hconnect, ho, hgone, hfound, hbridges,
                  by rw [hentry, Option.map_some, hstate]⟩
              obtain ⟨e, hbridge⟩ := (bridgeConnectUser_cases (s := s)
                (event.callWith args)).2 hbridges hchannel hget
              dsimp only [StateName.connect]
              rw [bind_of_error hbridge]
      · simp only [catching, hrun]
        cases isInvalidConnectCallEvent e <;> rfl
  · obtain ⟨e, he⟩ := transfers_cases.2 htransfers
    rw [bind_of_error he]

/-- What is sent when a channel is destroyed. -/
def World.hungUp (s : World) (env : Env) (call : CallEvent) (state : StateName) : World :=
  match state, env.seconds with
  | .ringing, some seconds =>
    ((s.sent .ended call).sent (.duration seconds) call).sent .abandoned call
  | .talking, some seconds => (s.sent .ended call).sent (.duration seconds) call
  | .ringing, none | .talking, none => s.sent .ended call
  | .onHook, _ => s

theorem sendDuration_apply : sendDuration call env s =
    match env.seconds with
    | none => (.error .parseError, s)
    | some seconds => (.ok (), s.sent (.duration seconds) call) := by
  unfold sendDuration
  rw [bind_apply]
  simp only [ask_apply]
  cases env.seconds <;> rfl

theorem hangup_cases (call : CallEvent) (env : Env) (state : StateName) :
    (state.hangup call env s).2 = s.hungUp env call state := by
  unfold World.hungUp
  cases state with
  | onHook => rfl
  | ringing | talking =>
    dsimp only [StateName.hangup]
    rw [bind_apply, send_apply]
    dsimp only
    rw [bind_apply, sendDuration_apply]
    cases env.seconds <;> rfl

/-- A channel without a state ends without a statistic. -/
theorem channelDestroyed_none (h : s.channels channel = none) :
    (channelDestroyed channel env s).2 = s := by
  unfold channelDestroyed
  rw [bind_apply]
  unfold catching
  rw [persistorGet_apply, h]
  cases env.fails (.getGlobalVar channel) <;> rfl

/-- A state that cannot be read is lost. -/
theorem channelDestroyed_fails (h : env.fails (.getGlobalVar channel) = true) :
    (channelDestroyed channel env s).2 = s := by
  unfold channelDestroyed
  rw [bind_apply]
  unfold catching
  rw [persistorGet_apply, h]
  rfl

/-- The state of the channel tells what is sent; afterwards only that state may have gone. -/
theorem channelDestroyed_some (env : Env) (hget : env.fails (.getGlobalVar channel) = false)
    (hentry : s.channels channel = some entry) :
    ∃ call : CallEvent, call.channel = channel ∧
      ((channelDestroyed channel env s).2 = s.hungUp env call entry.state ∨
        (channelDestroyed channel env s).2 =
          (s.hungUp env call entry.state).entered channel none) := by
  have hread : persistorGet channel env s = (.ok entry, s) := by
    rw [persistorGet_apply, hget, hentry]
    rfl
  have hcatch : catching isKeyError (persistorGet channel) env s = (.ok (some entry), s) := by
    unfold catching
    rw [hread]
  refine ⟨⟨channel, entry.app, entry.appInstance⟩, rfl, ?_⟩
  have hcall : callEvent channel env s = (.ok ⟨channel, entry.app, entry.appInstance⟩, s) := by
    unfold callEvent
    rw [bind_of_ok hcatch]
    rfl
  unfold channelDestroyed
  rw [bind_of_ok hcatch]
  dsimp only
  rw [bind_of_ok hcall, bind_apply]
  have hhangup := hangup_cases (s := s) ⟨channel, entry.app, entry.appInstance⟩ env entry.state
  rcases hrun : entry.state.hangup ⟨channel, entry.app, entry.appInstance⟩ env s with ⟨r, s'⟩
  rw [hrun] at hhangup
  obtain rfl : s' = s.hungUp env ⟨channel, entry.app, entry.appInstance⟩ entry.state := hhangup
  cases r with
  | error e => exact .inl rfl
  | ok _ =>
    dsimp only
    rw [remove_snd]
    split
    · exact .inl rfl
    · exact .inr rfl

end Handlers

/-! ## Counting -/

section Counting

variable {s : World} {kind kind' : StatKind} {call : CallEvent} {c originator channel : String}
  {entry : Option ChannelCacheEntry}

theorem count_sent : (s.sent kind call).count kind' c =
    s.count kind' c + if kind = kind' ∧ call.channel = c then 1 else 0 := by
  unfold World.count World.sent
  rw [List.countP_append, List.countP_singleton]
  simp

/-- A statistic that counts no connection. -/
theorem connects_sent (h : ∀ o, kind ≠ .connect o) :
    (s.sent kind call).connects c = s.connects c := by
  unfold World.connects World.sent
  rw [List.countP_append, List.countP_singleton]
  cases kind with
  | connect o => exact absurd rfl (h o)
  | start | ended | duration | abandoned => rfl

theorem connects_sent_connect :
    (s.sent (.connect originator) call).connects c =
      s.connects c + if originator = c ∨ call.channel = c then 1 else 0 := by
  unfold World.connects World.sent
  rw [List.countP_append, List.countP_singleton]
  simp

theorem connected_joined : (s.joined originator channel).Connected c ↔
    s.Connected c ∨ originator = c ∨ channel = c := by
  unfold World.Connected World.joined
  simp only [List.mem_append, List.mem_singleton]
  constructor
  · rintro ⟨pair, hpair | rfl, h⟩
    · exact .inl ⟨pair, hpair, h⟩
    · exact .inr h
  · rintro (⟨pair, hpair, h⟩ | h)
    · exact ⟨pair, .inl hpair, h⟩
    · exact ⟨_, .inr rfl, h⟩

end Counting

/-! ## The invariant -/

/-- The statistics of a channel balance, and while it lives its state tells whether it has been
started, and connected. -/
structure Accounted (s : World) (c : String) : Prop extends s.Balanced c where
  unknown : s.destroyed c = false → s.channels c = none → ¬ s.Started c ∧ ¬ s.Connected c
  known : s.destroyed c = false → ∀ entry, s.channels c = some entry → s.Started c ∧
    (entry.state = .ringing ∧ ¬ s.Connected c ∨ entry.state = .talking ∧ s.Connected c)

/-- Nothing that concerns the channel has changed. -/
structure SameAt (s s' : World) (c : String) : Prop where
  started : s'.count .start c = s.count .start c
  ended : s'.count .ended c = s.count .ended c
  abandoned : s'.count .abandoned c = s.count .abandoned c
  connects : s'.connects c = s.connects c
  connected : s'.Connected c ↔ s.Connected c
  destroyed : s'.destroyed c = s.destroyed c
  channels : s'.channels c = s.channels c

namespace Accounted

variable {s s' : World} {c : String}

theorem of_same (h : Accounted s c) (e : SameAt s s' c) : Accounted s' c := by
  have hstarted : s'.Started c ↔ s.Started c := by
    unfold World.Started
    rw [e.started]
  exact
    { ended := by simp only [e.ended, h.ended, e.destroyed, hstarted]
      abandoned := by simp only [e.abandoned, h.abandoned, e.destroyed, hstarted, e.connected]
      connects := by simp only [e.connects, h.connects, e.connected]
      unknown := by simpa only [e.destroyed, e.channels, hstarted, e.connected] using h.unknown
      known := by simpa only [e.destroyed, e.channels, hstarted, e.connected] using h.known }

/-- A channel that lives has not ended. -/
theorem ended_zero (h : Accounted s c) (hlive : s.destroyed c = false) :
    s.count .ended c = 0 := by
  rw [h.ended, if_neg (by simp [hlive])]

theorem abandoned_zero (h : Accounted s c) (hlive : s.destroyed c = false) :
    s.count .abandoned c = 0 := by
  rw [h.abandoned, if_neg (by simp [hlive])]

/-- A channel that rings has not been connected. -/
theorem not_connected (h : Accounted s c) (hlive : s.destroyed c = false)
    {entry : ChannelCacheEntry} (hentry : s.channels c = some entry)
    (hringing : entry.state = .ringing) : ¬ s.Connected c := by
  rcases (h.known hlive entry hentry).2 with ⟨-, hnot⟩ | ⟨htalking, -⟩
  · exact hnot
  · rw [hringing] at htalking
    cases htalking

/-- The account of a channel that lives and has been started. -/
theorem of_live (entry : ChannelCacheEntry) (hlive : s.destroyed c = false)
    (hentry : s.channels c = some entry) (hstarted : s.Started c)
    (hended : s.count .ended c = 0) (habandoned : s.count .abandoned c = 0)
    (hstate : entry.state = .ringing ∧ ¬ s.Connected c ∧ s.connects c = 0 ∨
      entry.state = .talking ∧ s.Connected c ∧ s.connects c = 1) : Accounted s c where
  ended := by rw [hended, if_neg (by simp [hlive])]
  abandoned := by rw [habandoned, if_neg (by simp [hlive])]
  connects := by
    rcases hstate with ⟨-, hnot, hconnects⟩ | ⟨-, hconnected, hconnects⟩
    · rw [hconnects, if_neg hnot]
    · rw [hconnects, if_pos hconnected]
  unknown := by
    intro _ hnone
    rw [hentry] at hnone
    cases hnone
  known := by
    intro _ entry' hentry'
    cases hentry.symm.trans hentry'
    refine ⟨hstarted, ?_⟩
    rcases hstate with ⟨hstate, hnot, -⟩ | ⟨hstate, hconnected, -⟩
    · exact .inl ⟨hstate, hnot⟩
    · exact .inr ⟨hstate, hconnected⟩

end Accounted

section Steps

variable {s : World} {c : String} {call : CallEvent} {env : Env} {entry : ChannelCacheEntry}

/-- A start of another channel. -/
theorem sameAt_start (hne : c ≠ call.channel) (entry : Option ChannelCacheEntry) :
    SameAt s (s.sent .start call) c ∧
      SameAt s ((s.sent .start call).entered call.channel entry) c := by
  have hcount : ∀ kind, (s.sent .start call).count kind c = s.count kind c := by
    intro kind
    rw [count_sent, if_neg fun h => hne h.2.symm, Nat.add_zero]
  have hconnects : (s.sent .start call).connects c = s.connects c :=
    connects_sent fun _ => by simp
  exact ⟨⟨hcount _, hcount _, hcount _, hconnects, Iff.rfl, rfl, rfl⟩,
    ⟨hcount _, hcount _, hcount _, hconnects, Iff.rfl, rfl, Function.update_of_ne hne ..⟩⟩

/-- A start counts, and nothing else does. -/
theorem count_start (call : CallEvent) (c : String) : (s.sent .start call).Started call.channel ∧
    (s.sent .start call).count .ended c = s.count .ended c ∧
    (s.sent .start call).count .abandoned c = s.count .abandoned c ∧
    (s.sent .start call).connects c = s.connects c := by
  refine ⟨?_, ?_, ?_, connects_sent fun _ => by simp⟩
  · unfold World.Started
    rw [count_sent, if_pos ⟨rfl, rfl⟩]
    omega
  · rw [count_sent, if_neg (by simp), Nat.add_zero]
  · rw [count_sent, if_neg (by simp), Nat.add_zero]

/-- A channel starts, and rings. -/
theorem accounted_start (h : Accounted s call.channel) (hlive : s.destroyed call.channel = false)
    (hconnected : ¬ s.Connected call.channel) :
    Accounted ((s.sent .start call).entered call.channel
      (some ⟨call.app, call.appInstance, .ringing⟩)) call.channel := by
  obtain ⟨hstarted, hended, habandoned, hconnects⟩ :=
    count_start (s := s) call call.channel
  refine Accounted.of_live _ hlive (Function.update_self ..) hstarted
    (hended.trans (h.ended_zero hlive)) (habandoned.trans (h.abandoned_zero hlive))
    (.inl ⟨rfl, hconnected, hconnects.trans ?_⟩)
  rw [h.connects, if_neg hconnected]

/-- A channel that has a state starts again, and its state cannot be written. -/
theorem accounted_restart (h : Accounted s call.channel)
    (hlive : s.destroyed call.channel = false) (hknown : s.channels call.channel ≠ none) :
    Accounted (s.sent .start call) call.channel := by
  obtain ⟨hstarted, hended, habandoned, hconnects⟩ :=
    count_start (s := s) call call.channel
  obtain ⟨entry, hentry⟩ := Option.ne_none_iff_exists'.mp hknown
  refine Accounted.of_live entry hlive hentry hstarted
    (hended.trans (h.ended_zero hlive)) (habandoned.trans (h.abandoned_zero hlive)) ?_
  rcases (h.known hlive entry hentry).2 with ⟨hstate, hnot⟩ | ⟨hstate, hconnected⟩
  · refine .inl ⟨hstate, hnot, hconnects.trans ?_⟩
    rw [h.connects, if_neg hnot]
  · refine .inr ⟨hstate, hconnected, hconnects.trans ?_⟩
    rw [h.connects, if_pos hconnected]

/-- A connection of another channel with itself. -/
theorem sameAt_connect (hne : c ≠ call.channel) (entry : Option ChannelCacheEntry) :
    SameAt s (((s.joined call.channel call.channel).sent (.connect call.channel) call).entered
      call.channel entry) c := by
  have hcount : ∀ kind,
      ((s.joined call.channel call.channel).sent (.connect call.channel) call).count kind c =
        s.count kind c := by
    intro kind
    rw [count_sent, if_neg fun h => hne h.2.symm]
    rfl
  refine ⟨hcount _, hcount _, hcount _, ?_, ?_, rfl, Function.update_of_ne hne ..⟩
  · show ((s.joined _ _).sent _ _).connects c = _
    rw [connects_sent_connect, if_neg (by simp [hne.symm])]
    rfl
  · show (s.joined call.channel call.channel).Connected c ↔ _
    rw [connected_joined]
    simp [hne.symm]

/-- A ringing channel is connected with itself, and talks. -/
theorem accounted_connect (h : Accounted s call.channel)
    (hlive : s.destroyed call.channel = false) (hentry : s.channels call.channel = some entry)
    (hringing : entry.state = .ringing) :
    Accounted (((s.joined call.channel call.channel).sent (.connect call.channel) call).entered
      call.channel (some ⟨call.app, call.appInstance, .talking⟩)) call.channel := by
  have hnot := h.not_connected hlive hentry hringing
  have hcount : ∀ kind, (∀ o, kind ≠ .connect o) →
      ((s.joined call.channel call.channel).sent (.connect call.channel) call).count kind
        call.channel = s.count kind call.channel := by
    intro kind hkind
    rw [count_sent, if_neg fun h => hkind _ h.1.symm]
    rfl
  refine Accounted.of_live _ hlive (Function.update_self ..) ?_
    ((hcount _ (by simp)).trans (h.ended_zero hlive))
    ((hcount _ (by simp)).trans (h.abandoned_zero hlive))
    (.inr ⟨rfl, connected_joined.mpr (.inr (.inl rfl)), ?_⟩)
  · show ((s.joined _ _).sent _ _).count .start _ ≠ 0
    rw [hcount _ (by simp)]
    exact (h.known hlive entry hentry).1
  · show ((s.joined _ _).sent _ _).connects _ = 1
    have hzero : s.connects call.channel = 0 := by rw [h.connects, if_neg hnot]
    rw [connects_sent_connect, if_pos (.inl rfl)]
    show s.connects call.channel + 1 = 1
    rw [hzero]

/-- The end of another channel. -/
theorem sameAt_hungUp (env : Env) (hne : c ≠ call.channel) (state : StateName) :
    SameAt s (s.hungUp env call state) c := by
  have hsent : ∀ {t : World} {kind : StatKind}, (∀ o, kind ≠ .connect o) → SameAt s t c →
      SameAt s (t.sent kind call) c := by
    intro t kind hkind ht
    have hcount : ∀ kind', (t.sent kind call).count kind' c = t.count kind' c := by
      intro kind'
      rw [count_sent, if_neg fun h => hne h.2.symm, Nat.add_zero]
    exact ⟨(hcount _).trans ht.started, (hcount _).trans ht.ended, (hcount _).trans ht.abandoned,
      (connects_sent hkind).trans ht.connects, ht.connected, ht.destroyed, ht.channels⟩
  have hself : SameAt s s c := ⟨rfl, rfl, rfl, rfl, Iff.rfl, rfl, rfl⟩
  have hended : SameAt s (s.sent .ended call) c := hsent (by simp) hself
  unfold World.hungUp
  split
  · exact hsent (by simp) (hsent (by simp) hended)
  · exact hsent (by simp) hended
  · exact hended
  · exact hended
  · exact hself

/-- What the end of a channel counts. -/
theorem count_hungUp (call : CallEvent) (c : String) {state : StateName}
    (hseconds : state = .ringing → env.seconds ≠ none) :
    (s.hungUp env call state).count .start c = s.count .start c ∧
    (s.hungUp env call state).count .ended call.channel = s.count .ended call.channel +
      (if state = .onHook then 0 else 1) ∧
    (s.hungUp env call state).count .abandoned call.channel = s.count .abandoned call.channel +
      (if state = .ringing then 1 else 0) ∧
    (s.hungUp env call state).connects c = s.connects c := by
  unfold World.hungUp
  cases state with
  | onHook => simp
  | ringing =>
    obtain ⟨seconds, hs⟩ := Option.ne_none_iff_exists'.mp (hseconds rfl)
    rw [hs]
    simp [count_sent, connects_sent]
  | talking => cases env.seconds <;> simp [count_sent, connects_sent]

/-- The end of a channel sends statistics only. -/
theorem hungUp_rest (call : CallEvent) (env : Env) (state : StateName) :
    (s.hungUp env call state).bridged = s.bridged ∧
      (s.hungUp env call state).destroyed = s.destroyed := by
  unfold World.hungUp
  split <;> exact ⟨rfl, rfl⟩

/-- The channel is destroyed. -/
def World.destroy (s : World) (c : String) : World :=
  { s with destroyed := Function.update s.destroyed c true }

/-- The end of another channel, afterwards. -/
theorem SameAt.destroy {s' : World} (h : SameAt s s' c) {channel : String} (hne : c ≠ channel) :
    SameAt s (s'.destroy channel) c :=
  ⟨h.started, h.ended, h.abandoned, h.connects, h.connected,
    (Function.update_of_ne hne ..).trans h.destroyed, h.channels⟩

/-- The state of another channel goes. -/
theorem SameAt.entered {s' : World} (h : SameAt s s' c) {channel : String} (hne : c ≠ channel)
    (entry : Option ChannelCacheEntry) : SameAt s (s'.entered channel entry) c :=
  ⟨h.started, h.ended, h.abandoned, h.connects, h.connected, h.destroyed,
    (Function.update_of_ne hne ..).trans h.channels⟩

/-- The account of a channel that is destroyed. -/
theorem accounted_of_destroyed (hdestroyed : s.destroyed c = true)
    (hended : s.count .ended c = if s.Started c then 1 else 0)
    (habandoned : s.count .abandoned c = if s.Started c ∧ ¬ s.Connected c then 1 else 0)
    (hconnects : s.connects c = if s.Connected c then 1 else 0) : Accounted s c where
  ended := by simp only [hended, hdestroyed, true_and]
  abandoned := by simp only [habandoned, hdestroyed, true_and]
  connects := hconnects
  unknown h := by
    rw [hdestroyed] at h
    cases h
  known h := by
    rw [hdestroyed] at h
    cases h

/-- A channel without a state is destroyed: it has never been started. -/
theorem accounted_destroy_unknown (h : Accounted s c) (hlive : s.destroyed c = false)
    (hnone : s.channels c = none) : Accounted (s.destroy c) c := by
  obtain ⟨hstarted, hconnected⟩ := h.unknown hlive hnone
  refine accounted_of_destroyed (Function.update_self ..) ?_ ?_ h.connects
  · show s.count .ended c = if s.Started c then 1 else 0
    rw [h.ended_zero hlive, if_neg hstarted]
  · show s.count .abandoned c = if s.Started c ∧ ¬ s.Connected c then 1 else 0
    rw [h.abandoned_zero hlive, if_neg fun hs => hstarted hs.1]

/-- A channel with a state is destroyed: it ends, and is abandoned if it rings. -/
theorem accounted_destroy (h : Accounted s call.channel)
    (hlive : s.destroyed call.channel = false) (hentry : s.channels call.channel = some entry)
    (hseconds : entry.state = .ringing → env.seconds ≠ none) :
    Accounted ((s.hungUp env call entry.state).destroy call.channel) call.channel := by
  obtain ⟨hstarted, hstate⟩ := h.known hlive entry hentry
  obtain ⟨hcstart, hcended, hcabandoned, hcconnects⟩ :=
    count_hungUp (s := s) call call.channel hseconds
  have hbridged := (hungUp_rest (s := s) call env entry.state).1
  have hstarted' : (s.hungUp env call entry.state).Started call.channel := by
    unfold World.Started
    rw [hcstart]
    exact hstarted
  have hconnected' : (s.hungUp env call entry.state).Connected call.channel ↔
      s.Connected call.channel := by
    unfold World.Connected
    rw [hbridged]
  rw [h.ended_zero hlive] at hcended
  rw [h.abandoned_zero hlive] at hcabandoned
  refine accounted_of_destroyed (Function.update_self ..) ?_ ?_ ?_
  · show (s.hungUp env call entry.state).count .ended call.channel =
      if (s.hungUp env call entry.state).Started call.channel then 1 else 0
    rw [hcended, if_pos hstarted']
    rcases hstate with ⟨hstate, -⟩ | ⟨hstate, -⟩ <;> rw [hstate] <;> rfl
  · show (s.hungUp env call entry.state).count .abandoned call.channel =
      if (s.hungUp env call entry.state).Started call.channel ∧
        ¬ (s.hungUp env call entry.state).Connected call.channel then 1 else 0
    rcases hstate with ⟨hstate, hnot⟩ | ⟨hstate, hconnected⟩
    · rw [hcabandoned, if_pos hstate, if_pos ⟨hstarted', fun hc => hnot (hconnected'.mp hc)⟩]
    · rw [hcabandoned, if_neg (by simp [hstate]), if_neg fun hs => hs.2 (hconnected'.mpr hconnected)]
  · show (s.hungUp env call entry.state).connects call.channel =
      if (s.hungUp env call entry.state).Connected call.channel then 1 else 0
    rw [hcconnects, h.connects]
    simp only [hconnected']

/-- What is not in the state of a destroyed channel does not matter. -/
theorem accounted_forget (h : Accounted s c) (hdestroyed : s.destroyed c = true)
    (entry : Option ChannelCacheEntry) : Accounted (s.entered c entry) c where
  ended := h.ended
  abandoned := h.abandoned
  connects := h.connects
  unknown hlive := by
    rw [show (s.entered c entry).destroyed c = true from hdestroyed] at hlive
    cases hlive
  known hlive := by
    rw [show (s.entered c entry).destroyed c = true from hdestroyed] at hlive
    cases hlive

end Steps

/-! ## Runs -/

/-- Every channel is accounted for. -/
def World.Sound (s : World) : Prop := ∀ c, Accounted s c

theorem sound_start : World.start.Sound := fun c =>
  { ended := rfl
    abandoned := rfl
    connects := rfl
    unknown := fun _ _ => ⟨fun h => h rfl, by rintro ⟨pair, hpair, -⟩; cases hpair⟩
    known := fun _ entry hentry => by cases hentry }

/-- An event that starts a call, or connects a channel with itself. -/
theorem stasisStart_sound {s : World} {event : StasisStart} {env : Env} (h : s.Sound)
    (hlive : s.destroyed event.channel = false) (hC : Careful s (.stasisStart event env)) :
    (stasisStart event env s).2.Sound := by
  obtain ⟨hconnects, hstarts⟩ := hC
  by_cases hstart : Starts event env
  · obtain ⟨call, hchannel, hrun⟩ := stasisStart_starts (s := s) hstart
    have hcareful := hstarts hstart
    rw [← hchannel] at hlive hcareful hrun
    intro c
    rw [hrun]
    by_cases hc : c = call.channel
    · subst hc
      split
      · rename_i hfails
        rw [if_pos hfails] at hcareful
        exact accounted_restart (h _) hlive hcareful
      · rename_i hfails
        rw [if_neg hfails] at hcareful
        exact accounted_start (h _) hlive hcareful
    · split
      · exact (h c).of_same (sameAt_start hc none).1
      · exact (h c).of_same (sameAt_start hc _).2
  · by_cases hconnect : ∃ originator, Connects s event env originator
    · obtain ⟨originator, hconnect⟩ := hconnect
      obtain ⟨call, hchannel, hrun⟩ := stasisStart_connects hconnect
      obtain ⟨horiginator, hwrite⟩ := hconnects originator hconnect
      obtain ⟨entry, hentry, hringing⟩ :=
        Option.map_eq_some_iff.mp hconnect.2.2.2.2.2.2
      rw [horiginator, ← hchannel] at hrun
      rw [horiginator, ← hchannel] at hentry
      rw [← hchannel] at hlive hwrite
      rw [hrun, if_neg (by simp [hwrite])]
      intro c
      by_cases hc : c = call.channel
      · subst hc
        exact accounted_connect (h _) hlive hentry hringing
      · exact (h c).of_same (sameAt_connect hc _)
    · rw [stasisStart_idle hstart fun originator hc => hconnect ⟨originator, hc⟩]
      exact h

/-- The end of a channel. -/
theorem channelDestroyed_sound {s : World} {channel : String} {env : Env} (h : s.Sound)
    (hlive : s.destroyed channel = false) (hC : Careful s (.channelDestroyed channel env)) :
    ((channelDestroyed channel env s).2.destroy channel).Sound := by
  cases hentry : s.channels channel with
  | none =>
    rw [channelDestroyed_none hentry]
    intro c
    by_cases hc : c = channel
    · subst hc
      exact accounted_destroy_unknown (h _) hlive hentry
    · exact (h c).of_same (SameAt.destroy ⟨rfl, rfl, rfl, rfl, Iff.rfl, rfl, rfl⟩ hc)
  | some entry =>
    obtain ⟨hget, hseconds⟩ := hC entry hentry
    obtain ⟨call, rfl, hrun⟩ := channelDestroyed_some env hget hentry
    intro c
    by_cases hc : c = call.channel
    · subst hc
      have hgone := accounted_destroy (h _) hlive hentry hseconds
      rcases hrun with hrun | hrun
      · rw [hrun]
        exact hgone
      · rw [hrun]
        exact accounted_forget hgone (Function.update_self ..) none
    · have hsame := sameAt_hungUp (s := s) env hc entry.state
      rcases hrun with hrun | hrun
      · rw [hrun]
        exact (h c).of_same (hsame.destroy hc)
      · rw [hrun]
        exact (h c).of_same ((hsame.entered hc none).destroy hc)

theorem step_sound {s s' : World} {a : Label} (h : s.Sound) (hC : Careful s a)
    (hstep : machine.step a s = some s') : s'.Sound := by
  cases a with
  | stasisStart event env =>
    dsimp only [machine] at hstep
    split at hstep <;> cases hstep
    rename_i hlive
    exact stasisStart_sound h (by simpa using hlive) hC
  | channelDestroyed channel env =>
    dsimp only [machine] at hstep
    split at hstep <;> cases hstep
    rename_i hlive
    exact channelDestroyed_sound h (by simpa using hlive) hC

theorem sound_of_reaches {s : World} (h : machine.Reaches Careful s) : s.Sound := by
  refine Machine.Reaches.invariant (I := World.Sound) ?_ ?_ h
  · rintro s rfl
    exact sound_start
  · intro s a s' hs hC hstep
    exact step_sound hs hC hstep

/-! ## Steps that are not careful -/

section Careless

variable {s : World} {c : String} {event : StasisStart} {env : Env} {entry : ChannelCacheEntry}

/-- Nothing fails, and every channel is found. -/
def healthy : Env where
  fails := fun _ => false
  found := fun _ => true
  seconds := some 0

theorem step_destroyed (hlive : s.destroyed c = false) :
    machine.step (.channelDestroyed c env) s = some ((channelDestroyed c env s).2.destroy c) := by
  dsimp only [machine]
  rw [hlive]
  rfl

/-- A channel that rings on after it has been connected is abandoned. -/
theorem abandoned_connected (entry : ChannelCacheEntry) (hlive : s.destroyed c = false)
    (hentry : s.channels c = some entry) (hringing : entry.state = .ringing) (hconnected : s.Connected c) :
    ∃ s', machine.run [.channelDestroyed c healthy] s = some s' ∧ ¬ s'.Balanced c := by
  refine ⟨_, by rw [Machine.run, step_destroyed hlive]; rfl, fun hbalanced => ?_⟩
  obtain ⟨call, rfl, hrun⟩ := channelDestroyed_some healthy rfl hentry
  have hseconds : ∀ state : StateName, state = .ringing → healthy.seconds ≠ none :=
    fun _ _ => by simp [healthy]
  have hcount := (count_hungUp (s := s) call call.channel (hseconds entry.state)).2.2.1
  have hbridged := (hungUp_rest (s := s) call healthy entry.state).1
  rw [if_pos hringing] at hcount
  have habandoned := hbalanced.abandoned
  have hend : ∀ s₁ : World, s₁.stats = (s.hungUp healthy call entry.state).stats →
      s₁.bridged = (s.hungUp healthy call entry.state).bridged →
      (s₁.destroy call.channel).count .abandoned call.channel = (if
        (s₁.destroy call.channel).destroyed call.channel ∧
          (s₁.destroy call.channel).Started call.channel ∧
          ¬ (s₁.destroy call.channel).Connected call.channel then 1 else 0) → False := by
    intro s₁ hstats hbridged₁ h
    have hconnected' : (s₁.destroy call.channel).Connected call.channel := by
      show ∃ pair ∈ s₁.bridged, _
      rw [hbridged₁, hbridged]
      exact hconnected
    rw [if_neg fun hs => hs.2.2 hconnected'] at h
    have : (s₁.destroy call.channel).count .abandoned call.channel =
        (s.hungUp healthy call entry.state).count .abandoned call.channel := by
      show s₁.stats.countP _ = _
      rw [hstats]
      rfl
    omega
  rcases hrun with hrun | hrun
  · rw [hrun] at habandoned
    exact hend _ rfl rfl habandoned
  · rw [hrun] at habandoned
    exact hend _ rfl rfl habandoned

/-- A channel that has been started and is destroyed without an end. -/
theorem not_balanced_of_ended (hdestroyed : s.destroyed c = true) (hstarted : s.Started c)
    (hended : s.count .ended c = 0) : ¬ s.Balanced c := by
  intro h
  have := h.ended
  rw [if_pos ⟨hdestroyed, hstarted⟩, hended] at this
  cases this

/-- A connection that is not careful: the channel that has dialed rings on. -/
theorem careless_connect {originator : String}
    (hlive : s.destroyed event.channel = false) (hconnect : Connects s event env originator)
    (hC : ¬ (originator = event.channel ∧ env.fails (.setGlobalVar event.channel) = false)) :
    ∃ as s', machine.run (.stasisStart event env :: as) s = some s' ∧ ∃ c, ¬ s'.Balanced c := by
  obtain ⟨call, hchannel, hrun⟩ := stasisStart_connects hconnect
  obtain ⟨entry, hentry, hringing⟩ := Option.map_eq_some_iff.mp hconnect.2.2.2.2.2.2
  have hstep : machine.step (.stasisStart event env) s = some (stasisStart event env s).2 := by
    dsimp only [machine]
    rw [hlive]
    rfl
  have hjoined : (s.joined originator event.channel).Connected originator :=
    connected_joined.mpr (.inr (.inl rfl))
  obtain ⟨s', hrun', hbalanced⟩ := abandoned_connected
    (s := (stasisStart event env s).2) (c := originator) entry
    (by rw [hrun]; split <;> exact hconnect.2.2.2.1)
    (by
      rw [hrun]
      split
      · exact hentry
      · rename_i hwrite
        have hne : originator ≠ event.channel := fun e => hC ⟨e, by simpa using hwrite⟩
        exact (Function.update_of_ne hne ..).trans hentry)
    hringing (by rw [hrun]; split <;> exact hjoined)
  refine ⟨[.channelDestroyed originator healthy], s', ?_, originator, hbalanced⟩
  rw [Machine.run, hstep]
  exact hrun'

/-- A start that is not careful: of a channel that has been connected, or whose state is not
written. -/
theorem careless_start (h : s.Sound) (hlive : s.destroyed event.channel = false)
    (hstart : Starts event env)
    (hC : ¬ if env.fails (.setGlobalVar event.channel) then s.channels event.channel ≠ none
      else ¬ s.Connected event.channel) :
    ∃ as s', machine.run (.stasisStart event env :: as) s = some s' ∧ ∃ c, ¬ s'.Balanced c := by
  obtain ⟨call, hchannel, hrun⟩ := stasisStart_starts (s := s) hstart
  have hstep : machine.step (.stasisStart event env) s = some (stasisStart event env s).2 := by
    dsimp only [machine]
    rw [hlive]
    rfl
  cases hwrite : env.fails (.setGlobalVar event.channel) with
  | true =>
    rw [if_pos hwrite] at hC hrun
    have hnone : s.channels event.channel = none := by simpa using hC
    have hnone' : (s.sent .start call).channels event.channel = none := hnone
    refine ⟨[.channelDestroyed event.channel healthy],
      (s.sent .start call).destroy event.channel, ?_, event.channel, ?_⟩
    · rw [Machine.run, hstep, hrun, Option.bind_some, Machine.run,
        step_destroyed (s := s.sent .start call) hlive, channelDestroyed_none hnone']
      rfl
    · refine not_balanced_of_ended (Function.update_self ..) ?_ ?_
      · show (s.sent .start call).Started event.channel
        rw [← hchannel]
        exact (count_start _ call.channel).1
      · show (s.sent .start call).count .ended event.channel = 0
        rw [(count_start _ event.channel).2.1]
        exact (h _).ended_zero hlive
  | false =>
    rw [if_neg (by simp [hwrite])] at hC hrun
    have hconnected : s.Connected event.channel := not_not.mp hC
    obtain ⟨s', hrun', hbalanced⟩ := abandoned_connected
      (s := (stasisStart event env s).2) (c := event.channel)
      ⟨call.app, call.appInstance, .ringing⟩
      (by rw [hrun]; exact hlive) (by rw [hrun]; exact Function.update_self ..) rfl
      (by rw [hrun]; exact hconnected)
    refine ⟨[.channelDestroyed event.channel healthy], s', ?_, event.channel, hbalanced⟩
    rw [Machine.run, hstep]
    exact hrun'

/-- An end that is not careful: the state is not read, or the duration of an abandoned call
cannot be told. -/
theorem careless_end (h : s.Sound) (hlive : s.destroyed c = false)
    (hC : ¬ Careful s (.channelDestroyed c env)) :
    ∃ as s', machine.run (.channelDestroyed c env :: as) s = some s' ∧ ∃ c, ¬ s'.Balanced c := by
  unfold Careful at hC
  push Not at hC
  obtain ⟨entry, hentry, hC⟩ := hC
  have hentry : s.channels c = some entry := hentry
  obtain ⟨hstarted, hstate⟩ := (h c).known hlive entry hentry
  refine ⟨[], (channelDestroyed c env s).2.destroy c, ?_, c, ?_⟩
  · rw [Machine.run, step_destroyed hlive]
    rfl
  cases hget : env.fails (.getGlobalVar c) with
  | true =>
    rw [channelDestroyed_fails hget]
    exact not_balanced_of_ended (Function.update_self ..) hstarted ((h c).ended_zero hlive)
  | false =>
    obtain ⟨hringing, hseconds⟩ := hC hget
    have hnot := (h c).not_connected hlive hentry hringing
    obtain ⟨call, rfl, hrun⟩ := channelDestroyed_some env hget hentry
    -- the end is counted, and the abandonment is not
    have hhungUp : s.hungUp env call entry.state = s.sent .ended call := by
      unfold World.hungUp
      rw [hringing, hseconds]
    rw [hhungUp] at hrun
    have hend : ∀ s₁ : World, s₁.stats = (s.sent .ended call).stats → s₁.bridged = s.bridged →
        ¬ (s₁.destroy call.channel).Balanced call.channel := by
      intro s₁ hstats hbridged hbalanced
      have hcount : ∀ kind, (s₁.destroy call.channel).count kind call.channel =
          (s.sent .ended call).count kind call.channel := by
        intro kind
        show s₁.stats.countP _ = _
        rw [hstats]
        rfl
      have hstarted' : (s₁.destroy call.channel).Started call.channel := by
        unfold World.Started
        rw [hcount, count_sent, if_neg (by simp)]
        exact hstarted
      have hnot' : ¬ (s₁.destroy call.channel).Connected call.channel := by
        show ¬ ∃ pair ∈ s₁.bridged, _
        rw [hbridged]
        exact hnot
      have habandoned := hbalanced.abandoned
      rw [if_pos ⟨Function.update_self .., hstarted', hnot'⟩, hcount, count_sent,
        if_neg (by simp), (h _).abandoned_zero hlive] at habandoned
      cases habandoned
    rcases hrun with hrun | hrun
    · rw [hrun]
      exact hend _ rfl rfl
    · rw [hrun]
      exact hend _ rfl rfl

end Careless

/-- **The statistics balance**: in every run of events in which no channel is connected with
another one, a channel that starts has not been connected, and the states of the channels are
read and written, every channel that has been started gets one end when it is destroyed, and
no other one does; it is abandoned unless it has been connected, and a connection is counted
once.  After an event that is not so, a further one leaves a channel that does not balance, or
the event itself does. -/
theorem statistics_balance {s : World} (h : machine.Reaches Careful s) :
    (∀ c, s.Balanced c) ∧
      ∀ a, (machine.step a s).isSome → ¬ Careful s a →
        ∃ as s', machine.run (a :: as) s = some s' ∧ ∃ c, ¬ s'.Balanced c := by
  have hsound := sound_of_reaches h
  refine ⟨fun c => (hsound c).toBalanced, fun a hstep hC => ?_⟩
  cases a with
  | stasisStart event env =>
    have hlive : s.destroyed event.channel = false := by
      by_contra hgone
      simp [machine, hgone] at hstep
    unfold Careful at hC
    by_cases hconnects : ∀ originator, Connects s event env originator →
        originator = event.channel ∧ env.fails (.setGlobalVar event.channel) = false
    · obtain ⟨hstart, hnot⟩ := Classical.not_imp.mp fun hs => hC ⟨hconnects, hs⟩
      exact careless_start hsound hlive hstart hnot
    · push Not at hconnects
      obtain ⟨originator, hconnect, hnot⟩ := hconnects
      exact careless_connect hlive hconnect fun hs => hnot hs.1 hs.2
  | channelDestroyed channel env =>
    have hlive : s.destroyed channel = false := by
      by_contra hgone
      simp [machine, hgone] at hstep
    exact careless_end hsound hlive hC

instance (event : StasisStart) (env : Env) : Decidable (Transfers event env) := by
  unfold Transfers
  split <;> infer_instance

instance (event : StasisStart) (env : Env) : Decidable (Starts event env) :=
  inferInstanceAs (Decidable (_ ∧ _))

instance (env : Env) (originator channel : String) : Decidable (Bridges env originator channel) :=
  inferInstanceAs (Decidable (∀ r ∈ _, _))

instance (s : World) (event : StasisStart) (env : Env) (originator : String) :
    Decidable (Connects s event env originator) := inferInstanceAs (Decidable (_ ∧ _))

/-- Only the channel that the event names can have dialed. -/
theorem careful_connect_iff {s : World} {event : StasisStart} {env : Env} {P : String → Prop} :
    (∀ originator, Connects s event env originator → P originator) ↔
      ∀ originator ∈ event.originator, Connects s event env originator → P originator := by
  constructor
  · intro h originator _ hconnect
    exact h originator hconnect
  · intro h originator hconnect
    exact h originator hconnect.2.2.1 hconnect

instance (s : World) (event : StasisStart) (env : Env) (P : String → Prop) [DecidablePred P] :
    Decidable (∀ originator, Connects s event env originator → P originator) :=
  decidable_of_iff _ careful_connect_iff.symm

instance (s : World) : ∀ a : Label, Decidable (Careful s a)
  | .stasisStart event env => inferInstanceAs (Decidable
      ((∀ originator, Connects s event env originator →
        originator = event.channel ∧ env.fails (.setGlobalVar event.channel) = false) ∧
      (Starts event env →
        if env.fails (.setGlobalVar event.channel) then s.channels event.channel ≠ none
        else ¬ s.Connected event.channel)))
  | .channelDestroyed channel env => inferInstanceAs (Decidable
      (∀ entry ∈ s.channels channel, env.fails (.getGlobalVar channel) = false ∧
        (entry.state = .ringing → env.seconds ≠ none)))

/-- Where a list of events leads. -/
def after (as : List Label) : World := (machine.run as World.start).getD World.start

/-- A channel enters the application for a new call. -/
def newCall (channel : String) : Label :=
  .stasisStart ⟨channel, "callcontrol", some ["switchboard-red"], none⟩ healthy

/-- A channel that has been dialed enters the application. -/
def dialed (channel originator : String) : Label :=
  .stasisStart ⟨channel, "callcontrol", some ["switchboard-red", "dialed_from", originator], none⟩
    healthy

/-- Two calls, one of which enters the application again, and is abandoned. -/
def abandonedCalls : List Label :=
  [newCall "1.1", newCall "1.2", newCall "1.1", .channelDestroyed "1.1" healthy]

theorem abandonedCalls_balance : (after abandonedCalls).Balanced "1.1" := by
  have run : machine.run abandonedCalls World.start = some (after abandonedCalls) := rfl
  have meets : machine.Meets Careful abandonedCalls World.start := by decide
  exact (statistics_balance (Machine.Reaches.run (.init rfl) meets run)).1 "1.1"

/-- A call is connected with the channel that it has dialed, and both hang up. -/
def connectedCall : List Label :=
  [newCall "1.1", dialed "1.2" "1.1", .channelDestroyed "1.2" healthy,
    .channelDestroyed "1.1" healthy]

/-- **A connected call is abandoned**, and the channel that it has dialed ends without a start. -/
theorem connectedCall_abandoned :
    (after connectedCall).Connected "1.1" ∧ (after connectedCall).count .abandoned "1.1" = 1 ∧
      ¬ (after connectedCall).Started "1.2" ∧ (after connectedCall).count .ended "1.2" = 1 ∧
      ¬ (after connectedCall).Balanced "1.1" ∧ ¬ (after connectedCall).Balanced "1.2" := by
  have habandoned : (after connectedCall).count .abandoned "1.1" = 1 := by decide
  have hended : (after connectedCall).count .ended "1.2" = 1 := by decide
  have hconnected : (after connectedCall).Connected "1.1" := by decide
  have hstarted : ¬ (after connectedCall).Started "1.2" := by decide
  refine ⟨hconnected, habandoned, hstarted, hended, fun h => ?_, fun h => ?_⟩
  · have := h.abandoned
    rw [habandoned, if_neg fun hs => hs.2.2 hconnected] at this
    cases this
  · have := h.ended
    rw [hended, if_neg fun hs => hstarted hs.2] at this
    cases this

end Calld.CallStats
