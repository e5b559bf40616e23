/-
# Every push that was sent is closed

A push that has been published is to be completed or cancelled, unless a mobile that was
dialed for the call has joined it: only then may its entry be pruned.

The code drops the entry in other cases too: a second push for the call overwrites it, a
channel that picks the call up joins without cancelling it, a join whose requests fail is
pruned all the same, and a push may be published just before the call is pruned.  In the
runs without such a step no entry is dropped (`pushes_closed`).
-/
import Calld.DialMobile.Dials

namespace Calld.DialMobile

open Effect Effect.Program

/-! ## What is to be shown -/

/-- A mobile that was dialed for a call has been bridged with the caller. -/
def Joined (b : BridgeUuid) (call : CallId) (w : World) : Prop :=
  .dialed b call ∈ w.trace ∧ ∃ c ∈ w.dialedChannels b, .bridged b c ∈ w.trace

/-- A published push is closed only by being completed or cancelled, or because a mobile of
the dial that is registered for the call has joined. -/
def ClosesPushes (w w' : World) : Prop :=
  ∀ call push, w.incomingCalls.get call = some (.notified push) →
    w'.incomingCalls.get call = some (.notified push) ∨
    w'.incomingCalls.get call = some (.received push) ∨
    (∃ n, n.push = push.id ∧ .cancelPushNotification n ∈ w'.trace) ∨
    ∃ b, w.originCallIdByBridgeUuid.get b = some call ∧ Joined b call w'

/-! ## The steps that may drop a push -/

/-- A mobile that was dialed is bridged with the caller; or the caller is found to be gone,
and the channel is hung up. -/
def joinsOrFindsGone (env : Env) (w : World) (c : ChannelId) (b : BridgeUuid) : Bool :=
  let caller := env.answer (w.callerChannelLegByBridge.get b)
  (c ∈ w.dialedChannels b && succeeds caller && succeeds (env.answer (some c)) &&
      succeeds env.bridge) ||
    (isGone caller && (succeeds (env.hangup c) || isGone (env.hangup c)))

theorem joins_cases {env : Env} {w : World} {c : ChannelId} {b : BridgeUuid}
    (h : joinsOrFindsGone env w c b = true) :
    (c ∈ w.dialedChannels b ∧ succeeds (env.answer (w.callerChannelLegByBridge.get b)) = true ∧
      succeeds (env.answer (some c)) = true ∧ succeeds env.bridge = true) ∨
    (isGone (env.answer (w.callerChannelLegByBridge.get b)) = true ∧
      (succeeds (env.hangup c) || isGone (env.hangup c)) = true) := by
  unfold joinsOrFindsGone at h
  rcases Bool.or_eq_true .. ▸ h with h | h
  · simp only [Bool.and_eq_true, decide_eq_true_eq] at h
    exact .inl ⟨h.1.1.1, h.1.1.2, h.1.2, h.2⟩
  · exact .inr (Bool.and_eq_true .. ▸ h)

/-- The bridge whose call the task is about to prune. -/
def Task.prunes : Task → Option BridgeUuid
  | .joinPrune b | .gonePrune b _ => some b
  | _ => none

/-- A step that closes the pushes it drops: no push is requested for a call whose push is
open, none is published just before the call is pruned, and while the push of a call is
open the channels that join are mobiles that were dialed, whose requests succeed. -/
def Careful (s : Sys) : Label → Prop
  | .run (.sendPush r) _ => s.world.isNotified r.originCallId = false
  | .run (.publishPush push) _ => ∀ b ∈ s.tasks.filterMap Task.prunes,
      s.world.originCallIdByBridgeUuid.get b ≠ some push.originCallId
  | .run (.joinAnswer c b (some call)) env => s.world.isNotified call = true →
      joinsOrFindsGone env s.world c b = true
  | .run (.joinCancel _ call) env => s.world.isNotified call = true →
      succeeds env.notifier = true
  | _ => True

instance (s : Sys) (a : Label) : Decidable (Careful s a) := by
  unfold Careful
  rcases a with t | timer | ⟨t, env⟩
  · infer_instance
  · infer_instance
  · rcases t with ⟨⟩ <;> try infer_instance
    rename_i call
    rcases call with _ | call <;> infer_instance

/-! ## The invariant -/

/-- A call that is about to be pruned has no open push, or one of its mobiles has joined. -/
def Task.Prunable (t : Task) (w : World) : Prop :=
  ∀ b, t.prunes = some b → b ∈ w.uuids ∧ ∀ call push,
    w.originCallIdByBridgeUuid.get b = some call →
    w.incomingCalls.get call = some (.notified push) → Joined b call w

/-! ## What the sections keep -/

/-- No push is published. -/
def NoneNew (w w' : World) : Prop := ∀ call push,
  w'.incomingCalls.get call = some (.notified push) → w.incomingCalls.get call = some (.notified push)

section Worlds

variable {w w' w'' : World} {env : Env} {t : Task} {b : BridgeUuid} {call : CallId}

/-- A section that publishes no push. -/
theorem noneNew_code (env : Env) (hp : ∀ push, t ≠ .publishPush push) :
    NoneNew w (t.code env w).2 := by
  refine Changes.invariant (I := NoneNew w) (fun w' k hk hw' call push hget => ?_)
    (t.madeOf_may env w).1 fun _ _ h => h
  cases k with
  | incomingCall call' incoming =>
    have hget : (w'.incomingCalls.set call' incoming).get call = some (.notified push) := hget
    rw [Effect.Dict.get_set] at hget
    split at hget
    · obtain rfl := Option.some.inj hget
      cases t <;> first | exact hk.elim | exact absurd rfl (hp _)
    · exact hw' call push hget
  | pruned b call' => exact hw' call push (Effect.Dict.shrinks_pop _ call' _ _ hget)
  | _ => exact hw' call push hget

theorem Joined.evolves (h : Joined b call w) (he : Evolves w w') : Joined b call w' := by
  obtain ⟨hd, c, hc, hb⟩ := h
  exact ⟨he.trace _ hd, c, he.dialed b c hc, he.trace _ hb⟩

theorem Task.Prunable.evolves (h : t.Prunable w) (he : Evolves w w') (hn : NoneNew w w') :
    t.Prunable w' := by
  intro b ht
  obtain ⟨hb, hp⟩ := h b ht
  exact ⟨he.uuids hb, fun call push hc hi =>
    (hp call push (he.calls b hb call hc) (hn call push hi)).evolves he⟩

end Worlds

/-! ## What the sections close -/

/-- A published push is completed or cancelled. -/
def Handles (w w' : World) : Prop :=
  ∀ call push, w.incomingCalls.get call = some (.notified push) →
    w'.incomingCalls.get call = some (.notified push) ∨
    w'.incomingCalls.get call = some (.received push) ∨
    ∃ n, n.push = push.id ∧ .cancelPushNotification n ∈ w'.trace

section Closes

variable {w w' : World} {env : Env} {t : Task} {call : CallId}

theorem Handles.of_eq (h : w'.incomingCalls = w.incomingCalls) : Handles w w' := by
  intro call push hget
  rw [h]
  exact .inl hget

/-- The entry of one call is assigned to. -/
theorem Handles.of_set (call : CallId) (new : IncomingCall)
    (h : ∀ push, w.incomingCalls.get call = some (.notified push) →
      new = .received push ∨ ∃ n, n.push = push.id ∧ .cancelPushNotification n ∈ w'.trace)
    (hw : w'.incomingCalls = w.incomingCalls.set call new) : Handles w w' := by
  intro call' push hget
  rw [hw, Effect.Dict.get_set]
  split
  · rename_i heq
    rw [heq] at hget
    rcases h push hget with rfl | hc
    · exact .inr (.inl rfl)
    · exact .inr (.inr hc)
  · exact .inl hget

theorem handles_cancelPushMobile (env : Env) (w : World) (call : CallId) :
    Handles w (cancelPushMobile call env w).2 := by
  rcases cancelPushMobile_cases env (w := w) call with
    ⟨hw, -⟩ | ⟨_, _, _, _, hw⟩ | ⟨push, hget, _, hw⟩ | ⟨push, hget, hw⟩ <;> rw [hw]
  · exact .of_eq rfl
  · exact .of_eq rfl
  · refine .of_set call (.pushCancelled push) (fun push' hget' => .inr ?_) rfl
    rw [hget] at hget'
    cases hget'
    exact ⟨push.notification call, rfl, mem_snoc.mpr (.inr rfl)⟩
  · refine .of_set call (.pushCancelled push) (fun push' hget' => ?_) rfl
    rw [hget] at hget'
    cases hget'

theorem handles_completePendingPushMobile (env : Env) (w : World) (call : CallId) :
    Handles w (completePendingPushMobile call env w).2 := by
  rcases completePendingPushMobile_cases env (w := w) call with
    ⟨hw, -⟩ | ⟨push, hget | hget, hw⟩ <;> rw [hw]
  · exact .of_eq rfl
  · refine .of_set call (.received push) (fun push' hget' => .inl ?_) rfl
    rw [hget] at hget'
    cases hget'
    rfl
  · refine .of_set call (.received push) (fun push' hget' => ?_) rfl
    rw [hget] at hget'
    cases hget'

theorem handles_publishPush (env : Env) (w : World) (push : Push) :
    Handles w (publishPush push env w).2 := by
  have hset : (∃ pending, w.incomingCalls.get push.originCallId = some (.pending pending)) →
      ∀ w' : World, w'.incomingCalls = w.incomingCalls.set push.originCallId (.notified push) →
        Handles w w' := by
    rintro ⟨pending, hpending⟩ w' hw
    refine .of_set push.originCallId _ (fun push' hget => ?_) hw
    rw [hpending] at hget
    cases hget
  rcases publishPush_cases env (w := w) push with hw | ⟨hpending, hw | hw⟩ <;> rw [hw]
  · exact .of_eq rfl
  · exact hset hpending _ rfl
  · exact hset hpending _ rfl

theorem handles_fallbackCommit (env : Env) (w : World) (timer : ℕ) (call : CallId) :
    Handles w (fallbackCommit timer call env w).2 := by
  rcases fallbackCommit_cases env (w := w) timer call with hw | ⟨c, -, -, hw⟩ <;> rw [hw]
  · exact .of_eq rfl
  · rcases legOriginated_cases env (w := w) timer call c with
      ⟨e, -, hl⟩ | ⟨w', hcancel, hl⟩ <;> rw [hl]
    · exact .of_eq rfl
    · have hpush := handles_cancelPushMobile env (w.originated timer call c) call
      rw [hcancel] at hpush
      exact hpush

/-- The tasks that assign to the entries of the pushes. -/
def Task.Assigns : Task → Prop
  | .sendPush _ | .publishPush _ | .joinCancel .. | .joinPrune _ | .gonePush .. | .gonePrune ..
  | .cancelPush _ | .completePush _ | .fallbackCommit .. => True
  | _ => False

theorem incomingCalls_code (h : ¬ t.Assigns) :
    (t.code env w).2.incomingCalls = w.incomingCalls := by
  refine Changes.untouched (f := World.incomingCalls) (fun w' k hk => ?_) (t.madeOf_may env w).1
  cases k with
  | incomingCall call incoming => cases t <;> first | exact hk.elim | exact absurd trivial h
  | pruned b call => cases t <;> first | exact hk.elim | exact absurd trivial h
  | _ => rfl

/-- A section that neither requests a push nor prunes a call. -/
theorem handles_code (env : Env) (hsend : ∀ r, t ≠ .sendPush r) (hprune : t.prunes = none) :
    Handles w (t.code env w).2 := by
  by_cases ha : t.Assigns
  case neg => exact .of_eq (incomingCalls_code ha)
  case pos =>
    cases t with
    | sendPush r => exact absurd rfl (hsend r)
    | publishPush push => exact handles_publishPush env w push
    | joinCancel b call =>
      show Handles w (joinCancel b call env w).2
      rw [joinCancel_world]
      exact handles_cancelPushMobile env w call
    | gonePush b call bs =>
      show Handles w (gonePush b call bs env w).2
      rw [show (gonePush b call bs env w).2 = _ from after_pure_world _ _]
      exact handles_cancelPushMobile env w call
    | cancelPush call =>
      show Handles w ((do cancelPushMobile call; pure [] : Code (List Task)) env w).2
      rw [after_pure_world]
      exact handles_cancelPushMobile env w call
    | completePush call =>
      show Handles w ((do completePendingPushMobile call; pure [] : Code (List Task)) env w).2
      rw [after_pure_world]
      exact handles_completePendingPushMobile env w call
    | fallbackCommit timer call => exact handles_fallbackCommit env w timer call
    | joinPrune b => cases hprune
    | gonePrune b bs => cases hprune
    | _ => exact ha.elim

end Closes

/-! ## What the tasks are handed -/

/-- Where a prune comes from. -/
theorem Task.Leads.prunes {t u : Task} {b : BridgeUuid} (h : t.Leads u)
    (hu : u.prunes = some b) : (∃ c call, t = .joinAnswer c b call) ∨
      (∃ call, t = .joinCancel b call) ∨ (∃ bs, t = .goneRemove (b :: bs)) ∨
      ∃ call bs, t = .gonePush b call bs := by
  cases h <;> cases hu
  · exact .inl ⟨_, _, rfl⟩
  · exact .inr (.inl ⟨_, rfl⟩)
  · exact .inr (.inr (.inl ⟨_, rfl⟩))
  · exact .inr (.inr (.inr ⟨_, _, rfl⟩))

section Handed

variable {w : World} {env : Env} {b : BridgeUuid} {u : Task}

/-- After `cancel_push_mobile` has returned, the push of the call is closed. -/
theorem not_notified_of_cancelled {call : CallId} {w' : World}
    (h : cancelPushMobile call env w = (.ok (), w')) (push : Push) :
    w'.incomingCalls.get call ≠ some (.notified push) := by
  rcases cancelPushMobile_cases env (w := w) call with
    ⟨hw, hclosed⟩ | ⟨_, _, _, _, hw⟩ | ⟨_, _, _, hw⟩ | ⟨_, _, hw⟩ <;> rw [hw] at h <;> cases h
  · intro hget
    cases hclosed _ hget
  · rw [show (World.pushCancelled ..).incomingCalls.get call = _ from Effect.Dict.get_set_self ..]
    nofun
  · rw [show ((Change.incomingCall ..).apply w).incomingCalls.get call = _ from
      Effect.Dict.get_set_self ..]
    nofun

end Handed

/-! ## Sections and runs -/

/-- The calls that are about to be pruned are looked after. -/
def ClosingTracked (s : Sys) : Prop := ∀ t ∈ s.tasks, t.Prunable s.world

namespace ClosingTracked

variable {s s' : Sys} {a : Label} {t u : Task} {env : Env}

/-- A join that is to be pruned has brought a mobile in, when the push is open. -/
theorem prunable_joinAnswer (hd : DialsTracked s) {c : ChannelId} {b : BridgeUuid}
    {call : Option CallId} (ht : .joinAnswer c b call ∈ s.tasks)
    (hc : Careful s (.run (.joinAnswer c b call) env))
    (hu : u ∈ following (joinAnswer c b call env s.world).1) (hub : u = .joinPrune b)
    {call' : CallId} {push : Push}
    (ho : s.world.originCallIdByBridgeUuid.get b = some call')
    (hi : s.world.incomingCalls.get call' = some (.notified push)) :
    Joined b call' (joinAnswer c b call env s.world).2 := by
  obtain ⟨-, hlook⟩ := hd.2 _ ht b call rfl
  obtain rfl := hlook call' ho
  have hnotified : s.world.isNotified call' = true := by
    unfold World.isNotified
    rw [hi]
    rfl
  rcases joinAnswer_cases env (w := s.world) c b (some call') with
    ⟨-, -, hw⟩ | ⟨hgone, hhung, -⟩ | ⟨hthere, hgone, -⟩ | ⟨hthere, -, -, hw⟩ | ⟨hgone, -, hfails, -⟩
  · rw [hw, hub] at hu
    cases List.mem_singleton.mp hu
  all_goals
    rcases joins_cases (hc hnotified) with ⟨hmobile, hcaller, hanswer, hbridge⟩ | ⟨hleft, hhung'⟩
  · rw [isGone_of_succeeds hcaller] at hgone
    cases hgone
  · rw [hhung'] at hhung
    cases hhung
  · rw [isGone_of_succeeds hanswer] at hgone
    cases hgone
  · rw [isGone_of_succeeds hthere] at hleft
    cases hleft
  · rw [hw]
    exact ⟨mem_snoc.mpr (.inl (hd.1.1.registered b call' ho).2), c, hmobile, mem_snoc.mpr (.inr rfl)⟩
  · rw [isGone_of_succeeds hthere] at hleft
    cases hleft
  · rw [hcaller, hanswer, hbridge] at hfails
    cases hfails
  · rw [hleft] at hgone
    cases hgone

/-- The calls that the tasks left behind by a section are about to prune. -/
theorem prunable_new (hd : DialsTracked s) (hreg : Registered s.world) (ht : t ∈ s.tasks)
    (hc : Careful s (.run t env)) (he : Evolves s.world (t.code env s.world).2)
    (hu : u ∈ following (t.code env s.world).1) : u.Prunable (t.code env s.world).2 := by
  intro b hprunes
  rcases (Task.leads_of_mem hu).prunes hprunes with
    ⟨c, call, rfl⟩ | ⟨call, rfl⟩ | ⟨bs, rfl⟩ | ⟨call, bs, rfl⟩
  · have hub : u = .joinPrune b := by
      cases Task.leads_of_mem hu with
      | joinPrune => rfl
      | joinCancel => cases hprunes
    refine ⟨he.uuids (hd.2 _ ht b call rfl).1, fun call' push ho hi => ?_⟩
    exact prunable_joinAnswer hd ht hc hu hub
      ((evolves_code (t := .joinAnswer c b call) (fun _ _ _ => nofun)).2 _ _ ho)
      (noneNew_code (t := .joinAnswer c b call) env (fun _ => nofun) _ _ hi)
  · obtain ⟨hb, hlook⟩ := hd.2 _ ht b (some call) rfl
    refine ⟨he.uuids hb, fun call' push ho hi => ?_⟩
    obtain rfl := Option.some.inj (hlook call'
      ((evolves_code (t := .joinCancel b call) (fun _ _ _ => nofun)).2 _ _ ho))
    have hi : (joinCancel b call env s.world).2.incomingCalls.get call = some (.notified push) := hi
    rw [joinCancel_world] at hi
    have hold := noneNew_code (t := .joinCancel b call) env (fun _ => nofun) call push (by
      show (joinCancel b call env s.world).2.incomingCalls.get call = _
      rw [joinCancel_world]
      exact hi)
    have hnotifier := hc (by
      unfold World.isNotified
      rw [hold]
      rfl)
    rcases cancelPushMobile_cases env (w := s.world) call with
      ⟨hw, -⟩ | ⟨_, e, _, hfails, hw⟩ | ⟨_, _, _, hw⟩ | ⟨_, _, hw⟩
    · exact absurd (by rw [hw] at hi; exact hi) (not_notified_of_cancelled hw push)
    · rw [hfails] at hnotifier
      cases hnotifier
    · exact absurd (by rw [hw] at hi; exact hi) (not_notified_of_cancelled hw push)
    · exact absurd (by rw [hw] at hi; exact hi) (not_notified_of_cancelled hw push)
  · obtain ⟨hb, hgone⟩ := handed_goneRemove hreg
      (show u ∈ following (goneRemove (b :: bs) env s.world).1 from hu)
    refine ⟨he.uuids hb, fun call' push ho _ => ?_⟩
    rw [(evolves_code (t := .goneRemove (b :: bs)) (fun _ _ _ => nofun)).2 _ _ ho] at hgone
    rw [hgone] at hprunes
    cases hprunes
  · obtain ⟨hb, hlook⟩ := hd.2 _ ht b (some call) rfl
    refine ⟨he.uuids hb, fun call' push ho hi => ?_⟩
    obtain rfl := Option.some.inj (hlook call'
      ((evolves_code (t := .gonePush b call bs) (fun _ _ _ => nofun)).2 _ _ ho))
    have hu : u ∈ following (gonePush b call bs env s.world).1 := hu
    have hi : (gonePush b call bs env s.world).2.incomingCalls.get call = some (.notified push) := hi
    rw [show (gonePush b call bs env s.world).2 = _ from after_pure_world _ _] at hi
    rcases hcancel : cancelPushMobile call env s.world with ⟨e | _, w'⟩
    · rw [show gonePush b call bs env s.world = _ from bind_of_error hcancel _] at hu
      cases hu
    · rw [hcancel] at hi
      exact absurd hi (not_notified_of_cancelled hcancel push)

/-- A push that is published is not one of a call about to be pruned. -/
theorem prunable_old (h : ClosingTracked s) (hu : u ∈ s.tasks) (hc : Careful s (.run t env))
    (he : Evolves s.world (t.code env s.world).2) : u.Prunable (t.code env s.world).2 := by
  by_cases hpub : ∃ push, t = .publishPush push
  · obtain ⟨push, rfl⟩ := hpub
    intro b hprunes
    obtain ⟨hb, hp⟩ := h u hu b hprunes
    refine ⟨he.uuids hb, fun call push' ho hi => ?_⟩
    have ho := he.calls b hb call ho
    have hne : call ≠ push.originCallId := by
      rintro rfl
      exact hc b (List.mem_filterMap.mpr ⟨u, hu, hprunes⟩) ho
    have hold : s.world.incomingCalls.get call = some (.notified push') := by
      have hi : (publishPush push env s.world).2.incomingCalls.get call = _ := hi
      rcases publishPush_cases env (w := s.world) push with hw | ⟨-, hw | hw⟩ <;>
        rw [hw] at hi
      · exact hi
      · exact (Effect.Dict.get_set_of_ne _ hne _).symm.trans hi
      · exact (Effect.Dict.get_set_of_ne _ hne _).symm.trans hi
    exact (hp call push' ho hold).evolves he
  · exact (h u hu).evolves he (noneNew_code env fun push hp => hpub ⟨push, hp⟩)

theorem run (h : ClosingTracked s) (hd : DialsTracked s) (hreg : Registered s.world)
    (ht : t ∈ s.tasks) (hp : env.Possible s.world) (hc : Careful s (.run t env)) :
    ClosingTracked (s.after t env) := by
  have he := evolves_section (t := t) hp
  intro u hu
  rcases List.mem_append.mp hu with hu | hu
  · exact h.prunable_old (List.mem_of_mem_erase hu) hc he
  · exact prunable_new hd hreg ht hc he hu

theorem prunable_arrives {w : World} (ht : u.Arrives w) : u.Prunable w := by
  intro b hprunes
  cases u <;> first | exact ht.elim | cases hprunes

theorem step (h : ClosingTracked s) (hd : DialsTracked s) (hreg : Registered s.world)
    (hc : Careful s a) (hs : machine.step a s = some s') : ClosingTracked s' := by
  obtain ⟨t, rfl, ht, rfl⟩ | ⟨timer, call, rfl, -, rfl⟩ | ⟨t, env, rfl, ht, hp, rfl⟩ :=
    step_cases hs
  · intro u hu
    rcases List.mem_cons.mp hu with rfl | hu
    · exact prunable_arrives ht
    · exact h u hu
  · intro u hu
    rcases List.mem_cons.mp hu with rfl | hu
    · intro b hprunes
      cases hprunes
    · exact h u hu
  · exact h.run hd hreg ht hp hc

/-- The prune of a call closes its push. -/
theorem closes_prune (env : Env) (h : ClosingTracked s) {b : BridgeUuid} (ht : t ∈ s.tasks)
    (hb : t.prunes = some b) : ClosesPushes s.world (pruneCallState b env s.world).2 := by
  intro call push hget
  cases ho : s.world.originCallIdByBridgeUuid.get b with
  | none =>
    rw [pruneCallState_none ho]
    exact .inl hget
  | some call' =>
    rw [pruneCallState_some ho]
    by_cases hcall : call = call'
    · subst hcall
      obtain ⟨hdialed, c, hc, hbridged⟩ := (h t ht b hb).2 call push ho hget
      exact .inr (.inr (.inr ⟨b, ho, mem_snoc.mpr (.inl hdialed), c, hc,
        mem_snoc.mpr (.inl hbridged)⟩))
    · left
      show (s.world.incomingCalls.pop call').get call = _
      rw [Effect.Dict.get_pop, if_neg hcall]
      exact hget

/-- A careful step closes the pushes it drops. -/
theorem closes (h : ClosingTracked s) (hc : Careful s a) (hs : machine.step a s = some s') :
    ClosesPushes s.world s'.world := by
  obtain ⟨t, rfl, -, rfl⟩ | ⟨timer, call, rfl, -, rfl⟩ | ⟨t, env, rfl, ht, -, rfl⟩ :=
    step_cases hs
  · exact fun call push hget => .inl hget
  · exact fun call push hget => .inl hget
  · by_cases hsend : ∃ r, t = .sendPush r
    · obtain ⟨r, rfl⟩ := hsend
      intro call push hget
      have hne : call ≠ r.originCallId := by
        rintro rfl
        have hnot : s.world.isNotified r.originCallId = false := hc
        unfold World.isNotified at hnot
        rw [hget] at hnot
        cases hnot
      exact .inl ((Effect.Dict.get_set_of_ne _ hne _).trans hget)
    · by_cases hprunes : t.prunes = none
      · intro call push hget
        rcases handles_code env (fun r hr => hsend ⟨r, hr⟩) hprunes call push hget with
          hkept | hdone | hcancelled
        · exact .inl hkept
        · exact .inr (.inl hdone)
        · exact .inr (.inr (.inl hcancelled))
      · cases t with
        | joinPrune b =>
          have hw := h.closes_prune env ht rfl
          rwa [← after_pure_world (pruneCallState b) ([] : List Task)] at hw
        | gonePrune b bs =>
          have hw := h.closes_prune env ht rfl
          rwa [← after_pure_world (pruneCallState b) [Task.goneRemove bs]] at hw
        | _ => exact absurd rfl hprunes

end ClosingTracked

theorem reaches_closingTracked {s : Sys} (h : machine.Reaches Careful s) : ClosingTracked s := by
  refine h.invariant_along (fun s hs => ?_) fun s a s' hr hI hc hs => ?_
  · rw [show s = Sys.start from hs]
    exact fun _ => nofun
  · have hr : machine.Reachable s := hr.mono fun _ _ _ => trivial
    exact hI.step (reachable_dials hr) (reachable_registered hr).1 hc hs

/-- **A push that was sent is always closed**, in the runs in which no push is requested or
published over an open one and the channels that join while a push is open are the mobiles
that were dialed. -/
theorem pushes_closed {s s' : Sys} {a : Label} (h : machine.Reaches Careful s)
    (hc : Careful s a) (hs : machine.step a s = some s') : ClosesPushes s.world s'.world :=
  (reaches_closingTracked h).closes hc hs

/-- The next uuid, and a channel that nothing is known of. -/
def later : Env := .calm "b-2" pstnId

/-- The user of a call is sent a push, and the mobile is dialed. -/
def pushedAndDialed : List Label :=
  called (.dialAllContacts callerId callerId "aor") (.calm "b-1" mobileId) ++
    called (.sendPush (pushRequest "user")) calm ++
    [.run (.publishPush ((pushRequest "user").push 0)) calm] ++ called (.contactDialed "b-1") calm

/-- A channel joins the bridge of the dial, up to the prune. -/
def joins (c : ChannelId) : List Label :=
  [.run (.joinBridge c "b-1") later, .run (.joinPop c "b-1" (some callerId)) later,
    .run (.joinAnswer c "b-1" (some callerId)) later]

/-- The mobile answers. -/
def mobileAnswers : List Label :=
  pushedAndDialed ++ [.arrive (.joinBridge mobileId "b-1")] ++ joins mobileId

theorem pushes_closed_joined :
    (served mobileAnswers).world.isNotified callerId = true ∧
      ClosesPushes (served mobileAnswers).world
        ((served mobileAnswers).after (.joinPrune "b-1") later).world := by
  have run : machine.run mobileAnswers Sys.start = some (served mobileAnswers) := rfl
  have meets : machine.Meets Careful mobileAnswers Sys.start := by decide
  have careful : Careful (served mobileAnswers) (.run (.joinPrune "b-1") later) := by
    decide
  exact ⟨by decide, pushes_closed (Machine.Reaches.run (.init rfl) meets run) careful rfl⟩

/-- The channel of a colleague. -/
def colleagueId : ChannelId := ⟨"1700000000.4", by decide⟩

/-- A colleague picks the call up. -/
def colleaguePicksUp : List Label :=
  pushedAndDialed ++ called (.pickup colleagueId "101" "default") later ++ joins colleagueId

/-- When a colleague picks the call up, the push is dropped without a cancellation. -/
theorem picked_up_push_is_dropped :
    machine.Reachable (served colleaguePicksUp) ∧
      ∃ s', machine.step (.run (.joinPrune "b-1") later) (served colleaguePicksUp) = some s' ∧
        ¬ ClosesPushes (served colleaguePicksUp).world s'.world := by
  refine ⟨served_reachable _, (served colleaguePicksUp).after (.joinPrune "b-1") later, rfl,
    fun h => ?_⟩
  let push := (pushRequest "user").push 0
  let w' := ((served colleaguePicksUp).after (.joinPrune "b-1") later).world
  have hget : (served colleaguePicksUp).world.incomingCalls.get callerId = some (.notified push) := by
    decide
  have hnone : w'.incomingCalls.get callerId = none := by decide
  have htr : w'.trace = [.dialed "b-1" callerId, .pushRequested push,
      .pushNotification (push.notification callerId), .fallbackArmed 2 callerId,
      .fallbackCancelled callerId, .bridged "b-1" colleagueId, .pruned "b-1" callerId] := by
    decide
  have hmobiles : w'.dialedChannels "b-1" = [mobileId] := by decide
  rcases h callerId push hget with hkept | hdone | ⟨n, -, hn⟩ | ⟨b, -, -, c, hc, hb⟩
  · rw [hnone] at hkept
    cases hkept
  · rw [hnone] at hdone
    cases hdone
  · rw [htr] at hn
    simp at hn
  · rw [htr] at hb
    obtain ⟨rfl, rfl⟩ : b = "b-1" ∧ c = colleagueId := by simpa using hb
    rw [hmobiles] at hc
    exact absurd hc (by decide)

end Calld.DialMobile
