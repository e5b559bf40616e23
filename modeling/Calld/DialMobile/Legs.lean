/-
# No PSTN leg is forgotten

A PSTN leg that has been originated is recorded as the fallback of its call while it rings.
When it answers it is bridged with the caller; else it is hung up, or it is gone.

The state of a call is pruned when a channel has joined, also the leg itself: a leg that is
recorded nowhere has been bridged (`no_forgotten_leg`, `answered_leg_is_pruned`).
-/
import Calld.DialMobile.Dials

namespace Calld.DialMobile

open Effect Effect.Program

/-! ## What is to be shown -/

/-- The leg is recorded as the fallback of its call. -/
def Recorded (call : CallId) (c : ChannelId) (w : World) : Prop :=
  w.pstnFallbacks.get call = some (.dialing c) ∨ w.pstnFallbacks.get call = some (.dialAnswered c)

/-- The leg has been asked to hang up, or is gone. -/
def Ended (c : ChannelId) (w : World) : Prop :=
  .hungUp c ∈ w.trace ∨ .channelGone c ∈ w.trace ∨ .foundGone c ∈ w.trace

/-- The leg has been bridged with the caller of a dial. -/
def Bridged (c : ChannelId) (w : World) : Prop := ∃ b, .bridged b c ∈ w.trace

/-- A PSTN leg has been originated for a call. -/
def Originated (call : CallId) (c : ChannelId) (w : World) : Prop :=
  ∃ timer, .pstnOriginated timer call c ∈ w.trace

instance (call : CallId) (c : ChannelId) (w : World) : Decidable (Recorded call c w) :=
  inferInstanceAs (Decidable (_ ∨ _))

instance (c : ChannelId) (w : World) : Decidable (Ended c w) :=
  inferInstanceAs (Decidable (_ ∨ _ ∨ _))

/-! ## The steps that may forget a leg -/

/-- A leg rings for the call. -/
def World.isRinging (w : World) (call : CallId) : Bool :=
  match w.pstnFallbacks.get call with
  | some (.dialing _) => true
  | _ => false

/-- The channel is a PSTN leg. -/
def World.isLeg (w : World) (c : ChannelId) : Bool :=
  w.trace.any fun e => match e with
    | .pstnOriginated _ _ c' => c' = c
    | _ => false

/-- The bridge of a handler that has seen to the fallback of its call. -/
def Task.seenTo : Task → Option BridgeUuid
  | .joinPop _ b _ | .joinAnswer _ b _ | .joinCancel b _ | .joinPrune b | .gonePush b _ _
  | .gonePrune b _ => some b
  | _ => none

/-- Both channels of a join are there and can be bridged, or one of them is gone. -/
def joinEnds (env : Env) (w : World) (c : ChannelId) (b : BridgeUuid) : Bool :=
  isGone (env.answer (w.callerChannelLegByBridge.get b)) ||
    succeeds (env.answer (w.callerChannelLegByBridge.get b)) &&
      (isGone (env.answer (some c)) || succeeds (env.answer (some c)) && succeeds env.bridge)

/-- A step that forgets no leg: no push is published while a leg rings for its call, a leg
is originated when the push can be cancelled and no handler is about to prune the call, and
the join of a leg does not fail half-way. -/
def Orderly (s : Sys) : Label → Prop
  | .run (.publishPush push) _ => s.world.isRinging push.originCallId = false
  | .run (.fallbackCommit _ call) env => (s.world.isNotified call = true → succeeds env.notifier = true) ∧
      ∀ b ∈ s.tasks.filterMap Task.seenTo, s.world.originCallIdByBridgeUuid.get b ≠ some call
  | .run (.joinAnswer c b _) env => s.world.isLeg c = true → joinEnds env s.world c b = true
  | _ => True

instance (s : Sys) (a : Label) : Decidable (Orderly s a) := by
  unfold Orderly
  rcases a with t | timer | ⟨t, env⟩
  · infer_instance
  · infer_instance
  · rcases t with ⟨⟩ <;> infer_instance

/-! ## The invariant -/

/-- A leg that need not be recorded any more. -/
def Done (c : ChannelId) (w : World) : Prop := Bridged c w ∨ Ended c w

/-- The leg joins a bridge. -/
def Joining (c : ChannelId) (tasks : List Task) : Prop :=
  ∃ b call, .joinPop c b call ∈ tasks ∨ .joinAnswer c b call ∈ tasks

/-- The bridge is known, and no leg rings for its call. -/
def SeenTo (b : BridgeUuid) (w : World) : Prop := b ∈ w.uuids ∧
  ∀ call, w.originCallIdByBridgeUuid.get b = some call →
    ∀ c, w.pstnFallbacks.get call ≠ some (.dialing c)

/-- Where the legs are, and what the handlers have seen to. -/
structure LegsTracked (s : Sys) : Prop where
  legs : ∀ call c, Originated call c s.world →
    s.world.pstnFallbacks.get call = some (.dialing c) ∨ Joining c s.tasks ∨ Done c s.world
  scans : ∀ c calls, .goneScan c calls ∈ s.tasks → .channelGone c ∈ s.world.trace
  seenTo : ∀ t ∈ s.tasks, ∀ b, t.seenTo = some b → SeenTo b s.world

/-! ## What the sections do to the legs -/

/-- A leg that rings still does, or it need not be recorded. -/
def KeepsLegs (w w' : World) : Prop := ∀ call c,
  w.pstnFallbacks.get call = some (.dialing c) →
    w'.pstnFallbacks.get call = some (.dialing c) ∨ Done c w'

/-- No leg begins to ring. -/
def NoneRings (w w' : World) : Prop := ∀ call c,
  w'.pstnFallbacks.get call = some (.dialing c) → w.pstnFallbacks.get call = some (.dialing c)

section Sections

variable {w w' : World} {env : Env} {t u : Task} {call : CallId} {c : ChannelId} {b : BridgeUuid}

theorem Done.mono (h : Done c w) (htr : ∀ e ∈ w.trace, e ∈ w'.trace) : Done c w' := by
  rcases h with ⟨b, hb⟩ | hh | hg | hf
  · exact .inl ⟨b, htr _ hb⟩
  · exact .inr (.inl (htr _ hh))
  · exact .inr (.inr (.inl (htr _ hg)))
  · exact .inr (.inr (.inr (htr _ hf)))

theorem KeepsLegs.of_eq (h : w'.pstnFallbacks = w.pstnFallbacks) : KeepsLegs w w' := by
  intro call c hget
  rw [h]
  exact .inl hget

/-- The fallback of one call is assigned to. -/
theorem KeepsLegs.of_set (call : CallId) {new : PSTNFallback}
    (hw : w'.pstnFallbacks = w.pstnFallbacks.set call new)
    (h : ∀ c, w.pstnFallbacks.get call = some (.dialing c) → Done c w') : KeepsLegs w w' := by
  intro call' c hget
  rw [hw, Effect.Dict.get_set]
  split
  · rename_i heq
    exact .inr (h c (heq ▸ hget))
  · exact .inl hget

theorem keepsLegs_cancelPSTNFallback (call : CallId) :
    KeepsLegs w (cancelPSTNFallback call env w).2 := by
  rcases cancelPSTNFallback_cases env (w := w) call with
    ⟨r, hw, -⟩ | ⟨timer, hget, hw⟩ | ⟨c, e, -, hw⟩ | ⟨c, hget, hw⟩ | ⟨hget, hw⟩ <;> rw [hw]
  · exact .of_eq rfl
  · refine .of_set call rfl fun c hc => ?_
    rw [hget] at hc
    cases hc
  · exact .of_eq rfl
  · refine .of_set call rfl fun c' hc => ?_
    rw [hget] at hc
    cases hc
    exact .inr (.inl (mem_snoc.mpr (.inl (mem_snoc.mpr (.inr rfl)))))
  · refine .of_set call rfl fun c hc => ?_
    rw [hget] at hc
    cases hc

/-- After `_cancel_pstn_fallback` has returned, no leg rings for the call. -/
theorem not_ringing_of_cancelled (h : cancelPSTNFallback call env w = (.ok (), w'))
    (c : ChannelId) : w'.pstnFallbacks.get call ≠ some (.dialing c) := by
  have hset : ∀ w : World, (w.fallbackCancelled call).pstnFallbacks.get call = some .cancelled :=
    fun w => Effect.Dict.get_set_self ..
  rcases cancelPSTNFallback_cases env (w := w) call with
    ⟨r, hw, hend⟩ | ⟨timer, -, hw⟩ | ⟨_, e, -, hw⟩ | ⟨_, -, hw⟩ | ⟨-, hw⟩ <;> rw [hw] at h <;> cases h
  · intro hget
    cases hend rfl _ hget
  all_goals
    rw [hset]
    nofun

/-- The locked section of a join, when the channel is not the leg that rings. -/
theorem joinFallback_legs (env : Env) (c : ChannelId) (call : CallId) :
    ∀ call' c', w.pstnFallbacks.get call' = some (.dialing c') →
      (joinFallback c call env w).2.pstnFallbacks.get call' = some (.dialing c') ∨
      Done c' (joinFallback c call env w).2 ∨
      c' = c ∧ (joinFallback c call env w).1 = .ok () := by
  intro call' c' hget
  rcases joinFallback_cases env (w := w) c call with ⟨hc, hw⟩ | hw | ⟨hw, -⟩ <;> rw [hw]
  · by_cases hcall : call' = call
    · subst hcall
      rw [hget] at hc
      cases hc
      exact .inr (.inr ⟨rfl, rfl⟩)
    · exact .inl ((Effect.Dict.get_set_of_ne _ hcall _).trans hget)
  · exact (keepsLegs_cancelPSTNFallback call call' c' hget).imp_right .inl
  · exact .inl hget

/-- After the locked section of a join, no leg rings for the call. -/
theorem not_ringing_of_joined (h : joinFallback c call env w = (.ok (), w')) (c' : ChannelId) :
    w'.pstnFallbacks.get call ≠ some (.dialing c') := by
  rcases joinFallback_cases env (w := w) c call with ⟨-, hw⟩ | hw | ⟨hw, hend⟩ <;>
    rw [hw] at h
  · cases h
    rw [show ((Change.fallback ..).apply w).pstnFallbacks.get call = _ from
      Effect.Dict.get_set_self ..]
    nofun
  · exact not_ringing_of_cancelled h c'
  · cases h
    intro hget
    cases hend _ hget

/-- The tasks that may assign to a fallback. -/
def Task.AssignsFallback : Task → Prop
  | .publishPush _ | .onContactDialed _ | .joinBridge .. | .joinPrune _ | .goneScan ..
  | .goneFallback .. | .gonePrune .. | .pstnFallback .. | .fallbackCommit .. | .fallbackAbort _ =>
    True
  | _ => False

theorem pstnFallbacks_code (h : ¬ t.AssignsFallback) : (t.code env w).2.pstnFallbacks = w.pstnFallbacks := by
  refine Changes.untouched (f := World.pstnFallbacks) (fun w' k hk => ?_) (t.madeOf_may env w).1
  cases k with
  | fallback _ state =>
    cases t <;> first | exact hk.elim | exact absurd trivial h
  | pruned _ _ => cases t <;> first | exact hk.elim | exact absurd trivial h
  | _ => rfl

/-- A leg begins to ring only in the commit of a fallback. -/
theorem noneRings_code (hc : ∀ timer call, t ≠ .fallbackCommit timer call) :
    NoneRings w (t.code env w).2 := by
  refine Changes.invariant (I := NoneRings w) (fun w' k hk hw' call c hget => ?_)
    (t.madeOf_may env w).1 fun _ _ h => h
  cases k with
  | fallback call' state =>
    have hget : (w'.pstnFallbacks.set call' state).get call = some (.dialing c) := hget
    rw [Effect.Dict.get_set] at hget
    split at hget
    · obtain rfl := Option.some.inj hget
      cases t <;> first | exact hk.elim | exact absurd rfl (hc _ _)
    · exact hw' call c hget
  | pruned b call' => exact hw' call c (Effect.Dict.shrinks_pop _ call' _ _ hget)
  | _ => exact hw' call c hget

/-- The new leg is recorded, when the push of its call can be cancelled. -/
theorem fallbackCommit_legs (env : Env) (timer : ℕ) (hn : w.isNotified call = true → succeeds env.notifier = true) :
    (fallbackCommit timer call env w).2 = w ∨
    ∃ c, w.pstnFallbacks.get call = some .triggering ∧
      (fallbackCommit timer call env w).2.pstnFallbacks = w.pstnFallbacks.set call (.dialing c) ∧
      ∀ e ∈ (fallbackCommit timer call env w).2.trace,
        e ∈ w.trace ∨ e = .pstnOriginated timer call c ∨ ∃ n, e = .cancelPushNotification n := by
  rcases fallbackCommit_cases env (w := w) timer call with hw | ⟨c, hget, -, hw⟩
  · exact .inl hw
  · right
    refine ⟨c, hget, ?_⟩
    rw [hw]
    rcases legOriginated_cases env (w := w) timer call c with
      ⟨e, hfails, -⟩ | ⟨w', hcancel, hl⟩
    · exfalso
      rcases cancelPushMobile_cases env (w := w.originated timer call c) call with
        ⟨h, -⟩ | ⟨push, e, hpush, hraise, -⟩ | ⟨_, _, _, h⟩ | ⟨_, _, h⟩
      · rw [h] at hfails
        cases hfails
      · have hpush : w.incomingCalls.get call = some (.notified push) := hpush
        have hok := hn (by
          unfold World.isNotified
          rw [hpush]
          rfl)
        rw [hraise] at hok
        cases hok
      · rw [h] at hfails
        cases hfails
      · rw [h] at hfails
        cases hfails
    · rw [hl]
      rcases cancelPushMobile_cases env (w := w.originated timer call c) call with
        ⟨h, -⟩ | ⟨_, _, _, _, h⟩ | ⟨push, _, _, h⟩ | ⟨push, _, h⟩ <;> rw [h] at hcancel <;> cases hcancel
      · refine ⟨rfl, fun e he => ?_⟩
        rcases mem_snoc.mp he with he | he
        · exact .inl he
        · exact .inr (.inl he)
      · refine ⟨rfl, fun e he => ?_⟩
        rcases mem_snoc.mp he with he | he
        · rcases mem_snoc.mp he with he | he
          · exact .inl he
          · exact .inr (.inl he)
        · exact .inr (.inr ⟨_, he⟩)
      · refine ⟨rfl, fun e he => ?_⟩
        rcases mem_snoc.mp he with he | he
        · exact .inl he
        · exact .inr (.inl he)

/-- Only the commit of a fallback originates a leg. -/
theorem originated_code (hc : ∀ timer call, t ≠ .fallbackCommit timer call)
    (h : Originated call c (t.code env w).2) : Originated call c w := by
  refine Changes.invariant (I := fun w' => Originated call c w' → Originated call c w)
    (fun w' k hk hw' h => hw' ?_) (t.madeOf_may env w).1 (fun h => h) h
  cases k with
  | event e =>
    obtain ⟨timer, h⟩ := h
    refine ⟨timer, mem_of_snoc h ?_⟩
    rintro rfl
    cases t <;> first | exact hk.elim | exact absurd rfl (hc _ _)
  | _ => exact h

/-- A joining channel is late, or goes on to be answered. -/
theorem joinPop_follows (env : Env) (c : ChannelId) (b : BridgeUuid) (call : Option CallId) :
    .joinAnswer c b call ∈ following (joinPop c b call env w).1 ∨
      .hungUp c ∈ (joinPop c b call env w).2.trace := by
  cases hd : w.contactDialers.get b with
  | none =>
    rw [(joinPop_none env c call hd).1]
    exact .inr (mem_snoc.mpr (.inr rfl))
  | some dialer =>
    rw [joinPop_some_follows c call hd]
    exact .inl (List.mem_singleton.mpr rfl)

/-- A leg that joins is bridged or ended, when its join does not fail half-way. -/
theorem done_joinAnswer (call : Option CallId) (h : joinEnds env w c b = true) :
    Done c (joinAnswer c b call env w).2 := by
  unfold joinEnds at h
  rcases joinAnswer_cases env (w := w) c b call with
    ⟨-, -, hw⟩ | ⟨-, -, hw⟩ | ⟨-, -, hw⟩ | ⟨-, -, -, hw⟩ | ⟨hgone, hleft, hfails, -⟩
  · rw [hw]
    exact .inr (.inl (mem_snoc.mpr (.inr rfl)))
  · rw [hw]
    exact .inr (.inl (mem_snoc.mpr (.inr rfl)))
  · rw [hw]
    exact .inr (.inr (.inr (mem_snoc.mpr (.inr rfl))))
  · rw [hw]
    exact .inl ⟨b, mem_snoc.mpr (.inr rfl)⟩
  · rw [hgone, Bool.false_or, Bool.and_or_distrib_left, hleft, Bool.false_or, ← Bool.and_assoc,
      hfails] at h
    cases h

end Sections

/-! ## Handlers that have seen to a fallback -/

/-- Where such a handler comes from. -/
theorem Task.Leads.seenTo {t u : Task} {b : BridgeUuid} (h : t.Leads u)
    (hu : u.seenTo = some b) : t.seenTo = some b ∨ (∃ c, t = .joinBridge c b) ∨
      (∃ call bs, t = .goneFallback b call bs) ∨ ∃ bs, t = .goneRemove (b :: bs) := by
  cases h <;> cases hu <;> first
    | exact .inl rfl
    | exact .inr (.inl ⟨_, rfl⟩)
    | exact .inr (.inr (.inl ⟨_, _, rfl⟩))
    | exact .inr (.inr (.inr ⟨_, rfl⟩))

section SeenTo

variable {w w' : World} {env : Env} {t u : Task} {b : BridgeUuid}

theorem SeenTo.evolves (h : SeenTo b w) (he : Evolves w w') (hn : NoneRings w w') : SeenTo b w' :=
  ⟨he.uuids h.1, fun call hc c hget => h.2 call (he.calls b h.1 call hc) c (hn call c hget)⟩

theorem seenTo_arrives (ht : t.Arrives w) : t.seenTo = none := by
  cases t <;> first | rfl | exact ht.elim

theorem seenTo_joinBridge (hl : Locked w) {c : ChannelId}
    (hu : u ∈ following (joinBridge c b env w).1) : SeenTo b (joinBridge c b env w).2 := by
  refine ⟨joinBridge_named c, fun call ho c' => ?_⟩
  have ho : w.originCallIdByBridgeUuid.get b = some call :=
    (evolves_code (t := .joinBridge c b) (fun _ _ _ => nofun)).2 _ _ ho
  rcases joinBridge_cases env (w := w) c b with ⟨hw, hnone⟩ | ⟨call', hcall, hw⟩ <;>
    rw [hw] at hu ⊢
  · rw [show ((Change.named b).apply w).pstnFallbacks = w.pstnFallbacks from rfl,
      (hl call (hnone call ho)).2]
    nofun
  · rw [ho] at hcall
    cases hcall
    rw [bind_apply] at hu ⊢
    rcases hf : joinFallback c call env ((Change.named b).apply w) with ⟨e | _, w'⟩ <;>
      rw [hf] at hu
    · cases hu
    · exact not_ringing_of_joined hf c'

/-- What a handler is handed has been seen to. -/
theorem seenTo_new (hl : Locked w) (hreg : Registered w) (hlook : t.Looked w)
    (hp : env.Possible w) (ht : ∀ b, t.seenTo = some b → SeenTo b w)
    (hu : u ∈ following (t.code env w).1) (hb : u.seenTo = some b) :
    SeenTo b (t.code env w).2 := by
  have he := evolves_section (t := t) hp
  rcases (Task.leads_of_mem hu).seenTo hb with htb | ⟨c, rfl⟩ | ⟨call, bs, rfl⟩ | ⟨bs, rfl⟩
  · refine (ht b htb).evolves he (noneRings_code fun timer call => ?_)
    rintro rfl
    cases htb
  · exact seenTo_joinBridge hl (show u ∈ following (joinBridge c b env w).1 from hu)
  · obtain ⟨hknown, hcall⟩ := hlook b (some call) rfl
    have hu : u ∈ following (goneFallback b call bs env w).1 := hu
    refine ⟨he.uuids hknown, fun call' ho c => ?_⟩
    obtain rfl := Option.some.inj (hcall call'
      ((evolves_code (t := .goneFallback b call bs) (fun _ _ _ => nofun)).2 _ _ ho))
    show (goneFallback b call bs env w).2.pstnFallbacks.get call ≠ _
    unfold goneFallback at hu ⊢
    rw [bind_apply] at hu ⊢
    rcases hf : cancelPSTNFallback call env w with ⟨e | _, w'⟩ <;> rw [hf] at hu
    · cases hu
    · exact not_ringing_of_cancelled hf c
  · obtain ⟨hknown, hgone⟩ := handed_goneRemove hreg
      (show u ∈ following (goneRemove (b :: bs) env w).1 from hu)
    refine ⟨he.uuids hknown, fun call ho => ?_⟩
    rw [(evolves_code (t := .goneRemove (b :: bs)) (fun _ _ _ => nofun)).2 _ _ ho] at hgone
    rw [hgone] at hb
    cases hb

end SeenTo

/-! ## Sections and runs -/

theorem isLeg_of_originated {w : World} {call : CallId} {c : ChannelId} (h : Originated call c w) :
    w.isLeg c = true := by
  obtain ⟨timer, h⟩ := h
  exact List.any_eq_true.mpr ⟨_, h, decide_eq_true rfl⟩

namespace LegsTracked

variable {s s' : Sys} {a : Label} {t u : Task} {env : Env} {call : CallId} {c : ChannelId}

/-- A leg that joins goes on, or is done. -/
theorem joining_after (hj : Joining c s.tasks) (hleg : s.world.isLeg c = true)
    (hc : Orderly s (.run t env)) :
    Joining c (s.after t env).tasks ∨ Done c (s.after t env).world := by
  obtain ⟨b, call, hj⟩ := hj
  have hkept : ∀ u ∈ s.tasks, u ≠ t → u ∈ (s.after t env).tasks := fun u hu hne =>
    List.mem_append_left _ ((List.mem_erase_of_ne hne).mpr hu)
  rcases hj with hpop | hanswer
  · by_cases ht : t = .joinPop c b call
    · subst ht
      rcases joinPop_follows env (w := s.world) c b call with hnext | hhung
      · exact .inl ⟨b, call, .inr (List.mem_append_right _ hnext)⟩
      · exact .inr (.inr (.inl hhung))
    · exact .inl ⟨b, call, .inl (hkept _ hpop (Ne.symm ht))⟩
  · by_cases ht : t = .joinAnswer c b call
    · subst ht
      exact .inr (done_joinAnswer call (hc hleg))
    · exact .inl ⟨b, call, .inr (hkept _ hanswer (Ne.symm ht))⟩

/-- The prune of a call forgets no leg. -/
theorem keepsLegs_prune (env : Env) (h : LegsTracked s) {b : BridgeUuid} (ht : t ∈ s.tasks)
    (hb : t.seenTo = some b) : KeepsLegs s.world (pruneCallState b env s.world).2 := by
  intro call c hget
  cases ho : s.world.originCallIdByBridgeUuid.get b with
  | none =>
    rw [pruneCallState_none ho]
    exact .inl hget
  | some call' =>
    rw [pruneCallState_some ho]
    have hne : call ≠ call' := by
      rintro rfl
      exact (h.seenTo t ht b hb).2 call ho c hget
    exact .inl ((Effect.Dict.get_pop_of_ne _ hne).trans hget)

/-- A leg that rings still does, or is done, or begins to join. -/
theorem ringing_after (h : LegsTracked s) (ht : t ∈ s.tasks) (hc : Orderly s (.run t env))
    (hcommit : ∀ timer call, t ≠ .fallbackCommit timer call)
    (hget : s.world.pstnFallbacks.get call = some (.dialing c)) :
    (t.code env s.world).2.pstnFallbacks.get call = some (.dialing c) ∨
      Joining c (following (t.code env s.world).1) ∨ Done c (t.code env s.world).2 := by
  have hkeeps : KeepsLegs s.world (t.code env s.world).2 →
      (t.code env s.world).2.pstnFallbacks.get call = some (.dialing c) ∨
      Joining c (following (t.code env s.world).1) ∨ Done c (t.code env s.world).2 :=
    fun hk => (hk call c hget).imp_right .inr
  by_cases hfalls : t.AssignsFallback
  case neg => exact hkeeps (.of_eq (pstnFallbacks_code hfalls))
  case pos =>
    cases t with
    | publishPush push =>
      refine hkeeps ?_
      have hnot : ∀ c, s.world.pstnFallbacks.get push.originCallId ≠ some (.dialing c) := by
        intro c hring
        have hc : s.world.isRinging push.originCallId = false := hc
        unfold World.isRinging at hc
        rw [hring] at hc
        cases hc
      show KeepsLegs s.world (publishPush push env s.world).2
      rcases publishPush_cases env (w := s.world) push with hw | ⟨-, hw | hw⟩ <;> rw [hw]
      · exact .of_eq rfl
      · exact .of_eq rfl
      · exact .of_set push.originCallId rfl fun c hring => absurd hring (hnot c)
    | onContactDialed b =>
      refine hkeeps ?_
      show KeepsLegs s.world (onContactDialed b env s.world).2
      rcases onContactDialed_cases env (w := s.world) b with hw | ⟨call, -, hw⟩ <;> rw [hw]
      · exact .of_eq rfl
      · exact keepsLegs_cancelPSTNFallback call
    | joinBridge c' b =>
      show (joinBridge c' b env s.world).2.pstnFallbacks.get call = _ ∨
        Joining c (following (joinBridge c' b env s.world).1) ∨
        Done c (joinBridge c' b env s.world).2
      rcases joinBridge_cases env (w := s.world) c' b with ⟨hw, -⟩ | ⟨call', -, hw⟩ <;> rw [hw]
      · exact .inl hget
      · rw [after_pure_world]
        rcases joinFallback_legs env (w := (Change.named b).apply s.world) c' call' call c
          hget with hring | hdone | ⟨rfl, hok⟩
        · exact .inl hring
        · exact .inr (.inr hdone)
        · refine .inr (.inl ⟨b, some call', .inl ?_⟩)
          rw [bind_apply]
          rcases hf : joinFallback c call' env ((Change.named b).apply s.world) with ⟨e | _, w'⟩ <;>
            rw [hf] at hok
          · cases hok
          · exact List.mem_singleton.mpr rfl
    | joinPrune b =>
      refine hkeeps ?_
      have hw := h.keepsLegs_prune env ht rfl
      rwa [← after_pure_world (pruneCallState b) ([] : List Task)] at hw
    | gonePrune b bs =>
      refine hkeeps ?_
      have hw := h.keepsLegs_prune env ht rfl
      rwa [← after_pure_world (pruneCallState b) [Task.goneRemove bs]] at hw
    | goneScan c' calls =>
      refine hkeeps ?_
      cases calls with
      | nil => exact .of_eq rfl
      | cons call' calls =>
        rw [show (Task.code (.goneScan c' (call' :: calls)) env s.world).2 = _ from
          after_pure_world _ _]
        rcases legGone_cases env (w := s.world) c' call' with ⟨hw, -⟩ | ⟨hring, hw⟩ <;>
          rw [hw]
        · exact .of_eq rfl
        · refine .of_set call' rfl fun c hc' => ?_
          rw [hring] at hc'
          cases hc'
          exact .inr (.inr (.inl (mem_snoc.mpr (.inl (h.scans _ _ ht)))))
    | goneFallback b call' bs =>
      refine hkeeps ?_
      rw [show (Task.code (.goneFallback b call' bs) env s.world).2 = _ from after_pure_world _ _]
      exact keepsLegs_cancelPSTNFallback call'
    | pstnFallback timer call' =>
      refine hkeeps ?_
      show KeepsLegs s.world (pstnFallback timer call' env s.world).2
      rcases pstnFallback_cases env (w := s.world) timer call' with
        hw | ⟨⟨_, hpending⟩, hw⟩ <;> rw [hw]
      · exact .of_eq rfl
      · refine .of_set call' rfl fun c hring => ?_
        rw [hpending] at hring
        cases hring
    | fallbackAbort call' =>
      refine hkeeps ?_
      show KeepsLegs s.world (fallbackAbort call' env s.world).2
      rcases fallbackAbort_cases env (w := s.world) call' with hw | ⟨htrig, hw⟩ <;> rw [hw]
      · exact .of_eq rfl
      · refine .of_set call' rfl fun c hring => ?_
        rw [htrig] at hring
        cases hring
    | fallbackCommit timer call => exact absurd rfl (hcommit _ _)
    | _ => exact hfalls.elim

/-- The legs after the commit of a fallback. -/
theorem legs_commit (h : LegsTracked s) {timer : ℕ} {call' : CallId}
    (hc : Orderly s (.run (.fallbackCommit timer call') env))
    (ho : Originated call c (fallbackCommit timer call' env s.world).2) :
    (fallbackCommit timer call' env s.world).2.pstnFallbacks.get call = some (.dialing c) ∨
      Joining c s.tasks ∨ Done c s.world := by
  rcases fallbackCommit_legs env timer hc.1 with hw | ⟨c', htrig, hset, htr⟩
  · rw [hw] at ho ⊢
    exact h.legs call c ho
  · rw [hset]
    by_cases hnew : .pstnOriginated timer call' c' ∈ (fallbackCommit timer call' env s.world).2.trace ∧
      call = call' ∧ c = c'
    · obtain ⟨-, rfl, rfl⟩ := hnew
      exact .inl (Effect.Dict.get_set_self ..)
    · have hold : Originated call c s.world := by
        obtain ⟨timer', ho⟩ := ho
        rcases htr _ ho with hmem | heq | ⟨n, heq⟩
        · exact ⟨timer', hmem⟩
        · cases heq
          exact absurd ⟨ho, rfl, rfl⟩ hnew
        · cases heq
      rcases h.legs call c hold with hring | hj | hdone
      · left
        rw [Effect.Dict.get_set_of_ne]
        · exact hring
        · rintro rfl
          rw [htrig] at hring
          cases hring
      · exact .inr (.inl hj)
      · exact .inr (.inr hdone)

theorem legs_after (h : LegsTracked s) (ht : t ∈ s.tasks) (hp : env.Possible s.world)
    (hc : Orderly s (.run t env)) (ho : Originated call c (s.after t env).world) :
    (s.after t env).world.pstnFallbacks.get call = some (.dialing c) ∨
      Joining c (s.after t env).tasks ∨ Done c (s.after t env).world := by
  have he := evolves_section (t := t) hp
  by_cases hcommit : ∃ timer call', t = .fallbackCommit timer call'
  · obtain ⟨timer, call', rfl⟩ := hcommit
    rcases h.legs_commit hc (show Originated call c (fallbackCommit ..).2 from ho) with
      hring | ⟨b, call'', hj⟩ | hdone
    · exact .inl hring
    · refine .inr (.inl ⟨b, call'', ?_⟩)
      have hkept : ∀ u ∈ s.tasks, u ≠ .fallbackCommit timer call' →
          u ∈ (s.after (.fallbackCommit timer call') env).tasks := fun u hu hne =>
        List.mem_append_left _ ((List.mem_erase_of_ne hne).mpr hu)
      exact hj.imp (fun hj => hkept _ hj (by intro heq; cases heq))
        fun hj => hkept _ hj (by intro heq; cases heq)
    · exact .inr (.inr (hdone.mono he.trace))
  · have hcommit : ∀ timer call', t ≠ .fallbackCommit timer call' := fun timer call' heq =>
      hcommit ⟨timer, call', heq⟩
    have hold : Originated call c s.world := originated_code hcommit ho
    rcases h.legs call c hold with hring | hj | hdone
    · rcases h.ringing_after ht hc hcommit hring with hring | ⟨b, call', hj⟩ | hdone
      · exact .inl hring
      · exact .inr (.inl ⟨b, call', hj.imp (List.mem_append_right _) (List.mem_append_right _)⟩)
      · exact .inr (.inr hdone)
    · exact .inr (joining_after hj (isLeg_of_originated hold) hc)
    · exact .inr (.inr (hdone.mono he.trace))

/-- A handler that has seen to a fallback, while another section runs. -/
theorem seenTo_old (h : LegsTracked s) (hu : u ∈ s.tasks) (hp : env.Possible s.world)
    (hc : Orderly s (.run t env)) {b : BridgeUuid} (hb : u.seenTo = some b) :
    SeenTo b (t.code env s.world).2 := by
  have he := evolves_section (t := t) hp
  have hseen := h.seenTo u hu b hb
  by_cases hcommit : ∃ timer call', t = .fallbackCommit timer call'
  · obtain ⟨timer, call', rfl⟩ := hcommit
    refine ⟨he.uuids hseen.1, fun call ho c hring => ?_⟩
    have ho := he.calls b hseen.1 call ho
    have hring : (fallbackCommit timer call' env s.world).2.pstnFallbacks.get call = _ := hring
    rcases fallbackCommit_legs env timer hc.1 with hw | ⟨c', -, hset, -⟩
    · rw [hw] at hring
      exact hseen.2 call ho c hring
    · rw [hset, Effect.Dict.get_set] at hring
      split at hring
      · rename_i heq
        exact hc.2 b (List.mem_filterMap.mpr ⟨u, hu, hb⟩) (heq ▸ ho)
      · exact hseen.2 call ho c hring
  · exact hseen.evolves he (noneRings_code fun timer call' heq => hcommit ⟨timer, call', heq⟩)

/-- A scan follows the event that the channel is gone. -/
theorem scans_after (h : LegsTracked s) (ht : t ∈ s.tasks) (hp : env.Possible s.world)
    {calls : List CallId} (hu : .goneScan c calls ∈ (s.after t env).tasks) :
    .channelGone c ∈ (s.after t env).world.trace := by
  have he := evolves_section (t := t) hp
  rcases List.mem_append.mp hu with hu | hu
  · exact he.trace _ (h.scans c calls (List.mem_of_mem_erase hu))
  · cases Task.leads_of_mem hu with
    | goneScan => exact mem_snoc.mpr (.inr rfl)
    | goneNext => exact he.trace _ (h.scans _ _ ht)

theorem run (h : LegsTracked s) (hd : DialsTracked s) (hreg : Registered s.world)
    (ht : t ∈ s.tasks) (hp : env.Possible s.world) (hc : Orderly s (.run t env)) :
    LegsTracked (s.after t env) := by
  refine ⟨fun call c ho => h.legs_after ht hp hc ho, fun c calls hu => h.scans_after ht hp hu,
    fun u hu b hb => ?_⟩
  rcases List.mem_append.mp hu with hu | hu
  · exact h.seenTo_old (List.mem_of_mem_erase hu) hp hc hb
  · exact seenTo_new hd.1.2 hreg (hd.2 t ht) hp (h.seenTo t ht) hu hb

theorem step (h : LegsTracked s) (hd : DialsTracked s) (hreg : Registered s.world)
    (hc : Orderly s a) (hs : machine.step a s = some s') : LegsTracked s' := by
  have hlegs : ∀ (u : Task) (call : CallId) (c : ChannelId), Originated call c s.world →
      s.world.pstnFallbacks.get call = some (.dialing c) ∨ Joining c (u :: s.tasks) ∨
        Done c s.world := by
    intro u call c ho
    rcases h.legs call c ho with hring | ⟨b, call', hj⟩ | hdone
    · exact .inl hring
    · exact .inr (.inl ⟨b, call', hj.imp (List.mem_cons_of_mem _) (List.mem_cons_of_mem _)⟩)
    · exact .inr (.inr hdone)
  obtain ⟨t, rfl, ht, rfl⟩ | ⟨timer, call, rfl, -, rfl⟩ | ⟨t, env, rfl, ht, hp, rfl⟩ :=
    step_cases hs
  · refine ⟨hlegs t, fun c calls hu => ?_, fun u hu b hb => ?_⟩
    · rcases List.mem_cons.mp hu with rfl | hu
      · exact ht.elim
      · exact h.scans c calls hu
    · rcases List.mem_cons.mp hu with rfl | hu
      · rw [seenTo_arrives ht] at hb
        cases hb
      · exact h.seenTo u hu b hb
  · refine ⟨hlegs _, fun c calls hu => ?_, fun u hu b hb => ?_⟩
    · rcases List.mem_cons.mp hu with heq | hu
      · cases heq
      · exact h.scans c calls hu
    · rcases List.mem_cons.mp hu with rfl | hu
      · cases hb
      · exact h.seenTo u hu b hb
  · exact h.run hd hreg ht hp hc

end LegsTracked

theorem reaches_legsTracked {s : Sys} (h : machine.Reaches Orderly s) : LegsTracked s := by
  refine h.invariant_along (fun s hs => ?_) fun s a s' hr hI hc hs => ?_
  · rw [show s = Sys.start from hs]
    refine ⟨?_, fun _ _ => nofun, fun _ => nofun⟩
    rintro call c ⟨timer, ho⟩
    cases ho
  · have hr : machine.Reachable s := hr.mono fun _ _ _ => trivial
    exact hI.step (reachable_dials hr) (reachable_registered hr).1 hc hs

/-- The leg answers. -/
def legAnswers : List Label :=
  legRings ++ called (.joinBridge pstnId "b-1") calm ++
    [.run (.joinPop pstnId "b-1" (some callerId)) calm,
      .run (.joinAnswer pstnId "b-1" (some callerId)) calm, .run (.joinPrune "b-1") calm]

end Calld.DialMobile
