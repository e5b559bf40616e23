/-
# The PSTN fallback of a call

With one push for each call, a fallback is armed once.  From then on every section moves it
on from a state that is not terminal, or drops it with everything else that is known of the
call: `FallbackStep` is all that the sections can do to it.

So no leg is originated once the fallback has been cancelled or the call been pruned, and a
terminal state is final, whatever the order of the sections of the timer callback and of
the other handlers.
-/
import Calld.DialMobile.Timers

namespace Calld.DialMobile

open Effect Effect.Program Relation

/-! ## What is to be shown -/

/-- The call of a push request. -/
def Event.pushCall : Event → Option CallId
  | pushRequested push => some push.originCallId
  | _ => none

/-- The calls for which a push has been requested. -/
def pushCalls (tr : List Event) : List CallId := tr.filterMap Event.pushCall

theorem pushCalls_append (tr tr' : List Event) :
    pushCalls (tr ++ tr') = pushCalls tr ++ pushCalls tr' := List.filterMap_append ..

theorem mem_pushCalls_append {tr : List Event} {call : CallId} (h : call ∈ pushCalls tr)
    (tr' : List Event) : call ∈ pushCalls (tr ++ tr') := by
  rw [pushCalls_append]
  exact List.mem_append_left _ h

/-- There is one push for each call. -/
def OnePush (s : Sys) : Label → Prop
  | .run (.sendPush r) _ => r.originCallId ∉ pushCalls s.world.trace
  | _ => True

instance (s : Sys) (a : Label) : Decidable (OnePush s a) := by
  unfold OnePush
  rcases a with t | timer | ⟨t, env⟩
  · infer_instance
  · infer_instance
  · rcases t with ⟨⟩ <;> infer_instance

/-- A leg is originated for a fallback that has not been cancelled, and for a push that has
been requested since the call was last pruned. -/
def IsDue (past : List Event) : Event → Prop
  | .pstnOriginated _ call _ => .fallbackCancelled call ∉ past ∧
      ∀ b before since, past = before ++ .pruned b call :: since →
        call ∈ pushCalls since
  | _ => True

/-- Terminal states are final, as long as the call is known. -/
def KeepsTerminal (w w' : World) : Prop :=
  ∀ call state, w.pstnFallbacks.get call = some state → state.isTerminal = true →
    w'.pstnFallbacks.get call = some state ∨ w'.pstnFallbacks.get call = none

/-! ## What the sections can do to a fallback -/

/-- The events about fallbacks. -/
def Event.aboutFallback : Event → Bool
  | pushRequested _ | fallbackCancelled _ | pstnOriginated .. | pruned .. => true
  | _ => false

/-- Everything that can happen to a fallback once it has been armed. -/
inductive FallbackStep : World → World → Prop
  | aside {w w' : World} (h : Aside Event.aboutFallback World.pstnFallbacks w w')
      (hin : ∀ call, w.incomingCalls.get call = none → w'.incomingCalls.get call = none) :
      FallbackStep w w'
  | moved {w : World} {call : CallId} {old : PSTNFallback} (new : PSTNFallback)
      (h : w.pstnFallbacks.get call = some old) (hold : old.isTerminal = false) :
      FallbackStep w ((Change.fallback call new).apply w)
  | cancelled {w : World} {call : CallId} {old : PSTNFallback}
      (h : w.pstnFallbacks.get call = some old) (hold : old.isTerminal = false) :
      FallbackStep w (w.fallbackCancelled call)
  | originated {w : World} {call : CallId} (timer : ℕ) (c : ChannelId)
      (h : w.pstnFallbacks.get call = some .triggering) :
      FallbackStep w (w.originated timer call c)
  | pruned {w : World} (b : BridgeUuid) (call : CallId) :
      FallbackStep w (((Change.pruned b call).apply w).noted (.pruned b call))

/-- Any number of them. -/
def FallbackSteps (w w' : World) : Prop := ReflTransGen FallbackStep w w'

namespace FallbackSteps

variable {w w' w'' : World}

theorem refl (w : World) : FallbackSteps w w := ReflTransGen.refl

theorem single (h : FallbackStep w w') : FallbackSteps w w' := ReflTransGen.single h

theorem tail (h : FallbackSteps w w') (h' : FallbackStep w' w'') : FallbackSteps w w'' :=
  ReflTransGen.tail h h'

theorem trans (h : FallbackSteps w w') (h' : FallbackSteps w' w'') : FallbackSteps w w'' :=
  ReflTransGen.trans h h'

end FallbackSteps

/-! ## What is known of the fallbacks -/

/-- When the call is pruned, no push has been requested for it. -/
def NotDropped (call : CallId) (past : List Event) (e : Event) : Prop :=
  ∀ b, e = .pruned b call → call ∉ pushCalls past

/-- What is known of the fallbacks, when the push of a call in `spent` has been dealt with. -/
structure FallbackKnown (spent : CallId → Prop) (w : World) : Prop where
  requested : ∀ call, spent call → call ∈ pushCalls w.trace
  spent : ∀ call, w.pstnFallbacks.get call ≠ none ∨ .fallbackCancelled call ∈ w.trace → spent call
  cancelled : ∀ call, .fallbackCancelled call ∈ w.trace →
    ∀ state, w.pstnFallbacks.get call = some state → state = .cancelled
  live : ∀ call, w.incomingCalls.get call ≠ none ∨ w.pstnFallbacks.get call ≠ none →
    Always (NotDropped call) w.trace
  due : Always IsDue w.trace

section Worlds

variable {spent spent' : CallId → Prop} {w w' : World} {call : CallId}

/-- What has not been requested has not been dropped. -/
theorem notDropped_of_not_requested (h : call ∉ pushCalls w.trace) :
    Always (NotDropped call) w.trace := by
  intro past e future hsplit b _ hmem
  rw [hsplit, pushCalls_append] at h
  exact h (List.mem_append_left _ hmem)

theorem notDropped_other {e : Event} (past : List Event) (he : ∀ b, e ≠ .pruned b call) :
    NotDropped call past e := fun b hb => absurd hb (he b)

namespace FallbackKnown

theorem mono (h : FallbackKnown spent w) (hs : ∀ call, spent call → spent' call)
    (hr : ∀ call, spent' call → call ∈ pushCalls w.trace) :
    FallbackKnown spent' w :=
  ⟨hr, fun call hc => hs call (h.spent call hc), h.cancelled, h.live, h.due⟩

theorem aside (h : FallbackKnown spent w) (ha : Aside Event.aboutFallback World.pstnFallbacks w w')
    (hin : ∀ call, w.incomingCalls.get call = none → w'.incomingCalls.get call = none) :
    FallbackKnown spent w' := by
  obtain ⟨evs, hevs, htr⟩ := ha.trace
  refine ⟨fun call hc => ?_, fun call hc => ?_, fun call hc state hs => ?_, fun call hc => ?_, ?_⟩
  · rw [htr]
    exact mem_pushCalls_append (h.requested call hc) evs
  · refine h.spent call (hc.imp (fun hne heq => hne (ha.entries.get_none heq)) ?_)
    exact (ha.mem_trace rfl).mp
  · exact h.cancelled call ((ha.mem_trace rfl).mp hc) state (ha.entries _ _ hs)
  · rw [htr]
    refine (h.live call ?_).append fun e he past => notDropped_other past fun b hb => ?_
    · exact hc.imp (fun hne heq => hne (hin call heq)) fun hne heq => hne (ha.entries.get_none heq)
    · have hother := hevs e he
      rw [hb] at hother
      cases hother
  · rw [htr]
    refine h.due.append fun e he past => ?_
    have hother := hevs e he
    cases e <;> trivial

theorem moved (h : FallbackKnown spent w) {old : PSTNFallback} (new : PSTNFallback)
    (hget : w.pstnFallbacks.get call = some old) (hold : old.isTerminal = false) :
    FallbackKnown spent ((Change.fallback call new).apply w) := by
  have hnot : .fallbackCancelled call ∉ w.trace := by
    intro hc
    rw [h.cancelled call hc old hget] at hold
    cases hold
  have hset : ∀ call', ((Change.fallback call new).apply w).pstnFallbacks.get call' =
      if call' = call then some new else w.pstnFallbacks.get call' :=
    fun call' => Effect.Dict.get_set ..
  have hsome : w.pstnFallbacks.get call ≠ none := by
    rw [hget]
    nofun
  refine ⟨h.requested, fun call' hc => ?_, fun call' hc state hs => ?_, fun call' hc => ?_, h.due⟩
  · rw [hset] at hc
    by_cases heq : call' = call
    · exact heq ▸ h.spent call (.inl hsome)
    · rw [if_neg heq] at hc
      exact h.spent call' hc
  · rw [hset] at hs
    by_cases heq : call' = call
    · exact absurd (heq ▸ hc) hnot
    · rw [if_neg heq] at hs
      exact h.cancelled call' hc state hs
  · rw [hset] at hc
    by_cases heq : call' = call
    · exact heq ▸ h.live call (.inr hsome)
    · rw [if_neg heq] at hc
      exact h.live call' hc

theorem cancel (h : FallbackKnown spent w) {old : PSTNFallback}
    (hget : w.pstnFallbacks.get call = some old) (hold : old.isTerminal = false) :
    FallbackKnown spent (w.fallbackCancelled call) := by
  have hmoved := h.moved .cancelled hget hold
  have hget' : ((Change.fallback call .cancelled).apply w).pstnFallbacks.get call =
      some .cancelled := Effect.Dict.get_set_self ..
  refine ⟨fun call' hc => ?_, fun call' hc => ?_, fun call' hc state hs => ?_, fun call' hc => ?_,
    hmoved.due.snoc trivial⟩
  · exact mem_pushCalls_append (h.requested call' hc) _
  · refine hmoved.spent call' ?_
    rcases hc with hc | hc
    · exact .inl hc
    · rcases mem_snoc.mp hc with hc | hc
      · exact .inr hc
      · cases hc
        left
        rw [hget']
        nofun
  · rcases mem_snoc.mp hc with hc | hc
    · exact hmoved.cancelled call' hc state hs
    · cases hc
      have hs : ((Change.fallback call .cancelled).apply w).pstnFallbacks.get call = some state := hs
      rw [hget'] at hs
      exact (Option.some.inj hs).symm
  · exact (hmoved.live call' hc).snoc (notDropped_other _ fun _ => nofun)

theorem originated (h : FallbackKnown spent w) (timer : ℕ) (c : ChannelId)
    (hget : w.pstnFallbacks.get call = some .triggering) :
    FallbackKnown spent (w.originated timer call c) := by
  have hsome : w.pstnFallbacks.get call ≠ none := by
    rw [hget]
    nofun
  have hspent := h.spent call (.inl hsome)
  refine ⟨fun call' hc => ?_, fun call' hc => ?_, fun call' hc state hs => ?_, fun call' hc => ?_,
    h.due.snoc ⟨fun hc => ?_, fun b before since hsplit => ?_⟩⟩
  · exact mem_pushCalls_append (h.requested call' hc) _
  · refine h.spent call' ?_
    rcases hc with hc | hc
    · exact .inl hc
    · exact .inr (mem_of_snoc hc nofun)
  · exact h.cancelled call' (mem_of_snoc hc nofun) state hs
  · exact (h.live call' hc).snoc (notDropped_other _ fun _ => nofun)
  · nomatch h.cancelled call hc _ hget
  · -- the push of the call is in the past, and not before the prune
    have hmem := h.requested call hspent
    have hbefore := h.live call (.inr hsome) before _ since hsplit b rfl
    have hsplit : w.trace = before ++ .pruned b call :: since := hsplit
    rw [hsplit, pushCalls_append, List.mem_append] at hmem
    exact hmem.resolve_left hbefore

theorem pruned (h : FallbackKnown spent w) (b : BridgeUuid) (call : CallId) :
    FallbackKnown spent (((Change.pruned b call).apply w).noted (.pruned b call)) := by
  have hin : ∀ call', ((Change.pruned b call).apply w).incomingCalls.get call' =
      if call' = call then none else w.incomingCalls.get call' := fun call' => Effect.Dict.get_pop ..
  have hf : ∀ call', ((Change.pruned b call).apply w).pstnFallbacks.get call' =
      if call' = call then none else w.pstnFallbacks.get call' := fun call' => Effect.Dict.get_pop ..
  refine ⟨fun call' hc => ?_, fun call' hc => ?_, fun call' hc state hs => ?_, fun call' hc => ?_,
    h.due.snoc trivial⟩
  · exact mem_pushCalls_append (h.requested call' hc) _
  · refine h.spent call' ?_
    rcases hc with hc | hc
    · refine .inl fun heq => hc ?_
      show ((Change.pruned b call).apply w).pstnFallbacks.get call' = none
      rw [hf, heq, ite_self]
    · exact .inr (mem_of_snoc hc nofun)
  · have hs : ((Change.pruned b call).apply w).pstnFallbacks.get call' = some state := hs
    rw [hf] at hs
    split at hs
    · cases hs
    · exact h.cancelled call' (mem_of_snoc hc nofun) state hs
  · have hc : ((Change.pruned b call).apply w).incomingCalls.get call' ≠ none ∨
        ((Change.pruned b call).apply w).pstnFallbacks.get call' ≠ none := hc
    rw [hin, hf] at hc
    by_cases heq : call' = call
    · rw [if_pos heq, if_pos heq] at hc
      simp at hc
    · rw [if_neg heq, if_neg heq] at hc
      refine (h.live call' hc).snoc (notDropped_other _ fun b' hb => heq ?_)
      cases hb
      rfl

theorem step (h : FallbackKnown spent w) (hs : FallbackStep w w') : FallbackKnown spent w' := by
  cases hs with
  | aside ha hin => exact h.aside ha hin
  | moved new hget hold => exact h.moved new hget hold
  | cancelled hget hold => exact h.cancel hget hold
  | originated timer c hget => exact h.originated timer c hget
  | pruned b call => exact h.pruned b call

theorem steps (h : FallbackKnown spent w) (hs : FallbackSteps w w') : FallbackKnown spent w' := by
  induction hs with
  | refl => exact h
  | tail _ hs ih => exact ih.step hs

end FallbackKnown

/-- An assignment to a fallback that is not terminal changes no terminal one. -/
theorem get_set_of_terminal {call' : CallId} {old new state : PSTNFallback}
    (hget : w.pstnFallbacks.get call' = some old) (hold : old.isTerminal = false)
    (hterminal : state.isTerminal = true)
    (h : w.pstnFallbacks.get call = some state ∨ w.pstnFallbacks.get call = none) :
    (w.pstnFallbacks.set call' new).get call = some state ∨
      (w.pstnFallbacks.set call' new).get call = none := by
  rw [Effect.Dict.get_set_of_ne]
  · exact h
  · rintro rfl
    rw [hget] at h
    rcases h with h | h
    · cases h
      rw [hold] at hterminal
      cases hterminal
    · cases h

/-- A fallback is armed for a push that has just been published. -/
theorem FallbackKnown.armed (h : FallbackKnown spent w) (hspent : spent call)
    (hnot : .fallbackCancelled call ∉ w.trace) (hin : w.incomingCalls.get call ≠ none) :
    FallbackKnown spent (w.armed call) := by
  have hset : ∀ call', (w.armed call).pstnFallbacks.get call' =
      if call' = call then some (.pending w.objects) else w.pstnFallbacks.get call' :=
    fun call' => Effect.Dict.get_set ..
  refine ⟨fun call' hc => ?_, fun call' hc => ?_, fun call' hc state hs => ?_, fun call' hc => ?_,
    h.due.snoc trivial⟩
  · exact mem_pushCalls_append (h.requested call' hc) _
  · rw [hset] at hc
    by_cases heq : call' = call
    · exact heq ▸ hspent
    · rw [if_neg heq] at hc
      refine h.spent call' ?_
      rcases hc with hc | hc
      · exact .inl hc
      · exact .inr (mem_of_snoc hc nofun)
  · have hc := mem_of_snoc hc nofun
    rw [hset] at hs
    by_cases heq : call' = call
    · exact absurd (heq ▸ hc) hnot
    · rw [if_neg heq] at hs
      exact h.cancelled call' hc state hs
  · refine Always.snoc ?_ (notDropped_other _ fun _ => nofun)
    rw [hset] at hc
    by_cases heq : call' = call
    · exact heq ▸ h.live call (.inl hin)
    · rw [if_neg heq] at hc
      exact h.live call' hc

/-- The first push of a call is requested. -/
theorem FallbackKnown.requestedPush (h : FallbackKnown spent w) (r : PushRequest)
    (hone : r.originCallId ∉ pushCalls w.trace) : FallbackKnown spent (w.requested r) := by
  have hset : ∀ call', (w.requested r).incomingCalls.get call' =
      if call' = r.originCallId then some (.pending (r.push w.objects))
      else w.incomingCalls.get call' := fun call' => Effect.Dict.get_set ..
  refine ⟨fun call' hc => ?_, fun call' hc => ?_, fun call' hc state hs => ?_, fun call' hc => ?_,
    h.due.snoc trivial⟩
  · exact mem_pushCalls_append (h.requested call' hc) _
  · refine h.spent call' ?_
    rcases hc with hc | hc
    · exact .inl hc
    · exact .inr (mem_of_snoc hc nofun)
  · exact h.cancelled call' (mem_of_snoc hc nofun) state hs
  · refine Always.snoc ?_ (notDropped_other _ fun _ => nofun)
    rw [hset] at hc
    by_cases heq : call' = r.originCallId
    · have hlive : Always (NotDropped call') w.trace := heq ▸ notDropped_of_not_requested hone
      exact hlive
    · rw [if_neg heq] at hc
      exact h.live call' hc

/-- A terminal state is left to be dropped only. -/
theorem FallbackSteps.keepsTerminal (hs : FallbackSteps w w') : KeepsTerminal w w' := by
  intro call state hget hterminal
  induction hs with
  | refl => exact .inl hget
  | @tail w₁ w₂ _ hs ih =>
    cases hs with
    | aside ha hin =>
      cases hget₂ : w₂.pstnFallbacks.get call with
      | none => exact .inr rfl
      | some state' =>
        left
        have hget₁ := ha.entries call state' hget₂
        rcases ih with ih | ih
        · rw [← ih, hget₁]
        · rw [ih] at hget₁
          cases hget₁
    | moved new h hold => exact get_set_of_terminal h hold hterminal ih
    | cancelled h hold => exact get_set_of_terminal h hold hterminal ih
    | originated timer c h => exact ih
    | pruned b call' =>
      show (w₁.pstnFallbacks.pop call').get call = some state ∨
        (w₁.pstnFallbacks.pop call').get call = none
      rw [Effect.Dict.get_pop]
      split
      · exact .inr rfl
      · exact ih

end Worlds

/-! ## Every section takes such steps -/

/-- The changes that are a matter of fallbacks. -/
def Change.Falls : Change → Prop
  | incomingCall .. | fallback .. | pruned .. => True
  | event e => e.aboutFallback = true
  | _ => False

theorem Change.fallbackAside {k : Change} (h : ¬ k.Falls) (w : World) :
    Aside Event.aboutFallback World.pstnFallbacks w (k.apply w) := by
  cases k with
  | incomingCall call incoming => exact absurd trivial h
  | fallback call state => exact absurd trivial h
  | pruned b call => exact absurd trivial h
  | event e => exact .event (by simpa [Change.Falls] using h) w
  | object => exact .of_shrinks rfl (Nat.le_succ _) (.refl _)
  | _ => exact .of_shrinks rfl (Nat.le_refl _) (.refl _)

theorem Change.incomingCalls_apply {k : Change} (h : ¬ k.Falls) (w : World) :
    (k.apply w).incomingCalls = w.incomingCalls := by
  cases k <;> first | rfl | exact absurd trivial h

/-- The tasks that are a matter of fallbacks. -/
def Task.Falls : Task → Prop
  | .sendPush _ | .publishPush _ | .onContactDialed _ | .joinBridge .. | .joinCancel ..
  | .joinPrune _ | .goneScan .. | .goneFallback .. | .gonePush .. | .gonePrune .. | .cancelPush _
  | .completePush _ | .pstnFallback .. | .fallbackCommit .. | .fallbackAbort _ => True
  | _ => False

section Sections

variable {w : World} {env : Env} {t : Task} {call : CallId}

theorem fallbackStep_change {k : Change} (h : ¬ k.Falls) (w : World) : FallbackStep w (k.apply w) :=
  .aside (k.fallbackAside h w) fun call hc => by rwa [k.incomingCalls_apply h w]

/-- An assignment to the push of a call that has one. -/
theorem fallbackStep_incoming {incoming : IncomingCall} (new : IncomingCall)
    (h : w.incomingCalls.get call = some incoming) :
    FallbackStep w ((Change.incomingCall call new).apply w) := by
  refine .aside (.of_shrinks rfl (Nat.le_refl _) (.refl _)) fun call' hc => ?_
  show (w.incomingCalls.set call new).get call' = none
  rw [Effect.Dict.get_set_of_ne, hc]
  rintro rfl
  rw [h] at hc
  cases hc

theorem Task.not_falls {k : Change} (h : ¬ t.Falls) (hk : t.May k) : ¬ k.Falls := by
  intro hp
  cases k with
  | incomingCall call incoming => cases t <;> first | exact hk | exact h trivial
  | fallback call state => cases t <;> first | exact hk | exact h trivial
  | pruned b call => cases t <;> first | exact hk | exact h trivial
  | event e =>
    cases e <;> cases hp
    all_goals cases t <;> first | exact hk | exact h trivial
  | _ => exact hp

/-- A program that is made of other changes takes steps that are no matter of fallbacks. -/
theorem fallbackSteps_of_madeOf {α : Type} {K : Change → Prop} {p : Code α}
    (hK : ∀ k, K k → ¬ k.Falls) (h : MadeOf env K p) : FallbackSteps w (p env w).2 :=
  Changes.invariant (I := FallbackSteps w)
    (fun w' k hk hw' => hw'.tail (fallbackStep_change (hK k hk) w')) (h w).1 (.refl w)

theorem fallbackSteps_cancelPSTNFallback (env : Env) (w : World) (call : CallId) :
    FallbackSteps w (cancelPSTNFallback call env w).2 := by
  rcases cancelPSTNFallback_cases env (w := w) call with
    ⟨r, hw, -⟩ | ⟨timer, hget, hw⟩ | ⟨c, e, -, hw⟩ | ⟨c, hget, hw⟩ | ⟨hget, hw⟩ <;> rw [hw]
  · exact .refl _
  · exact .tail (.single (fallbackStep_change (k := .timerStopped timer) id w))
      (.cancelled hget rfl)
  · exact .single (fallbackStep_change (k := .event (.hungUp c)) nofun w)
  · exact .tail (.single (fallbackStep_change (k := .event (.hungUp c)) nofun w))
      (.cancelled hget rfl)
  · exact .single (.cancelled hget rfl)

theorem cancelPushMobile_fallbacks (env : Env) (w : World) (call : CallId) :
    (cancelPushMobile call env w).2.pstnFallbacks = w.pstnFallbacks :=
  Changes.untouched (f := World.pstnFallbacks)
    (fun w' k (hk : k.CancelsPush) => by cases k <;> first | rfl | exact hk.elim)
    (madeOf_cancelPushMobile _ call (fun _ hk => hk) w).1

theorem fallbackSteps_cancelPushMobile (env : Env) (w : World) (call : CallId) :
    FallbackSteps w (cancelPushMobile call env w).2 := by
  rcases cancelPushMobile_cases env (w := w) call with
    ⟨hw, -⟩ | ⟨_, _, _, _, hw⟩ | ⟨push, hget, _, hw⟩ | ⟨push, hget, hw⟩ <;> rw [hw]
  · exact .refl _
  · exact .refl _
  · exact .tail (.single (fallbackStep_change
      (k := .event (.cancelPushNotification (push.notification call))) nofun w))
      (fallbackStep_incoming _ hget)
  · exact .single (fallbackStep_incoming _ hget)

theorem fallbackSteps_pruneCallState (env : Env) (w : World) (b : BridgeUuid) :
    FallbackSteps w (pruneCallState b env w).2 := by
  cases ho : w.originCallIdByBridgeUuid.get b with
  | some call =>
    rw [pruneCallState_some ho]
    exact .single (.pruned b call)
  | none =>
    rw [pruneCallState_none ho]
    exact .single (fallbackStep_change (k := .forgotten b) id w)

theorem fallbackSteps_joinBridge (env : Env) (w : World) (c : ChannelId) (b : BridgeUuid) :
    FallbackSteps w (joinBridge c b env w).2 := by
  have hnamed : FallbackSteps w ((Change.named b).apply w) :=
    .single (fallbackStep_change (k := .named b) id w)
  rcases joinBridge_cases env (w := w) c b with ⟨hw, -⟩ | ⟨call, -, hw⟩ <;> rw [hw]
  · exact hnamed
  · rw [after_pure_world]
    refine hnamed.trans ?_
    rcases joinFallback_cases env (w := (Change.named b).apply w) c call with
      ⟨hget, hw⟩ | hw | ⟨hw, -⟩ <;> rw [hw]
    · exact .single (.moved (.dialAnswered c) hget rfl)
    · exact fallbackSteps_cancelPSTNFallback env _ call
    · exact .refl _

theorem fallbackSteps_fallbackCommit (env : Env) (w : World) (timer : ℕ) (call : CallId) :
    FallbackSteps w (fallbackCommit timer call env w).2 := by
  rcases fallbackCommit_cases env (w := w) timer call with hw | ⟨c, hget, -, hw⟩ <;> rw [hw]
  · exact .refl _
  · have horiginated : FallbackSteps w (w.originated timer call c) :=
      .single (.originated timer c hget)
    rcases legOriginated_cases env (w := w) timer call c with
      ⟨e, -, hl⟩ | ⟨w', hcancel, hl⟩ <;> rw [hl]
    · exact horiginated
    · have hpush := fallbackSteps_cancelPushMobile env (w.originated timer call c) call
      rw [hcancel] at hpush
      refine horiginated.trans (hpush.tail (.moved (.dialing c) (?_ : _ = some .triggering) rfl))
      have hkept := cancelPushMobile_fallbacks env (w.originated timer call c) call
      rw [hcancel] at hkept
      rw [hkept]
      exact hget

/-- All that a section can do to the fallbacks, when it requests or publishes no push. -/
theorem code_fallbackSteps (t : Task) (env : Env) (w : World) (hsend : ∀ r, t ≠ .sendPush r)
    (hpub : ∀ push, t ≠ .publishPush push) : FallbackSteps w (t.code env w).2 := by
  by_cases hf : t.Falls
  case neg => exact fallbackSteps_of_madeOf (fun k hk => t.not_falls hf hk) (t.madeOf_may env)
  case pos =>
    cases t with
    | sendPush r => exact absurd rfl (hsend r)
    | publishPush push => exact absurd rfl (hpub push)
    | onContactDialed b =>
      show FallbackSteps w (onContactDialed b env w).2
      rcases onContactDialed_cases env (w := w) b with hw | ⟨call, -, hw⟩ <;> rw [hw]
      · exact .refl _
      · exact fallbackSteps_cancelPSTNFallback env w call
    | joinBridge c b => exact fallbackSteps_joinBridge env w c b
    | joinCancel b call =>
      show FallbackSteps w (joinCancel b call env w).2
      rw [joinCancel_world]
      exact fallbackSteps_cancelPushMobile env w call
    | joinPrune b =>
      show FallbackSteps w (joinPrune b env w).2
      rw [show (joinPrune b env w).2 = _ from after_pure_world _ _]
      exact fallbackSteps_pruneCallState env w b
    | goneScan c calls =>
      cases calls with
      | nil => exact .refl _
      | cons call calls =>
        show FallbackSteps w (goneScan c (call :: calls) env w).2
        rw [show (goneScan c (call :: calls) env w).2 = _ from after_pure_world _ _]
        rcases legGone_cases env (w := w) c call with ⟨hw, -⟩ | ⟨hget, hw⟩ <;> rw [hw]
        · exact .refl _
        · exact .single (.cancelled hget rfl)
    | goneFallback b call bs =>
      show FallbackSteps w (goneFallback b call bs env w).2
      rw [show (goneFallback b call bs env w).2 = _ from after_pure_world _ _]
      exact fallbackSteps_cancelPSTNFallback env w call
    | gonePush b call bs =>
      show FallbackSteps w (gonePush b call bs env w).2
      rw [show (gonePush b call bs env w).2 = _ from after_pure_world _ _]
      exact fallbackSteps_cancelPushMobile env w call
    | gonePrune b bs =>
      show FallbackSteps w (gonePrune b bs env w).2
      rw [show (gonePrune b bs env w).2 = _ from after_pure_world _ _]
      exact fallbackSteps_pruneCallState env w b
    | cancelPush call =>
      show FallbackSteps w ((do cancelPushMobile call; pure [] : Code (List Task)) env w).2
      rw [after_pure_world]
      exact fallbackSteps_cancelPushMobile env w call
    | completePush call =>
      show FallbackSteps w
        ((do completePendingPushMobile call; pure [] : Code (List Task)) env w).2
      rw [after_pure_world]
      rcases completePendingPushMobile_cases env (w := w) call with
        ⟨hw, -⟩ | ⟨push, hget | hget, hw⟩ <;> rw [hw]
      · exact .refl _
      · exact .tail (.single (fallbackStep_incoming _ hget))
          (fallbackStep_change (k := .event (.pushCompleted push)) nofun _)
      · exact .tail (.single (fallbackStep_incoming _ hget))
          (fallbackStep_change (k := .event (.pushCompleted push)) nofun _)
    | pstnFallback timer call =>
      show FallbackSteps w (pstnFallback timer call env w).2
      rcases pstnFallback_cases env (w := w) timer call with hw | ⟨⟨timer', hget⟩, hw⟩ <;>
        rw [hw]
      · exact .refl _
      · exact .single (.moved .triggering hget rfl)
    | fallbackCommit timer call => exact fallbackSteps_fallbackCommit env w timer call
    | fallbackAbort call =>
      show FallbackSteps w (fallbackAbort call env w).2
      rcases fallbackAbort_cases env (w := w) call with hw | ⟨hget, hw⟩ <;> rw [hw]
      · exact .refl _
      · exact .single (.cancelled hget rfl)
    | _ => exact hf.elim

end Sections

/-! ## Runs -/

/-- The task will publish the push of a call. -/
def Task.publishes (call : CallId) : Task → Bool
  | .publishPush push => push.originCallId = call
  | _ => false

/-- The push of a call has been requested, and published or given up. -/
def Sys.Spent (s : Sys) (call : CallId) : Prop :=
  call ∈ pushCalls s.world.trace ∧ ∀ t ∈ s.tasks, t.publishes call = false

/-- What is known of the fallbacks, when there is one push for each call. -/
structure FallbackTracked (s : Sys) : Prop where
  waiting : ∀ call, ∀ t ∈ s.tasks, t.publishes call = true → call ∈ pushCalls s.world.trace
  once : ∀ call, s.tasks.countP (Task.publishes call) ≤ 1
  known : FallbackKnown s.Spent s.world

/-- Only a request for a push follows up with its publication. -/
theorem Task.Leads.publishes {t u : Task} {call : CallId} (h : t.Leads u)
    (hu : u.publishes call = true) : ∃ r, t = .sendPush r ∧ r.originCallId = call := by
  cases h <;> first | cases hu | skip
  rename_i r push horigin
  exact ⟨r, rfl, by rw [← horigin]; simpa [Task.publishes] using hu⟩

/-- Only a request for a push is noted as one. -/
theorem pushCalls_code {t : Task} (env : Env) (w : World) (hsend : ∀ r, t ≠ .sendPush r) :
    pushCalls (t.code env w).2.trace = pushCalls w.trace := by
  refine Changes.untouched (f := fun w => pushCalls w.trace) (fun w' k hk => ?_) (t.madeOf_may env w).1
  cases k with
  | event e =>
    have hnone : e.pushCall = none := by
      cases e <;> first | rfl | (cases t <;> first | exact hk.elim | exact absurd rfl (hsend _))
    show pushCalls (w'.trace ++ [e]) = _
    rw [pushCalls_append, show pushCalls [e] = [] by simp [pushCalls, hnone], List.append_nil]
  | _ => rfl

namespace FallbackTracked

variable {s s' : Sys} {a : Label} {t : Task} {env : Env}

/-- The publications that are still to come after a section. -/
theorem publishes_after (hsend : ∀ r, t ≠ .sendPush r) {call : CallId} {u : Task}
    (hu : u ∈ (s.after t env).tasks) (hpub : u.publishes call = true) : u ∈ s.tasks.erase t := by
  rcases List.mem_append.mp hu with hu | hu
  · exact hu
  · obtain ⟨r, rfl, -⟩ := (Task.leads_of_mem hu).publishes hpub
    exact absurd rfl (hsend r)

/-- What is known after a section that requests no push, but for the fallbacks. -/
theorem run_tasks (h : FallbackTracked s) (hsend : ∀ r, t ≠ .sendPush r)
    (hknown : FallbackKnown (s.after t env).Spent (s.after t env).world) :
    FallbackTracked (s.after t env) := by
  have hcalls : pushCalls (s.after t env).world.trace = pushCalls s.world.trace :=
    pushCalls_code env s.world hsend
  refine ⟨fun call u hu hpub => ?_, fun call => ?_, hknown⟩
  · rw [hcalls]
    exact h.waiting call u (List.mem_of_mem_erase (publishes_after hsend hu hpub)) hpub
  · show (s.tasks.erase t ++ following (t.code env s.world).1).countP _ ≤ 1
    rw [List.countP_append]
    have hnone : (following (t.code env s.world).1).countP (Task.publishes call) = 0 := by
      refine List.countP_eq_zero.mpr fun u hu hpub => ?_
      obtain ⟨r, rfl, -⟩ := (Task.leads_of_mem hu).publishes hpub
      exact absurd rfl (hsend r)
    have hle := (List.erase_sublist (l := s.tasks) (a := t)).countP_le (p := Task.publishes call)
    have hone := h.once call
    omega

/-- What has been spent stays spent. -/
theorem spent_after (env : Env) (hsend : ∀ r, t ≠ .sendPush r) {call : CallId} (hc : s.Spent call) :
    (s.after t env).Spent call := by
  refine ⟨(pushCalls_code env s.world hsend).symm ▸ hc.1, fun u hu => ?_⟩
  by_contra hpub
  have hmem := publishes_after hsend hu (Bool.not_eq_false _ ▸ hpub)
  exact hpub (hc.2 u (List.mem_of_mem_erase hmem))

theorem spent_requested (hsend : ∀ r, t ≠ .sendPush r) {call : CallId}
    (hc : (s.after t env).Spent call) : call ∈ pushCalls s.world.trace :=
  pushCalls_code env s.world hsend ▸ hc.1

/-- A section that requests or publishes no push. -/
theorem run_other (h : FallbackTracked s) (hsend : ∀ r, t ≠ .sendPush r)
    (hpub : ∀ push, t ≠ .publishPush push) : FallbackTracked (s.after t env) :=
  h.run_tasks hsend <|
    (h.known.mono (fun _ => spent_after env hsend) fun _ => spent_requested hsend).steps
      (code_fallbackSteps t env s.world hsend hpub)

/-- The section that publishes a push: its call is spent, and was not. -/
theorem run_publish {push : Push} (h : FallbackTracked s) (ht : .publishPush push ∈ s.tasks) :
    FallbackTracked (s.after (.publishPush push) env) := by
  have hsend : ∀ r, Task.publishPush push ≠ .sendPush r := fun _ => nofun
  have hpublishes : (Task.publishPush push).publishes push.originCallId = true := by
    simp [Task.publishes]
  have hcalls := pushCalls_code env s.world hsend
  have hspent : (s.after (.publishPush push) env).Spent push.originCallId := by
    refine ⟨hcalls.symm ▸ h.waiting _ _ ht hpublishes, fun u hu => ?_⟩
    by_contra hpub
    have hmem := publishes_after hsend hu (Bool.not_eq_false _ ▸ hpub)
    have hcount := (List.perm_cons_erase ht).countP_eq (Task.publishes push.originCallId)
    rw [List.countP_cons, if_pos hpublishes] at hcount
    have hpos := List.countP_pos_iff.mpr ⟨u, hmem, Bool.not_eq_false _ ▸ hpub⟩
    have hone := h.once push.originCallId
    omega
  have hnot : .fallbackCancelled push.originCallId ∉ s.world.trace := by
    intro hc
    have hfalse := (h.known.spent _ (.inr hc)).2 _ ht
    rw [hpublishes] at hfalse
    cases hfalse
  have hknown := h.known.mono (fun _ => spent_after env hsend) fun _ => spent_requested hsend
  refine h.run_tasks hsend ?_
  show FallbackKnown _ (publishPush push env s.world).2
  rcases publishPush_cases env (w := s.world) push with hw | ⟨⟨pending, hpending⟩, hw⟩
  · rw [hw]
    exact hknown
  · have hpublished : FallbackKnown (s.after (.publishPush push) env).Spent
        (s.world.published push) :=
      (hknown.step (fallbackStep_change
        (k := .event (.pushNotification (push.notification push.originCallId))) nofun _)).step
        (fallbackStep_incoming (.notified push) hpending)
    rcases hw with hw | hw <;> rw [hw]
    · exact hpublished
    · refine hpublished.armed hspent (fun hc => hnot (mem_of_snoc hc nofun)) ?_
      show (s.world.incomingCalls.set push.originCallId _).get push.originCallId ≠ none
      rw [Effect.Dict.get_set_self]
      nofun

/-- The section that requests the push of a call. -/
theorem run_send {r : PushRequest} (h : FallbackTracked s)
    (hone : r.originCallId ∉ pushCalls s.world.trace) :
    FallbackTracked (s.after (.sendPush r) env) := by
  have htasks : (s.after (.sendPush r) env).tasks =
      s.tasks.erase (.sendPush r) ++ [.publishPush (r.push s.world.objects)] := rfl
  have hcalls : pushCalls (s.after (.sendPush r) env).world.trace =
      pushCalls s.world.trace ++ [r.originCallId] := by
    show pushCalls (s.world.trace ++ [.pushRequested _]) = _
    rw [pushCalls_append]
    rfl
  have hnew : ∀ call, (Task.publishPush (r.push s.world.objects)).publishes call = true ↔
      r.originCallId = call := by
    intro call
    exact decide_eq_true_iff
  refine ⟨fun call u hu hpub => ?_, fun call => ?_, ?_⟩
  · rw [htasks, List.mem_append, List.mem_singleton] at hu
    rw [hcalls, List.mem_append, List.mem_singleton]
    rcases hu with hu | rfl
    · exact .inl (h.waiting call u (List.mem_of_mem_erase hu) hpub)
    · exact .inr ((hnew call).mp hpub).symm
  · rw [htasks, List.countP_append, List.countP_singleton]
    have hle := (List.erase_sublist (l := s.tasks) (a := .sendPush r)).countP_le
      (p := Task.publishes call)
    have hold := h.once call
    split
    · -- the call had no push before
      rename_i hpub
      have hzero : s.tasks.countP (Task.publishes call) = 0 :=
        List.countP_eq_zero.mpr fun u hu hpub' =>
          hone ((hnew call).mp hpub ▸ h.waiting call u hu hpub')
      omega
    · omega
  · have hspent : ∀ call, s.Spent call → (s.after (.sendPush r) env).Spent call := by
      intro call hc
      refine ⟨hcalls ▸ List.mem_append_left _ hc.1, fun u hu => ?_⟩
      rw [htasks, List.mem_append, List.mem_singleton] at hu
      rcases hu with hu | rfl
      · exact hc.2 u (List.mem_of_mem_erase hu)
      · by_contra hpub
        exact hone ((hnew call).mp (Bool.not_eq_false _ ▸ hpub) ▸ hc.1)
    exact (h.known.requestedPush r hone).mono hspent fun call hc => hc.1

/-- What arrives is no publication of a push. -/
theorem arrive (h : FallbackTracked s) (ht : ∀ call, t.publishes call = false) {w : World}
    (hw : FallbackStep s.world w) (htr : w.trace = s.world.trace) :
    FallbackTracked ⟨w, t :: s.tasks⟩ := by
  have hspent : ∀ call, s.Spent call → (⟨w, t :: s.tasks⟩ : Sys).Spent call := by
    intro call hc
    refine ⟨htr.symm ▸ hc.1, fun u hu => ?_⟩
    rcases List.mem_cons.mp hu with rfl | hu
    · exact ht call
    · exact hc.2 u hu
  refine ⟨fun call u hu hpub => ?_, fun call => ?_,
    (h.known.mono hspent fun call hc => htr ▸ hc.1).step hw⟩
  · rw [htr]
    rcases List.mem_cons.mp hu with rfl | hu
    · rw [ht call] at hpub
      cases hpub
    · exact h.waiting call u hu hpub
  · rw [List.countP_cons, ht call]
    exact h.once call

theorem step (h : FallbackTracked s) (hone : OnePush s a) (hs : machine.step a s = some s') :
    FallbackTracked s' := by
  obtain ⟨t, rfl, ht, rfl⟩ | ⟨timer, call, rfl, -, rfl⟩ | ⟨t, env, rfl, ht, -, rfl⟩ :=
    step_cases hs
  · refine h.arrive (fun call => ?_) (.aside (.refl _) fun _ h => h) rfl
    cases t <;> first | rfl | exact ht.elim
  · exact h.arrive (t := .pstnFallback timer call) (fun _ => rfl)
      (fallbackStep_change (k := .timerStopped timer) id s.world) rfl
  · by_cases hsend : ∃ r, t = .sendPush r
    · obtain ⟨r, rfl⟩ := hsend
      exact h.run_send hone
    · by_cases hpub : ∃ push, t = .publishPush push
      · obtain ⟨push, rfl⟩ := hpub
        exact h.run_publish ht
      · exact h.run_other (fun r hr => hsend ⟨r, hr⟩) fun push hp => hpub ⟨push, hp⟩

/-- A terminal fallback is not armed again, and no other step leaves a terminal state. -/
theorem keepsTerminal (h : FallbackTracked s) (hs : machine.step a s = some s') :
    KeepsTerminal s.world s'.world := by
  obtain ⟨t, rfl, -, rfl⟩ | ⟨timer, call, rfl, -, rfl⟩ | ⟨t, env, rfl, ht, -, rfl⟩ :=
    step_cases hs
  · exact FallbackSteps.keepsTerminal (.refl _)
  · exact FallbackSteps.keepsTerminal
      (.single (fallbackStep_change (k := .timerStopped timer) id s.world))
  · by_cases hsend : ∃ r, t = .sendPush r
    · obtain ⟨r, rfl⟩ := hsend
      exact fun call state hget _ => .inl hget
    · by_cases hpub : ∃ push, t = .publishPush push
      · obtain ⟨push, rfl⟩ := hpub
        intro call state hget _
        left
        show (publishPush push env s.world).2.pstnFallbacks.get call = some state
        rcases publishPush_cases env (w := s.world) push with hw | ⟨-, hw | hw⟩ <;> rw [hw]
        · exact hget
        · exact hget
        · -- a fallback that there is already is that of another call
          show (s.world.pstnFallbacks.set push.originCallId _).get call = some state
          rw [Effect.Dict.get_set_of_ne]
          · exact hget
          · rintro rfl
            have hfalse := (h.known.spent push.originCallId (.inl (by rw [hget]; nofun))).2 _ ht
            simp [Task.publishes] at hfalse
      · exact (code_fallbackSteps t env s.world (fun r hr => hsend ⟨r, hr⟩)
          fun push hp => hpub ⟨push, hp⟩).keepsTerminal

end FallbackTracked

/-- With one push for each call, the fallbacks are tracked along every run. -/
theorem reaches_fallbackTracked {s : Sys} (h : machine.Reaches OnePush s) : FallbackTracked s := by
  refine h.invariant (fun s hs => ?_) fun s a s' hI hone hs => hI.step hone hs
  rw [show s = Sys.start from hs]
  refine ⟨fun _ _ => nofun, fun _ => Nat.zero_le _, fun _ hc => hc.1, fun _ hc => ?_,
    fun _ => nofun, fun _ _ => .nil, .nil⟩
  rcases hc with hc | hc
  · exact absurd rfl hc
  · cases hc

/-- **The fallback fires at most once, and not after it was cancelled or its call pruned**,
when there is one push for each call; its terminal states are final. -/
theorem fallback_fires_when_due {s : Sys} (h : machine.Reaches OnePush s) :
    Always FiresOnce s.world.trace ∧ Always IsDue s.world.trace ∧
      ∀ a s', machine.step a s = some s' → KeepsTerminal s.world s'.world :=
  ⟨(reachable_timersTracked (h.mono fun _ _ _ => trivial)).known.once,
    (reaches_fallbackTracked h).known.due,
    fun _ _ hs => (reaches_fallbackTracked h).keepsTerminal hs⟩

/-- The timer of a push fires, and the PSTN leg answers. -/
def answeredByFallback : List Label := legRings ++ called (.joinBridge pstnId "b-1") calm

theorem fallback_fires_answered :
    (served answeredByFallback).world.pstnFallbacks.get callerId = some (.dialAnswered pstnId) ∧
      Always FiresOnce (served answeredByFallback).world.trace ∧
      Always IsDue (served answeredByFallback).world.trace ∧
      ∀ a s', machine.step a (served answeredByFallback) = some s' →
        KeepsTerminal (served answeredByFallback).world s'.world := by
  have run : machine.run answeredByFallback Sys.start = some (served answeredByFallback) := rfl
  have meets : machine.Meets OnePush answeredByFallback Sys.start := by decide
  exact ⟨by decide, fallback_fires_when_due (Machine.Reaches.run (.init rfl) meets run)⟩

end Calld.DialMobile
