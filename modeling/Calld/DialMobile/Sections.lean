/-
# What the sections of the dial-mobile service do

Which task may follow a section, and, for the sections that assign to the maps of the
service, everything they can do there.
-/
import Calld.DialMobile.Machine

namespace Calld.DialMobile

open Effect Effect.Program

/-! ## What follows a section -/

/-- What a section may be followed by. -/
inductive Task.Leads : Task → Task → Prop
  | publishPush (r : PushRequest) (push : Push) (h : push.originCallId = r.originCallId) :
      Leads (.sendPush r) (.publishPush push)
  | onContactDialed (b : BridgeUuid) : Leads (.contactDialed b) (.onContactDialed b)
  | joinPop (c : ChannelId) (b : BridgeUuid) (call : Option CallId) :
      Leads (.joinBridge c b) (.joinPop c b call)
  | joinBridge (c : ChannelId) (exten context : String) (b : BridgeUuid) :
      Leads (.pickup c exten context) (.joinBridge c b)
  | joinAnswer (c : ChannelId) (b : BridgeUuid) (call : Option CallId) :
      Leads (.joinPop c b call) (.joinAnswer c b call)
  | joinCancel (c : ChannelId) (b : BridgeUuid) (call : CallId) :
      Leads (.joinAnswer c b (some call)) (.joinCancel b call)
  | joinPrune (c : ChannelId) (b : BridgeUuid) (call : Option CallId) :
      Leads (.joinAnswer c b call) (.joinPrune b)
  | cancelPrune (b : BridgeUuid) (call : CallId) : Leads (.joinCancel b call) (.joinPrune b)
  | goneScan (c : ChannelId) (calls : List CallId) :
      Leads (.channelDestroyed c) (.goneScan c calls)
  | goneNext (c : ChannelId) (call : CallId) (calls : List CallId) :
      Leads (.goneScan c (call :: calls)) (.goneScan c calls)
  | goneDialers (c : ChannelId) : Leads (.goneScan c []) (.goneDialers c)
  | goneRemove (c : ChannelId) (bs : List BridgeUuid) : Leads (.goneDialers c) (.goneRemove bs)
  | goneFallback (b : BridgeUuid) (call : CallId) (bs : List BridgeUuid) :
      Leads (.goneRemove (b :: bs)) (.goneFallback b call bs)
  | gonePrune (b : BridgeUuid) (bs : List BridgeUuid) :
      Leads (.goneRemove (b :: bs)) (.gonePrune b bs)
  | gonePush (b : BridgeUuid) (call : CallId) (bs : List BridgeUuid) :
      Leads (.goneFallback b call bs) (.gonePush b call bs)
  | gonePushPrune (b : BridgeUuid) (call : CallId) (bs : List BridgeUuid) :
      Leads (.gonePush b call bs) (.gonePrune b bs)
  | goneRest (b : BridgeUuid) (bs : List BridgeUuid) : Leads (.gonePrune b bs) (.goneRemove bs)
  | completePush (call : CallId) (userUuid : UserUuid) :
      Leads (.bridgeEnter call userUuid) (.completePush call)
  | cancelPush (call : CallId) (userUuid : UserUuid) :
      Leads (.bridgeEnter call userUuid) (.cancelPush call)
  | fallbackLookup (timer : ℕ) (call : CallId) :
      Leads (.pstnFallback timer call) (.fallbackLookup timer call)
  | fallbackCaller (timer : ℕ) (call origin : CallId) :
      Leads (.fallbackLookup timer call) (.fallbackCaller timer call origin)
  | lookupAbort (timer : ℕ) (call : CallId) :
      Leads (.fallbackLookup timer call) (.fallbackAbort call)
  | fallbackCommit (timer : ℕ) (call origin : CallId) :
      Leads (.fallbackCaller timer call origin) (.fallbackCommit timer call)
  | callerAbort (timer : ℕ) (call origin : CallId) :
      Leads (.fallbackCaller timer call origin) (.fallbackAbort call)
  | commitAbort (timer : ℕ) (call : CallId) :
      Leads (.fallbackCommit timer call) (.fallbackAbort call)

/-- At most one task, and one that may follow. -/
def Task.LeadsTo (t : Task) (ts : List Task) : Prop := ts = [] ∨ ∃ u, ts = [u] ∧ t.Leads u

/-- A program that returns what may follow a task. -/
abbrev Continues (env : Env) (t : Task) (p : Code (List Task)) : Prop :=
  Gives env (fun _ => True) p t.LeadsTo

section Continues

variable {env : Env} {t u : Task} {α : Type}

theorem continues_nothing : Continues env t (pure []) := Gives.pure (.inl rfl)

theorem continues_pure (h : t.Leads u) : Continues env t (pure [u]) := Gives.pure (.inr ⟨u, rfl, h⟩)

/-- First something whose result does not matter. -/
theorem continues_after {p : Code α} {q : α → Code (List Task)}
    (h : ∀ a, Continues env t (q a)) : Continues env t (p >>= q) :=
  Gives.bind (Φ := fun _ => True) (Triple.any p) fun a _ => h a

theorem continues_try {p q : Code (List Task)} (hp : Continues env t p) (hq : Continues env t q) :
    Continues env t (tryCatch p fun _ => q) := by
  intro w _
  rw [tryCatch_apply]
  rcases h : p env w with ⟨e | ts, w'⟩
  · exact hq w' trivial
  · exact hp.ok trivial h

theorem continues_fallbackLookup (timer : ℕ) (call : CallId) :
    Continues env (.fallbackLookup timer call) (fallbackLookup timer call) := by
  refine continues_after fun incoming => ?_
  match incoming with
  | none | some (.received _) | some (.pushCancelled _) =>
    exact continues_pure (.lookupAbort timer call)
  | some (.pending push) | some (.notified push) =>
    refine continues_after fun user => ?_
    cases user with
    | none => exact continues_pure (.lookupAbort timer call)
    | some user =>
      dsimp only
      split
      · exact continues_pure (.lookupAbort timer call)
      · refine continues_after fun context => ?_
        cases context with
        | none => exact continues_pure (.lookupAbort timer call)
        | some _ => exact continues_pure (.fallbackCaller timer call _)

/-- Every section is followed by what may follow it. -/
theorem Task.continues (t : Task) (env : Env) : Continues env t t.code := by
  cases t with
  | sendPush r =>
    exact continues_after fun _ => continues_after fun _ => continues_after fun _ =>
      continues_after fun _ => continues_after fun _ => continues_pure (.publishPush r _ rfl)
  | publishPush push =>
    refine continues_after fun enabled => continues_after fun incoming => ?_
    match incoming with
    | some (.pending _) =>
      exact continues_after fun _ => continues_after fun _ => continues_after fun _ =>
        continues_after fun _ => continues_nothing
    | some (.notified _) | some (.received _) | some (.pushCancelled _) | none =>
      exact continues_nothing
  | dialAllContacts caller origin aor =>
    exact continues_after fun _ => continues_after fun _ => continues_after fun _ =>
      continues_after fun _ => continues_after fun _ => continues_after fun _ => continues_nothing
  | contactAvailable aor =>
    exact continues_after fun _ => continues_after fun _ => continues_nothing
  | contactDialed b =>
    refine continues_after fun alive => ?_
    split
    · exact continues_after fun c => continues_after fun _ => continues_pure (.onContactDialed b)
    · exact continues_nothing
  | onContactDialed b =>
    refine continues_after fun call => ?_
    cases call with
    | none => exact continues_nothing
    | some call => exact continues_after fun _ => continues_nothing
  | dialerWakes b =>
    refine continues_after fun up => ?_
    cases up with
    | none => exact continues_after fun _ => continues_nothing
    | some _ => exact continues_nothing
  | joinBridge c b =>
    refine continues_after fun _ => continues_after fun call => ?_
    cases call with
    | none => exact continues_pure (.joinPop c b none)
    | some call =>
      refine continues_after fun lock => ?_
      cases lock with
      | none => exact continues_pure (.joinPop c b (some call))
      | some _ => exact continues_after fun _ => continues_pure (.joinPop c b (some call))
  | pickup c exten context =>
    refine continues_after fun b => ?_
    cases b with
    | none => exact continues_nothing
    | some b => exact continues_pure (.joinBridge c exten context b)
  | joinPop c b call =>
    refine continues_after fun dialer => ?_
    cases dialer with
    | none => exact continues_after fun _ => continues_nothing
    | some dialer =>
      exact continues_after fun _ => continues_after fun _ => continues_pure (.joinAnswer c b call)
  | joinAnswer c b call =>
    refine continues_try (continues_after fun caller => continues_after fun answered => ?_)
      (continues_pure (.joinPrune c b call))
    cases answered with
    | none =>
      refine continues_after fun _ => ?_
      cases call with
      | none => exact continues_pure (.joinPrune c b none)
      | some call => exact continues_pure (.joinCancel c b call)
    | some _ =>
      refine continues_after fun answered => ?_
      cases answered with
      | none => exact continues_after fun _ => continues_pure (.joinPrune c b call)
      | some _ =>
        exact continues_after fun _ => continues_after fun _ =>
          continues_pure (.joinPrune c b call)
  | joinCancel b call =>
    exact continues_try (continues_after fun _ => continues_pure (.cancelPrune b call))
      (continues_pure (.cancelPrune b call))
  | joinPrune b => exact continues_after fun _ => continues_nothing
  | channelDestroyed c =>
    exact continues_after fun _ => continues_after fun calls => continues_pure (.goneScan c calls)
  | goneScan c calls =>
    cases calls with
    | nil => exact continues_pure (.goneDialers c)
    | cons call calls => exact continues_after fun _ => continues_pure (.goneNext c call calls)
  | goneDialers c =>
    exact continues_after fun bs => continues_after fun _ => continues_pure (.goneRemove c bs)
  | goneRemove bs =>
    cases bs with
    | nil => exact continues_nothing
    | cons b bs =>
      refine continues_after fun dialer => ?_
      cases dialer with
      | none => exact Gives.throw trivial
      | some dialer =>
        refine continues_after fun _ => continues_after fun call => ?_
        cases call with
        | none => exact continues_pure (.gonePrune b bs)
        | some call => exact continues_pure (.goneFallback b call bs)
  | goneFallback b call bs => exact continues_after fun _ => continues_pure (.gonePush b call bs)
  | gonePush b call bs => exact continues_after fun _ => continues_pure (.gonePushPrune b call bs)
  | gonePrune b bs => exact continues_after fun _ => continues_pure (.goneRest b bs)
  | bridgeEnter linkedid userUuid =>
    refine continues_after fun incoming => ?_
    match incoming with
    | some (.pending push) | some (.notified push) =>
      dsimp only
      split
      · refine continues_after fun mobile => ?_
        match mobile with
        | some true => exact continues_pure (.completePush linkedid userUuid)
        | some false | none => exact continues_pure (.cancelPush linkedid userUuid)
      · exact continues_pure (.cancelPush linkedid userUuid)
    | none | some (.received _) | some (.pushCancelled _) =>
      exact continues_pure (.cancelPush linkedid userUuid)
  | cancelPush call => exact continues_after fun _ => continues_nothing
  | completePush call => exact continues_after fun _ => continues_nothing
  | pstnFallback timer call =>
    refine continues_after fun lock => ?_
    cases lock with
    | none => exact continues_nothing
    | some _ =>
      refine continues_after fun fallback => ?_
      match fallback with
      | some (.pending _) =>
        exact continues_after fun _ => continues_pure (.fallbackLookup timer call)
      | none | some .triggering | some (.dialing _) | some (.dialAnswered _) | some .cancelled =>
        exact continues_nothing
  | fallbackLookup timer call => exact continues_fallbackLookup timer call
  | fallbackCaller timer call origin =>
    refine continues_after fun b => ?_
    cases b with
    | none => exact continues_pure (.callerAbort timer call origin)
    | some _ =>
      refine continues_after fun caller => ?_
      cases caller with
      | none => exact continues_pure (.callerAbort timer call origin)
      | some _ => exact continues_pure (.fallbackCommit timer call origin)
  | fallbackCommit timer call =>
    refine continues_after fun fallback => ?_
    match fallback with
    | some .triggering =>
      refine continues_after fun c => ?_
      cases c with
      | none => exact continues_pure (.commitAbort timer call)
      | some c =>
        exact continues_after fun _ => continues_after fun _ => continues_after fun _ =>
          continues_after fun _ => continues_nothing
    | none | some (.pending _) | some (.dialing _) | some (.dialAnswered _) | some .cancelled =>
      exact continues_nothing
  | fallbackAbort call =>
    refine continues_after fun fallback => ?_
    match fallback with
    | some .triggering => exact continues_after fun _ => continues_nothing
    | none | some (.pending _) | some (.dialing _) | some (.dialAnswered _) | some .cancelled =>
      exact continues_nothing

/-- The tasks that a section leaves behind. -/
theorem Task.leadsTo_following (t : Task) (env : Env) (w : World) :
    t.LeadsTo (following (t.code env w).1) := by
  have h := t.continues env w trivial
  rcases hr : t.code env w with ⟨e | ts, w'⟩
  · exact .inl rfl
  · rw [hr] at h
    exact h

theorem Task.leads_of_mem {w : World} (h : u ∈ following (t.code env w).1) : t.Leads u := by
  rcases t.leadsTo_following env w with h' | ⟨v, h', hv⟩
  · rw [h'] at h
    simp at h
  · rw [h', List.mem_singleton] at h
    exact h ▸ hv

end Continues

/-- Note an event. -/
abbrev World.noted (w : World) (e : Event) : World := (Change.event e).apply w

/-! ## What does not matter -/

/-- The values of a map may go, and events of no matter may happen. -/
structure Aside {κ ν : Type} (about : Event → Bool) (view : World → Effect.Dict κ ν)
    (w w' : World) : Prop where
  entries : (view w).Shrinks (view w')
  objects : w.objects ≤ w'.objects
  trace : ∃ evs, (∀ e ∈ evs, about e = false) ∧ w'.trace = w.trace ++ evs

namespace Aside

variable {κ ν : Type} {about : Event → Bool} {view : World → Effect.Dict κ ν} {w w' w'' : World}

theorem of_shrinks (htr : w'.trace = w.trace) (hobj : w.objects ≤ w'.objects)
    (h : (view w).Shrinks (view w')) : Aside about view w w' :=
  ⟨h, hobj, [], by simp, by rw [htr, List.append_nil]⟩

theorem event {e : Event} (he : about e = false) (w : World) (hv : view (w.noted e) = view w := by rfl) :
    Aside about view w (w.noted e) :=
  ⟨hv ▸ .refl _, Nat.le_refl _, [e], by simpa using he, rfl⟩

theorem refl (w : World) : Aside about view w w := .of_shrinks rfl (Nat.le_refl _) (.refl _)

theorem trans (h : Aside about view w w') (h' : Aside about view w' w'') :
    Aside about view w w'' := by
  obtain ⟨evs, hevs, htr⟩ := h.trace
  obtain ⟨evs', hevs', htr'⟩ := h'.trace
  refine ⟨h.entries.trans h'.entries, h.objects.trans h'.objects, evs ++ evs', fun e he => ?_,
    by rw [htr', htr, List.append_assoc]⟩
  rcases List.mem_append.mp he with he | he
  · exact hevs e he
  · exact hevs' e he

theorem mem_trace (h : Aside about view w w') {e : Event} (he : about e = true) :
    e ∈ w'.trace ↔ e ∈ w.trace := by
  obtain ⟨evs, hevs, htr⟩ := h.trace
  rw [htr, List.mem_append]
  constructor
  · rintro (hmem | hmem)
    · exact hmem
    · rw [hevs e hmem] at he
      cases he
  · exact .inl

/-- A program that is made of such changes only. -/
theorem of_madeOf {α : Type} {env : Env} {K : Change → Prop} {p : Code α}
    (hK : ∀ k, K k → ∀ w, Aside about view w (k.apply w)) (h : MadeOf env K p) (w : World) :
    Aside about view w (p env w).2 :=
  Changes.invariant (I := fun w' => Aside about view w w')
    (fun w' k hk hw' => hw'.trans (hK k hk w')) (h w).1 (.refl w)

end Aside

section Snoc

variable {e a : Event} {tr : List Event}

theorem mem_snoc : e ∈ tr ++ [a] ↔ e ∈ tr ∨ e = a := by
  rw [List.mem_append, List.mem_singleton]

theorem mem_of_snoc (h : e ∈ tr ++ [a]) (hne : e ≠ a) : e ∈ tr :=
  (mem_snoc.mp h).resolve_right hne

end Snoc

/-! ## The sections that assign to the maps -/

section Outcomes

variable {env : Env} {w : World} {b : BridgeUuid} {call : CallId}

theorem after_pure_world {α β : Type} (p : Code α) (b : β) :
    ((do let _ ← p; pure b : Code β) env w).2 = (p env w).2 := by
  rw [bind_apply]
  rcases p env w with ⟨e | a, w'⟩ <;> rfl

/-- A program that is made of no changes leaves the world as it is. -/
theorem unchanged {α : Type} {p : Code α} (h : MadeOf env (fun _ => False) p) :
    (p env w).2 = w :=
  Changes.untouched (f := id) (fun _ _ hk => hk.elim) (h w).1

theorem pruneCallState_some (h : w.originCallIdByBridgeUuid.get b = some call) :
    pruneCallState b env w = (.ok (), ((Change.pruned b call).apply w).noted (.pruned b call)) := by
  unfold pruneCallState
  rw [bind_apply, look_apply]
  dsimp only
  rw [h]
  rfl

theorem pruneCallState_none (h : w.originCallIdByBridgeUuid.get b = none) :
    pruneCallState b env w = (.ok (), (Change.forgotten b).apply w) := by
  unfold pruneCallState
  rw [bind_apply, look_apply]
  dsimp only
  rw [h]
  rfl

/-- A dial is registered under a new bridge uuid, or nothing happens. -/
theorem dialAllContacts_cases (env : Env) (caller : ChannelId) (origin : CallId) (aor : Aor) :
    (∃ r, dialAllContacts caller origin aor env w = (r, w) ∧ following r = []) ∨
    ∃ dialer : Dialer, dialer.futureBridgeUuid = env.uuid4 ∧ dialer.callerChannelId = caller ∧
      dialAllContacts caller origin aor env w =
        (.ok [], ((Change.registered dialer origin).apply w).noted (.dialed env.uuid4 origin)) := by
  unfold dialAllContacts
  rw [bind_apply]
  cases hring : env.ring with
  | error e => exact .inl ⟨.error e, by simp [outside, hring], rfl⟩
  | ok _ =>
    have hmark : ∀ w : World, (∃ e, (tryCatch (outside (·.pickupMark)) fun e =>
          if e = .ariServerError then pure "" else throw e : Code String) env w = (.error e, w)) ∨
        ∃ mark, (tryCatch (outside (·.pickupMark)) fun e =>
          if e = .ariServerError then pure "" else throw e : Code String) env w = (.ok mark, w) := by
      intro w
      rw [tryCatch_apply]
      cases hm : env.pickupMark with
      | ok mark => exact .inr ⟨mark, by simp [outside, hm]⟩
      | error e =>
        by_cases he : e = .ariServerError
        · exact .inr ⟨"", by simp [outside, hm, he]⟩
        · exact .inl ⟨e, by simp [outside, hm, he]⟩
    simp only [outside, hring, bind_apply, look_apply] at hmark ⊢
    rcases hmark w with ⟨e, h⟩ | ⟨mark, h⟩
    · exact .inl ⟨.error e, by rw [h], rfl⟩
    · exact .inr ⟨⟨env.uuid4, caller, aor, (w.callRingTime.get origin).getD 30, mark⟩, rfl, rfl, by
        rw [h]
        rfl⟩

/-- The next dialer has been removed by somebody else. -/
theorem goneRemove_none (bs : List BridgeUuid) (h : w.contactDialers.get b = none) :
    goneRemove (b :: bs) env w = (.error .keyError, w) := by
  unfold goneRemove
  simp only [bind_apply, look_apply, h]
  rfl

/-- The next dialer is removed. -/
theorem goneRemove_some (bs : List BridgeUuid) {dialer : Dialer}
    (h : w.contactDialers.get b = some dialer) :
    goneRemove (b :: bs) env w = (.ok [match w.originCallIdByBridgeUuid.get b with
      | some call => .goneFallback b call bs
      | none => .gonePrune b bs], (Change.removed b dialer).apply w) := by
  have hremoved : removeDialer b dialer env w = (.ok (), (Change.removed b dialer).apply w) := rfl
  have hcall : ((Change.removed b dialer).apply w).originCallIdByBridgeUuid =
      w.originCallIdByBridgeUuid := rfl
  unfold goneRemove
  simp only [bind_apply, look_apply, h, hremoved, hcall]
  cases w.originCallIdByBridgeUuid.get b <;> rfl

theorem hangup_apply (c : ChannelId) :
    hangup c env w = (env.hangup c, w.noted (.hungUp c)) := rfl

/-- A hangup is asked for, whatever comes of it. -/
theorem hangupIfThere_world (env : Env) (c : ChannelId) :
    (hangupIfThere c env w).2 = w.noted (.hungUp c) := by
  unfold hangupIfThere
  rw [ignoring_snd, hangup_apply]

/-- A dialer is stopped, whatever ARI answers. -/
theorem stop_ok (env : Env) (b : BridgeUuid) : (stop b env w).1 = .ok () := by
  unfold stop
  rw [bind_apply, look_apply]
  dsimp only
  split
  · rw [bind_apply]
    show (tryCatch (removeUnansweredChannels b) (fun _ => pure ()) env _).1 = _
    rw [tryCatch_apply]
    rcases removeUnansweredChannels b env _ with ⟨e | _, w'⟩ <;> rfl
  · rfl

/-- The channel is late. -/
theorem joinPop_none (env : Env) (c : ChannelId) (call : Option CallId) (h : w.contactDialers.get b = none) :
    (joinPop c b call env w).2 = w.noted (.hungUp c) ∧
      following (joinPop c b call env w).1 = [] := by
  have hp : joinPop c b call env w = (do
      hangupIfThere c
      pure [] : Code (List Task)) env w := by
    rw [joinPop, bind_apply, look_apply]
    simp only [h]
  rw [hp, bind_apply, ← hangupIfThere_world env c]
  rcases hangupIfThere c env w with ⟨e | _, w'⟩ <;> exact ⟨rfl, rfl⟩

/-- The dialer is removed and stopped. -/
theorem joinPop_some (c : ChannelId) (call : Option CallId) {dialer : Dialer}
    (h : w.contactDialers.get b = some dialer) :
    (joinPop c b call env w).2 = (stop b env ((Change.removed b dialer).apply w)).2 := by
  have hp : joinPop c b call env w = (do
      removeDialer b dialer
      stop b
      pure [.joinAnswer c b call] : Code (List Task)) env w := by
    rw [joinPop, bind_apply, look_apply]
    simp only [h]
  rw [hp, bind_apply]
  show ((stop b >>= fun _ => pure [.joinAnswer c b call] : Code (List Task)) env
    ((Change.removed b dialer).apply w)).2 = _
  rw [bind_apply]
  rcases stop b env ((Change.removed b dialer).apply w) with ⟨e | _, w'⟩ <;> rfl

/-- A dialer that is removed does not keep the channel from being answered. -/
theorem joinPop_some_follows (c : ChannelId) (call : Option CallId) {dialer : Dialer}
    (h : w.contactDialers.get b = some dialer) :
    following (joinPop c b call env w).1 = [.joinAnswer c b call] := by
  have hp : joinPop c b call env w = (do
      stop b
      pure [.joinAnswer c b call] : Code (List Task)) env ((Change.removed b dialer).apply w) := by
    rw [joinPop, bind_apply, look_apply]
    simp only [h]
    rfl
  rw [hp, bind_apply]
  have hok := stop_ok env (w := (Change.removed b dialer).apply w) b
  rcases hs : stop b env ((Change.removed b dialer).apply w) with ⟨e | _, w'⟩ <;> rw [hs] at hok
  · cases hok
  · rfl

/-- A push request is noted, and the entry of its call is overwritten. -/
def World.requested (w : World) (r : PushRequest) : World :=
  ((Change.incomingCall r.originCallId (.pending (r.push w.objects))).apply
    ((Change.callKnown r.originCallId (w.objects + 1) r.ringTimeout).apply
      (Change.object.apply (Change.object.apply w)))).noted (.pushRequested (r.push w.objects))

theorem sendPush_eq (r : PushRequest) :
    sendPush r env w = (.ok [.publishPush (r.push w.objects)], w.requested r) := rfl

/-- A push is published. -/
def World.published (w : World) (push : Push) : World :=
  (Change.incomingCall push.originCallId (.notified push)).apply
    (w.noted (.pushNotification (push.notification push.originCallId)))

/-- A timer is armed for the fallback of a call. -/
def World.armed (w : World) (call : CallId) : World :=
  ((Change.timerStarted w.objects call).apply ((Change.fallback call (.pending w.objects)).apply
    (Change.object.apply w))).noted (.fallbackArmed w.objects call)

/-- A push is published when the call has a pending one, and then a timer may be armed. -/
theorem publishPush_cases (env : Env) (push : Push) :
    (publishPush push env w).2 = w ∨
    (∃ pending, w.incomingCalls.get push.originCallId = some (.pending pending)) ∧
      ((publishPush push env w).2 = w.published push ∨
        (publishPush push env w).2 = (w.published push).armed push.originCallId) := by
  have heligible : (pstnFallbackEligible env w).2 = w := by
    refine unchanged ((madeOf_catching (madeOf_outside _)).bind fun user => ?_)
    cases user <;> exact .pure _
  unfold publishPush
  rw [bind_apply]
  rcases h : pstnFallbackEligible env w with ⟨e | enabled, w'⟩
  · rw [h] at heligible
    exact .inl heligible
  · rw [h] at heligible
    obtain rfl : w' = w := heligible
    dsimp only
    rw [bind_apply, look_apply]
    dsimp only
    match hget : w'.incomingCalls.get push.originCallId with
    | some (.pending pending) =>
      cases hn : env.notifier with
      | error e =>
        left
        dsimp only
        rw [bind_apply]
        simp [outside, hn]
      | ok _ =>
        refine .inr ⟨⟨pending, rfl⟩, ?_⟩
        dsimp only
        rw [bind_apply]
        simp only [outside, hn]
        cases enabled with
        | false => exact .inl rfl
        | true => exact .inr rfl
    | some (.notified _) | some (.received _) | some (.pushCancelled _) | none => exact .inl rfl

/-- A push that is in flight is cancelled by a notification. -/
def World.pushCancelled (w : World) (call : CallId) (push : Push) : World :=
  (Change.incomingCall call (.pushCancelled push)).apply
    (w.noted (.cancelPushNotification (push.notification call)))

/-- Nothing is there to be cancelled, or the notifier has failed; a push in flight is
cancelled by a notification; one that is not, silently. -/
theorem cancelPushMobile_cases (env : Env) (call : CallId) :
    (cancelPushMobile call env w = (.ok (), w) ∧
      ∀ incoming, w.incomingCalls.get call = some incoming → incoming.isOpen = false) ∨
    (∃ push e, w.incomingCalls.get call = some (.notified push) ∧ env.notifier = .error e ∧
      cancelPushMobile call env w = (.error e, w)) ∨
    (∃ push, w.incomingCalls.get call = some (.notified push) ∧ env.notifier = .ok () ∧
      cancelPushMobile call env w = (.ok (), w.pushCancelled call push)) ∨
    ∃ push, w.incomingCalls.get call = some (.pending push) ∧
      cancelPushMobile call env w =
        (.ok (), (Change.incomingCall call (.pushCancelled push)).apply w) := by
  unfold cancelPushMobile
  rw [bind_apply, look_apply]
  dsimp only
  match hget : w.incomingCalls.get call with
  | none => exact .inl ⟨rfl, fun _ h => by cases h⟩
  | some (.received push) | some (.pushCancelled push) =>
    exact .inl ⟨rfl, fun _ h => by cases h; rfl⟩
  | some (.pending push) => exact .inr (.inr (.inr ⟨push, rfl, rfl⟩))
  | some (.notified push) =>
    right
    dsimp only
    rw [bind_apply]
    cases hn : env.notifier with
    | error e => exact .inl ⟨push, e, rfl, rfl, by simp [outside, hn]⟩
    | ok _ =>
      refine .inr (.inl ⟨push, rfl, rfl, ?_⟩)
      simp only [outside, hn]
      rfl

/-- The push is cancelled, whatever comes of it. -/
theorem joinCancel_world (b : BridgeUuid) (call : CallId) :
    (joinCancel b call env w).2 = (cancelPushMobile call env w).2 := by
  unfold joinCancel
  rw [tryCatch_apply, bind_apply]
  rcases cancelPushMobile call env w with ⟨e | _, w'⟩ <;> rfl

/-- A push that is open is completed. -/
theorem completePendingPushMobile_cases (env : Env) (call : CallId) :
    (completePendingPushMobile call env w = (.ok (), w) ∧
      ∀ incoming, w.incomingCalls.get call = some incoming → incoming.isOpen = false) ∨
    ∃ push, (w.incomingCalls.get call = some (.notified push) ∨
        w.incomingCalls.get call = some (.pending push)) ∧
      completePendingPushMobile call env w = (.ok (),
        ((Change.incomingCall call (.received push)).apply w).noted (.pushCompleted push)) := by
  unfold completePendingPushMobile
  rw [bind_apply, look_apply]
  dsimp only
  match hget : w.incomingCalls.get call with
  | none => exact .inl ⟨rfl, fun _ h => by cases h⟩
  | some (.received push) | some (.pushCancelled push) =>
    exact .inl ⟨rfl, fun _ h => by cases h; rfl⟩
  | some (.pending push) => exact .inr ⟨push, .inr rfl, rfl⟩
  | some (.notified push) => exact .inr ⟨push, .inl rfl, rfl⟩

/-- A PSTN leg is originated. -/
def World.originated (w : World) (timer : ℕ) (call : CallId) (c : ChannelId) : World :=
  ((Change.leg c).apply w).noted (.pstnOriginated timer call c)

/-- The push cannot be cancelled, or it is and the leg is recorded. -/
theorem legOriginated_cases (env : Env) (timer : ℕ) (call : CallId) (c : ChannelId) :
    (∃ e, cancelPushMobile call env (w.originated timer call c) =
        (.error e, w.originated timer call c) ∧
      legOriginated timer call c env w = (.error e, w.originated timer call c)) ∨
    ∃ w', cancelPushMobile call env (w.originated timer call c) = (.ok (), w') ∧
      legOriginated timer call c env w = (.ok [], (Change.fallback call (.dialing c)).apply w') := by
  have hp : legOriginated timer call c env w = (do
      cancelPushMobile call
      setFallback call (.dialing c)
      pure [] : Code (List Task)) env (w.originated timer call c) := rfl
  rw [hp, bind_apply]
  rcases cancelPushMobile_cases env (w := w.originated timer call c) call with
    ⟨h, -⟩ | ⟨_, e, _, _, h⟩ | ⟨_, _, _, h⟩ | ⟨_, _, h⟩
  · exact .inr ⟨_, h, by rw [h]; rfl⟩
  · exact .inl ⟨e, h, by rw [h]⟩
  · exact .inr ⟨_, h, by rw [h]; rfl⟩
  · exact .inr ⟨_, h, by rw [h]; rfl⟩

/-- Nothing is originated, or a leg is. -/
theorem fallbackCommit_cases (env : Env) (timer : ℕ) (call : CallId) :
    (fallbackCommit timer call env w).2 = w ∨
    ∃ c, w.pstnFallbacks.get call = some .triggering ∧ env.originate = .ok c ∧
      fallbackCommit timer call env w = legOriginated timer call c env w := by
  unfold fallbackCommit
  rw [bind_apply, look_apply]
  dsimp only
  match hget : w.pstnFallbacks.get call with
  | none | some (.pending _) | some (.dialing _) | some (.dialAnswered _) | some .cancelled =>
    exact .inl rfl
  | some .triggering =>
    dsimp only
    rw [bind_apply]
    cases ho : env.originate with
    | error e =>
      left
      by_cases he : isServerError e = true <;> simp [catching, outside, ho, he]
    | ok c => exact .inr ⟨c, rfl, rfl, by simp [catching, outside, ho]⟩

/-- The fallback of a call is cancelled. -/
def World.fallbackCancelled (w : World) (call : CallId) : World :=
  ((Change.fallback call .cancelled).apply w).noted (.fallbackCancelled call)

theorem cancelled_eq (call : CallId) :
    cancelled call env w = (.ok (), w.fallbackCancelled call) := rfl

/-- There is nothing to cancel, or no lock; a timer is stopped; a leg is hung up, or cannot
be; or the timer callback is told to give up. -/
theorem cancelPSTNFallback_cases (env : Env) (call : CallId) :
    (∃ r, cancelPSTNFallback call env w = (r, w) ∧
      (r = .ok () → ∀ state, w.pstnFallbacks.get call = some state → state.isTerminal = true)) ∨
    (∃ timer, w.pstnFallbacks.get call = some (.pending timer) ∧
      cancelPSTNFallback call env w =
        (.ok (), ((Change.timerStopped timer).apply w).fallbackCancelled call)) ∨
    (∃ c e, w.pstnFallbacks.get call = some (.dialing c) ∧
      cancelPSTNFallback call env w = (.error e, w.noted (.hungUp c))) ∨
    (∃ c, w.pstnFallbacks.get call = some (.dialing c) ∧
      cancelPSTNFallback call env w = (.ok (), (w.noted (.hungUp c)).fallbackCancelled call)) ∨
    (w.pstnFallbacks.get call = some .triggering ∧
      cancelPSTNFallback call env w = (.ok (), w.fallbackCancelled call)) := by
  unfold cancelPSTNFallback
  rw [bind_apply, look_apply]
  dsimp only
  cases hl : w.callLocks.get call with
  | none =>
    left
    dsimp only
    rw [bind_apply, look_apply]
    dsimp only
    cases hf : w.pstnFallbacks.get call with
    | none => exact ⟨_, rfl, fun _ _ => nofun⟩
    | some state => exact ⟨_, rfl, nofun⟩
  | some lock =>
    dsimp only
    rw [bind_apply, look_apply]
    dsimp only
    match hf : w.pstnFallbacks.get call with
    | none => exact .inl ⟨_, rfl, fun _ _ => nofun⟩
    | some .cancelled => exact .inl ⟨_, rfl, fun _ _ h => by cases h; rfl⟩
    | some (.dialAnswered c) => exact .inl ⟨_, rfl, fun _ _ h => by cases h; rfl⟩
    | some (.pending timer) => exact .inr (.inl ⟨timer, rfl, rfl⟩)
    | some .triggering => exact .inr (.inr (.inr (.inr ⟨rfl, rfl⟩)))
    | some (.dialing c) =>
      right
      right
      dsimp only
      rw [bind_apply]
      have hw := hangupIfThere_world env (w := w) c
      rcases hh : hangupIfThere c env w with ⟨e | _, w'⟩ <;> rw [hh] at hw
      · obtain rfl : w' = _ := hw
        exact .inl ⟨c, e, rfl, rfl⟩
      · obtain rfl : w' = _ := hw
        exact .inr (.inl ⟨c, rfl, rfl⟩)

/-- The fallback of the call is cancelled, if the bridge is known. -/
theorem onContactDialed_cases (env : Env) (b : BridgeUuid) :
    (onContactDialed b env w).2 = w ∨
    ∃ call, w.originCallIdByBridgeUuid.get b = some call ∧
      (onContactDialed b env w).2 = (cancelPSTNFallback call env w).2 := by
  unfold onContactDialed
  rw [bind_apply, look_apply]
  dsimp only
  cases ho : w.originCallIdByBridgeUuid.get b with
  | none => exact .inl rfl
  | some call => exact .inr ⟨call, rfl, after_pure_world _ _⟩

/-- The leg itself joins, or the fallback is cancelled, or there is nothing to do. -/
theorem joinFallback_cases (env : Env) (c : ChannelId) (call : CallId) :
    (w.pstnFallbacks.get call = some (.dialing c) ∧
      joinFallback c call env w = (.ok (), (Change.fallback call (.dialAnswered c)).apply w)) ∨
    joinFallback c call env w = cancelPSTNFallback call env w ∨
    (joinFallback c call env w = (.ok (), w) ∧
      ∀ state, w.pstnFallbacks.get call = some state → state.isTerminal = true) := by
  unfold joinFallback
  rw [bind_apply, look_apply]
  dsimp only
  match hf : w.pstnFallbacks.get call with
  | none => exact .inr (.inr ⟨rfl, fun _ => nofun⟩)
  | some .cancelled => exact .inr (.inr ⟨rfl, fun _ h => by cases h; rfl⟩)
  | some (.dialAnswered c) => exact .inr (.inr ⟨rfl, fun _ h => by cases h; rfl⟩)
  | some (.pending _) | some .triggering => exact .inr (.inl rfl)
  | some (.dialing c') =>
    dsimp only
    by_cases hc : c' = c
    · subst hc
      rw [if_pos rfl]
      exact .inl ⟨rfl, rfl⟩
    · rw [if_neg hc]
      exact .inr (.inl rfl)

/-- The channel joins with the call of the bridge, whose fallback is seen to if it has one. -/
theorem joinBridge_cases (env : Env) (c : ChannelId) (b : BridgeUuid) :
    (joinBridge c b env w =
        (.ok [.joinPop c b (w.originCallIdByBridgeUuid.get b)], (Change.named b).apply w) ∧
      ∀ call, w.originCallIdByBridgeUuid.get b = some call → w.callLocks.get call = none) ∨
    ∃ call, w.originCallIdByBridgeUuid.get b = some call ∧
      joinBridge c b env w = (do
        joinFallback c call
        pure [.joinPop c b (some call)] : Code (List Task)) env ((Change.named b).apply w) := by
  have hnamed : (change fun w => { w with uuids := insert b w.uuids } : Code Unit) env w =
      (.ok (), (Change.named b).apply w) := rfl
  have hcall : ((Change.named b).apply w).originCallIdByBridgeUuid =
      w.originCallIdByBridgeUuid := rfl
  simp only [joinBridge, bind_apply, hnamed, look_apply, hcall]
  cases ho : w.originCallIdByBridgeUuid.get b with
  | none => exact .inl ⟨rfl, by simp⟩
  | some call =>
    dsimp only
    rw [bind_apply, look_apply]
    dsimp only
    cases hl : ((Change.named b).apply w).callLocks.get call with
    | none =>
      refine .inl ⟨rfl, fun call' h => ?_⟩
      cases h
      exact hl
    | some _ => exact .inr ⟨call, rfl, rfl⟩

theorem isGone_of_succeeds {α : Type} {answer : Except Exn α} (h : succeeds answer = true) :
    isGone answer = false := by
  cases answer with
  | ok _ => rfl
  | error e => cases h

/-- A request that may find a channel gone. -/
theorem catchingGone_cases (env : Env) (answer : Env → Except Exn Unit) :
    (isGone (answer env) = true ∧
      catching isARINotFound (outside answer) env w = (.ok none, w)) ∨
    (succeeds (answer env) = true ∧
      catching isARINotFound (outside answer) env w = (.ok (some ()), w)) ∨
    (isGone (answer env) = false ∧ succeeds (answer env) = false ∧
      ∃ e, catching isARINotFound (outside answer) env w = (.error e, w)) := by
  unfold catching outside
  cases answer env with
  | ok _ => exact .inr (.inl ⟨rfl, rfl⟩)
  | error e =>
    cases he : isARINotFound e with
    | true => exact .inl ⟨he, by simp [he]⟩
    | false => exact .inr (.inr ⟨he, rfl, e, by simp [he]⟩)

theorem hangupIfThere_ok {c : ChannelId}
    (h : (succeeds (env.hangup c) || isGone (env.hangup c)) = true) :
    hangupIfThere c env w = (.ok (), w.noted (.hungUp c)) := by
  unfold hangupIfThere ignoring
  rw [bind_apply]
  unfold catching
  rw [hangup_apply]
  cases hh : env.hangup c with
  | ok _ => rfl
  | error e =>
    rw [hh] at h
    have he : isARINotFound e = true := by simpa [succeeds, isGone] using h
    simp [he]

theorem hangupIfThere_error {c : ChannelId}
    (h : (succeeds (env.hangup c) || isGone (env.hangup c)) = false) :
    ∃ e, hangupIfThere c env w = (.error e, w.noted (.hungUp c)) := by
  unfold hangupIfThere ignoring
  rw [bind_apply]
  unfold catching
  rw [hangup_apply]
  cases hh : env.hangup c with
  | ok _ =>
    rw [hh] at h
    cases h
  | error e =>
    rw [hh] at h
    have he : isARINotFound e = false := by simpa [succeeds, isGone] using h
    exact ⟨e, by simp [he]⟩

/-- The caller is gone, and the channel hung up, or not; the channel is gone; both are
bridged; or some request fails. -/
theorem joinAnswer_cases (env : Env) (c : ChannelId) (b : BridgeUuid) (call : Option CallId) :
    let caller := env.answer (w.callerChannelLegByBridge.get b)
    (isGone caller = true ∧ (succeeds (env.hangup c) || isGone (env.hangup c)) = true ∧
      joinAnswer c b call env w = (.ok [match call with
        | some call => .joinCancel b call
        | none => .joinPrune b], w.noted (.hungUp c))) ∨
    (isGone caller = true ∧ (succeeds (env.hangup c) || isGone (env.hangup c)) = false ∧
      joinAnswer c b call env w = (.ok [.joinPrune b], w.noted (.hungUp c))) ∨
    (succeeds caller = true ∧ isGone (env.answer (some c)) = true ∧
      joinAnswer c b call env w = (.ok [.joinPrune b], w.noted (.foundGone c))) ∨
    (succeeds caller = true ∧ succeeds (env.answer (some c)) = true ∧
      succeeds env.bridge = true ∧
      joinAnswer c b call env w = (.ok [.joinPrune b], w.noted (.bridged b c))) ∨
    (isGone caller = false ∧ (succeeds caller && isGone (env.answer (some c))) = false ∧
      (succeeds caller && succeeds (env.answer (some c)) && succeeds env.bridge) = false ∧
      joinAnswer c b call env w = (.ok [.joinPrune b], w)) := by
  unfold joinAnswer
  rw [tryCatch_apply, bind_apply, look_apply]
  dsimp only
  rw [bind_apply]
  rcases catchingGone_cases env (w := w)
    (fun env => env.answer (w.callerChannelLegByBridge.get b)) with
    ⟨hgone, hcaller⟩ | ⟨hthere, hcaller⟩ | ⟨hgone, hfails, e, hcaller⟩ <;> rw [hcaller] <;> dsimp only
  · -- the caller left before being bridged
    rw [bind_apply]
    cases hhung : succeeds (env.hangup c) || isGone (env.hangup c) with
    | true =>
      rw [hangupIfThere_ok hhung]
      left
      cases call <;> exact ⟨hgone, rfl, rfl⟩
    | false =>
      obtain ⟨e, he⟩ := hangupIfThere_error (w := w) hhung
      rw [he]
      exact .inr (.inl ⟨hgone, rfl, rfl⟩)
  · have hcaller_there : isGone (env.answer (w.callerChannelLegByBridge.get b)) = false :=
      isGone_of_succeeds hthere
    right
    right
    rw [bind_apply]
    rcases catchingGone_cases env (w := w) (fun env => env.answer (some c)) with
      ⟨hgone, hanswer⟩ | ⟨hthere', hanswer⟩ | ⟨hgone, hfails, e, hanswer⟩ <;> rw [hanswer] <;>
      dsimp only
    · exact .inl ⟨hthere, hgone, rfl⟩
    · right
      rw [bind_apply]
      cases hbridge : env.bridge with
      | ok _ =>
        refine .inl ⟨hthere, hthere', rfl, ?_⟩
        simp only [outside, hbridge]
        rfl
      | error e =>
        refine .inr ⟨hcaller_there, ?_, by simp [succeeds], ?_⟩
        · rw [isGone_of_succeeds hthere', Bool.and_false]
        · simp only [outside, hbridge]
          rfl
    · refine .inr (.inr ⟨hcaller_there, ?_, ?_, rfl⟩)
      · rw [hgone, Bool.and_false]
      · rw [hfails, Bool.and_false, Bool.false_and]
  · refine .inr (.inr (.inr (.inr ⟨hgone, ?_, ?_, rfl⟩)))
    · rw [hfails, Bool.false_and]
    · rw [hfails, Bool.false_and, Bool.false_and]

/-- What follows a program that returns a fixed task. -/
theorem mem_following_after_pure {α : Type} {p : Code α} {t u : Task}
    (h : u ∈ following ((do let _ ← p; pure [t] : Code (List Task)) env w).1) : u = t := by
  rw [bind_apply] at h
  rcases hp : p env w with ⟨e | a, w'⟩ <;> rw [hp] at h
  · cases h
  · exact List.mem_singleton.mp h

/-- The leg of the call has torn down, or not. -/
theorem legGone_cases (env : Env) (c : ChannelId) (call : CallId) :
    legGone c call env w = (.ok (), w) ∧ w.pstnFallbacks.get call ≠ some (.dialing c) ∨
    w.pstnFallbacks.get call = some (.dialing c) ∧
      legGone c call env w = (.ok (), w.fallbackCancelled call) := by
  unfold legGone
  rw [bind_apply, look_apply]
  dsimp only
  match hf : w.pstnFallbacks.get call with
  | none | some (.pending _) | some .triggering | some (.dialAnswered _) | some .cancelled =>
    exact .inl ⟨rfl, nofun⟩
  | some (.dialing c') =>
    dsimp only
    by_cases hc : c' = c
    · subst hc
      rw [if_pos rfl]
      exact .inr ⟨rfl, rfl⟩
    · rw [if_neg hc]
      refine .inl ⟨rfl, fun h => hc ?_⟩
      cases h
      rfl

/-- The timer callback claims a pending fallback, or gives up. -/
theorem pstnFallback_cases (env : Env) (timer : ℕ) (call : CallId) :
    pstnFallback timer call env w = (.ok [], w) ∨
    (∃ timer', w.pstnFallbacks.get call = some (.pending timer')) ∧
      pstnFallback timer call env w =
        (.ok [.fallbackLookup timer call], (Change.fallback call .triggering).apply w) := by
  unfold pstnFallback
  rw [bind_apply, look_apply]
  dsimp only
  cases hl : w.callLocks.get call with
  | none => exact .inl rfl
  | some lock =>
    dsimp only
    rw [bind_apply, look_apply]
    dsimp only
    match hf : w.pstnFallbacks.get call with
    | none | some .triggering | some (.dialing _) | some (.dialAnswered _) | some .cancelled =>
      exact .inl rfl
    | some (.pending timer') => exact .inr ⟨⟨timer', rfl⟩, rfl⟩

/-- The timer callback cancels the fallback that it has claimed. -/
theorem fallbackAbort_cases (env : Env) (call : CallId) :
    fallbackAbort call env w = (.ok [], w) ∨
    w.pstnFallbacks.get call = some .triggering ∧
      fallbackAbort call env w = (.ok [], w.fallbackCancelled call) := by
  unfold fallbackAbort
  rw [bind_apply, look_apply]
  dsimp only
  match hf : w.pstnFallbacks.get call with
  | none | some (.pending _) | some (.dialing _) | some (.dialAnswered _) | some .cancelled =>
    exact .inl rfl
  | some .triggering => exact .inr ⟨rfl, rfl⟩

end Outcomes

end Calld.DialMobile
