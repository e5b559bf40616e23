/-
# Nothing is kept for dead calls

When all channels that took part are gone, and nothing is left to be handled, the maps of
the service are empty: a dial that is registered has a dialer, or a handler under way will
prune its call; and a dialer whose caller is gone is about to be removed.

The code keeps what is known of a call that is sent a push and never dialed, and of a dial
whose handler is cut short.  In the runs without such a step nothing is kept
(`nothing_kept`).
-/
import Calld.DialMobile.Dials

namespace Calld.DialMobile

open Effect Effect.Program

/-! ## What is to be shown -/

/-- All channels are gone, and nothing is left to be handled. -/
structure Sys.Over (s : Sys) : Prop where
  handled : s.tasks = []
  fired : s.world.timers.keys = []
  gone : ∀ c ∈ s.world.channels, .channelGone c ∈ s.world.trace

/-- The maps of the calls are empty. -/
structure World.KeepsNothing (w : World) : Prop where
  incomingCalls : w.incomingCalls = ∅
  pstnFallbacks : w.pstnFallbacks = ∅
  callLocks : w.callLocks = ∅
  contactDialers : w.contactDialers = ∅
  dialersByAor : w.dialersByAor = ∅
  callerChannelLegByBridge : w.callerChannelLegByBridge = ∅
  originCallIdByBridgeUuid : w.originCallIdByBridgeUuid = ∅

/-! ## The runs that keep something -/

/-- A push is requested while a dial of its call is registered, or is followed by one. -/
def PushesDialed (tr : List Event) : Prop :=
  ∀ pre push post, tr = pre ++ .pushRequested push :: post →
    (∃ b, .dialed b push.originCallId ∈ pre ∧ .pruned b push.originCallId ∉ pre) ∨
    ∃ b, .dialed b push.originCallId ∈ post

/-- A channel is hung up, or is gone already. -/
def hangsUp (env : Env) (c : ChannelId) : Bool :=
  succeeds (env.hangup c) || isGone (env.hangup c)

/-- The channel has a dialer that calls on its behalf. -/
def World.isCaller (w : World) (c : ChannelId) : Bool :=
  w.contactDialers.keys.any fun b =>
    (w.contactDialers.get b).any fun dialer => dialer.callerChannelId = c

/-- The leg that rings for a call, if one does, is hung up or is gone already. -/
def World.ringsOff (w : World) (env : Env) (call : CallId) : Bool :=
  match w.pstnFallbacks.get call with
  | some (.dialing c) => hangsUp env c
  | _ => true

/-- A step that forgets what it handles: no call is dialed for a caller that is gone, and
the handler of a channel that is gone is not cut short. -/
def Tidy (s : Sys) : Label → Prop
  | .run (.dialAllContacts caller _ _) _ => .channelGone caller ∉ s.world.trace
  | .run (.goneDialers c) env => s.world.isCaller c = true →
      ∀ b ∈ s.world.contactDialers.keys, ∀ dialer ∈ s.world.contactDialers.get b,
        concerns s.world c b = true → c ≠ dialer.callerChannelId →
          hangsUp env dialer.callerChannelId = true
  | .run (.goneRemove (b :: bs)) _ => s.world.contactDialers.get b = none →
      ∀ b' ∈ bs, s.world.contactDialers.get b' = none
  | .run (.goneFallback _ call _) env => s.world.ringsOff env call = true
  | .run (.gonePush _ call _) env => s.world.isNotified call = true →
      succeeds env.notifier = true
  | _ => True

instance (s : Sys) (a : Label) : Decidable (Tidy s a) := by
  unfold Tidy
  split <;> infer_instance

/-! ## The invariant -/

/-- The handler will remove the dialer of the bridge, whose caller is gone. -/
def Task.Removes (caller : ChannelId) (b : BridgeUuid) : Task → Prop
  | .goneScan c _ | .goneDialers c => c = caller
  | .goneRemove bs | .goneFallback _ _ bs | .gonePush _ _ bs | .gonePrune _ bs => b ∈ bs
  | _ => False

/-- A push has been requested for the call, and the call not been pruned since. -/
def Outstanding (call : CallId) (tr : List Event) : Prop :=
  ∃ pre push post, tr = pre ++ .pushRequested push :: post ∧ push.originCallId = call ∧
    ∀ b, .pruned b call ∉ post

/-- A dial is registered before it is pruned. -/
def DialedFresh (past : List Event) (e : Event) : Prop :=
  ∀ b call, e = .dialed b call → .pruned b call ∉ past

/-- Every lock belongs to a call that has been sent a push since it was pruned. -/
def LocksOutstanding (w : World) : Prop :=
  ∀ call, w.callLocks.get call ≠ none → Outstanding call w.trace

/-- Bridges that have been pruned are known, and dials are registered before. -/
structure PrunedKnown (w : World) : Prop where
  known : ∀ b call, .pruned b call ∈ w.trace → b ∈ w.uuids
  fresh : Always DialedFresh w.trace

/-- What is kept will be forgotten. -/
structure TeardownTracked (s : Sys) : Prop where
  dials : ∀ b call, s.world.originCallIdByBridgeUuid.get b = some call →
    (∃ dialer, s.world.contactDialers.get b = some dialer) ∨ ∃ t ∈ s.tasks, t.Removed b
  dialers : ∀ b dialer, s.world.contactDialers.get b = some dialer →
    dialer.callerChannelId ∈ s.world.channels ∧
    (.channelGone dialer.callerChannelId ∉ s.world.trace ∨
      ∃ t ∈ s.tasks, t.Removes dialer.callerChannelId b)
  locks : LocksOutstanding s.world
  pruned : PrunedKnown s.world

/-! ## What is left at the end -/

theorem TeardownTracked.nothing {s : Sys} (h : TeardownTracked s) (hd : DialsTracked s)
    (hreg : Registered s.world) (hpush : PushesDialed s.world.trace) (ho : s.Over) :
    s.world.KeepsNothing := by
  have hdials : ∀ b, s.world.originCallIdByBridgeUuid.get b = none := by
    intro b
    by_contra hne
    obtain ⟨call, hcall⟩ := Option.ne_none_iff_exists'.mp hne
    rcases h.dials b call hcall with ⟨dialer, hdialer⟩ | ⟨t, ht, -⟩
    · obtain ⟨hchannel, hgone | ⟨t, ht, -⟩⟩ := h.dialers b dialer hdialer
      · exact hgone (ho.gone _ hchannel)
      · rw [ho.handled] at ht
        cases ht
    · rw [ho.handled] at ht
      cases ht
  have hlegs : ∀ b, s.world.callerChannelLegByBridge.get b = none := by
    intro b
    rw [← Option.not_isSome_iff_eq_none, hreg.calls b, hdials b]
    exact Bool.false_ne_true
  have hdialers : ∀ b, s.world.contactDialers.get b = none := by
    intro b
    rw [← Option.not_isSome_iff_eq_none]
    intro hsome
    have hleg := hreg.legs b hsome
    rw [hlegs b] at hleg
    cases hleg
  have haors : ∀ aor, s.world.dialersByAor.get aor = none := by
    intro aor
    by_contra hne
    obtain ⟨dialers, hget⟩ := Option.ne_none_iff_exists'.mp hne
    obtain ⟨dialer, hmem⟩ := Finset.nonempty_iff_ne_empty.mpr (hreg.nonempty aor dialers hget)
    have hdialer := hreg.dialing aor dialers dialer hget hmem
    rw [hdialers] at hdialer
    cases hdialer
  have hlocks : ∀ call, s.world.callLocks.get call = none := by
    intro call
    by_contra hne
    obtain ⟨pre, push, post, htr, rfl, hpost⟩ := h.locks call hne
    have hunpruned : ∀ b, .dialed b push.originCallId ∈ s.world.trace →
        .pruned b push.originCallId ∈ pre := by
      intro b hdialed
      have hkept := (hd.1.1.unpruned b _ hdialed).2
      rw [hdials b, htr] at hkept
      rcases hkept with hget | hpruned
      · cases hget
      · rcases List.mem_append.mp hpruned with hpre | hpruned
        · exact hpre
        · exact absurd ((List.mem_cons.mp hpruned).resolve_left nofun) (hpost b)
    rcases hpush pre push post htr with ⟨b, hdialed, hnot⟩ | ⟨b, hdialed⟩
    · exact hnot (hunpruned b (htr ▸ List.mem_append_left _ hdialed))
    · obtain ⟨post₁, post₂, rfl⟩ := List.append_of_mem hdialed
      have hsplit : s.world.trace =
          (pre ++ .pushRequested push :: post₁) ++ .dialed b push.originCallId :: post₂ := by
        rw [htr, List.append_assoc, List.cons_append]
      have hpruned := hunpruned b (hsplit ▸ List.mem_append_right _ (List.mem_cons_self ..))
      exact h.pruned.fresh _ _ _ hsplit b _ rfl (List.mem_append_left _ hpruned)
  exact ⟨Effect.Dict.eq_empty fun call => (hd.1.2 call (hlocks call)).1,
    Effect.Dict.eq_empty fun call => (hd.1.2 call (hlocks call)).2,
    Effect.Dict.eq_empty hlocks, Effect.Dict.eq_empty hdialers, Effect.Dict.eq_empty haors,
    Effect.Dict.eq_empty hlegs, Effect.Dict.eq_empty hdials⟩

/-! ## What the sections leave alone -/

section Sections

variable {w w' : World} {env : Env} {t u : Task} {b : BridgeUuid} {call : CallId}

/-- The tasks that add a dialer or remove one. -/
def Task.AssignsDialer : Task → Prop
  | .dialAllContacts .. | .joinPop .. | .goneRemove _ => True
  | _ => False

theorem contactDialers_code (h : ¬ t.AssignsDialer) :
    (t.code env w).2.contactDialers = w.contactDialers := by
  refine Changes.untouched (f := World.contactDialers) (fun w' k hk => ?_) (t.madeOf_may env w).1
  cases k with
  | registered _ _ => cases t <;> first | exact hk.elim | exact absurd trivial h
  | removed _ _ => cases t <;> first | exact hk.elim | exact absurd trivial h
  | _ => rfl

/-- The channels are not forgotten. -/
theorem channels_code : w.channels ⊆ (t.code env w).2.channels := by
  refine Changes.invariant (I := fun w' => w.channels ⊆ w'.channels) (fun w' k _ hw' => ?_)
    (t.madeOf_may env w).1 (Finset.Subset.refl _)
  cases k <;> first
    | exact hw'
    | exact hw'.trans (Finset.subset_insert ..)

/-- A channel is reported to be gone by its event only. -/
theorem gone_code {c : ChannelId} (ht : t ≠ .channelDestroyed c)
    (h : .channelGone c ∈ (t.code env w).2.trace) : .channelGone c ∈ w.trace := by
  by_cases hd : ∃ c', t = .channelDestroyed c'
  · obtain ⟨c', rfl⟩ := hd
    refine mem_of_snoc (a := .channelGone c') h ?_
    rintro heq
    cases heq
    exact ht rfl
  · refine Changes.invariant
      (I := fun w' : World => Event.channelGone c ∈ w'.trace → Event.channelGone c ∈ w.trace)
      (fun w' k hk hw' h => hw' ?_) (t.madeOf_may env w).1 (fun h => h) h
    cases k with
    | event e =>
      refine mem_of_snoc h ?_
      rintro rfl
      cases t <;> first | exact hk.elim | exact hd ⟨_, rfl⟩
    | _ => exact h

/-- The event that the call of a bridge is pruned. -/
def Event.isPruned : Event → Bool
  | .pruned .. => true
  | _ => false

/-- Nothing is pruned, and no lock is made. -/
theorem aside_locks (env : Env) (hsend : ∀ r, t ≠ .sendPush r) (hprune : ∀ b, t ≠ .joinPrune b)
    (hgone : ∀ b bs, t ≠ .gonePrune b bs) :
    Aside Event.isPruned World.callLocks w (t.code env w).2 := by
  refine .of_madeOf (fun k hk w' => ?_) (t.madeOf_may env) w
  cases k with
  | event e =>
    refine .event ?_ w'
    cases e <;> first
      | rfl
      | (cases t <;> first | exact hk.elim | exact absurd rfl (hprune _) | exact absurd rfl (hgone _ _))
  | callKnown _ _ _ => cases t <;> first | exact hk.elim | exact absurd rfl (hsend _)
  | pruned _ _ =>
    cases t <;> first | exact hk.elim | exact absurd rfl (hprune _) | exact absurd rfl (hgone _ _)
  | object => exact .of_shrinks rfl (Nat.le_succ _) (.refl _)
  | _ => exact .of_shrinks rfl (Nat.le_refl _) (.refl _)

theorem Outstanding.append {tr evs : List Event} (h : Outstanding call tr)
    (hevs : ∀ b, .pruned b call ∉ evs) : Outstanding call (tr ++ evs) := by
  obtain ⟨pre, push, post, rfl, hcall, hpost⟩ := h
  refine ⟨pre, push, post ++ evs, by rw [List.append_assoc, List.cons_append], hcall, ?_⟩
  intro b hb
  rcases List.mem_append.mp hb with hb | hb
  · exact hpost b hb
  · exact hevs b hb

theorem LocksOutstanding.sendPush (h : LocksOutstanding w) (r : PushRequest) :
    LocksOutstanding (sendPush r env w).2 := by
  rw [sendPush_eq]
  intro call hlock
  have hlock : (w.callLocks.setdefault r.originCallId (w.objects + 1)).get call ≠ none := hlock
  rw [Effect.Dict.get_setdefault] at hlock
  by_cases hcall : call = r.originCallId
  · subst hcall
    exact ⟨w.trace, r.push w.objects, [], rfl, rfl, fun _ => nofun⟩
  · rw [if_neg hcall] at hlock
    refine (h call hlock).append fun b hb => ?_
    cases List.mem_singleton.mp hb

theorem LocksOutstanding.prune (h : LocksOutstanding w) (b : BridgeUuid) :
    LocksOutstanding (pruneCallState b env w).2 := by
  cases ho : w.originCallIdByBridgeUuid.get b with
  | none =>
    rw [pruneCallState_none ho]
    exact h
  | some call =>
    rw [pruneCallState_some ho]
    intro call' hlock
    have hlock : (w.callLocks.pop call).get call' ≠ none := hlock
    rw [Effect.Dict.get_pop] at hlock
    split at hlock
    · exact absurd rfl hlock
    · rename_i hne
      refine (h call' hlock).append fun b' hb => ?_
      cases List.mem_singleton.mp hb
      exact hne rfl

theorem LocksOutstanding.code (h : LocksOutstanding w) : LocksOutstanding (t.code env w).2 := by
  have hrest : (∀ r, t ≠ .sendPush r) → (∀ b, t ≠ .joinPrune b) → (∀ b bs, t ≠ .gonePrune b bs) →
      LocksOutstanding (t.code env w).2 := by
    intro hsend hprune hgone call hlock
    have haside := aside_locks (w := w) env hsend hprune hgone
    obtain ⟨lock, hget⟩ := Option.ne_none_iff_exists'.mp hlock
    have hold : w.callLocks.get call ≠ none := by
      rw [haside.entries call lock hget]
      nofun
    obtain ⟨evs, hevs, htr⟩ := haside.trace
    rw [htr]
    refine (h call hold).append fun b hb => ?_
    cases hevs _ hb
  cases t with
  | sendPush r => exact h.sendPush r
  | joinPrune b =>
    rw [show (Task.code (.joinPrune b) env w).2 = _ from after_pure_world _ _]
    exact h.prune b
  | gonePrune b bs =>
    rw [show (Task.code (.gonePrune b bs) env w).2 = _ from after_pure_world _ _]
    exact h.prune b
  | _ => exact hrest (fun _ => nofun) (fun _ => nofun) fun _ _ => nofun

theorem PrunedKnown.prune (h : PrunedKnown w) (hd : DialsKnown w) (b : BridgeUuid) :
    PrunedKnown (pruneCallState b env w).2 := by
  cases ho : w.originCallIdByBridgeUuid.get b with
  | none =>
    rw [pruneCallState_none ho]
    exact ⟨h.known, h.fresh⟩
  | some call =>
    rw [pruneCallState_some ho]
    refine ⟨fun b' call' hp => ?_, h.fresh.snoc fun _ _ => nofun⟩
    rcases mem_snoc.mp hp with hp | hp
    · exact h.known b' call' hp
    · cases hp
      exact (hd.registered b call ho).1

theorem PrunedKnown.code (h : PrunedKnown w) (hd : DialsKnown w) (hp : env.Possible w) :
    PrunedKnown (t.code env w).2 := by
  have he := evolves_section (t := t) hp
  by_cases ht : t.Dials
  · cases t with
    | dialAllContacts caller origin aor =>
      have hu := he.uuids
      show PrunedKnown (dialAllContacts caller origin aor env w).2
      have hu : w.uuids ⊆ (dialAllContacts caller origin aor env w).2.uuids := hu
      rcases dialAllContacts_cases env (w := w) caller origin aor with
        ⟨r, hw, -⟩ | ⟨dialer, -, -, hw⟩ <;> rw [hw] at hu ⊢
      · exact h
      · refine ⟨fun b call hpruned => hu (h.known b call (mem_of_snoc hpruned nofun)),
          h.fresh.snoc fun b call heq hpruned => ?_⟩
        cases heq
        exact hp.1 (h.known _ _ hpruned)
    | joinPrune b =>
      rw [show (Task.code (.joinPrune b) env w).2 = _ from after_pure_world _ _]
      exact h.prune hd b
    | gonePrune b bs =>
      rw [show (Task.code (.gonePrune b bs) env w).2 = _ from after_pure_world _ _]
      exact h.prune hd b
    | _ => exact ht.elim
  · obtain ⟨evs, hevs, htr⟩ := (aside_dials (w := w) env ht).1.trace
    refine ⟨fun b call hpruned => ?_, ?_⟩
    · rw [htr] at hpruned
      rcases List.mem_append.mp hpruned with hold | hnew
      · exact he.uuids (h.known b call hold)
      · cases hevs _ hnew
    · rw [htr]
      refine h.fresh.append fun e he past b call heq => ?_
      subst heq
      cases hevs _ he

end Sections

/-! ## Handlers that are not cut short -/

section Handlers

variable {w w' : World} {env : Env} {t u : Task} {b : BridgeUuid} {call : CallId} {c : ChannelId}

theorem cancelPSTNFallback_ok (hl : Locked w) (h : w.ringsOff env call = true) :
    (cancelPSTNFallback call env w).1 = .ok () := by
  unfold cancelPSTNFallback
  rw [bind_apply, look_apply]
  dsimp only
  cases hlock : w.callLocks.get call with
  | none =>
    dsimp only
    rw [bind_apply, look_apply]
    dsimp only
    rw [(hl call hlock).2]
    rfl
  | some lock =>
    dsimp only
    rw [bind_apply, look_apply]
    dsimp only
    match hf : w.pstnFallbacks.get call with
    | none | some .cancelled | some (.dialAnswered _) | some (.pending _) | some .triggering => rfl
    | some (.dialing c) =>
      have hoff : hangsUp env c = true := by
        unfold World.ringsOff at h
        rwa [hf] at h
      dsimp only
      rw [bind_apply, hangupIfThere_ok hoff]
      rfl

theorem cancelPushMobile_ok (h : w.isNotified call = true → succeeds env.notifier = true) :
    (cancelPushMobile call env w).1 = .ok () := by
  rcases cancelPushMobile_cases env (w := w) call with
    ⟨hw, -⟩ | ⟨push, e, hpush, hraise, -⟩ | ⟨_, _, _, hw⟩ | ⟨_, _, hw⟩
  · rw [hw]
  · have hok := h (by
      unfold World.isNotified
      rw [hpush]
      rfl)
    rw [hraise] at hok
    cases hok
  · rw [hw]
  · rw [hw]

/-- The task that a program returns when it does not raise. -/
theorem following_after_pure {α : Type} {p : Code α} {a : α} (h : (p env w).1 = .ok a) :
    following ((do let _ ← p; pure [u] : Code (List Task)) env w).1 = [u] := by
  rw [bind_apply]
  rcases hp : p env w with ⟨r, w'⟩
  rw [hp] at h
  obtain rfl : r = .ok a := h
  rfl

theorem joinCancel_follows (b : BridgeUuid) (call : CallId) :
    following (joinCancel b call env w).1 = [.joinPrune b] := by
  unfold joinCancel
  rw [tryCatch_apply, bind_apply]
  rcases cancelPushMobile call env w with ⟨e | _, w'⟩ <;> rfl

theorem pruneCallState_get (b : BridgeUuid) :
    (pruneCallState b env w).2.originCallIdByBridgeUuid.get b = none := by
  cases ho : w.originCallIdByBridgeUuid.get b with
  | none =>
    rw [pruneCallState_none ho]
    exact ho
  | some call =>
    rw [pruneCallState_some ho]
    exact Effect.Dict.get_pop_self ..

/-- A handler that is to prune the call of a bridge prunes it, or goes on. -/
theorem removed_follows {s : Sys} (hl : Locked s.world) (hc : Tidy s (.run t env))
    (hr : t.Removed b) :
    (t.code env s.world).2.originCallIdByBridgeUuid.get b = none ∨
      ∃ u ∈ following (t.code env s.world).1, u.Removed b := by
  cases t with
  | joinAnswer c b' call =>
    obtain rfl : b' = b := hr
    right
    show ∃ u ∈ following (joinAnswer c b' call env s.world).1, u.Removed b'
    rcases joinAnswer_cases env (w := s.world) c b' call with
      ⟨-, -, hw⟩ | ⟨-, -, hw⟩ | ⟨-, -, hw⟩ | ⟨-, -, -, hw⟩ | ⟨-, -, -, hw⟩ <;> rw [hw]
    · cases call with
      | none => exact ⟨_, List.mem_singleton.mpr rfl, rfl⟩
      | some call => exact ⟨_, List.mem_singleton.mpr rfl, rfl⟩
    all_goals exact ⟨_, List.mem_singleton.mpr rfl, rfl⟩
  | joinCancel b' call =>
    obtain rfl : b' = b := hr
    right
    rw [show following (Task.code (.joinCancel b' call) env s.world).1 = _ from
      joinCancel_follows b' call]
    exact ⟨_, List.mem_singleton.mpr rfl, rfl⟩
  | joinPrune b' =>
    obtain rfl : b' = b := hr
    left
    rw [show (Task.code (.joinPrune b') env s.world).2 = _ from after_pure_world _ _]
    exact pruneCallState_get b'
  | goneFallback b' call bs =>
    obtain rfl : b' = b := hr
    right
    have hok : (cancelPSTNFallback call env s.world).1 = .ok () := cancelPSTNFallback_ok hl hc
    rw [show following (Task.code (.goneFallback b' call bs) env s.world).1 = _ from
      following_after_pure hok]
    exact ⟨_, List.mem_singleton.mpr rfl, rfl⟩
  | gonePush b' call bs =>
    obtain rfl : b' = b := hr
    right
    rw [show following (Task.code (.gonePush b' call bs) env s.world).1 = _ from
      following_after_pure (cancelPushMobile_ok hc)]
    exact ⟨_, List.mem_singleton.mpr rfl, rfl⟩
  | gonePrune b' bs =>
    obtain rfl : b' = b := hr
    left
    rw [show (Task.code (.gonePrune b' bs) env s.world).2 = _ from after_pure_world _ _]
    exact pruneCallState_get b'
  | _ => exact hr.elim

/-! ### The dialers of a caller that is gone -/

theorem stop_contactDialers (env : Env) (w : World) (b : BridgeUuid) :
    (stop b env w).2.contactDialers = w.contactDialers :=
  congrArg Registries.contactDialers stop_registries

theorem onChannelGone_ok (env : Env) (h : ∀ dialer, w.contactDialers.get b = some dialer →
    c ≠ dialer.callerChannelId → hangsUp env dialer.callerChannelId = true) :
    (onChannelGone c b env w).1 = .ok () ∧
      (onChannelGone c b env w).2.contactDialers = w.contactDialers := by
  have hok := stop_ok env (w := w) b
  have hkept := stop_contactDialers env w b
  unfold onChannelGone
  rw [bind_apply]
  rcases hs : stop b env w with ⟨r, w'⟩
  rw [hs] at hok hkept
  obtain rfl : r = .ok () := hok
  dsimp only
  rw [bind_apply, look_apply]
  dsimp only
  rw [show w'.contactDialers = w.contactDialers from hkept]
  cases hd : w.contactDialers.get b with
  | none => exact ⟨rfl, hkept⟩
  | some dialer =>
    dsimp only
    by_cases hcaller : c = dialer.callerChannelId
    · rw [if_pos hcaller]
      exact ⟨rfl, hkept⟩
    · rw [if_neg hcaller, hangupIfThere_ok (h dialer hd hcaller)]
      exact ⟨rfl, hkept⟩

theorem forM_onChannelGone_ok (bs : List BridgeUuid)
    (h : ∀ b ∈ bs, ∀ dialer, w.contactDialers.get b = some dialer →
      c ≠ dialer.callerChannelId → hangsUp env dialer.callerChannelId = true) :
    (bs.forM (onChannelGone c) env w).1 = .ok () := by
  induction bs generalizing w with
  | nil => rfl
  | cons b bs ih =>
    obtain ⟨hok, hkept⟩ := onChannelGone_ok (w := w) env (h b (List.mem_cons_self ..))
    show ((onChannelGone c b >>= fun _ => bs.forM (onChannelGone c) : Code Unit) env w).1 = _
    rw [bind_apply]
    rcases hg : onChannelGone c b env w with ⟨r, w'⟩
    rw [hg] at hok hkept
    obtain rfl : r = .ok () := hok
    refine ih fun b' hb' dialer hd => ?_
    rw [show w'.contactDialers = w.contactDialers from hkept] at hd
    exact h b' (List.mem_cons_of_mem _ hb') dialer hd

/-- The dialers of a caller that is gone are removed. -/
theorem goneDialers_follows {dialer : Dialer} {s : Sys} (hc : Tidy s (.run (.goneDialers c) env))
    (hd : s.world.contactDialers.get b = some dialer) (hcaller : dialer.callerChannelId = c) :
    ∃ bs, following (goneDialers c env s.world).1 = [.goneRemove bs] ∧ b ∈ bs := by
  have hb : b ∈ s.world.contactDialers.keys := Effect.Dict.mem_keys_of_get hd
  have hcaller' : s.world.isCaller c = true := by
    refine List.any_eq_true.mpr ⟨b, hb, ?_⟩
    rw [hd]
    exact decide_eq_true hcaller
  have hconcerns : concerns s.world c b = true := by
    unfold concerns
    rw [hd]
    exact Bool.or_eq_true_iff.mpr (.inr (decide_eq_true hcaller.symm))
  refine ⟨s.world.contactDialers.keys.filter (concerns s.world c), ?_,
    List.mem_filter.mpr ⟨hb, hconcerns⟩⟩
  have hok : ((s.world.contactDialers.keys.filter (concerns s.world c)).forM (onChannelGone c) env
      s.world).1 = .ok () := by
    refine forM_onChannelGone_ok _ fun b' hb' dialer' hd' hne => ?_
    obtain ⟨hkey, hconcerns'⟩ := List.mem_filter.mp hb'
    exact hc hcaller' b' hkey dialer' hd' hconcerns' hne
  exact following_after_pure hok

/-- A handler that is to remove the dialer of a caller that is gone removes it, or goes on. -/
theorem removes_follows {s : Sys} (hl : Locked s.world) (hc : Tidy s (.run t env))
    {dialer : Dialer} (hd : s.world.contactDialers.get b = some dialer)
    (hr : t.Removes dialer.callerChannelId b) :
    (t.code env s.world).2.contactDialers.get b = none ∨
      ∃ u ∈ following (t.code env s.world).1, u.Removes dialer.callerChannelId b := by
  cases t with
  | goneScan c calls =>
    right
    cases calls with
    | nil => exact ⟨.goneDialers c, List.mem_singleton.mpr rfl, hr⟩
    | cons call calls =>
      have hok : (legGone c call env s.world).1 = .ok () := by
        rcases legGone_cases env (w := s.world) c call with ⟨hw, -⟩ | ⟨-, hw⟩ <;> rw [hw]
      rw [show following (Task.code (.goneScan c (call :: calls)) env s.world).1 = _ from
        following_after_pure hok]
      exact ⟨_, List.mem_singleton.mpr rfl, hr⟩
  | goneDialers c =>
    obtain ⟨bs, hbs, hmem⟩ := goneDialers_follows hc hd (show c = _ from hr).symm
    right
    rw [show following (Task.code (.goneDialers c) env s.world).1 = _ from hbs]
    exact ⟨_, List.mem_singleton.mpr rfl, hmem⟩
  | goneRemove bs =>
    have hr : b ∈ bs := hr
    cases bs with
    | nil => cases hr
    | cons b' bs =>
      show (goneRemove (b' :: bs) env s.world).2.contactDialers.get b = none ∨
        ∃ u ∈ following (goneRemove (b' :: bs) env s.world).1, u.Removes dialer.callerChannelId b
      cases hd' : s.world.contactDialers.get b' with
      | none =>
        exfalso
        rcases List.mem_cons.mp hr with rfl | hb
        · rw [hd] at hd'
          cases hd'
        · rw [hc hd' b hb] at hd
          cases hd
      | some dialer' =>
        rw [goneRemove_some bs hd']
        rcases List.mem_cons.mp hr with rfl | hb
        · exact .inl (removed_none dialer')
        · right
          cases s.world.originCallIdByBridgeUuid.get b' with
          | none => exact ⟨_, List.mem_singleton.mpr rfl, hb⟩
          | some call => exact ⟨_, List.mem_singleton.mpr rfl, hb⟩
  | goneFallback b' call bs =>
    right
    have hok : (cancelPSTNFallback call env s.world).1 = .ok () := cancelPSTNFallback_ok hl hc
    rw [show following (Task.code (.goneFallback b' call bs) env s.world).1 = _ from
      following_after_pure hok]
    exact ⟨_, List.mem_singleton.mpr rfl, hr⟩
  | gonePush b' call bs =>
    right
    rw [show following (Task.code (.gonePush b' call bs) env s.world).1 = _ from
      following_after_pure (cancelPushMobile_ok hc)]
    exact ⟨_, List.mem_singleton.mpr rfl, hr⟩
  | gonePrune b' bs =>
    right
    have hok : (pruneCallState b' env s.world).1 = .ok () := by
      cases ho : s.world.originCallIdByBridgeUuid.get b' with
      | none => rw [pruneCallState_none ho]
      | some call => rw [pruneCallState_some ho]
    rw [show following (Task.code (.gonePrune b' bs) env s.world).1 = _ from
      following_after_pure hok]
    exact ⟨_, List.mem_singleton.mpr rfl, hr⟩
  | _ => exact hr.elim

end Handlers

/-! ## Sections and runs -/

namespace TeardownTracked

variable {s s' : Sys} {a : Label} {t u : Task} {env : Env} {b : BridgeUuid}

/-- The handlers under way that a section does not belong to. -/
theorem kept_task (hu : u ∈ s.tasks) (hne : u ≠ t) : u ∈ (s.after t env).tasks :=
  List.mem_append_left _ ((List.mem_erase_of_ne hne).mpr hu)

/-- A dialer stays, or the handler that removes it will prune the call. -/
theorem dialer_after (env : Env) {dialer : Dialer} (hd : s.world.contactDialers.get b = some dialer)
    (hnew : ∀ caller origin aor, t ≠ .dialAllContacts caller origin aor) :
    (∃ dialer, (t.code env s.world).2.contactDialers.get b = some dialer) ∨
      ∃ u ∈ following (t.code env s.world).1, u.Removed b := by
  by_cases ht : t.AssignsDialer
  · cases t with
    | dialAllContacts caller origin aor => exact absurd rfl (hnew _ _ _)
    | joinPop c b' call =>
      show (∃ dialer, (joinPop c b' call env s.world).2.contactDialers.get b = some dialer) ∨
        ∃ u ∈ following (joinPop c b' call env s.world).1, u.Removed b
      cases hd' : s.world.contactDialers.get b' with
      | none =>
        rw [(joinPop_none env c call hd').1]
        exact .inl ⟨dialer, hd⟩
      | some dialer' =>
        by_cases hb : b' = b
        · subst hb
          rw [joinPop_some_follows c call hd']
          exact .inr ⟨_, List.mem_singleton.mpr rfl, rfl⟩
        · left
          rw [joinPop_some c call hd', stop_contactDialers]
          exact ⟨dialer, (Effect.Dict.get_pop_of_ne _ (Ne.symm hb)).trans hd⟩
    | goneRemove bs =>
      cases bs with
      | nil => exact .inl ⟨dialer, hd⟩
      | cons b' bs =>
        show (∃ dialer, (goneRemove (b' :: bs) env s.world).2.contactDialers.get b = some dialer) ∨
          ∃ u ∈ following (goneRemove (b' :: bs) env s.world).1, u.Removed b
        cases hd' : s.world.contactDialers.get b' with
        | none =>
          rw [goneRemove_none bs hd']
          exact .inl ⟨dialer, hd⟩
        | some dialer' =>
          rw [goneRemove_some bs hd']
          by_cases hb : b' = b
          · subst hb
            right
            cases s.world.originCallIdByBridgeUuid.get b' with
            | none => exact ⟨_, List.mem_singleton.mpr rfl, rfl⟩
            | some call => exact ⟨_, List.mem_singleton.mpr rfl, rfl⟩
          · exact .inl ⟨dialer, (Effect.Dict.get_pop_of_ne _ (Ne.symm hb)).trans hd⟩
    | _ => exact ht.elim
  · rw [contactDialers_code ht]
    exact .inl ⟨dialer, hd⟩

/-- The dialers after a section were there before, or one has been registered. -/
theorem dialer_before {dialer : Dialer}
    (hd : (t.code env s.world).2.contactDialers.get b = some dialer) :
    s.world.contactDialers.get b = some dialer ∨
      ∃ origin aor, t = .dialAllContacts dialer.callerChannelId origin aor ∧
        dialer.callerChannelId ∈ (t.code env s.world).2.channels := by
  by_cases hnew : ∃ caller origin aor, t = .dialAllContacts caller origin aor
  · obtain ⟨caller, origin, aor, rfl⟩ := hnew
    have hd : (dialAllContacts caller origin aor env s.world).2.contactDialers.get b =
      some dialer := hd
    show _ ∨ ∃ _ _, _ ∧ _ ∈ (dialAllContacts caller origin aor env s.world).2.channels
    rcases dialAllContacts_cases env (w := s.world) caller origin aor with
      ⟨r, hw, -⟩ | ⟨new, -, hcaller, hw⟩ <;> rw [hw] at hd ⊢
    · exact .inl hd
    · have hd : (s.world.contactDialers.set new.futureBridgeUuid new).get b = some dialer := hd
      rw [Effect.Dict.get_set] at hd
      split at hd
      · cases hd
        subst hcaller
        exact .inr ⟨origin, aor, rfl, Finset.mem_insert_self ..⟩
      · exact .inl hd
  · left
    refine Changes.invariant (I := fun w' => ∀ dialer, w'.contactDialers.get b = some dialer →
      s.world.contactDialers.get b = some dialer) (fun w' k hk hw' dialer hd => ?_)
      (t.madeOf_may env s.world).1 (fun _ h => h) dialer hd
    cases k with
    | registered _ _ => cases t <;> first | exact hk.elim | exact absurd ⟨_, _, _, rfl⟩ hnew
    | removed b' _ => exact hw' dialer (Effect.Dict.shrinks_pop _ b' _ _ hd)
    | _ => exact hw' dialer hd

theorem dials_after (h : TeardownTracked s) (hl : Locked s.world)
    (hc : Tidy s (.run t env)) {call : CallId}
    (ho : (t.code env s.world).2.originCallIdByBridgeUuid.get b = some call) :
    (∃ dialer, (t.code env s.world).2.contactDialers.get b = some dialer) ∨
      ∃ u ∈ (s.after t env).tasks, u.Removed b := by
  by_cases hnew : ∃ caller origin aor, t = .dialAllContacts caller origin aor
  · obtain ⟨caller, origin, aor, rfl⟩ := hnew
    have ho : (dialAllContacts caller origin aor env s.world).2.originCallIdByBridgeUuid.get b =
      some call := ho
    show (∃ dialer, (dialAllContacts caller origin aor env s.world).2.contactDialers.get b =
      some dialer) ∨ _
    rcases dialAllContacts_cases env (w := s.world) caller origin aor with
      ⟨r, hw, -⟩ | ⟨new, -, -, hw⟩ <;> rw [hw] at ho ⊢
    · rcases h.dials b call ho with hd | ⟨u, hu, hr⟩
      · exact .inl hd
      · exact .inr ⟨u, kept_task hu (by rintro rfl; exact hr), hr⟩
    · have ho : ((Change.registered new origin).apply s.world).originCallIdByBridgeUuid.get b =
        some call := ho
      have hget : ((Change.registered new origin).apply s.world).contactDialers.get b =
          if b = new.futureBridgeUuid then some new else s.world.contactDialers.get b :=
        Effect.Dict.get_set ..
      show (∃ dialer, ((Change.registered new origin).apply s.world).contactDialers.get b =
        some dialer) ∨ _
      rw [registered_get] at ho
      rw [hget]
      split at ho
      · rename_i hb
        rw [if_pos hb]
        exact .inl ⟨new, rfl⟩
      · rename_i hb
        rw [if_neg hb]
        rcases h.dials b call ho with hd | ⟨u, hu, hr⟩
        · exact .inl hd
        · exact .inr ⟨u, kept_task hu (by rintro rfl; exact hr), hr⟩
  · have hnew : ∀ caller origin aor, t ≠ .dialAllContacts caller origin aor :=
      fun caller origin aor ht => hnew ⟨caller, origin, aor, ht⟩
    have hold := (evolves_code hnew).2 _ _ ho
    rcases h.dials b call hold with ⟨dialer, hd⟩ | ⟨u, hu, hr⟩
    · rcases dialer_after env hd hnew with hd | ⟨u, hu, hr⟩
      · exact .inl hd
      · exact .inr ⟨u, List.mem_append_right _ hu, hr⟩
    · by_cases hut : u = t
      · subst hut
        rcases removed_follows hl hc hr with hnone | ⟨v, hv, hr⟩
        · rw [hnone] at ho
          cases ho
        · exact .inr ⟨v, List.mem_append_right _ hv, hr⟩
      · exact .inr ⟨u, kept_task hu hut, hr⟩

theorem dialers_after (h : TeardownTracked s) (hl : Locked s.world) (hc : Tidy s (.run t env))
    {dialer : Dialer} (hd : (t.code env s.world).2.contactDialers.get b = some dialer) :
    dialer.callerChannelId ∈ (t.code env s.world).2.channels ∧
      (.channelGone dialer.callerChannelId ∉ (t.code env s.world).2.trace ∨
        ∃ u ∈ (s.after t env).tasks, u.Removes dialer.callerChannelId b) := by
  rcases dialer_before hd with hold | ⟨origin, aor, rfl, hchannel⟩
  · obtain ⟨hchannel, hgone⟩ := h.dialers b dialer hold
    refine ⟨channels_code hchannel, ?_⟩
    rcases hgone with hthere | ⟨u, hu, hr⟩
    · by_cases ht : t = .channelDestroyed dialer.callerChannelId
      · subst ht
        exact .inr ⟨.goneScan _ _, List.mem_append_right _ (List.mem_singleton.mpr rfl), rfl⟩
      · exact .inl fun hgone => hthere (gone_code ht hgone)
    · by_cases hut : u = t
      · subst hut
        rcases removes_follows hl hc hold hr with hnone | ⟨v, hv, hr⟩
        · rw [hnone] at hd
          cases hd
        · exact .inr ⟨v, List.mem_append_right _ hv, hr⟩
      · exact .inr ⟨u, kept_task hu hut, hr⟩
  · exact ⟨hchannel, .inl fun hgone => hc (gone_code (by intro heq; cases heq) hgone)⟩

theorem run (h : TeardownTracked s) (hd : DialsTracked s) (hp : env.Possible s.world)
    (hc : Tidy s (.run t env)) : TeardownTracked (s.after t env) :=
  ⟨fun _ _ ho => h.dials_after hd.1.2 hc ho, fun _ _ hget => h.dialers_after hd.1.2 hc hget,
    h.locks.code, h.pruned.code hd.1.1 hp⟩

theorem step (h : TeardownTracked s) (hd : DialsTracked s) (hc : Tidy s a)
    (hs : machine.step a s = some s') : TeardownTracked s' := by
  have hdials : ∀ (u : Task) b call, s.world.originCallIdByBridgeUuid.get b = some call →
      (∃ dialer, s.world.contactDialers.get b = some dialer) ∨ ∃ t ∈ u :: s.tasks, t.Removed b := by
    intro u b call ho
    exact (h.dials b call ho).imp_right fun ⟨t, ht, hr⟩ => ⟨t, List.mem_cons_of_mem _ ht, hr⟩
  have hdialers : ∀ (u : Task) b dialer, s.world.contactDialers.get b = some dialer →
      dialer.callerChannelId ∈ s.world.channels ∧
        (.channelGone dialer.callerChannelId ∉ s.world.trace ∨
          ∃ t ∈ u :: s.tasks, t.Removes dialer.callerChannelId b) := by
    intro u b dialer hget
    obtain ⟨hchannel, hgone⟩ := h.dialers b dialer hget
    exact ⟨hchannel, hgone.imp_right fun ⟨t, ht, hr⟩ => ⟨t, List.mem_cons_of_mem _ ht, hr⟩⟩
  obtain ⟨t, rfl, ht, rfl⟩ | ⟨timer, call, rfl, -, rfl⟩ | ⟨t, env, rfl, ht, hp, rfl⟩ :=
    step_cases hs
  · exact ⟨hdials t, hdialers t, h.locks, h.pruned⟩
  · exact ⟨hdials _, hdialers _, h.locks, ⟨h.pruned.known, h.pruned.fresh⟩⟩
  · exact h.run hd hp hc

end TeardownTracked

theorem reaches_teardownTracked {s : Sys} (h : machine.Reaches Tidy s) : TeardownTracked s := by
  refine h.invariant_along (fun s hs => ?_) fun s a s' hr hI hc hs => ?_
  · rw [show s = Sys.start from hs]
    exact ⟨fun _ _ => nofun, fun _ _ => nofun, fun _ hlock => absurd rfl hlock,
      ⟨fun _ _ => nofun, .nil⟩⟩
  · exact hI.step (reachable_dials (hr.mono fun _ _ _ => trivial)) hc hs

/-- The channel of the caller is gone, up to the scan of the fallbacks. -/
def callerGone (calls : List CallId) : List Label :=
  called (.channelDestroyed callerId) calm ++ [.run (.goneScan callerId calls) calm,
    .run (.goneScan callerId []) calm, .run (.goneDialers callerId) calm]

/-- A call is dialed and its user sent a push; then the caller hangs up. -/
def dialedThenEnded : List Label :=
  called (.dialAllContacts callerId callerId "aor") (.calm "b-1" mobileId) ++
    called (.sendPush (pushRequest "user")) calm ++
    [.run (.publishPush ((pushRequest "user").push 0)) calm] ++ callerGone [callerId] ++
    [.run (.goneRemove ["b-1"]) calm, .run (.goneFallback "b-1" callerId []) calm,
      .run (.gonePush "b-1" callerId []) calm, .run (.gonePrune "b-1" []) calm,
      .run (.goneRemove []) calm]

/-- The caller hangs up before the call is dialed. -/
def pushedThenEnded : List Label :=
  called (.sendPush (pushRequest "user")) calm ++
    [.run (.publishPush ((pushRequest "user").push 0)) calm] ++ callerGone [callerId] ++
    [.run (.goneRemove []) calm] ++ called (.cancelPush callerId) calm ++
    [.fire 2, .run (.pstnFallback 2 callerId) calm, .run (.fallbackLookup 2 callerId) calm,
      .run (.fallbackAbort callerId) calm]

end Calld.DialMobile
