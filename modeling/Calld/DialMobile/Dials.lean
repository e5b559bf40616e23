/-
# The dials and their calls

A dial is registered under a new bridge uuid and stays registered until its call is pruned:
the handlers that have looked up the call of a bridge know it for as long as they run.

A call that has a push or a fallback has a lock: the maps of a call are dropped together.
-/
import Calld.DialMobile.Registries

namespace Calld.DialMobile

open Effect Effect.Program

/-! ## What is known of a dial -/

/-- The dial that a task is about, with the call as it was looked up. -/
def Task.dial : Task → Option (BridgeUuid × Option CallId)
  | .joinPop _ b call | .joinAnswer _ b call => some (b, call)
  | .joinCancel b call | .goneFallback b call _ | .gonePush b call _ => some (b, some call)
  | _ => none

/-- The bridge of a task is known, and its call the one that was looked up. -/
def Task.Looked (t : Task) (w : World) : Prop :=
  ∀ b call, t.dial = some (b, call) → b ∈ w.uuids ∧
    ∀ call', w.originCallIdByBridgeUuid.get b = some call' → call = some call'

/-- The dials that are registered, and those that have been. -/
structure DialsKnown (w : World) : Prop where
  registered : ∀ b call, w.originCallIdByBridgeUuid.get b = some call →
    b ∈ w.uuids ∧ .dialed b call ∈ w.trace
  unpruned : ∀ b call, .dialed b call ∈ w.trace →
    b ∈ w.uuids ∧ (w.originCallIdByBridgeUuid.get b = some call ∨ .pruned b call ∈ w.trace)

/-- A call without a lock has neither a push nor a fallback. -/
def Locked (w : World) : Prop := ∀ call, w.callLocks.get call = none →
  w.incomingCalls.get call = none ∧ w.pstnFallbacks.get call = none

/-! ## What the sections keep -/

/-- What has happened and what is known is not forgotten, and the calls of the known bridges
are not changed. -/
structure Evolves (w w' : World) : Prop where
  uuids : w.uuids ⊆ w'.uuids
  trace : ∀ e ∈ w.trace, e ∈ w'.trace
  dialed : ∀ b, ∀ c ∈ w.dialedChannels b, c ∈ w'.dialedChannels b
  calls : ∀ b ∈ w.uuids, ∀ call, w'.originCallIdByBridgeUuid.get b = some call →
    w.originCallIdByBridgeUuid.get b = some call

section Worlds

variable {w w' w'' : World} {env : Env} {t : Task} {b : BridgeUuid} {call : CallId}

theorem Evolves.refl (w : World) : Evolves w w :=
  ⟨Finset.Subset.refl _, fun _ h => h, fun _ _ h => h, fun _ _ _ h => h⟩

theorem Evolves.trans (h : Evolves w w') (h' : Evolves w' w'') : Evolves w w'' :=
  ⟨h.uuids.trans h'.uuids, fun e he => h'.trace e (h.trace e he),
    fun b c hc => h'.dialed b c (h.dialed b c hc),
    fun b hb call hc => h.calls b hb call (h'.calls b (h.uuids hb) call hc)⟩

/-- Every change but a registration keeps the calls of all bridges. -/
theorem Change.evolves {k : Change} (hk : ∀ dialer call, k ≠ .registered dialer call) (w : World) :
    Evolves w (k.apply w) ∧
      (w.originCallIdByBridgeUuid).Shrinks (k.apply w).originCallIdByBridgeUuid := by
  cases k with
  | registered dialer call => exact absurd rfl (hk dialer call)
  | event e =>
    exact ⟨⟨Finset.Subset.refl _, fun _ h => List.mem_append_left _ h, fun _ _ h => h,
      fun _ _ _ h => h⟩, .refl _⟩
  | named b =>
    exact ⟨⟨Finset.subset_insert .., fun _ h => h, fun _ _ h => h, fun _ _ _ h => h⟩, .refl _⟩
  | contact b c =>
    refine ⟨⟨Finset.Subset.refl _, fun _ h => h, fun b' c' h => ?_, fun _ _ _ h => h⟩, .refl _⟩
    show c' ∈ Function.update w.dialedChannels b _ b'
    by_cases hb : b' = b
    · subst hb
      rw [Function.update_self]
      exact List.mem_append_left _ h
    · rw [Function.update_of_ne hb]
      exact h
  | pruned b call =>
    exact ⟨⟨Finset.Subset.refl _, fun _ h => h, fun _ _ h => h,
      fun b' _ => Effect.Dict.shrinks_pop _ b b'⟩, Effect.Dict.shrinks_pop _ b⟩
  | _ => exact ⟨⟨Finset.Subset.refl _, fun _ h => h, fun _ _ h => h, fun _ _ _ h => h⟩, .refl _⟩

/-- A section that registers no dialer keeps the calls of all bridges. -/
theorem evolves_code (hd : ∀ caller origin aor, t ≠ .dialAllContacts caller origin aor) :
    Evolves w (t.code env w).2 ∧
      (w.originCallIdByBridgeUuid).Shrinks (t.code env w).2.originCallIdByBridgeUuid := by
  refine Changes.invariant (I := fun w' => Evolves w w' ∧
    (w.originCallIdByBridgeUuid).Shrinks w'.originCallIdByBridgeUuid) (fun w' k hk hw' => ?_)
    (t.madeOf_may env w).1 ⟨.refl w, .refl _⟩
  have hnot : ∀ dialer call, k ≠ .registered dialer call := by
    rintro dialer call rfl
    cases t <;> first | exact hk.elim | exact absurd rfl (hd _ _ _)
  exact ⟨hw'.1.trans (k.evolves hnot w').1, hw'.2.trans (k.evolves hnot w').2⟩

theorem Task.Looked.evolves (h : t.Looked w) (he : Evolves w w') : t.Looked w' := by
  intro b call ht
  obtain ⟨hb, hcall⟩ := h b call ht
  exact ⟨he.uuids hb, fun call' hc => hcall call' (he.calls b hb call' hc)⟩

/-- The calls that a new dialer leaves as they were. -/
theorem registered_get (dialer : Dialer) (origin : CallId) (b : BridgeUuid) :
    ((Change.registered dialer origin).apply w).originCallIdByBridgeUuid.get b =
      if b = dialer.futureBridgeUuid then some origin else w.originCallIdByBridgeUuid.get b :=
  Effect.Dict.get_set ..

/-- A new dialer has a new bridge. -/
theorem registered_evolves {dialer : Dialer} {origin : CallId}
    (hnew : dialer.futureBridgeUuid ∉ w.uuids) (e : Event) :
    Evolves w (((Change.registered dialer origin).apply w).noted e) := by
  refine ⟨Finset.subset_insert .., fun e he => List.mem_append_left _ he, fun _ _ h => h,
    fun b hb call hc => ?_⟩
  have hc : ((Change.registered dialer origin).apply w).originCallIdByBridgeUuid.get b =
      some call := hc
  rw [registered_get, if_neg] at hc
  · exact hc
  · rintro rfl
    exact hnew hb

/-- What every section keeps. -/
theorem evolves_section (hp : env.Possible w) : Evolves w (t.code env w).2 := by
  by_cases hd : ∃ caller origin aor, t = .dialAllContacts caller origin aor
  · obtain ⟨caller, origin, aor, rfl⟩ := hd
    show Evolves w (dialAllContacts caller origin aor env w).2
    rcases dialAllContacts_cases env (w := w) caller origin aor with
      ⟨r, hw, -⟩ | ⟨dialer, hb, -, hw⟩ <;> rw [hw]
    · exact .refl _
    · exact registered_evolves (hb ▸ hp.1) _
  · exact (evolves_code fun caller origin aor ht => hd ⟨caller, origin, aor, ht⟩).1

end Worlds

/-! ## Dials -/

/-- The events about the registration of a dial. -/
def Event.isDial : Event → Bool
  | .dialed .. | .pruned .. => true
  | _ => false

/-- The tasks that register a dial or prune its call. -/
def Task.Dials : Task → Prop
  | .dialAllContacts .. | .joinPrune _ | .gonePrune .. => True
  | _ => False

section Dials

variable {w : World} {env : Env} {t : Task}

theorem DialsKnown.initial : DialsKnown World.initial := ⟨fun _ _ => nofun, fun _ _ => nofun⟩

/-- Nothing is registered and nothing pruned. -/
theorem aside_dials (env : Env) (ht : ¬ t.Dials) :
    Aside Event.isDial World.originCallIdByBridgeUuid w (t.code env w).2 ∧
      (t.code env w).2.originCallIdByBridgeUuid = w.originCallIdByBridgeUuid := by
  refine ⟨.of_madeOf (fun k hk w' => ?_) (t.madeOf_may env) w,
    Changes.untouched (f := World.originCallIdByBridgeUuid) (fun w' k hk => ?_) (t.madeOf_may env w).1⟩
  · cases k with
    | event e =>
      refine .event ?_ w'
      cases e <;> first | rfl | (cases t <;> first | exact hk.elim | exact absurd trivial ht)
    | registered _ _ => cases t <;> first | exact hk.elim | exact absurd trivial ht
    | pruned _ _ => cases t <;> first | exact hk.elim | exact absurd trivial ht
    | object => exact .of_shrinks rfl (Nat.le_succ _) (.refl _)
    | _ => exact .of_shrinks rfl (Nat.le_refl _) (.refl _)
  · cases k with
    | registered _ _ => cases t <;> first | exact hk.elim | exact absurd trivial ht
    | pruned _ _ => cases t <;> first | exact hk.elim | exact absurd trivial ht
    | _ => rfl

/-- A new dial is registered. -/
theorem DialsKnown.dialed (h : DialsKnown w) {dialer : Dialer} (origin : CallId)
    (hnew : dialer.futureBridgeUuid ∉ w.uuids) :
    DialsKnown (((Change.registered dialer origin).apply w).noted
      (.dialed dialer.futureBridgeUuid origin)) := by
  refine ⟨fun b call hc => ?_, fun b call hd => ?_⟩
  · have hc : ((Change.registered dialer origin).apply w).originCallIdByBridgeUuid.get b =
      some call := hc
    rw [registered_get] at hc
    by_cases hb : b = dialer.futureBridgeUuid
    · subst hb
      rw [if_pos rfl] at hc
      cases hc
      exact ⟨Finset.mem_insert_self .., mem_snoc.mpr (.inr rfl)⟩
    · rw [if_neg hb] at hc
      obtain ⟨hb, hdialed⟩ := h.registered b call hc
      exact ⟨Finset.mem_insert_of_mem hb, mem_snoc.mpr (.inl hdialed)⟩
  · show b ∈ insert dialer.futureBridgeUuid w.uuids ∧
      (((Change.registered dialer origin).apply w).originCallIdByBridgeUuid.get b = some call ∨ _)
    rw [registered_get]
    rcases mem_snoc.mp hd with hd | hd
    · obtain ⟨hb, hkept⟩ := h.unpruned b call hd
      rw [if_neg (by rintro rfl; exact hnew hb)]
      exact ⟨Finset.mem_insert_of_mem hb, hkept.imp_right fun hp => mem_snoc.mpr (.inl hp)⟩
    · cases hd
      rw [if_pos rfl]
      exact ⟨Finset.mem_insert_self .., .inl rfl⟩

/-- The call of a dial is pruned. -/
theorem DialsKnown.prune (h : DialsKnown w) (env : Env) (b : BridgeUuid) :
    DialsKnown (pruneCallState b env w).2 := by
  cases ho : w.originCallIdByBridgeUuid.get b with
  | none =>
    rw [pruneCallState_none ho]
    exact ⟨h.registered, h.unpruned⟩
  | some call =>
    rw [pruneCallState_some ho]
    refine ⟨fun b' call' hc => ?_, fun b' call' hd => ?_⟩
    · obtain ⟨hb, hdialed⟩ := h.registered b' call' (Effect.Dict.shrinks_pop _ b _ _ hc)
      exact ⟨hb, mem_snoc.mpr (.inl hdialed)⟩
    · obtain ⟨hb, hkept⟩ := h.unpruned b' call' (mem_of_snoc hd nofun)
      refine ⟨hb, ?_⟩
      rcases hkept with hget | hpruned
      · by_cases hbb : b' = b
        · subst hbb
          rw [ho] at hget
          cases hget
          exact .inr (mem_snoc.mpr (.inr rfl))
        · exact .inl ((Effect.Dict.get_pop_of_ne _ hbb).trans hget)
      · exact .inr (mem_snoc.mpr (.inl hpruned))

theorem DialsKnown.code (h : DialsKnown w) (hp : env.Possible w) :
    DialsKnown (t.code env w).2 := by
  by_cases ht : t.Dials
  · cases t with
    | dialAllContacts caller origin aor =>
      show DialsKnown (dialAllContacts caller origin aor env w).2
      rcases dialAllContacts_cases env (w := w) caller origin aor with
        ⟨r, hw, -⟩ | ⟨dialer, hb, -, hw⟩ <;> rw [hw]
      · exact h
      · rw [← hb]
        exact h.dialed origin (hb ▸ hp.1)
    | joinPrune b =>
      have hw := h.prune env b
      rwa [← after_pure_world (pruneCallState b) ([] : List Task)] at hw
    | gonePrune b bs =>
      have hw := h.prune env b
      rwa [← after_pure_world (pruneCallState b) [Task.goneRemove bs]] at hw
    | _ => exact ht.elim
  · obtain ⟨haside, heq⟩ := aside_dials (w := w) env ht
    refine ⟨fun b call hc => ?_, fun b call hd => ?_⟩
    · rw [heq] at hc
      obtain ⟨hb, hdialed⟩ := h.registered b call hc
      exact ⟨(evolves_section hp).uuids hb, (haside.mem_trace rfl).mpr hdialed⟩
    · obtain ⟨hb, hkept⟩ := h.unpruned b call ((haside.mem_trace rfl).mp hd)
      rw [heq]
      exact ⟨(evolves_section hp).uuids hb, hkept.imp_right (haside.mem_trace rfl).mpr⟩

end Dials

/-! ## What the tasks are handed -/

/-- A task about a dial comes from one, from a join or from a removed dialer. -/
theorem Task.Leads.dial {t u : Task} {d : BridgeUuid × Option CallId} (h : t.Leads u)
    (hu : u.dial = some d) : t.dial = some d ∨ (∃ c, t = .joinBridge c d.1) ∨
      ∃ bs, t = .goneRemove (d.1 :: bs) := by
  cases h <;> cases hu <;> first
    | exact .inl rfl
    | exact .inr (.inl ⟨_, rfl⟩)
    | exact .inr (.inr ⟨_, rfl⟩)

section Handed

variable {w : World} {env : Env} {b : BridgeUuid} {t u : Task}

/-- A join has looked up the call of its bridge. -/
theorem looked_joinBridge {c : ChannelId} (h : u ∈ following (joinBridge c b env w).1) :
    u = .joinPop c b (w.originCallIdByBridgeUuid.get b) := by
  rcases joinBridge_cases env (w := w) c b with ⟨hw, -⟩ | ⟨call, hcall, hw⟩
  · rw [hw] at h
    exact List.mem_singleton.mp h
  · rw [hw] at h
    rw [hcall]
    exact mem_following_after_pure h

/-- The bridge of a join is known from then on. -/
theorem joinBridge_named (c : ChannelId) : b ∈ (joinBridge c b env w).2.uuids := by
  have hnamed : b ∈ ((Change.named b).apply w).uuids := Finset.mem_insert_self ..
  rcases joinBridge_cases env (w := w) c b with ⟨hw, -⟩ | ⟨call, -, hw⟩ <;> rw [hw]
  · exact hnamed
  · rw [after_pure_world]
    exact Changes.invariant (I := fun w' => b ∈ w'.uuids)
      (fun w' k _ hw' => k.uuids_apply w' hw')
      (madeOf_joinFallback (K := fun _ => True) c call (fun _ _ => trivial) trivial _).1 hnamed

/-- A removed dialer has a known bridge, and its call has been looked up. -/
theorem handed_goneRemove (hreg : Registered w) {bs : List BridgeUuid}
    (h : u ∈ following (goneRemove (b :: bs) env w).1) : b ∈ w.uuids ∧
      u = match w.originCallIdByBridgeUuid.get b with
        | some call => .goneFallback b call bs
        | none => .gonePrune b bs := by
  cases hd : w.contactDialers.get b with
  | none =>
    rw [goneRemove_none bs hd] at h
    cases h
  | some dialer =>
    rw [goneRemove_some bs hd] at h
    exact ⟨hreg.known_dialer hd, List.mem_singleton.mp h⟩

theorem looked_arrives (ht : u.Arrives w) : u.Looked w := by
  intro b call hdial
  cases u <;> first | exact ht.elim | cases hdial

/-- The calls of the tasks that a section leaves behind. -/
theorem looked_new (hreg : Registered w) (ht : t.Looked w) (hp : env.Possible w)
    (hu : u ∈ following (t.code env w).1) : u.Looked (t.code env w).2 := by
  intro b call hdial
  have he := evolves_section (t := t) hp
  rcases (Task.leads_of_mem hu).dial hdial with htd | ⟨c, rfl⟩ | ⟨bs, rfl⟩
  · exact ht.evolves he b call htd
  · have hlooked := looked_joinBridge (show u ∈ following (joinBridge c b env w).1 from hu)
    subst hlooked
    cases hdial
    exact ⟨joinBridge_named c, fun call' hc =>
      (evolves_code (t := .joinBridge c b) (fun _ _ _ => nofun)).2 _ _ hc⟩
  · obtain ⟨hb, rfl⟩ := handed_goneRemove hreg
      (show u ∈ following (goneRemove (b :: bs) env w).1 from hu)
    refine ⟨he.uuids hb, fun call' hc => ?_⟩
    rw [(evolves_code (t := .goneRemove (b :: bs)) (fun _ _ _ => nofun)).2 _ _ hc] at hdial
    cases hdial
    rfl

end Handed

/-! ## Locks -/

section Locks

variable {w : World} {env : Env} {t : Task} {call : CallId}

theorem Locked.initial : Locked World.initial := fun _ _ => ⟨rfl, rfl⟩

/-- The entry of a call that has one is assigned to. -/
theorem Locked.incoming (h : Locked w) {old new : IncomingCall}
    (hget : w.incomingCalls.get call = some old) :
    Locked ((Change.incomingCall call new).apply w) := by
  intro call' hnone
  obtain ⟨hi, hf⟩ := h call' hnone
  refine ⟨?_, hf⟩
  show (w.incomingCalls.set call new).get call' = none
  rw [Effect.Dict.get_set_of_ne]
  · exact hi
  · rintro rfl
    rw [hget] at hi
    cases hi

/-- The fallback of a call that has a lock is assigned to. -/
theorem Locked.fallback (h : Locked w) (hlock : w.callLocks.get call ≠ none)
    (state : PSTNFallback) : Locked ((Change.fallback call state).apply w) := by
  intro call' hnone
  obtain ⟨hi, hf⟩ := h call' hnone
  refine ⟨hi, ?_⟩
  show (w.pstnFallbacks.set call state).get call' = none
  rw [Effect.Dict.get_set_of_ne]
  · exact hf
  · rintro rfl
    exact hlock hnone

/-- A call that has an entry has a lock. -/
theorem Locked.of_incoming (h : Locked w) {incoming : IncomingCall}
    (hget : w.incomingCalls.get call = some incoming) : w.callLocks.get call ≠ none := by
  intro hnone
  rw [(h call hnone).1] at hget
  cases hget

/-- A call that has a fallback has a lock. -/
theorem Locked.of_fallback (h : Locked w) {state : PSTNFallback}
    (hget : w.pstnFallbacks.get call = some state) : w.callLocks.get call ≠ none := by
  intro hnone
  rw [(h call hnone).2] at hget
  cases hget

theorem Locked.fallbackCancelled (h : Locked w) (hlock : w.callLocks.get call ≠ none) :
    Locked (w.fallbackCancelled call) := h.fallback hlock .cancelled

theorem Locked.cancelPSTNFallback (h : Locked w) (call : CallId) :
    Locked (cancelPSTNFallback call env w).2 := by
  rcases cancelPSTNFallback_cases env (w := w) call with
    ⟨r, hw, -⟩ | ⟨timer, hget, hw⟩ | ⟨c, e, -, hw⟩ | ⟨c, hget, hw⟩ | ⟨hget, hw⟩ <;> rw [hw]
  · exact h
  · exact Locked.fallback (w := (Change.timerStopped timer).apply w) h (h.of_fallback hget) _
  · exact h
  · exact Locked.fallback (w := w.noted (.hungUp c)) h (h.of_fallback hget) _
  · exact h.fallbackCancelled (h.of_fallback hget)

theorem Locked.cancelPushMobile (h : Locked w) (env : Env) (call : CallId) :
    Locked (cancelPushMobile call env w).2 := by
  rcases cancelPushMobile_cases env (w := w) call with
    ⟨hw, -⟩ | ⟨_, _, _, _, hw⟩ | ⟨push, hget, _, hw⟩ | ⟨push, hget, hw⟩ <;> rw [hw]
  · exact h
  · exact h
  · exact Locked.incoming (w := w.noted _) h hget
  · exact h.incoming hget

theorem Locked.completePendingPushMobile (h : Locked w) (call : CallId) :
    Locked (completePendingPushMobile call env w).2 := by
  rcases completePendingPushMobile_cases env (w := w) call with
    ⟨hw, -⟩ | ⟨push, hget | hget, hw⟩ <;> rw [hw]
  · exact h
  · exact h.incoming hget
  · exact h.incoming hget

theorem Locked.pruneCallState (h : Locked w) (b : BridgeUuid) :
    Locked (pruneCallState b env w).2 := by
  cases ho : w.originCallIdByBridgeUuid.get b with
  | none =>
    rw [pruneCallState_none ho]
    exact h
  | some call =>
    rw [pruneCallState_some ho]
    intro call' hnone
    have hnone : (w.callLocks.pop call).get call' = none := hnone
    show (w.incomingCalls.pop call).get call' = none ∧ (w.pstnFallbacks.pop call).get call' = none
    rw [Effect.Dict.get_pop] at hnone ⊢
    rw [Effect.Dict.get_pop]
    split
    · exact ⟨rfl, rfl⟩
    · rename_i hne
      rw [if_neg hne] at hnone
      exact h call' hnone

theorem Locked.sendPush (h : Locked w) (r : PushRequest) : Locked (sendPush r env w).2 := by
  rw [sendPush_eq]
  intro call hnone
  have hnone : (w.callLocks.setdefault r.originCallId (w.objects + 1)).get call = none := hnone
  show (w.incomingCalls.set r.originCallId _).get call = none ∧ w.pstnFallbacks.get call = none
  rw [Effect.Dict.get_setdefault] at hnone
  by_cases hcall : call = r.originCallId
  · rw [if_pos hcall] at hnone
    cases hnone
  · rw [if_neg hcall] at hnone
    rw [Effect.Dict.get_set_of_ne _ hcall]
    exact h call hnone

theorem Locked.publishPush (h : Locked w) (push : Push) : Locked (publishPush push env w).2 := by
  rcases publishPush_cases env (w := w) push with hw | ⟨⟨_, hget⟩, hw | hw⟩ <;> rw [hw]
  · exact h
  · exact h.incoming hget
  · exact Locked.fallback (w := Change.object.apply (w.published push))
      (h.incoming hget) (h.of_incoming hget) _

theorem Locked.joinBridge (h : Locked w) (c : ChannelId) (b : BridgeUuid) :
    Locked (joinBridge c b env w).2 := by
  rcases joinBridge_cases env (w := w) c b with ⟨hw, -⟩ | ⟨call, -, hw⟩ <;> rw [hw]
  · exact h
  · have h : Locked ((Change.named b).apply w) := h
    rw [after_pure_world]
    rcases joinFallback_cases env (w := (Change.named b).apply w) c call with
      ⟨hget, hw⟩ | hw | ⟨hw, -⟩ <;> rw [hw]
    · exact h.fallback (h.of_fallback hget) _
    · exact h.cancelPSTNFallback call
    · exact h

theorem Locked.fallbackCommit (h : Locked w) (timer : ℕ) (call : CallId) :
    Locked (fallbackCommit timer call env w).2 := by
  rcases fallbackCommit_cases env (w := w) timer call with hw | ⟨c, hget, -, hw⟩ <;> rw [hw]
  · exact h
  · have ho : Locked (w.originated timer call c) := h
    rcases legOriginated_cases env (w := w) timer call c with
      ⟨e, -, hl⟩ | ⟨w', hcancel, hl⟩ <;> rw [hl]
    · exact ho
    · have hpush := ho.cancelPushMobile env call
      have hkept : w'.pstnFallbacks = w.pstnFallbacks := by
        have := Changes.untouched (f := World.pstnFallbacks) (fun w' k hk => ?_)
          (madeOf_cancelPushMobile (K := Change.CancelsPush) env call (fun _ h => h)
            (w.originated timer call c)).1
        · rw [hcancel] at this
          exact this
        · cases k <;> first | rfl | exact hk.elim
      rw [hcancel] at hpush
      exact hpush.fallback (hpush.of_fallback (hkept ▸ hget)) _

/-- Every section keeps the locks of the calls that need one. -/
theorem Locked.code (h : Locked w) : Locked (t.code env w).2 := by
  cases t with
  | sendPush r => exact h.sendPush r
  | publishPush push => exact h.publishPush push
  | joinBridge c b => exact h.joinBridge c b
  | fallbackCommit timer call => exact h.fallbackCommit timer call
  | onContactDialed b =>
    show Locked (onContactDialed b env w).2
    rcases onContactDialed_cases env (w := w) b with hw | ⟨call, -, hw⟩ <;> rw [hw]
    · exact h
    · exact h.cancelPSTNFallback call
  | joinCancel b call =>
    show Locked (joinCancel b call env w).2
    rw [joinCancel_world]
    exact h.cancelPushMobile env call
  | joinPrune b =>
    rw [show (Task.code (.joinPrune b) env w).2 = _ from after_pure_world _ _]
    exact h.pruneCallState b
  | gonePrune b bs =>
    rw [show (Task.code (.gonePrune b bs) env w).2 = _ from after_pure_world _ _]
    exact h.pruneCallState b
  | goneFallback b call bs =>
    rw [show (Task.code (.goneFallback b call bs) env w).2 = _ from after_pure_world _ _]
    exact h.cancelPSTNFallback call
  | gonePush b call bs =>
    rw [show (Task.code (.gonePush b call bs) env w).2 = _ from after_pure_world _ _]
    exact h.cancelPushMobile env call
  | cancelPush call =>
    rw [show (Task.code (.cancelPush call) env w).2 = _ from after_pure_world _ _]
    exact h.cancelPushMobile env call
  | completePush call =>
    rw [show (Task.code (.completePush call) env w).2 = _ from after_pure_world _ _]
    exact h.completePendingPushMobile call
  | goneScan c calls =>
    cases calls with
    | nil => exact h
    | cons call calls =>
      rw [show (Task.code (.goneScan c (call :: calls)) env w).2 = _ from after_pure_world _ _]
      rcases legGone_cases env (w := w) c call with ⟨hw, -⟩ | ⟨hget, hw⟩ <;> rw [hw]
      · exact h
      · exact h.fallbackCancelled (h.of_fallback hget)
  | pstnFallback timer call =>
    show Locked (pstnFallback timer call env w).2
    rcases pstnFallback_cases env (w := w) timer call with hw | ⟨⟨_, hget⟩, hw⟩ <;> rw [hw]
    · exact h
    · exact h.fallback (h.of_fallback hget) _
  | fallbackAbort call =>
    show Locked (fallbackAbort call env w).2
    rcases fallbackAbort_cases env (w := w) call with hw | ⟨hget, hw⟩ <;> rw [hw]
    · exact h
    · exact h.fallbackCancelled (h.of_fallback hget)
  | _ =>
    refine Changes.invariant (I := Locked) (fun w' k hk hw' => ?_) (Task.madeOf_may _ env w).1 h
    cases k <;> first | exact hw' | exact hk.elim

end Locks

/-! ## Runs -/

/-- The dials are known, the tasks know their calls, and the calls have their locks. -/
abbrev DialsTracked (s : Sys) : Prop := Holds (fun w => DialsKnown w ∧ Locked w) Task.Looked s

theorem reachable_dials {s : Sys} (h : machine.Reachable s) : DialsTracked s := by
  refine h.invariant_along (fun s hs => ?_) fun s a s' hr hI _ hs => ?_
  · rw [show s = Sys.start from hs]
    exact ⟨⟨.initial, .initial⟩, by intro t ht; cases ht⟩
  · have hreg := (reachable_registered hr).1
    obtain ⟨t, rfl, ht, rfl⟩ | ⟨timer, call, rfl, -, rfl⟩ | ⟨t, env, rfl, ht, hp, rfl⟩ :=
      step_cases hs
    · refine ⟨hI.1, fun u hu => ?_⟩
      rcases List.mem_cons.mp hu with rfl | hu
      · exact looked_arrives ht
      · exact hI.2 u hu
    · refine ⟨⟨⟨hI.1.1.registered, hI.1.1.unpruned⟩, hI.1.2⟩, fun u hu => ?_⟩
      rcases List.mem_cons.mp hu with rfl | hu
      · intro b call hdial
        cases hdial
      · exact hI.2 u hu
    · refine ⟨⟨hI.1.1.code hp, hI.1.2.code⟩, fun u hu => ?_⟩
      rcases List.mem_append.mp hu with hu | hu
      · exact (hI.2 u (List.mem_of_mem_erase hu)).evolves (evolves_section hp)
      · exact looked_new hreg (hI.2 t ht) hp hu

end Calld.DialMobile
