/-
# Hangups end the transfer

The hangup of a channel ends its transfer, or leaves it stored with the same parties in the
same phase (`hangup_alike`).  One party decides: the recipient once it has been called, and the
transferred channel before.  Its hangup ends the transfer in every state but those of a
transfer that has not started, and so the order of the hangups does not matter.
-/
import Calld.Transfers.Totality

namespace Calld.Transfers

open Effect Effect.Program TransfersStasis TransferState
open AriHelpers (StartArgs)

variable {refusal : Prop} {env : Env} {I : Set TransferId} {s s' s₀ : System}
  {m m' m'' : Memory} {t t' : Transfer} {id : TransferId} {c : ChannelId} {role : Role}

/-! ## What acts take away -/

/-- The end of the transfer has been announced since, and its initiator is not locked. -/
structure Concluded (t : Transfer) (m m' : Memory) : Prop where
  free : t.initiatorCall ∉ m'.lockedCalls
  announced : ∃ evs n, m'.trace = m.trace ++ evs ∧ .notified n ∈ evs ∧ n.kind = .ended ∧
    n.transfer.id = t.id

/-- Acts unlock initiators and remove transfers that they conclude; they lock no initiator and
store no new transfer. -/
structure Thinned (m m' : Memory) : Prop where
  trace : m.trace <+: m'.trace
  locked : m'.lockedCalls ⊆ m.lockedCalls
  unborn : ∀ id, m.records id = none → m'.records id = none
  same : ∀ id t t', m.records id = some t → m'.records id = some t' → t.Same t'
  listed : ∀ id, id ∈ m.index → m'.records id ≠ none → id ∈ m'.index
  concluded : ∀ id t, t.id = id → m.records id = some t → m'.records id = none → Concluded t m m'

/-- The same transfers are stored and listed. -/
theorem Thinned.of_eq (htrace : m.trace <+: m'.trace) (hlocked : m'.lockedCalls ⊆ m.lockedCalls)
    (hrecords : m'.records = m.records)
    (hlisted : ∀ id, id ∈ m.index → m.records id ≠ none → id ∈ m'.index) : Thinned m m' where
  trace := htrace
  locked := hlocked
  unborn id h := by rw [hrecords, h]
  same id t t' h h' := by
    rw [hrecords, h] at h'
    exact Option.some.inj h' ▸ .rfl
  listed id h hne := hlisted id h (by rwa [hrecords] at hne)
  concluded id t _ h h' := by
    rw [hrecords, h] at h'
    cases h'

theorem Thinned.trans (h : Thinned m m') (h' : Thinned m' m'') : Thinned m m'' where
  trace := h.trace.trans h'.trace
  locked := h'.locked.trans h.locked
  unborn id hn := h'.unborn id (h.unborn id hn)
  same id t t'' ht ht'' := by
    cases hr : m'.records id with
    | none =>
      rw [h'.unborn id hr] at ht''
      cases ht''
    | some t' => exact (h.same id t t' ht hr).trans (h'.same id t' t'' hr ht'')
  listed id hi hne := by
    refine h'.listed id (h.listed id hi fun hn => hne (h'.unborn id hn)) hne
  concluded id t hid ht hn := by
    obtain ⟨tail, htail⟩ := h'.trace
    cases hr : m'.records id with
    | none =>
      obtain ⟨hfree, evs, n, htrace, hev, hkind, hn⟩ := h.concluded id t hid ht hr
      refine ⟨fun hlock => hfree (h'.locked hlock), evs ++ tail, n, ?_, ?_, hkind, hn⟩
      · rw [← htail, htrace, List.append_assoc]
      · exact List.mem_append_left _ hev
    | some t' =>
      have same := h.same id t t' ht hr
      obtain ⟨evs', hevs'⟩ := h.trace
      obtain ⟨hfree, evs, n, htrace, hev, hkind, hn⟩ :=
        h'.concluded id t' (same.id.trans hid) hr hn
      refine ⟨same.initiatorCall ▸ hfree, evs' ++ evs, n, ?_, ?_, hkind, hn.trans same.id⟩
      · rw [htrace, ← hevs', List.append_assoc]
      · exact List.mem_append_right _ hev

theorem Act.thinned (h : Act refusal id m m') : Thinned m m' := by
  have trace : m.trace <+: m'.trace := by
    have move : Move refusal False m m' := .act h
    exact move.trace
  cases h with
  | indexed nodup others keeps =>
    refine .of_eq trace subset_rfl rfl fun j hj hne => ?_
    by_cases hjid : j = id
    · subst hjid
      exact keeps hj hne
    · exact (others j hjid).mpr hj
  | called | announced | lateAborted => exact .of_eq trace subset_rfl rfl fun _ h _ => h
  | kept | aborted => exact .of_eq trace (Finset.erase_subset _ _) rfl fun _ h _ => h
  | @updated t t' p p' stored phase phase' next same own shaped =>
    refine ⟨trace, subset_rfl, fun j hj => ?_, fun j u u' hu hu' => ?_, fun _ h _ => h,
      fun j u _ hu hn => ?_⟩
    all_goals simp only [Memory.log_records, Memory.store_records, Function.update_apply, own] at *
    · split
      next heq =>
        subst heq
        rw [stored] at hj
        cases hj
      next => exact hj
    · split at hu'
      next heq =>
        subst heq
        cases hu'
        rw [stored] at hu
        exact Option.some.inj hu ▸ same
      next =>
        rw [hu] at hu'
        exact Option.some.inj hu' ▸ .rfl
    · split at hn
      · cases hn
      · rw [hu] at hn
        cases hn
  | @finished t p evs n stored phase hp allowed kind about =>
    refine ⟨trace, Finset.erase_subset _ _, fun j hj => ?_, fun j u u' hu hu' => ?_,
      fun _ h _ => h, fun j u hid hu hn => ?_⟩
    all_goals simp only [Memory.log_records, Memory.forget_records, Memory.unlock_records,
      Function.update_apply] at *
    · split
      · rfl
      · exact hj
    · split at hu'
      · cases hu'
      · rw [hu] at hu'
        exact Option.some.inj hu' ▸ .rfl
    · split at hn
      next heq =>
        subst heq
        obtain rfl : t = u := Option.some.inj (stored.symm.trans hu)
        exact ⟨Finset.notMem_erase _ _, _, n, rfl, by simp, kind, about.trans hid.symm⟩
      next =>
        rw [hu] at hn
        cases hn

/-- **Acts take away**: what is stored after them was stored before, and what is not any more
has been concluded. -/
theorem Acts.thinned (h : Acts refusal I m m') : Thinned m m' := by
  induction h with
  | refl => exact .of_eq List.prefix_rfl subset_rfl rfl fun _ h _ => h
  | tail _ h ih =>
    obtain ⟨id, -, ha⟩ := h
    exact ih.trans ha.thinned

/-! ## A call that raises -/

/-- The stored transfers and their index are those of the memory. -/
def System.Stores (s : System) (m : Memory) : Prop :=
  s.memory.records = m.records ∧ s.memory.index = m.index

theorem System.Stores.of_quiet (h : s.Stores m) (hq : Quiet s s') : s'.Stores m := by
  rw [System.Stores, hq.memory]
  exact h

/-- The writes of global variables and the reads of the index succeed. -/
structure Env.Persists (env : Env) : Prop where
  reads : ∀ X, env.Reads .index X
  writes : ∀ X, env.Writes X

theorem Env.Healthy.persists (h : env.Healthy) : env.Persists :=
  ⟨fun _ => h.readsAll .index, fun _ => h.writesAll⟩

theorem updateCache_persists (h : env.Persists) (t : Transfer) :
    Gives env (fun _ => False) (updateCache t) fun _ => True :=
  updateCache_gives (h.reads _) (h.writes _) t

/-- What follows the record of the call in a decorated method raises before anything is written. -/
theorem transition_rest_kept (h : env.Persists) {tr : Transition}
    {body : Transfer → Code Transfer} {args : StartArgs}
    (hm : t.status.method args tr = .decorated body) :
    Triple env (fun u => Linked env I s₀ t u ∧ u.Stores m) (do
      let result ← onRaise (body t) (abort t t.initiatorCall)
      updateCache result
      return result) (fun _ _ => True) fun _ u => u.Stores m := by
  rintro s ⟨hl, hm₀⟩
  -- the clean-up of the decorator writes nothing
  have aborted : Triple env (fun u => u.Stores m) (abort t t.initiatorCall)
      (fun _ u => u.Stores m) fun _ u => u.Stores m := fun _ hu => hu
  have rest (t' : Transfer) : Triple env (fun _ => True) (do
      updateCache t'
      return t') (fun _ _ => True) fun _ u => u.Stores m := by
    have cached := updateCache_persists h t'
    refine Triple.bind (Q := fun _ _ => True) ?_ fun _ => Triple.pure fun _ _ => trivial
    exact cached.triple.weaken (fun _ h => h) (fun _ _ h => h) fun _ _ => False.elim
  have raised : Triple env (fun u => u = s) (onRaise (body t) (abort t t.initiatorCall))
      (fun _ _ => True) fun _ u => u.Stores m := by
    rcases hl.link with hst | ⟨he, -, -⟩
    · have hw := hl.after.wellStored
      obtain ⟨p, hp⟩ := (hw.stands hst).phase
      have body_triple : Concludes env p t s (body t) :=
        method_concludes hp (hw.stands hst).shaped hm
      have talked : Triple env (fun u => u = s) (body t) (fun _ _ => True)
          fun _ u => u.Stores m :=
        body_triple.run_state ((talks p t.id).refl s) (fun _ _ _ => trivial)
          fun e u hu => ⟨hu.records.trans hm₀.1, hu.index.trans hm₀.2⟩
      exact talked.onRaise fun _ => aborted
    · have idle : Triple env (fun u => u = s) (body t) (fun _ _ => True)
          fun _ u => u.Stores m := by
        rcases ended_method he hm with hb | hb
        · rw [hb]
          exact Triple.pure fun _ _ => trivial
        · rw [hb]
          exact Triple.throw fun u hu => hu ▸ hm₀
      exact idle.onRaise fun _ => aborted
  exact (raised.bind fun t' => rest t') s rfl

/-- **A call that raises leaves the stored transfers as they are**, when ARI accepts the writes. -/
theorem call_kept (h : env.Persists) (tr : Transition) (t : Transfer) :
    Triple env (fun u => Linked env I s₀ t u ∧ u.Stores m) (call tr t) (fun _ _ => True)
      fun _ u => u.Stores m := by
  unfold call callWith
  cases hm : t.status.method ⟨"", "", .object [], none⟩ tr with
  | missing => exact Triple.throw fun _ h => h.2
  | plain body =>
    rw [plain_method hm]
    have silence : Within env quiet (fun _ => True) (playSilence t) :=
      ((channelsDo_within env.faults_any _ _).ignoring_rest.weaken fun _ _ => trivial).bind
        fun _ => .pure _
    exact (silence.triple (P := (·.Stores m)) fun _ _ hs hq => hs.of_quiet hq).weaken
      (fun _ h => h.2) (fun _ _ _ => trivial) fun _ _ h => h.1
  | decorated body =>
    unfold transition
    refine (Triple.look (Q := fun _ u => Linked env I s₀ t u ∧ u.Stores m)
      fun _ h => h).bind fun flag => ?_
    cases flag with
    | false => exact Triple.throw fun _ h => h.2
    | true =>
      exact Triple.bind (Q := fun _ u => Linked env I s₀ t u ∧ u.Stores m)
        (Triple.change fun u hu => ⟨hu.1.called t.status tr, hu.2⟩)
        fun _ => transition_rest_kept h hm

/-! ## What a hangup leaves -/

/-- Neither the parties nor the phase of the transfer have changed. -/
structure Transfer.Alike (t t' : Transfer) : Prop where
  transferredCall : t'.transferredCall = t.transferredCall
  initiatorCall : t'.initiatorCall = t.initiatorCall
  recipientCall : t'.recipientCall = t.recipientCall
  phase : t'.status.phase = t.status.phase

namespace Transfer.Alike

theorem refl (t : Transfer) : t.Alike t := ⟨rfl, rfl, rfl, rfl⟩

theorem trans {t'' : Transfer} (h : t.Alike t') (h' : t'.Alike t'') : t.Alike t'' :=
  ⟨h'.transferredCall.trans h.transferredCall, h'.initiatorCall.trans h.initiatorCall,
    h'.recipientCall.trans h.recipientCall, h'.phase.trans h.phase⟩

theorem sameRole (h : t.Alike t') (c : ChannelId) : t'.role c = t.role c := by
  simp only [Transfer.role, h.transferredCall, h.initiatorCall, h.recipientCall]

theorem sameNames (h : t.Alike t') (c : ChannelId) : t'.names c = t.names c := by
  rw [← Transfer.role_isSome, ← Transfer.role_isSome, h.sameRole]

end Transfer.Alike

/-- The edge of a hangup leads to the end, or leaves parties and phase. -/
theorem hangup_results {g : Target} (hg : t.status.target (hangupTransition role) = some g)
    (hr : g.Results t t') : t'.status = .ended ∨ t.Alike t' := by
  have goto (st : Status) (hst : st = .ended ∨ st.phase = t.status.phase)
      (h : t' = fromState st t) : t'.status = .ended ∨ t.Alike t' := by
    subst h
    exact hst.imp id fun h => ⟨rfl, rfl, rfl, h⟩
  cases hst : t.status <;> rw [hst] at hg goto <;> cases role <;> cases hg
  all_goals first
    | exact goto .ended (.inl rfl) hr
    | exact goto .abandoned (.inr rfl) hr
    | skip
  case ringback.initiator =>
    rcases hr with rfl | rfl
    · exact .inr ⟨rfl, rfl, rfl, by rw [hst]; rfl⟩
    · exact .inl rfl
  all_goals
    obtain rfl := hr
    exact .inr ⟨rfl, rfl, rfl, rfl⟩

/-- The transfer has been removed, or is stored with the same parties in the same phase. -/
def Leaves (t : Transfer) (m : Memory) : Prop :=
  ∀ t', m.records t.id = some t' → t.Alike t'

/-- A state object that has ended is not stored. -/
theorem Linked.removed (h : Linked env I s₀ t s) (he : t.status = .ended) :
    s.memory.records t.id = none := by
  rcases h.link with hst | ⟨-, hn, -⟩
  · obtain ⟨p, hp⟩ := (h.after.wellStored.stands hst).phase
    rw [he] at hp
    cases hp
  · exact hn

/-- A state object that has not ended is stored. -/
theorem Linked.stored (h : Linked env I s₀ t s) (he : t.status ≠ .ended) :
    s.memory.records t.id = some t := by
  rcases h.link with hst | ⟨hend, -, -⟩
  · exact hst
  · exact absurd hend he

/-- Whether the hangup transition returns or raises. -/
theorem hangup_call_leaves (h : env.Healthy) (role : Role) (hst : s.memory.records t.id = some t) :
    Triple env (fun u => Linked env I s₀ t u ∧ u.Stores s.memory) (call (hangupTransition role) t)
      (fun _ u => Leaves t u.memory) fun _ u => Leaves t u.memory := by
  have kept {u : System} (hu : u.Stores s.memory) : Leaves t u.memory := by
    intro t' ht'
    rw [hu.1, hst] at ht'
    exact Option.some.inj ht' ▸ .refl t
  have raised : Triple env (fun u => Linked env I s₀ t u ∧ u.Stores s.memory)
      (call (hangupTransition role) t) (fun _ _ => True) fun _ u => u.Stores s.memory :=
    call_kept h.persists _ t
  cases hg : t.status.target (hangupTransition role) with
  | none =>
    exact ((call_unimplemented hg).and raised).weaken (fun _ h => ⟨h.1, h⟩)
      (fun _ _ h => h.1.elim) fun _ _ h => kept h.2
  | some g =>
    have called : Triple env (Linked env I s₀ t) (call (hangupTransition role) t)
        (fun t' u => Called env I s₀ t t' u ∧ g.Results t t')
        fun _ u => Aborted env I s₀ t u ∧ True :=
      call_spec h.faults (h.readsAll .index) h.writesAll hg fun _ _ => trivial
    refine (called.and raised).weaken (fun _ h => ⟨h.1, h⟩) ?_ fun _ _ h => kept h.2
    rintro t' u ⟨⟨hcalled, hres⟩, -⟩ v hv
    have hid : t'.id = t.id := hcalled.same.id
    rcases hangup_results hg hres with hend | halike
    · have gone := hcalled.linked.removed hend
      rw [hid, hv] at gone
      cases gone
    · by_cases hend : t'.status = .ended
      · have gone := hcalled.linked.removed hend
        rw [hid, hv] at gone
        cases gone
      · have stored := hcalled.linked.stored hend
        rw [hid, hv] at stored
        exact Option.some.inj stored ▸ halike

/-! ## The hangup of a channel -/

/-- The dispatch of a hangup to a stored transfer, from what the call of the transition does: the
exceptions that `invalid_event` handles are those that the dispatch does not raise. -/
theorem partyHangup_at {X : Exn → Prop} {Q : Memory → Prop} {E : Exn → Memory → Prop}
    (hw : WellStored s.memory) (hst : s.memory.records t.id = some t)
    (hr : env.Reads (.transfer t.id) X)
    (hread : ∀ e, X e → if isHandled e = true then Q s.memory else E e s.memory)
    (hcall : ∀ u, u.memory = s.memory →
      Triple env (fun v => Linked env {t.id} u t v ∧ v.memory = u.memory)
        (call (hangupTransition role) t) (fun _ v => Q v.memory)
        fun e v => if isHandled e = true then Q v.memory else E e v.memory) :
    Triple env (Quiet s) (publish (partyHangup role t)) (fun _ v => Q v.memory)
      fun e v => E e v.memory := by
  intro u hq
  have hmem : u.memory = s.memory := hq.memory
  have party : Triple env (fun v => v = u) (partyHangup role t) (fun _ v => Q v.memory)
      fun e v => if isHandled e = true then Q v.memory else E e v.memory := by
    refine make_at (I := {t.id}) hr (hmem ▸ hw) (hmem ▸ hst) rfl ?_ fun e v hx hv => ?_
    · have called : Triple env (fun v => Linked env {t.id} u t v ∧ v.memory = u.memory)
          (do let _ ← call (hangupTransition role) t) (fun _ v => Q v.memory)
          fun e v => if isHandled e = true then Q v.memory else E e v.memory :=
        (hcall u hmem).bind fun _ => Triple.pure fun _ h => h
      exact called
    · rw [hv, hmem]
      exact hread e hx
  have published : Triple env (fun v => v = u) (publish (partyHangup role t))
      (fun _ v => Q v.memory) fun e v => E e v.memory := by
    refine (Triple.catching (party.weaken (fun _ h => h) (fun _ _ h => h) ?_)).bind fun _ =>
      Triple.pure fun _ h => h
    intro e v h
    exact h
  exact published u rfl

/-- A hangup that finds its transfer, from what the call of the transition does. -/
theorem hangup_found {Q : Memory → Prop} (henv : env.AnswersReads) (hw : WellStored s.memory)
    (hf : s.asterisk.live.find? (·.names c) = some t)
    (hcall : ∀ role, t.role c = some role → ∀ u, u.memory = s.memory →
      Triple env (fun v => Linked env {t.id} u t v ∧ v.memory = u.memory)
        (call (hangupTransition role) t) (fun _ v => Q v.memory) fun _ v => Q v.memory) :
    Q (hangup c env s).2.memory := by
  have named : (t.role c).isSome = true := (t.role_isSome c).trans (find?_names hf)
  obtain ⟨role, hrole⟩ := Option.isSome_iff_exists.mp named
  have lookup : Triple env (fun u => u = s)
      (catching Exn.isKeyError (StatePersistor.getByChannel c))
      (fun r u => Quiet s u ∧ r = some t) fun _ _ => False := by
    have shown := getByChannel_shown henv.shows hw c
    simp only [List.filter_true] at shown
    refine Triple.catching (shown.run_state (quiet.refl s) ?_ ?_)
    · rintro t' u ⟨hq, hr⟩
      exact ⟨hq, hr.symm.trans hf⟩
    · rintro e u ⟨-, hn, -⟩
      exact absurd (hf.symm.trans hn) (by simp)
  have dispatched : Triple env (fun u => u = s) (hangup c) (fun _ v => Q v.memory)
      fun _ v => Q v.memory := by
    unfold hangup
    refine (lookup.weaken (fun _ h => h) (fun _ _ h => h) fun _ _ => False.elim).bind fun r =>
      Triple.of_fact ?_
    rintro rfl
    simp only [roleOf, hrole]
    refine partyHangup_at (X := fun _ => False) hw
      (hw.records_of_live (List.mem_of_find?_eq_some hf)) (henv.reads _) (fun _ => False.elim)
      fun u hu => (hcall role hrole u hu).weaken (fun _ h => h) (fun _ _ h => h) fun e v h => ?_
    split <;> exact h
  exact dispatched.final rfl

/-- A hangup that finds no transfer does nothing. -/
theorem hangup_unknown (henv : env.AnswersReads) (hw : WellStored s.memory)
    (hf : s.asterisk.live.find? (·.names c) = none) :
    (hangup c env s).2.memory = s.memory := by
  have lookup : Triple env (fun u => u = s)
      (catching Exn.isKeyError (StatePersistor.getByChannel c))
      (fun r u => u.memory = s.memory ∧ r = none) fun _ u => u.memory = s.memory := by
    have shown := getByChannel_shown henv.shows hw c
    simp only [List.filter_true] at shown
    refine Triple.catching (shown.run_state (quiet.refl s) ?_ ?_)
    · rintro t' u ⟨-, hr⟩
      exact absurd (hf.symm.trans hr) (by simp)
    · rintro e u ⟨hq, -, rfl⟩
      exact ⟨hq.memory, rfl⟩
  have idle : Triple env (fun u => u = s) (hangup c) (fun _ u => u.memory = s.memory)
      fun _ u => u.memory = s.memory := by
    unfold hangup
    refine lookup.bind fun r => Triple.of_fact ?_
    rintro rfl
    exact Triple.pure fun _ h => h
  exact idle.final rfl

/-! ## One hangup -/

/-- What is stored was stored before, with the same parties and in the same phase, and what is
listed was listed. -/
structure Retained (m m' : Memory) : Prop where
  thinned : Thinned m m'
  alike : ∀ id t t', m.records id = some t → m'.records id = some t' → t.Alike t'
  unlisted : ∀ id, id ∈ m'.index → id ∈ m.index

theorem Retained.of_eq (h : m' = m) : Retained m m' := by
  subst h
  refine ⟨.of_eq List.prefix_rfl subset_rfl rfl fun _ h _ => h, fun id t t' ht ht' => ?_,
    fun _ h => h⟩
  rw [ht] at ht'
  exact Option.some.inj ht' ▸ .refl t

theorem Retained.trans (h : Retained m m') (h' : Retained m' m'') : Retained m m'' where
  thinned := h.thinned.trans h'.thinned
  alike id t t'' ht ht'' := by
    cases hr : m'.records id with
    | none =>
      rw [h'.thinned.unborn id hr] at ht''
      cases ht''
    | some t' => exact (h.alike id t t' ht hr).trans (h'.alike id t' t'' hr ht'')
  unlisted id hi := h.unlisted id (h'.unlisted id hi)

/-- The id of a listed transfer is in the index. -/
theorem WellStored.mem_index (hw : WellStored s.memory) (ht : t ∈ s.asterisk.live) :
    t.id ∈ s.memory.index := by
  obtain ⟨id, hid, hr⟩ := Asterisk.mem_live.mp ht
  rw [(hw.stands hr).id]
  exact hid

/-- **A hangup keeps the transfers that it does not end as they are**, apart from their state
within the phase. -/
theorem hangup_keeps (h : env.Healthy) (hw : WellStored s.memory) (c : ChannelId) :
    Retained s.memory (hangup c env s).2.memory := by
  have henv : env.AnswersReads := h.reads
  cases hf : s.asterisk.live.find? (·.names c) with
  | none => exact .of_eq (hangup_unknown henv hw hf)
  | some t =>
    have hlive := List.mem_of_find?_eq_some hf
    have hst := hw.records_of_live hlive
    obtain ⟨role, -, -, after⟩ := hangup_first henv hw hf
    have hlocal : Local {t.id} s.memory (hangup c env s).2.memory := Acts.isLocal after.acts
    have leaves : Leaves t (hangup c env s).2.memory :=
      hangup_found (Q := Leaves t) henv hw hf fun role _ u hu =>
        (hangup_call_leaves h role hst).pre fun v hv =>
          ⟨hv.1, congrArg Memory.records (hv.2.trans hu), congrArg Memory.index (hv.2.trans hu)⟩
    refine ⟨Acts.thinned after.acts, fun id u u' hu hu' => ?_, fun id hid => ?_⟩
    · by_cases heq : id = t.id
      · subst heq
        obtain rfl : t = u := Option.some.inj (hst.symm.trans hu)
        exact leaves u' hu'
      · rw [hlocal.records id heq, hu] at hu'
        exact Option.some.inj hu' ▸ .refl u
    · by_cases heq : id = t.id
      · subst heq
        exact hw.mem_index hlive
      · exact (hlocal.index id heq).mp hid

/-! ## The party that decides -/

/-- The recipient, once it has been called, and the transferred channel before. -/
def Transfer.decisive (t : Transfer) : ChannelId := t.recipientCall.getD t.transferredCall

theorem Transfer.Alike.decisive (h : t.Alike t') : t'.decisive = t.decisive := by
  rw [Transfer.decisive, h.recipientCall, h.transferredCall, Transfer.decisive]

/-- The recipient is neither the transferred channel nor the initiator. -/
def Transfer.RecipientApart (t : Transfer) : Prop :=
  ∀ c, t.recipientCall = some c → c ≠ t.transferredCall ∧ c ≠ t.initiatorCall

theorem Transfer.names_decisive (t : Transfer) : t.names t.decisive = true := by
  unfold Transfer.decisive Transfer.names
  cases t.recipientCall <;> simp

/-- The edge for the hangup of the deciding party leads to the end, and no missing channel stops
the transition. -/
theorem decisive_target (h : t.Stands id) (started : t.status.phase ≠ some .initial)
    (apart : t.RecipientApart) :
    ∃ role, t.role t.decisive = some role ∧
      t.status.target (hangupTransition role) = some (.goto .ended) ∧
        t.status.steadfast (hangupTransition role) = true := by
  obtain ⟨p, hp⟩ := h.phase
  cases hr : t.recipientCall with
  | none =>
    have hrole : t.role t.decisive = some .transferred := by
      rw [Transfer.decisive, hr]
      exact t.role_transferred
    have waiting : t.status.phase ≠ some .calling := fun hc => by
      have called := h.shaped.mpr hc
      rw [hr] at called
      cases called
    refine ⟨.transferred, hrole, ?_⟩
    cases hst : t.status <;> rw [hst] at started waiting hp <;>
      first | exact ⟨rfl, rfl⟩ | exact absurd rfl started | exact absurd rfl waiting | cases hp
  | some r =>
    obtain ⟨ht, hi⟩ := apart r hr
    have hrole : t.role t.decisive = some .recipient := by
      rw [Transfer.decisive, hr]
      exact Transfer.role_recipient hr ht hi
    have calling : t.status.phase = some .calling := h.shaped.mp (by rw [hr]; rfl)
    refine ⟨.recipient, hrole, ?_⟩
    cases hst : t.status <;> rw [hst] at calling <;> first | exact ⟨rfl, rfl⟩ | cases calling

/-- **The hangup of the deciding party ends the transfer.** -/
theorem hangup_decides (h : env.Healthy) (hw : WellStored s.memory)
    (started : t.status.phase ≠ some .initial) (apart : t.RecipientApart)
    (hf : s.asterisk.live.find? (·.names t.decisive) = some t) :
    (hangup t.decisive env s).2.memory.records t.id = none := by
  have henv : env.AnswersReads := h.reads
  have hst := hw.records_of_live (List.mem_of_find?_eq_some hf)
  obtain ⟨role, hrole, htarget, hsteadfast⟩ := decisive_target (hw.stands hst) started apart
  refine hangup_found (Q := fun m => m.records t.id = none) henv hw hf fun role' hrole' u hu => ?_
  obtain rfl : role = role' := Option.some.inj (hrole.symm.trans hrole')
  refine (call_steadfast h htarget hsteadfast).weaken (fun _ h => h.1) ?_ fun _ _ => False.elim
  rintro t' v ⟨hcalled, hres⟩
  have hend : t'.status = .ended := by
    obtain rfl := hres
    rfl
  exact hcalled.same.id ▸ hcalled.linked.removed hend

/-! ## All the hangups of a transfer -/

/-- ARI finds the channel no more. -/
def Env.Lacks (env : Env) (c : ChannelId) : Prop :=
  ∀ n a r, r.channel? = some c → env.ari n a r = .error .notFound

/-- The hangups of some channels: nothing fails, but the channels that have hung up are gone. -/
def Deliveries : List ChannelId → List (Env × ChannelId) → Prop
  | _, [] => True
  | gone, (env, c) :: ds =>
    env.Healthy ∧ (∀ g ∈ c :: gone, env.Lacks g) ∧ Deliveries (c :: gone) ds

/-- The hangups, one after the other. -/
def afterHangups (ds : List (Env × ChannelId)) (s : System) : System :=
  run (ds.map fun d => (d.1, Op.hangup d.2)) s

section Orders

variable {gone : List ChannelId} {ds : List (Env × ChannelId)}

theorem hangup_wellStored (hw : WellStored s.memory) (c : ChannelId) :
    WellStored (hangup c env s).2.memory := by
  have after : Triple env (fun u => u = s) (hangup c) (fun _ => After env Set.univ s)
      fun _ => After env Set.univ s := (Acting.triple (hangup_acting c)).at_state (.refl hw)
  exact (after.final rfl).wellStored

theorem afterHangups_keeps (hd : Deliveries gone ds) (hw : WellStored s.memory) :
    Retained s.memory (afterHangups ds s).memory := by
  induction ds generalizing gone s with
  | nil => exact .of_eq rfl
  | cons d ds ih =>
    obtain ⟨env, c⟩ := d
    obtain ⟨healthy, -, rest⟩ := hd
    exact (hangup_keeps healthy hw c).trans (ih rest (hangup_wellStored hw c))

/-- The transfer is still listed in its phase, and no other one names its deciding party. -/
def Waits (t : Transfer) (s : System) : Prop :=
  ∃ t' ∈ s.asterisk.live, t'.id = t.id ∧ t.Alike t' ∧
    ∀ u ∈ s.asterisk.live, u.names t.decisive = true → u = t'

theorem Waits.step (h : Waits t s) (healthy : env.Healthy) (hw : WellStored s.memory)
    (c : ChannelId) : Waits t (hangup c env s).2 ∨
      (hangup c env s).2.memory.records t.id = none := by
  obtain ⟨t', ht', hid, halike, hunique⟩ := h
  have kept := hangup_keeps healthy hw c
  have hw' : WellStored (hangup c env s).2.memory := hangup_wellStored hw c
  have hst := hw.records_of_live ht'
  rw [hid] at hst
  cases hr : (hangup c env s).2.memory.records t.id with
  | none => exact .inr rfl
  | some v =>
    have listed : t.id ∈ (hangup c env s).2.memory.index := by
      refine kept.thinned.listed t.id (hid ▸ hw.mem_index ht') ?_
      rw [hr]
      exact Option.some_ne_none v
    have hv : v ∈ (hangup c env s).2.asterisk.live := Asterisk.mem_live.mpr ⟨t.id, listed, hr⟩
    refine .inl ⟨v, hv, (hw'.stands hr).id, halike.trans (kept.alike t.id t' v hst hr), ?_⟩
    intro u hu hnames
    -- before the hangup it was another record of the same transfer
    have hur := hw'.records_of_live hu
    cases hold : s.memory.records u.id with
    | none =>
      rw [kept.thinned.unborn u.id hold] at hur
      cases hur
    | some w =>
      have hwid : w.id = u.id := (hw.stands hold).id
      have hwlive : w ∈ s.asterisk.live :=
        Asterisk.mem_live.mpr ⟨u.id, kept.unlisted u.id (hw'.mem_index hu), hold⟩
      have hwnames : w.names t.decisive = true := by
        rw [← (kept.alike u.id w u hold hur).sameNames]
        exact hnames
      obtain rfl := hunique w hwlive hwnames
      exact hw'.eq_of_live hu hv (hwid.symm.trans (hid.trans (hw'.stands hr).id.symm))

theorem Waits.decided (h : Waits t s) (healthy : env.Healthy) (hw : WellStored s.memory)
    (started : t.status.phase ≠ some .initial) (apart : t.RecipientApart) :
    (hangup t.decisive env s).2.memory.records t.id = none := by
  obtain ⟨t', ht', hid, halike, hunique⟩ := h
  have named : t'.names t.decisive = true := by
    rw [← halike.decisive]
    exact t'.names_decisive
  obtain ⟨v, hf⟩ := Option.isSome_iff_exists.mp
    (List.find?_isSome (p := (·.names t.decisive)).mpr ⟨t', ht', named⟩)
  obtain rfl := hunique v (List.mem_of_find?_eq_some hf) (find?_names hf)
  have apart' : v.RecipientApart := by
    intro c hc
    rw [halike.transferredCall, halike.initiatorCall]
    exact apart c (halike.recipientCall ▸ hc)
  have removed : (hangup v.decisive env s).2.memory.records v.id = none :=
    hangup_decides healthy hw (halike.phase ▸ started) apart' (halike.decisive ▸ hf)
  rw [halike.decisive, hid] at removed
  exact removed

/-- **When the deciding party has hung up, the transfer is not stored any more**, whatever hung up
before and after. -/
theorem afterHangups_removed (hd : Deliveries gone ds) (hw : WellStored s.memory)
    (started : t.status.phase ≠ some .initial) (apart : t.RecipientApart) (h : Waits t s)
    (hin : t.decisive ∈ ds.map Prod.snd) : (afterHangups ds s).memory.records t.id = none := by
  induction ds generalizing gone s with
  | nil => cases hin
  | cons d ds ih =>
    obtain ⟨env, c⟩ := d
    obtain ⟨healthy, -, rest⟩ := hd
    have hw' : WellStored (hangup c env s).2.memory := hangup_wellStored hw c
    have stays (hn : (hangup c env s).2.memory.records t.id = none) :
        (afterHangups ds (hangup c env s).2).memory.records t.id = none :=
      (afterHangups_keeps rest hw').thinned.unborn t.id hn
    by_cases hc : t.decisive = c
    · subst hc
      exact stays (h.decided healthy hw started apart)
    · rcases h.step healthy hw c with hwaits | hn
      · refine ih rest hw' hwaits ?_
        exact (List.mem_cons.mp hin).resolve_left hc
      · exact stays hn

/-- A transfer that has not started ignores the hangups of its parties. -/
theorem hangup_ignored (healthy : env.Healthy) (hw : WellStored s.memory)
    (hst : s.memory.records t.id = some t) (hp : t.status.phase = some .initial)
    (c : ChannelId) : (hangup c env s).2.memory.records t.id = some t := by
  have henv : env.AnswersReads := healthy.reads
  cases hf : s.asterisk.live.find? (·.names c) with
  | none => rw [hangup_unknown henv hw hf, hst]
  | some u =>
    obtain ⟨role, -, -, after⟩ := hangup_first henv hw hf
    have hlocal : Local {u.id} s.memory (hangup c env s).2.memory := Acts.isLocal after.acts
    by_cases heq : t.id = u.id
    · have hu := hw.records_of_live (List.mem_of_find?_eq_some hf)
      obtain rfl : t = u := Option.some.inj (hst.symm.trans (heq ▸ hu))
      refine hangup_found (Q := fun m => m.records t.id = some t) henv hw hf fun role _ v hv => ?_
      have raises : Triple env (Linked env {t.id} v t) (call (hangupTransition role) t)
          (fun _ _ => False) fun _ _ => True :=
        (call_unimplemented (hangup_no_target (hw.stands hst) (.inl hp))).weaken (fun _ h => h)
          (fun _ _ h => h) fun _ _ _ => trivial
      have kept : Triple env (fun w => Linked env {t.id} v t w ∧ w.Stores s.memory)
          (call (hangupTransition role) t) (fun _ _ => True) fun _ w => w.Stores s.memory :=
        call_kept healthy.persists _ t
      refine (raises.and kept).weaken (fun w hw => ?_) (fun _ _ h => h.1.elim) fun _ w hw => ?_
      · have hmem : w.memory = s.memory := hw.2.trans hv
        exact ⟨hw.1, hw.1, congrArg Memory.records hmem, congrArg Memory.index hmem⟩
      · rw [hw.2.1, hst]
    · rw [hlocal.records t.id heq, hst]

theorem afterHangups_ignored (hd : Deliveries gone ds) (hw : WellStored s.memory)
    (hst : s.memory.records t.id = some t) (hp : t.status.phase = some .initial) :
    (afterHangups ds s).memory.records t.id = some t := by
  induction ds generalizing gone s with
  | nil => exact hst
  | cons d ds ih =>
    obtain ⟨env, c⟩ := d
    obtain ⟨healthy, -, rest⟩ := hd
    exact ih rest (hangup_wellStored hw c) (hangup_ignored healthy hw hst hp c)

end Orders

/-! ### Environments without some channels -/

theorem Env.Healthy.without (h : env.Healthy) (gone : List ChannelId) :
    (env.without gone).Healthy where
  ari := by
    intro n a r e he
    simp only [Env.without] at he
    split at he
    · exact (Except.error.inj he).symm
    · exact h.ari he
  reads := h.reads
  writes := h.writes
  ami := h.ami
  bus := h.bus

theorem Env.without_lacks (env : Env) {gone : List ChannelId} (hc : c ∈ gone) :
    (env.without gone).Lacks c := by
  intro n a r hr
  simp [Env.without, hr, hc]

/-- All the channels may be gone from the first hangup on. -/
theorem deliveries_without (h : env.Healthy) {gone gone' cs : List ChannelId}
    (hcs : ∀ c ∈ cs, c ∈ gone') (hgone : ∀ c ∈ gone, c ∈ gone') :
    Deliveries gone (cs.map fun c => (env.without gone', c)) := by
  induction cs generalizing gone with
  | nil => trivial
  | cons c cs ih =>
    have all : ∀ g ∈ c :: gone, g ∈ gone' := by
      intro g hg
      rcases List.mem_cons.mp hg with rfl | hg
      · exact hcs g List.mem_cons_self
      · exact hgone g hg
    exact ⟨h.without gone', fun g hg => Env.without_lacks env (all g hg),
      ih (fun c hc => hcs c (List.mem_cons_of_mem _ hc)) all⟩

/-! ### Every order -/

/-- Whatever the order of the hangups, and however often they are delivered: when those of all
the parties have been processed, the transfer is not stored, its end has been announced and its
initiator is not locked. -/
def EndsInEveryOrder (t : Transfer) (s : System) : Prop :=
  ∀ ds, Deliveries [] ds → (∀ c, t.names c = true → c ∈ ds.map Prod.snd) →
    (afterHangups ds s).memory.records t.id = none ∧
      Concluded t s.memory (afterHangups ds s).memory

/-- The channels of a transfer. -/
def Transfer.parties (t : Transfer) : List ChannelId :=
  t.transferredCall :: t.initiatorCall :: t.recipientCall.toList

theorem Transfer.mem_parties (t : Transfer) (h : t.names c = true) : c ∈ t.parties := by
  simp only [Transfer.names, Bool.or_eq_true, decide_eq_true_eq] at h
  rcases h with (rfl | rfl) | h
  · exact List.mem_cons_self
  · exact List.mem_cons_of_mem _ List.mem_cons_self
  · rw [Transfer.parties, ← h]
    simp

/-- **The hangups of its parties end a transfer, in every order, exactly when it has started.** -/
theorem ends_in_every_order_iff {A : Allowed} (h : Reachable A s) (ht : t ∈ s.asterisk.live)
    (apart : t.RecipientApart)
    (alone : ∀ u ∈ s.asterisk.live, u.names t.decisive = true → u = t) :
    EndsInEveryOrder t s ↔ t.status.phase ≠ some .initial := by
  have hw : WellStored s.memory := h.wellStored
  have hst : s.memory.records t.id = some t := hw.records_of_live ht
  constructor
  · intro hends hp
    have deliveries : Deliveries [] (t.parties.map fun c =>
        ((Env.calm t.id t.initiatorCall).without t.parties, c)) :=
      deliveries_without (Env.calm_healthy _ _) (fun _ h => h) fun _ hc => by cases hc
    obtain ⟨hnone, -⟩ := hends _ deliveries fun c hc => by
      simpa using t.mem_parties hc
    rw [afterHangups_ignored deliveries hw hst hp] at hnone
    cases hnone
  · intro started ds hd hall
    have waits : Waits t s := ⟨t, ht, rfl, .refl t, alone⟩
    have removed : (afterHangups ds s).memory.records t.id = none :=
      afterHangups_removed hd hw started apart waits (hall _ t.names_decisive)
    exact ⟨removed, (afterHangups_keeps hd hw).thinned.concluded t.id t rfl hst removed⟩

/-! ## Two created transfers -/

open Scene

/-- Alice transfers Bob to Carol. -/
def createdRun : System :=
  run [(.calm "first" carol, .create (request bob alice .attended))] .start

theorem createdRun_reachable : Reachable GlobalsWritten createdRun :=
  run_reachable ⟨by decide, Env.calm_writes _ _, trivial⟩

theorem ends_in_every_order_ringback :
    EndsInEveryOrder firstTransfer createdRun ↔ firstTransfer.status.phase ≠ some .initial :=
  ends_in_every_order_iff createdRun_reachable (by decide)
    (by rintro _ ⟨⟩; decide) (by decide)

/-- Alice transfers Bob, but ARI refuses to originate the recipient. -/
def refusedRun : System :=
  run [((Env.calm "first" carol).refusing, .create (request bob alice .attended))] .start

theorem refusedRun_reachable : Reachable GlobalsWritten refusedRun :=
  run_reachable ⟨by decide +kernel, fun _ _ _ => rfl, trivial⟩

/-- What the refused creation has left. -/
def readyTransfer : Transfer :=
  ⟨"first", "user", some "user", bob, alice, none, "first", .ready, .attended⟩

/-- Bob and Alice hang up, and the transfer that could not start is still stored. -/
theorem refused_creation_outlives_channels : ∃ s, Reachable GlobalsWritten s ∧
    readyTransfer ∈ s.asterisk.live ∧ ¬ EndsInEveryOrder readyTransfer s := by
  refine ⟨refusedRun, refusedRun_reachable, by decide +kernel, fun hends => ?_⟩
  have deliveries : Deliveries [] ([bob, alice].map fun c =>
      ((Env.calm "third" carol).without [bob, alice], c)) :=
    deliveries_without (Env.calm_healthy _ _) (fun _ h => h) fun _ hc => by cases hc
  obtain ⟨hnone, -⟩ := hends _ deliveries fun c hc => by
    simpa [Transfer.parties, readyTransfer] using readyTransfer.mem_parties hc
  revert hnone
  decide +kernel

end Calld.Transfers
