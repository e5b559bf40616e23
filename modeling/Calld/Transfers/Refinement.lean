/-
# The code refines the acts

The call of a transition on a state object (`callWith_triple`), in every environment,
changes the memory by acts on behalf of the transfer (`Memory.lean`).  The object is a
stored transfer or one that has just ended (`Link`), and stays so.  The handlers only
look up transfers and call transitions (`Handlers.lean`).
-/
import Calld.Transfers.Memory

namespace Calld.Transfers

open Effect Effect.Program
open AriHelpers (StartArgs)

/-! ## The frames of the code, on the memory -/

theorem Quiet.memory {s s' : System} (h : Quiet s s') : s'.memory = s.memory :=
  Memory.ext h.records h.index h.lockedCalls h.trace

theorem Talks.memory {p : Phase} {id : TransferId} {s s' : System} (h : Talks p id s s') :
    ∃ evs, s'.memory = s.memory.log evs ∧ ∀ e ∈ evs, Says p id e := by
  obtain ⟨hr, hi, hl, -, evs, ht, hsay⟩ := h
  exact ⟨evs, Memory.ext hr hi hl ht, hsay⟩

theorem Announced.memory {p : Phase} {t : Transfer} {s s' : System} (h : Announced p t s s') :
    ∃ evs n, s'.memory = (s.memory.unlock t.initiatorCall).log (evs ++ [.notified n]) ∧
      n.kind = .ended ∧ n.transfer.id = t.id ∧ ∀ e ∈ evs, Says p t.id e := by
  obtain ⟨hr, hi, hl, -, evs, n, ht, hk, ha, hsay⟩ := h
  exact ⟨evs, n, Memory.ext hr hi hl ht, hk, ha, hsay⟩

/-- ARI may refuse to delete a stored transfer. -/
def Env.RefusesDeletion (env : Env) : Prop :=
  ∃ n a id e, env.ari n a (.setGlobalVar (.unsetTransfer id)) = .error e

/-- The code has come from one state to the other by acts on behalf of some transfers. -/
structure After (env : Env) (I : Set TransferId) (s₀ s : System) : Prop where
  acts : Acts env.RefusesDeletion I s₀.memory s.memory
  wellStored : WellStored s.memory

variable {env : Env} {I : Set TransferId} {s₀ s s' : System} {t : Transfer} {m : Memory}

namespace After

theorem steps (h : After env I s₀ s) (hm : Acts env.RefusesDeletion I s.memory s'.memory) :
    After env I s₀ s' :=
  ⟨h.acts.trans hm, hm.wellStored h.wellStored⟩

theorem step (h : After env I s₀ s) {id : TransferId} (hid : id ∈ I)
    (hm : Act env.RefusesDeletion id s.memory s'.memory) : After env I s₀ s' :=
  h.steps (Acts.single hid hm)

theorem of_eq (h : After env I s₀ s) (hm : s'.memory = s.memory) : After env I s₀ s' :=
  h.steps (hm ▸ .refl)

theorem of_quiet (h : After env I s₀ s) (hq : Quiet s s') : After env I s₀ s' := h.of_eq hq.memory

end After

/-! ## The writes -/

/-- The place of a transfer in the index may have been written. -/
def Reindexed (id : TransferId) (m m' : Memory) : Prop :=
  m' = m ∨ ∃ ids, ids.Nodup ∧ (∀ j, j ≠ id → (j ∈ ids ↔ j ∈ m.index)) ∧
    (id ∈ m.index → m.records id ≠ none → id ∈ ids) ∧ m' = m.reindex ids

namespace Reindexed

variable {id : TransferId} {m m' : Memory} {refusal : Prop}

theorem acts (h : Reindexed id m m') (hid : id ∈ I) : Acts refusal I m m' := by
  rcases h with rfl | ⟨ids, hn, ho, hk, rfl⟩
  · exact .refl
  · exact Acts.single hid (.indexed hn ho hk)

theorem records (h : Reindexed id m m') : m'.records = m.records := by
  rcases h with rfl | ⟨ids, -, -, -, rfl⟩ <;> rfl

theorem lockedCalls (h : Reindexed id m m') : m'.lockedCalls = m.lockedCalls := by
  rcases h with rfl | ⟨ids, -, -, -, rfl⟩ <;> rfl

end Reindexed

theorem getIndex_memory :
    Triple env (fun s => s.memory = m) StatePersistor.getIndex
      (fun ids s => s.memory = m ∧ ids = m.index) fun _ s => s.memory = m := by
  have index : Within env quiet (fun _ => True) (StatePersistor.readGlobal .index) :=
    readGlobal_within .index
  have read := (index.triple (P := fun s => s.memory = m)
    fun _ _ hs hq => hq.memory.trans hs).weaken (fun _ h => h) (fun _ _ h => h) fun _ _ => And.left
  exact read.bind fun _ => Triple.look fun s hs => ⟨hs, by rw [← hs]; rfl⟩

theorem setIndex_memory (ids : List TransferId) :
    Triple env (fun s => s.memory = m) (StatePersistor.setIndex ids)
      (fun _ s => ∃ ids', ids'.Perm ids ∧ s.memory = m.reindex ids') fun _ s => s.memory = m := by
  rintro s rfl
  simp only [StatePersistor.setIndex, ari, bind_apply, ask_apply]
  split
  next ha =>
    split at ha <;> cases ha
    exact ⟨env.setOrder ids, env.setOrder_perm ids, rfl⟩
  next ha =>
    split at ha <;> cases ha
    rfl

/-- The transfer is stored, and then indexed unless that fails. -/
theorem upsert_memory (t : Transfer) :
    Triple env (fun s => s.memory = m) (StatePersistor.upsert t)
      (fun _ s => Reindexed t.id ((m.store t).log [.stored t.id]) s.memory ∧
        t.id ∈ s.memory.index)
      fun _ s => s.memory = m ∨ s.memory = (m.store t).log [.stored t.id] := by
  have set : Triple env (fun s => s.memory = m) (StatePersistor.set t)
      (fun _ s => s.memory = (m.store t).log [.stored t.id]) fun _ s => s.memory = m := by
    rintro s rfl
    simp only [StatePersistor.set, ari, record, bind_apply]
    cases ha : env.ari s.tick s.asterisk (.setGlobalVar (.setTransfer t)) with
    | ok a => rfl
    | error e => rfl
  refine (set.weaken (fun _ h => h) (fun _ _ h => h) fun _ _ => .inl).bind fun _ => ?_
  refine (getIndex_memory.weaken (fun _ h => h) (fun _ _ h => h) fun _ _ => .inr).bind
    fun ids => Triple.of_fact ?_
  rintro rfl
  refine (setIndex_memory _).weaken (fun _ h => h) ?_ fun _ _ => .inr
  rintro _ s ⟨ids', hperm, hs⟩
  have hmem (j : TransferId) : j ∈ ids' ↔ j = t.id ∨ j ∈ m.index := by
    rw [hperm.mem_iff, List.mem_insert_iff, List.mem_dedup]
    rfl
  refine ⟨.inr ⟨ids', hperm.nodup_iff.mpr (List.nodup_dedup _).insert, fun j hj => ?_,
    fun _ _ => (hmem _).mpr (.inl rfl), hs⟩, ?_⟩
  · simp [hmem, hj]
  · rw [hs]
    exact (hmem _).mpr (.inl rfl)

/-- What the deletion of a stored transfer leaves. -/
def Memory.removed (m : Memory) (id : TransferId) : Memory :=
  (m.forget id).log (if (m.records id).isSome then [.removed id] else [])

theorem unset_memory (id : TransferId) :
    Triple env (fun s => s.memory = m) (StatePersistor.unset id)
      (fun _ s => s.memory = m.removed id) fun _ s => s.memory = m ∧ env.RefusesDeletion := by
  rintro s rfl
  simp only [StatePersistor.unset, ari, record, bind_apply, look_apply]
  cases ha : env.ari s.tick s.asterisk (.setGlobalVar (.unsetTransfer id)) with
  | error e => exact ⟨rfl, _, _, _, _, ha⟩
  | ok a =>
    dsimp only
    by_cases hs : (s.asterisk.records id).isSome = true
    · simp only [hs, if_true, change_apply]
      simp [Memory.removed, System.memory, hs, Asterisk.apply, Asterisk.write, Memory.forget,
        Memory.log]
    · simp only [hs, Bool.false_eq_true, if_false, pure_apply]
      simp [Memory.removed, System.memory, hs, Asterisk.apply, Asterisk.write, Memory.forget,
        Memory.log]

/-- The transfer is deleted unless ARI refuses, and then taken out of the index unless
that fails. -/
theorem remove_memory (id : TransferId) :
    Triple env (fun s => s.memory = m) (StatePersistor.remove id)
      (fun _ s => Reindexed id (m.removed id) s.memory)
      fun _ s => (s.memory = m ∧ env.RefusesDeletion) ∨ s.memory = m.removed id := by
  refine ((unset_memory id).weaken (fun _ h => h) (fun _ _ h => h) fun _ _ => .inl).bind
    fun _ => ?_
  refine (getIndex_memory.weaken (fun _ h => h) (fun _ _ h => h) fun _ _ => .inr).bind
    fun ids => Triple.of_fact ?_
  rintro rfl
  split
  · refine (setIndex_memory _).weaken (fun _ h => h) ?_ fun _ _ => .inr
    rintro _ s ⟨ids', hperm, hs⟩
    refine .inr ⟨ids', hperm.nodup_iff.mpr ((List.nodup_dedup _).erase id), fun j hj => ?_,
      fun _ h => absurd (by simp [Memory.removed]) h, hs⟩
    rw [hperm.mem_iff, List.mem_erase_of_ne hj, List.mem_dedup]
  · exact Triple.pure fun _ h => .inl h

/-! ### The flag of the state machine lock -/

/-- The frame of the code that does not take or leave the state machine lock. -/
def flagKept : Frame System where
  rel s s' := s'.stateMachineLocked = s.stateMachineLocked
  refl _ := rfl
  trans h h' := h'.trans h

theorem ari_flag (r : AriRequest) : Within env flagKept (fun _ => True) (ari r) := by
  intro s
  unfold ari
  cases env.ari s.tick s.asterisk r <;> exact ⟨rfl, fun _ _ => trivial⟩

theorem quiet_flag {α : Type} {E : Exn → Prop} {q : Code α} (h : Within env quiet E q) :
    Within env flagKept (fun _ => True) q :=
  (h.widen (G := flagKept) fun _ _ hq => hq.stateMachineLocked).weaken fun _ _ => trivial

theorem setIndex_flag (ids : List TransferId) :
    Within env flagKept (fun _ => True) (StatePersistor.setIndex ids) :=
  (Within.ask _).bind fun _ => ari_flag _

theorem upsert_flag (t : Transfer) :
    Within env flagKept (fun _ => True) (StatePersistor.upsert t) :=
  have stored : Within env flagKept (fun _ => True) (record (.stored t.id)) := by
    unfold record
    exact Within.change fun _ => rfl
  have set : Within env flagKept (fun _ => True) (StatePersistor.set t) :=
    (ari_flag _).bind fun _ => stored
  set.bind fun _ => (quiet_flag getIndex_within).bind fun _ => setIndex_flag _

theorem remove_flag (id : TransferId) :
    Within env flagKept (fun _ => True) (StatePersistor.remove id) := by
  unfold StatePersistor.remove StatePersistor.unset
  refine Within.bind ?_ fun _ => (quiet_flag getIndex_within).bind fun ids => ?_
  · refine (Within.look _).bind fun stored => (ari_flag _).bind fun _ => ?_
    split
    · exact Within.change fun _ => rfl
    · exact .pure _
  · split
    · exact setIndex_flag _
    · exact .pure _

/-- A write that keeps the flag, as a contract. -/
theorem flag_triple {α : Type} {q : Code α} (h : Within env flagKept (fun _ => True) q) {b : Bool} :
    Triple env (fun s => s.stateMachineLocked = b) q (fun _ s => s.stateMachineLocked = b)
      fun _ _ => True :=
  (h.triple fun _ _ hs hr => hr.trans hs).weaken (fun _ h => h) (fun _ _ h => h)
    fun _ _ _ => trivial

/-! ### The cache of a state -/

theorem updateCache_of_phase {p : Phase} (h : t.status.phase = some p) :
    updateCache t = StatePersistor.upsert t := by
  cases hst : t.status <;> simp only [updateCache, hst]
  rw [hst] at h
  cases h

theorem updateCache_of_ended (h : t.status = .ended) :
    updateCache t = StatePersistor.remove t.id := by
  simp only [updateCache, h]

/-! ## Calling a transition -/

/-- The state object is the stored transfer, or one that has just ended. -/
inductive Link (t : Transfer) (m : Memory) : Prop
  | stored (h : m.records t.id = some t)
  | gone (ended : t.status = .ended) (h : m.records t.id = none)
      (free : t.initiatorCall ∉ m.lockedCalls)

/-- A transfer that has not started yet stays stored. -/
def Remains (t : Transfer) (m : Memory) : Prop :=
  t.status.phase = some .initial →
    ∃ t', m.records t.id = some t' ∧ t'.initiatorCall = t.initiatorCall

/-- Acts have led to a state in which the state object is linked. -/
structure Linked (env : Env) (I : Set TransferId) (s₀ : System) (t : Transfer) (s : System) :
    Prop where
  after : After env I s₀ s
  flag : s.stateMachineLocked = true
  mem : t.id ∈ I
  link : Link t s.memory

/-- What the code has come to when a transition raises. -/
structure Aborted (env : Env) (I : Set TransferId) (s₀ : System) (t : Transfer) (s : System) :
    Prop where
  after : After env I s₀ s
  remains : Remains t s.memory

/-- What the code has come to when a transition returns. -/
structure Called (env : Env) (I : Set TransferId) (s₀ : System) (t t' : Transfer) (s : System) :
    Prop where
  linked : Linked env I s₀ t' s
  same : t.Same t'
  started : t.status.phase = some .initial → t'.status ≠ .ended

theorem Reindexed.link {id : TransferId} {m m' : Memory} (h : Reindexed id m m') (hl : Link t m) :
    Link t m' := by
  cases hl with
  | stored hs => exact .stored (h.records ▸ hs)
  | gone he hs hf => exact .gone he (h.records ▸ hs) (h.lockedCalls ▸ hf)

/-- A transfer that has not started has not ended. -/
theorem Link.remains (h : Link t m) : Remains t m := by
  rcases h with hs | ⟨he, -, -⟩
  · exact fun _ => ⟨t, hs, rfl⟩
  · intro h0
    rw [he] at h0
    cases h0

theorem Linked.of_quiet (h : Linked env I s₀ t s) (hq : Quiet s s') : Linked env I s₀ t s' :=
  ⟨h.after.of_quiet hq, hq.stateMachineLocked.trans h.flag, h.mem, hq.memory ▸ h.link⟩

theorem Linked.aborted (h : Linked env I s₀ t s) : Aborted env I s₀ t s :=
  ⟨h.after, h.link.remains⟩

/-- A quiet call keeps the link. -/
theorem quiet_linked {α : Type} {E : Exn → Prop} {q : Code α} (h : Within env quiet E q) :
    Triple env (Linked env I s₀ t) q (fun _ => Linked env I s₀ t) fun _ => Linked env I s₀ t :=
  (h.triple fun _ _ hs hq => hs.of_quiet hq).weaken (fun _ h => h) (fun _ _ h => h)
    fun _ _ => And.left

section Settle

variable {s₁ : System} {t' : Transfer} {p : Phase}

/-- The transfer has moved: it is stored again. -/
theorem upsert_called {p' : Phase} (h : After env I s₀ s₁)
    (hflag : s₁.stateMachineLocked = true) (hid : t.id ∈ I)
    (hst : s₁.memory.records t.id = some t) (hp : t.status.phase = some p)
    (hp' : t'.status.phase = some p') (hn : p.next p' = true) (same : t.Same t')
    (hsh : Shaped t') :
    Triple env (Talks p t.id s₁) (updateCache t') (fun _ => Called env I s₀ t t')
      fun _ => Aborted env I s₀ t := by
  intro s htalk
  obtain ⟨evs, hm, hsay⟩ := htalk.memory
  have announced : After env I s₀ s := h.step hid (hm ▸ .announced hst hp hsay)
  have hst' : s.memory.records t.id = some t := by rw [hm]; exact hst
  have updated : Act env.RefusesDeletion t.id s.memory
      ((s.memory.store t').log [.stored t'.id]) := by
    rw [same.id]
    exact .updated hst' hp hp' hn same same.id hsh
  rw [updateCache_of_phase hp']
  refine ((upsert_memory t').and (flag_triple (upsert_flag t'))).run_state
    ⟨rfl, htalk.stateMachineLocked.trans hflag⟩ ?_ ?_ s rfl
  · rintro _ u ⟨⟨hr, -⟩, hf⟩
    refine ⟨⟨announced.steps (.head ⟨_, hid, updated⟩ (hr.acts (same.id ▸ hid))), hf,
      same.id ▸ hid, hr.link (.stored (by simp))⟩, same, fun _ he => ?_⟩
    rw [he] at hp'
    cases hp'
  · rintro _ u ⟨hu | hu, -⟩
    · exact ⟨announced.of_eq hu, fun _ => ⟨t, hu ▸ hst', rfl⟩⟩
    · refine ⟨announced.step hid (hu ▸ updated), fun _ => ⟨t', ?_, same.initiatorCall⟩⟩
      rw [hu]
      simp [same.id]

/-- The transfer has ended: it is removed. -/
theorem remove_called (h : After env I s₀ s₁) (hflag : s₁.stateMachineLocked = true)
    (hid : t.id ∈ I) (hst : s₁.memory.records t.id = some t) (hp : t.status.phase = some p) (hi : p ≠ .initial)
    (he : t'.status = .ended) (same : t.Same t') :
    Triple env (Announced p t s₁) (updateCache t') (fun _ => Called env I s₀ t t')
      fun _ => Aborted env I s₀ t := by
  intro s hann
  obtain ⟨evs, n, hm, hk, ha, hsay⟩ := hann.memory
  have not_initial : t.status.phase ≠ some .initial := fun h0 => hi (Option.some.inj (hp ▸ h0))
  have finished : Act env.RefusesDeletion t.id s₁.memory (s.memory.removed t'.id) := by
    have hrem : s.memory.removed t'.id = ((s₁.memory.unlock t.initiatorCall).forget t.id).log
        (evs ++ [.notified n, .removed t.id]) := by
      rw [same.id, hm]
      simp [Memory.removed, Memory.log, Memory.forget, hst]
    rw [hrem]
    exact .finished hst hp hi hsay hk ha
  rw [updateCache_of_ended he]
  refine ((remove_memory t'.id).and (flag_triple (remove_flag t'.id))).run_state
    ⟨rfl, hann.stateMachineLocked.trans hflag⟩ ?_ ?_ s rfl
  · rintro _ u ⟨hr, hf⟩
    refine ⟨⟨h.steps (.head ⟨_, hid, finished⟩ (hr.acts (same.id ▸ hid))), hf, same.id ▸ hid,
      hr.link (.gone he (by simp [Memory.removed]) ?_)⟩, same, fun h0 => absurd h0 not_initial⟩
    simp [Memory.removed, hm, same.initiatorCall]
  · rintro _ u ⟨⟨hu, href⟩ | hu, -⟩
    · exact ⟨h.step hid (by rw [hu, hm]; exact .kept href hst hp hi hsay hk ha),
        fun h0 => absurd h0 not_initial⟩
    · exact ⟨h.step hid (hu ▸ finished), fun h0 => absurd h0 not_initial⟩

/-- What the body of a transition of a stored transfer returns is stored or removed. -/
theorem settle (h : After env I s₀ s₁) (hflag : s₁.stateMachineLocked = true) (hid : t.id ∈ I)
    (hst : s₁.memory.records t.id = some t) (hp : t.status.phase = some p) :
    Triple env (Outcome t t' s₁) (updateCache t') (fun _ => Called env I s₀ t t')
      fun _ => Aborted env I s₀ t := by
  rintro s (⟨hp₁, hp', hn, same, hsh, htalk⟩ | ⟨hp₁, hi, he, same, hann⟩ | ⟨he, rfl, hq⟩)
  · exact upsert_called h hflag hid hst hp₁ hp' hn same hsh s htalk
  · exact remove_called h hflag hid hst hp₁ hi he same s hann
  · rw [he] at hp
    cases hp

/-- The body of a transition of a stored transfer has raised. -/
theorem abort_stored (h : After env I s₀ s₁) (hid : t.id ∈ I)
    (hst : s₁.memory.records t.id = some t) (hp : t.status.phase = some p)
    {E : Exn → System → Prop} :
    Triple env (Talks p t.id s₁) (abort t t.initiatorCall) (fun _ => Aborted env I s₀ t) E := by
  intro s htalk
  obtain ⟨evs, hm, hsay⟩ := htalk.memory
  have hst' : s.memory.records t.id = some t := by rw [hm]; exact hst
  have live : t.status ≠ .ended := fun he => by
    rw [he] at hp
    cases hp
  have announced : After env I s₀ s := h.step hid (hm ▸ .announced hst hp hsay)
  exact ⟨announced.step hid (.aborted hst' live), fun _ => ⟨t, hst', rfl⟩⟩

end Settle

/-- A transition of a transfer that has just ended does nothing, or raises. -/
theorem transition_gone {tr : Transition} {body : Transfer → Code Transfer} {args : StartArgs}
    {s₁ : System} (h : After env I s₀ s₁) (hflag : s₁.stateMachineLocked = true) (hid : t.id ∈ I)
    (he : t.status = .ended)
    (hs : s₁.memory.records t.id = none) (hf : t.initiatorCall ∉ s₁.memory.lockedCalls)
    (hm : t.status.method args tr = .decorated body) :
    Triple env (fun s => s = s₁) (do
      let result ← onRaise (body t) (abort t t.initiatorCall)
      updateCache result
      return result) (Called env I s₀ t) fun _ => Aborted env I s₀ t := by
  have not_initial : t.status.phase ≠ some .initial := fun h0 => by
    rw [he] at h0
    cases h0
  have removed : s₁.memory.removed t.id = s₁.memory := by
    simp [Memory.removed, hs, Memory.forget, Function.update_eq_self_iff.mpr]
  have remove : Triple env (fun s => s = s₁) (StatePersistor.remove t.id)
      (fun _ u => Reindexed t.id s₁.memory u.memory ∧ u.stateMachineLocked = true)
      fun _ => Aborted env I s₀ t := by
    refine ((remove_memory t.id).and (flag_triple (remove_flag t.id))).run_state ⟨rfl, hflag⟩
      (fun _ u hr => ⟨removed ▸ hr.1, hr.2⟩) ?_
    rintro _ u ⟨⟨hu, -⟩ | hu, -⟩
    · exact ⟨h.of_eq hu, fun h0 => absurd h0 not_initial⟩
    · exact ⟨h.of_eq (hu.trans removed), fun h0 => absurd h0 not_initial⟩
  rcases ended_method he hm with hb | hb
  · rw [hb]
    show Triple env _ (updateCache t >>= fun _ => pure t) _ _
    rw [updateCache_of_ended he]
    exact remove.bind fun _ => Triple.pure fun u hr =>
      ⟨⟨h.steps (hr.1.acts hid), hr.2, hid, hr.1.link (.gone he hs hf)⟩, .rfl,
        fun h0 => absurd h0 not_initial⟩
  · rw [hb]
    intro s hs
    have late : Act env.RefusesDeletion t.id s₁.memory
        ((s₁.memory.unlock t.initiatorCall).log [.aborted t.id t.status]) := by
      rw [Memory.unlock_of_notMem hf, he]
      exact .lateAborted
    exact ⟨h.step hid (hs ▸ late), fun h0 => absurd h0 not_initial⟩

/-- The call of a transition has been recorded: the state object is still linked. -/
theorem Linked.called (h : Linked env I s₀ t s) (st : Status) (tr : Transition) :
    Linked env I s₀ t { s with trace := s.trace ++ [.called t.id st tr] } := by
  refine ⟨h.after.step h.mem .called, h.flag, h.mem, ?_⟩
  rcases h.link with hst | ⟨he, hst, hf⟩
  · exact .stored hst
  · exact .gone he hst hf

/-- What follows the record of the call in a decorated method. -/
theorem transition_rest {tr : Transition} {body : Transfer → Code Transfer} {args : StartArgs}
    (hm : t.status.method args tr = .decorated body) :
    Triple env (Linked env I s₀ t) (do
      let result ← onRaise (body t) (abort t t.initiatorCall)
      updateCache result
      return result) (fun t' => Called env I s₀ t t') fun _ => Aborted env I s₀ t := by
  rintro s ⟨ha, hflag, hid, hst | ⟨he, hst, hf⟩⟩
  · obtain ⟨p, hp⟩ := (ha.wellStored.stands hst).phase
    have body_triple : Triple env (Talks p t.id s) (onRaise (body t) (abort t t.initiatorCall))
        (fun t' => Outcome t t' s) fun _ => Aborted env I s₀ t :=
      (method_concludes hp (ha.wellStored.stands hst).shaped hm).onRaise fun _ =>
        abort_stored ha hid hst hp
    refine body_triple.bind (fun t' => ?_) s ((talks p t.id).refl s)
    exact (settle ha hflag hid hst hp).bind fun _ => Triple.pure fun _ => id
  · exact transition_gone ha hflag hid he hst hf hm s rfl

/-- The decorated methods. -/
theorem transition_triple {tr : Transition} {body : Transfer → Code Transfer} {args : StartArgs}
    (hm : t.status.method args tr = .decorated body) :
    Triple env (Linked env I s₀ t) (transition tr body t) (fun t' => Called env I s₀ t t')
      fun _ => Aborted env I s₀ t := by
  unfold transition
  refine (Triple.look (Q := fun _ => Linked env I s₀ t) fun _ => id).bind fun flag => ?_
  cases flag with
  | false => exact Triple.throw fun _ => Linked.aborted
  | true =>
    exact Triple.bind (Q := fun _ => Linked env I s₀ t)
      (Triple.change fun _ h => h.called t.status tr) fun _ => transition_rest hm

/-- An event has been recorded since. -/
def Records (s : System) (e : Event) (s' : System) : Prop := ∃ evs, s'.trace = s.trace ++ evs ∧ e ∈ evs

theorem After.trace (h : After env I s₀ s) : s₀.trace <+: s.trace := by
  have moves : Moves env.RefusesDeletion False s₀.memory s.memory := h.acts.moves
  exact moves.trace

theorem Records.after {e : Event} (h : Records s₀ e s) (h' : After env I s s') :
    Records s₀ e s' := by
  obtain ⟨evs, ht, he⟩ := h
  obtain ⟨evs', ht'⟩ := h'.trace
  exact ⟨evs ++ evs', by rw [← ht', ht, List.append_assoc], List.mem_append_left _ he⟩

theorem Records.since {e : Event} (h : Records s e s') (h' : After env I s₀ s) :
    Records s₀ e s' := by
  obtain ⟨evs, ht, he⟩ := h
  obtain ⟨evs', ht'⟩ := h'.trace
  exact ⟨evs' ++ evs, by rw [ht, ← ht', List.append_assoc], List.mem_append_right _ he⟩

/-- A decorated method records its call. -/
theorem call_records {tr : Transition} {body : Transfer → Code Transfer}
    (hm : t.status.method ⟨"", "", .object [], none⟩ tr = .decorated body)
    (hl : Linked env I s₀ t s) :
    Triple env (fun u => u = s) (call tr t)
      (fun _ => Records s₀ (.called t.id t.status tr)) fun _ => Records s₀ (.called t.id t.status tr) := by
  unfold call callWith transition
  rw [hm]
  refine (Triple.look (Q := fun flag u => flag = true ∧ u = s) ?_).bind fun flag => ?_
  · rintro u rfl
    exact ⟨hl.flag, rfl⟩
  · rintro u ⟨rfl, rfl⟩
    have called : Linked env I _ t { u with trace := u.trace ++ [.called t.id t.status tr] } :=
      ⟨⟨.refl, (hl.called t.status tr).after.wellStored⟩, (hl.called t.status tr).flag, hl.mem,
        (hl.called t.status tr).link⟩
    have recorded : Records s₀ (.called t.id t.status tr)
        { u with trace := u.trace ++ [.called t.id t.status tr] } :=
      Records.since ⟨_, rfl, List.mem_singleton_self _⟩ hl.after
    exact (transition_rest hm).weaken (fun _ h => h) (fun _ _ h => recorded.after h.linked.after)
      (fun _ _ h => recorded.after h.after) _ called

/-- **The call of a transition on a state object**: the state object that it returns is
again the stored transfer, or one that has just ended. -/
theorem callWith_triple (args : StartArgs) (tr : Transition) (t : Transfer) :
    Triple env (Linked env I s₀ t) (callWith args tr t) (fun t' => Called env I s₀ t t')
      fun _ => Aborted env I s₀ t := by
  unfold callWith
  cases hm : t.status.method args tr with
  | missing => exact Triple.throw fun _ => Linked.aborted
  | plain body =>
    rw [plain_method hm]
    unfold TransferState.playSilence
    have silence : Triple env (Linked env I s₀ t)
        (ignoring Exn.isARINotFound (channelsDo .startSilence t.transferredCall))
        (fun _ => Linked env I s₀ t) fun _ => Linked env I s₀ t :=
      quiet_linked (channelsDo_within env.faults_any _ _).ignoring_rest
    refine (silence.weaken (fun _ => id) (fun _ _ => id) fun _ _ => Linked.aborted).bind fun _ =>
      Triple.pure fun _ hs => ⟨hs, .rfl, fun h0 he => ?_⟩
    rw [he] at h0
    cases h0
  | decorated body => exact transition_triple hm

/-- A call of which only the link matters. -/
theorem call_linked (tr : Transition) (t : Transfer) :
    Triple env (Linked env I s₀ t) (call tr t) (fun t' => Linked env I s₀ t')
      fun _ => After env I s₀ :=
  (callWith_triple _ tr t).weaken (fun _ => id) (fun _ _ => Called.linked)
    fun _ _ => Aborted.after

/-- What a call returns and raises, from what the body returns and raises. -/
theorem callWith_result {Φ : Transfer → Prop} {E : Exn → Prop} {args : StartArgs}
    {tr : Transition} (hmissing : t.status.method args tr = .missing → E .attributeError)
    (hplain : ∀ body, t.status.method args tr = .plain body →
      Triple env (fun _ => True) (body t) (fun t' _ => Φ t') fun e _ => E e)
    (hbody : ∀ body, t.status.method args tr = .decorated body →
      Triple env (fun _ => True) (body t) (fun t' _ => Φ t') fun e _ => E e)
    (hcache : ∀ t', Φ t' →
      Triple env (fun _ => True) (updateCache t') (fun _ _ => True) fun e _ => E e) :
    Triple env (fun s => s.stateMachineLocked = true) (callWith args tr t) (fun t' _ => Φ t')
      fun e _ => E e := by
  unfold callWith
  cases hm : t.status.method args tr with
  | missing => exact Triple.throw fun _ _ => hmissing hm
  | plain body => exact (hplain body hm).pre fun _ _ => trivial
  | decorated body =>
    have result : Triple env (fun _ => True) (do
        let result ← onRaise (body t) (abort t t.initiatorCall)
        updateCache result
        return result) (fun t' _ => Φ t') fun e _ => E e := by
      refine ((hbody body hm).onRaise fun e s he => he).bind fun t' s hΦ => ?_
      exact ((hcache t' hΦ).bind fun _ => Triple.pure fun _ _ => hΦ) s trivial
    unfold transition
    refine (Triple.look (Q := fun b _ => b = true) fun _ h => h).bind fun b => ?_
    rintro s rfl
    have called : Triple env (fun _ => True) (record (.called t.id t.status tr))
        (fun _ _ => True) fun e _ => E e := Triple.change fun _ _ => trivial
    exact (called.bind fun _ => result) s trivial

end Calld.Transfers
