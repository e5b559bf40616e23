/-
# What a creation that fails leaves behind

`create` undoes nothing once it has locked the initiator.  When it raises, the stored
transfers and the locked initiators are what they were exactly when it raised in its
checks, or when its transfer, completed at once, had already been removed again
(`create_unchanged_iff`).
-/
import Calld.Transfers.Run

namespace Calld.Transfers

open Effect Effect.Program TransfersService

variable {env : Env} {s s' s₁ : System} {m m₀ m' : Memory} {id : TransferId} {t : Transfer}
  {c : ChannelId} {refusal : Prop}

/-! ## The progress of a creation -/

/-- The transfers that `StatePersistor.list` returns. -/
def Memory.Lists (m : Memory) (t : Transfer) : Prop := ∃ id ∈ m.index, m.records id = some t

/-- Where the acts on behalf of a new transfer may have come to: it is still listed, or it
has been removed and its initiator unlocked. -/
inductive Progress (m₀ : Memory) (id : TransferId) (c : ChannelId) (m : Memory) : Prop
  | listed {t : Transfer} (stored : m.records id = some t) (initiator : t.initiatorCall = c)
      (indexed : id ∈ m.index)
      (locked : m.lockedCalls = insert c m₀.lockedCalls ∨ m.lockedCalls = m₀.lockedCalls)
      (removed : .removed id ∉ m.trace)
  | removed (stored : m.records id = none) (unlocked : m.lockedCalls = m₀.lockedCalls)
      (removed : .removed id ∈ m.trace)

/-- To unlock the initiator of a new transfer leads back to the initiators locked before. -/
theorem erase_locked {L L' : Finset ChannelId} (free : c ∉ L) (h : L' = insert c L ∨ L' = L) :
    L'.erase c = L := by
  rcases h with rfl | rfl
  · exact Finset.erase_insert free
  · exact Finset.erase_eq_of_notMem free

/-- What is announced in a phase does not remove anything. -/
theorem removed_of_allowed {p : Phase} {evs : List Event} (h : ∀ e ∈ evs, Says p id e) :
    .removed id ∉ evs := fun hm => (h _ hm).elim

theorem Act.progress (h : Act refusal id m m') (free : c ∉ m₀.lockedCalls)
    (hp : Progress m₀ id c m) : Progress m₀ id c m' := by
  cases hp with
  | @listed t hst hi hix hl hr =>
    cases h with
    | indexed _ _ hk => exact .listed hst hi (hk hix (by simp [hst])) hl hr
    | called | lateAborted => exact .listed hst hi hix hl (by simp [hr])
    | announced _ _ ha => exact .listed hst hi hix hl (by simp [hr, removed_of_allowed ha])
    | @updated t₁ t' _ _ hst' _ _ _ same own =>
      obtain rfl : t = t₁ := Option.some.inj (hst.symm.trans hst')
      exact .listed (t := t') (by simp [own]) (same.initiatorCall.trans hi) hix hl (by simp [hr])
    | @finished t₁ _ _ _ hst' =>
      obtain rfl : t = t₁ := Option.some.inj (hst.symm.trans hst')
      exact .removed (by simp) (by simpa [hi] using erase_locked free hl) (by simp)
    | @kept t₁ _ _ _ _ hst' _ _ ha =>
      obtain rfl : t = t₁ := Option.some.inj (hst.symm.trans hst')
      exact .listed hst hi hix (.inr (by simpa [hi] using erase_locked free hl))
        (by simp [hr, removed_of_allowed ha])
    | @aborted t₁ _ hst' =>
      obtain rfl : t = t₁ := Option.some.inj (hst.symm.trans hst')
      exact .listed hst hi hix (.inr (by simpa [hi] using erase_locked free hl)) (by simp [hr])
  | removed hst hl hr =>
    have unstored {t : Transfer} (h : m.records id = some t) : Progress m₀ id c m' := by
      rw [hst] at h
      cases h
    cases h with
    | indexed => exact .removed hst hl hr
    | called | lateAborted => exact .removed hst hl (by simp [hr])
    | announced h | updated h | finished h | kept _ h | aborted h => exact unstored h

theorem Acts.progress (h : Acts refusal {id} m m') (free : c ∉ m₀.lockedCalls)
    (hp : Progress m₀ id c m) : Progress m₀ id c m' := by
  induction h with
  | refl => exact hp
  | tail _ h ih =>
    obtain ⟨_, rfl, ha⟩ := h
    exact ha.progress free ih

/-- What has been removed had been stored. -/
def RemovalsKnown (m : Memory) : Prop := ∀ id, .removed id ∈ m.trace → .stored id ∈ m.trace

theorem RemovalsKnown.append (h : RemovalsKnown m) {evs : List Event}
    (ht : m'.trace = m.trace ++ evs) (he : ∀ id, .removed id ∉ evs) : RemovalsKnown m' := by
  intro id hr
  rw [ht] at hr ⊢
  exact List.mem_append_left _ (h id ((List.mem_append.mp hr).resolve_right (he id)))

theorem Act.removalsKnown (h : Act refusal id m m') (hw : WellStored m) (hk : RemovalsKnown m) :
    RemovalsKnown m' := by
  cases h with
  | indexed => exact hk
  | called | updated | aborted | lateAborted => exact hk.append rfl (by simp)
  | announced _ _ ha => exact hk.append rfl fun j hj => (ha _ hj).elim
  | @finished t p evs n hst _ _ ha =>
    intro j hj
    simp only [Memory.log_trace, Memory.forget_trace, Memory.unlock_trace, List.mem_append,
      List.mem_cons, List.not_mem_nil, or_false, reduceCtorEq, false_or] at hj ⊢
    rcases hj with hj | hj | hj
    · exact .inl (hk j hj)
    · exact (ha _ hj).elim
    · cases hj
      exact .inl (hw.known hst)
  | @kept t p evs n _ _ _ _ ha =>
    refine hk.append rfl fun j hj => ?_
    rcases List.mem_append.mp hj with hj | hj
    · exact (ha _ hj).elim
    · simp at hj

theorem Moves.removalsKnown {crash : Prop} (h : Moves refusal crash m m') (hw : WellStored m)
    (hk : RemovalsKnown m) : RemovalsKnown m' := by
  induction h with
  | refl => exact hk
  | tail hms hm ih =>
    cases hm with
    | act ha => exact ha.removalsKnown (Moves.wellStored hms hw) ih
    | acquired | restarted => exact ih
    | born => exact ih.append rfl (by simp)

theorem Reachable.removalsKnown {A : Allowed} (h : Reachable A s) : RemovalsKnown s.memory := by
  obtain ⟨s₀, h₀, hr⟩ := h
  have moves : Moves True True s₀.memory s.memory :=
    hr.moves (fun _ _ _ _ _ => trivial) (fun _ _ _ => trivial) h₀.wellStored
  refine moves.removalsKnown h₀.wellStored fun id hid => ?_
  rw [h₀.1] at hid
  cases hid

/-! ## Unchanged memories -/

/-- The listed transfers and the locked initiators are the same. -/
structure Unchanged (m m' : Memory) : Prop where
  lists : ∀ t, m'.Lists t ↔ m.Lists t
  lockedCalls : m'.lockedCalls = m.lockedCalls

theorem Unchanged.of_eq (h : m' = m) : Unchanged m m' := by
  subst h
  exact ⟨fun _ => Iff.rfl, rfl⟩

/-- A locked initiator more is a change. -/
theorem not_unchanged_of_locked (free : c ∉ m.lockedCalls) (h : m'.lockedCalls = insert c m.lockedCalls) :
    ¬ Unchanged m m' := fun hu => by
  rw [hu.lockedCalls] at h
  exact free (h ▸ Finset.mem_insert_self _ _)

/-- What has happened to the memory on behalf of one new transfer changes nothing once
that transfer is gone. -/
theorem unchanged_of_removed (hl : Local {id} m m') (h : m.records id = none)
    (h' : m'.records id = none) (hc : m'.lockedCalls = m.lockedCalls) : Unchanged m m' := by
  refine ⟨fun t => ⟨?_, ?_⟩, hc⟩ <;> rintro ⟨j, hj, hr⟩ <;> by_cases hji : j = id
  · rw [hji, h'] at hr
    cases hr
  · exact ⟨j, (hl.index j hji).mp hj, hl.records j hji ▸ hr⟩
  · rw [hji, h] at hr
    cases hr
  · exact ⟨j, (hl.index j hji).mpr hj, (hl.records j hji).trans hr⟩

/-! ## The failures of a creation -/

/-- The birth of a transfer concerns nothing else. -/
theorem Born.isLocal (h : Born env m c s t) : Local {env.uuid4} m s.memory := by
  have own := h.own
  have stored : Local {t.id} m (((m.lock c).store t).log [.stored t.id]) :=
    ⟨fun j hj => Function.update_of_ne hj _ _, fun _ _ => Iff.rfl, _, rfl, by simp [Event.subject]⟩
  have acts : Acts False {t.id} _ s.memory := h.indexed.acts (Set.mem_singleton t.id)
  rw [← own]
  exact stored.trans acts.isLocal

theorem Reindexed.trace {m m' : Memory} (h : Reindexed id m m') : m'.trace = m.trace := by
  rcases h with rfl | ⟨ids, -, -, -, rfl⟩ <;> rfl

/-- A born transfer is listed. -/
theorem Born.progress (h : Born env m c s t) (fresh : .removed env.uuid4 ∉ m.trace) :
    Progress m env.uuid4 c s.memory := by
  have own := h.own
  refine .listed (t := t) ?_ h.initiator (own ▸ h.mem_index) (.inl ?_) ?_
  · rw [h.indexed.records]
    simp [own]
  · rw [h.indexed.lockedCalls]
    rfl
  · rw [h.indexed.trace]
    simp [fresh]

/-- When the creation has failed after the checks, nothing has changed if and only if the
transfer has been removed. -/
theorem CreateFailed.unchanged_iff (h : CreateFailed env m c s) (hm : WellStored m)
    (free : c ∉ m.lockedCalls) (fresh : .stored env.uuid4 ∉ m.trace)
    (unremoved : .removed env.uuid4 ∉ m.trace) :
    Unchanged m s.memory ↔ .removed env.uuid4 ∈ s.memory.trace := by
  have unstored : m.records env.uuid4 = none := by
    cases hr : m.records env.uuid4 with
    | none => rfl
    | some u => exact absurd (hm.known hr) fresh
  cases h with
  | unstored h =>
    refine iff_of_false (not_unchanged_of_locked free (by rw [h]; rfl)) ?_
    rw [h]
    exact unremoved
  | unindexed own initiator phase shaped h =>
    refine iff_of_false (not_unchanged_of_locked free (by rw [h]; rfl)) ?_
    rw [h]
    simp [unremoved]
  | created born after =>
    have progress := after.acts.progress free (born.progress unremoved)
    rcases progress with ⟨hst, hi, hix, hl, hr⟩ | ⟨hst, hl, hr⟩
    · refine iff_of_false (fun hu => ?_) hr
      obtain ⟨j, -, hj⟩ := (hu.lists _).mp ⟨_, hix, hst⟩
      have stands := after.wellStored.stands hst
      have own : j = env.uuid4 := (hm.stands hj).id.symm.trans stands.id
      rw [own, unstored] at hj
      cases hj
    · have hlocal : Local {env.uuid4} m s.memory := born.isLocal.trans after.acts.isLocal
      exact iff_of_true (unchanged_of_removed hlocal unstored hst hl) hr

/-- **When a creation changes nothing although it raises**: exactly when it raised in its
checks, or when its transfer, completed at once, had already been removed again. -/
theorem create_unchanged_iff {A : Allowed} (h : Reachable A s) (fresh : env.FreshIn s)
    {r : CreateRequest} {e : Exn} (hr : create r env s = (.error e, s')) :
    Unchanged s.memory s'.memory ↔
      (∃ e', (createChecks r env s).1 = .error e') ∨ .removed env.uuid4 ∈ s'.trace := by
  have unremoved : .removed env.uuid4 ∉ s.memory.trace := fun hm => fresh (h.removalsKnown _ hm)
  have checks := @createChecks_triple env s.memory r s rfl
  unfold create at hr
  rw [bind_apply] at hr
  rcases hc : createChecks r env s with ⟨e' | _, s₁⟩ <;> rw [hc] at hr checks
  · cases hr
    exact iff_of_true (.of_eq checks) (.inl ⟨_, rfl⟩)
  · obtain ⟨free, hm⟩ := checks
    have failed := (createLocked_triple h.wellStored).error hm hr
    rw [failed.unchanged_iff h.wellStored free fresh unremoved]
    refine ⟨.inr, ?_⟩
    rintro (⟨e', he⟩ | hremoved)
    · cases he
    · exact hremoved

/-! ## Creations that fail -/

open Scene

/-- No channel has variables. -/
def anonymous : Env :=
  { Env.calm "first" carol with
    ari := fun n a r =>
      match r with
      | .channelsGetVar _ _ => .error .notFound
      | r => (Env.calm "first" carol).ari n a r }

theorem start_reachable {A : Allowed} : Reachable A .start := ⟨.start, ⟨rfl, rfl⟩, .refl⟩

/-- An initiator without a user stays locked, and is refused from then on. -/
theorem failed_creation_leaks_lock :
    ∃ s', create (request bob alice .attended) anonymous .start =
        (.error (.transferCreationError "initiator has no user UUID"), s') ∧
      ¬ Unchanged System.start.memory s'.memory ∧
      (create (request dave alice .attended) (.calm "second" carol) s').1 =
        .error (.transferAlreadyStarted alice) := by
  have raised : (create (request bob alice .attended) anonymous .start).1 =
      .error (.transferCreationError "initiator has no user UUID") := by decide
  refine ⟨_, by rw [← raised], fun hu => ?_, by decide⟩
  have locked : (create (request bob alice .attended) anonymous .start).2.lockedCalls = {alice} := by
    decide
  have unlocked := hu.lockedCalls
  rw [show (create (request bob alice .attended) anonymous .start).2.memory.lockedCalls = _ from
    locked] at unlocked
  simp [System.memory, System.start] at unlocked

/-- The transferred channel is gone. -/
def withoutBob : Env := (Env.calm "first" carol).without [bob]

/-- A failure of the checks changes nothing. -/
theorem create_unchanged_iff_channel_gone :
    Unchanged System.start.memory
        (create (request bob alice .attended) withoutBob .start).2.memory ↔
      (∃ e', (createChecks (request bob alice .attended) withoutBob .start).1 = .error e') ∨
      .removed withoutBob.uuid4 ∈ (create (request bob alice .attended) withoutBob .start).2.trace :=
  have raised : (create (request bob alice .attended) withoutBob .start).1 =
      .error (.transferCreationError "channel not found") := by decide
  have failed : create (request bob alice .attended) withoutBob .start =
      (.error (.transferCreationError "channel not found"),
        (create (request bob alice .attended) withoutBob .start).2) := by rw [← raised]
  create_unchanged_iff (start_reachable (A := GlobalsWritten)) (by decide) failed

end Calld.Transfers
