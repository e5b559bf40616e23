/-
# What the plugin remembers, and how it changes

`Memory` is the part of the system that the transfers plugin relies on: the stored
transfers, their index, the locked initiators and the trace.  `Move` lists everything
that the plugin ever does to it.  This is the abstract model of the plugin: the code
refines it (`Refinement.lean`), and the invariants over runs are proved here, move by
move.
-/
import Calld.Transfers.Outcome

namespace Calld.Transfers

open Effect

/-! ## The memory -/

/-- The stored transfers, their index, the locked initiators and the trace. -/
@[ext] structure Memory where
  records : TransferId → Option Transfer
  index : List TransferId
  lockedCalls : Finset ChannelId
  trace : List Event

def System.memory (s : System) : Memory where
  records := s.asterisk.records
  index := s.asterisk.index
  lockedCalls := s.lockedCalls
  trace := s.trace

namespace Memory

def store (m : Memory) (t : Transfer) : Memory :=
  { m with records := Function.update m.records t.id (some t) }

def forget (m : Memory) (id : TransferId) : Memory :=
  { m with records := Function.update m.records id none }

def reindex (m : Memory) (ids : List TransferId) : Memory := { m with index := ids }

def lock (m : Memory) (c : ChannelId) : Memory :=
  { m with lockedCalls := insert c m.lockedCalls }

def unlock (m : Memory) (c : ChannelId) : Memory :=
  { m with lockedCalls := m.lockedCalls.erase c }

def log (m : Memory) (evs : List Event) : Memory := { m with trace := m.trace ++ evs }

variable (m : Memory) (t : Transfer) (id : TransferId) (c : ChannelId) (ids : List TransferId)
  (evs : List Event)

@[simp] theorem store_records : (m.store t).records = Function.update m.records t.id (some t) := rfl
@[simp] theorem store_index : (m.store t).index = m.index := rfl
@[simp] theorem store_lockedCalls : (m.store t).lockedCalls = m.lockedCalls := rfl
@[simp] theorem store_trace : (m.store t).trace = m.trace := rfl
@[simp] theorem forget_records : (m.forget id).records = Function.update m.records id none := rfl
@[simp] theorem forget_index : (m.forget id).index = m.index := rfl
@[simp] theorem forget_lockedCalls : (m.forget id).lockedCalls = m.lockedCalls := rfl
@[simp] theorem forget_trace : (m.forget id).trace = m.trace := rfl
@[simp] theorem reindex_records : (m.reindex ids).records = m.records := rfl
@[simp] theorem reindex_index : (m.reindex ids).index = ids := rfl
@[simp] theorem reindex_lockedCalls : (m.reindex ids).lockedCalls = m.lockedCalls := rfl
@[simp] theorem reindex_trace : (m.reindex ids).trace = m.trace := rfl
@[simp] theorem lock_records : (m.lock c).records = m.records := rfl
@[simp] theorem lock_index : (m.lock c).index = m.index := rfl
@[simp] theorem lock_lockedCalls : (m.lock c).lockedCalls = insert c m.lockedCalls := rfl
@[simp] theorem lock_trace : (m.lock c).trace = m.trace := rfl
@[simp] theorem unlock_records : (m.unlock c).records = m.records := rfl
@[simp] theorem unlock_index : (m.unlock c).index = m.index := rfl
@[simp] theorem unlock_lockedCalls : (m.unlock c).lockedCalls = m.lockedCalls.erase c := rfl
@[simp] theorem unlock_trace : (m.unlock c).trace = m.trace := rfl
@[simp] theorem log_records : (m.log evs).records = m.records := rfl
@[simp] theorem log_index : (m.log evs).index = m.index := rfl
@[simp] theorem log_lockedCalls : (m.log evs).lockedCalls = m.lockedCalls := rfl
@[simp] theorem log_trace : (m.log evs).trace = m.trace ++ evs := rfl
@[simp] theorem log_nil : m.log [] = m := by simp [log]

/-- To unlock what is not locked changes nothing. -/
theorem unlock_of_notMem {m : Memory} {c : ChannelId} (h : c ∉ m.lockedCalls) :
    m.unlock c = m := by
  simp [unlock, Finset.erase_eq_of_notMem h]

end Memory

/-! ## The moves -/

/-- The transfer that an event is about. -/
def Event.subject : Event → TransferId
  | .called id _ _ | .aborted id _ | .originated id _ | .stored id | .removed id => id
  | .notified n => n.transfer.id

/-- Everything that the plugin does to its memory on behalf of one transfer.  `refusal`
says whether ARI may refuse the deletion of a stored transfer. -/
inductive Act (refusal : Prop) (id : TransferId) : Memory → Memory → Prop
  /-- The index is written; only the place of the transfer in it may change. -/
  | indexed {m : Memory} {ids : List TransferId} (nodup : ids.Nodup)
      (others : ∀ j, j ≠ id → (j ∈ ids ↔ j ∈ m.index))
      (keeps : id ∈ m.index → m.records id ≠ none → id ∈ ids) : Act refusal id m (m.reindex ids)
  /-- A transition is called. -/
  | called {m : Memory} {st : Status} {tr : Transition} :
      Act refusal id m (m.log [.called id st tr])
  /-- A stored transfer makes announcements that its phase allows. -/
  | announced {m : Memory} {t : Transfer} {p : Phase} {evs : List Event}
      (stored : m.records id = some t) (phase : t.status.phase = some p)
      (allowed : ∀ e ∈ evs, Says p id e) : Act refusal id m (m.log evs)
  /-- A stored transfer moves to a phase that may come next. -/
  | updated {m : Memory} {t t' : Transfer} {p p' : Phase}
      (stored : m.records id = some t) (phase : t.status.phase = some p)
      (phase' : t'.status.phase = some p') (next : p.next p' = true) (same : t.Same t')
      (own : t'.id = id) (shaped : Shaped t') :
      Act refusal id m ((m.store t').log [.stored id])
  /-- A stored transfer ends: announced, unlocked and removed. -/
  | finished {m : Memory} {t : Transfer} {p : Phase} {evs : List Event} {n : Notification}
      (stored : m.records id = some t) (phase : t.status.phase = some p) (hp : p ≠ .initial)
      (allowed : ∀ e ∈ evs, Says p id e) (kind : n.kind = .ended) (about : n.transfer.id = id) :
      Act refusal id m
        (((m.unlock t.initiatorCall).forget id).log (evs ++ [.notified n, .removed id]))
  /-- A stored transfer ends, but ARI refuses to delete it. -/
  | kept {m : Memory} {t : Transfer} {p : Phase} {evs : List Event} {n : Notification}
      (refused : refusal) (stored : m.records id = some t) (phase : t.status.phase = some p)
      (hp : p ≠ .initial) (allowed : ∀ e ∈ evs, Says p id e) (kind : n.kind = .ended)
      (about : n.transfer.id = id) :
      Act refusal id m ((m.unlock t.initiatorCall).log (evs ++ [.notified n]))
  /-- A transition of a stored transfer raises: it is unlocked, and stays stored. -/
  | aborted {m : Memory} {t : Transfer} {st : Status} (stored : m.records id = some t)
      (live : st ≠ .ended) : Act refusal id m ((m.unlock t.initiatorCall).log [.aborted id st])
  /-- A transition of a transfer that has just ended raises. -/
  | lateAborted {m : Memory} : Act refusal id m (m.log [.aborted id .ended])

/-- Everything that the plugin does to its memory.  `crash` says whether the process may
be restarted. -/
inductive Move (refusal crash : Prop) : Memory → Memory → Prop
  | act {m m' : Memory} {id : TransferId} (h : Act refusal id m m') : Move refusal crash m m'
  /-- An initiator is locked. -/
  | acquired {m : Memory} {c : ChannelId} (free : c ∉ m.lockedCalls) :
      Move refusal crash m (m.lock c)
  /-- An initiator is locked and its transfer stored under a new id. -/
  | born {m : Memory} {t : Transfer} (free : t.initiatorCall ∉ m.lockedCalls)
      (fresh : .stored t.id ∉ m.trace) (phase : t.status.phase = some .initial)
      (shaped : Shaped t) :
      Move refusal crash m (((m.lock t.initiatorCall).store t).log [.stored t.id])
  /-- A new process forgets which initiators were locked. -/
  | restarted {m : Memory} (crashed : crash) : Move refusal crash m { m with lockedCalls := ∅ }

/-- Any number of acts on behalf of some transfers. -/
abbrev Acts (refusal : Prop) (I : Set TransferId) : Memory → Memory → Prop :=
  Relation.ReflTransGen fun m m' => ∃ id ∈ I, Act refusal id m m'

/-- Any number of moves. -/
abbrev Moves (refusal crash : Prop) : Memory → Memory → Prop :=
  Relation.ReflTransGen (Move refusal crash)

variable {refusal refusal' crash crash' : Prop} {I : Set TransferId} {id : TransferId}
  {m m' : Memory}

theorem Acts.single (hid : id ∈ I) (h : Act refusal id m m') : Acts refusal I m m' :=
  Relation.ReflTransGen.single ⟨id, hid, h⟩

theorem Acts.moves (h : Acts refusal I m m') : Moves refusal crash m m' := by
  refine Relation.ReflTransGen.mono (fun m m' ha => ?_) _ _ h
  obtain ⟨id, -, ha⟩ := ha
  exact .act ha

/-- With fewer hazards there are fewer acts. -/
theorem Act.mono (hr : refusal → refusal') (h : Act refusal id m m') : Act refusal' id m m' := by
  cases h with
  | indexed h ho hk => exact .indexed h ho hk
  | called => exact .called
  | announced h hp hs => exact .announced h hp hs
  | updated h hp hp' hn hs ho hsh => exact .updated h hp hp' hn hs ho hsh
  | finished h hp hi hs hk ha => exact .finished h hp hi hs hk ha
  | kept hf h hp hi hs hk ha => exact .kept (hr hf) h hp hi hs hk ha
  | aborted h hl => exact .aborted h hl
  | lateAborted => exact .lateAborted

theorem Move.mono (hr : refusal → refusal') (hc : crash → crash')
    (h : Move refusal crash m m') : Move refusal' crash' m m' := by
  cases h with
  | act h => exact .act (h.mono hr)
  | acquired h => exact .acquired h
  | born h hf hp hs => exact .born h hf hp hs
  | restarted h => exact .restarted (hc h)

theorem Moves.mono (hr : refusal → refusal') (hc : crash → crash')
    (h : Moves refusal crash m m') : Moves refusal' crash' m m' :=
  Relation.ReflTransGen.mono (fun _ _ => Move.mono hr hc) _ _ h

/-! ## What an act leaves alone -/

/-- An event that a phase allows is about the transfer. -/
theorem Says.subject {p : Phase} {e : Event} (h : Says p id e) : e.subject = id := by
  cases e <;> first | exact h.1 | exact h.elim

/-- What the acts on behalf of some transfers leave alone: the other transfers, and the
trace so far. -/
structure Local (I : Set TransferId) (m m' : Memory) : Prop where
  records : ∀ j ∉ I, m'.records j = m.records j
  index : ∀ j ∉ I, (j ∈ m'.index ↔ j ∈ m.index)
  trace : ∃ evs, m'.trace = m.trace ++ evs ∧ ∀ e ∈ evs, e.subject ∈ I

theorem Local.rfl : Local I m m := ⟨fun _ _ => Eq.refl _, fun _ _ => Iff.rfl, [], by simp, by simp⟩

theorem Local.trans {m₁ m₂ m₃ : Memory} (h : Local I m₁ m₂) (h' : Local I m₂ m₃) :
    Local I m₁ m₃ := by
  obtain ⟨hr, hi, evs, ht, hs⟩ := h
  obtain ⟨hr', hi', evs', ht', hs'⟩ := h'
  refine ⟨fun j hj => (hr' j hj).trans (hr j hj), fun j hj => (hi' j hj).trans (hi j hj),
    evs ++ evs', by rw [ht', ht, List.append_assoc], ?_⟩
  exact fun e he => (List.mem_append.mp he).elim (hs e) (hs' e)

theorem Act.isLocal (h : Act refusal id m m') : Local {id} m m' := by
  have update (r : TransferId → Option Transfer) (x : Option Transfer) :
      ∀ j ∉ ({id} : Set TransferId), Function.update r id x j = r j :=
    fun j hj => Function.update_of_ne hj _ _
  cases h with
  | indexed hn ho hk => exact ⟨fun _ _ => rfl, fun j hj => ho j hj, [], by simp, by simp⟩
  | called => exact ⟨fun _ _ => rfl, fun _ _ => Iff.rfl, _, rfl, by simp [Event.subject]⟩
  | announced hst hp hs =>
    exact ⟨fun _ _ => rfl, fun _ _ => Iff.rfl, _, rfl, fun e he => (hs e he).subject⟩
  | updated hst hp hp' hn hs ho hsh =>
    exact ⟨ho ▸ update _ _, fun _ _ => Iff.rfl, _, rfl, by simp [Event.subject]⟩
  | @finished t p evs n hst hp hi hs hk ha =>
    refine ⟨update _ _, fun _ _ => Iff.rfl, _, rfl, fun e he => ?_⟩
    rcases List.mem_append.mp he with he | he
    · exact (hs e he).subject
    · rcases List.mem_pair.mp he with rfl | rfl
      · exact ha
      · rfl
  | @kept t p evs n hr hst hp hi hs hk ha =>
    refine ⟨fun _ _ => rfl, fun _ _ => Iff.rfl, _, rfl, fun e he => ?_⟩
    rcases List.mem_append.mp he with he | he
    · exact (hs e he).subject
    · exact List.mem_singleton.mp he ▸ ha
  | aborted => exact ⟨fun _ _ => rfl, fun _ _ => Iff.rfl, _, rfl, by simp [Event.subject]⟩
  | lateAborted => exact ⟨fun _ _ => rfl, fun _ _ => Iff.rfl, _, rfl, by simp [Event.subject]⟩

theorem Local.mono {J : Set TransferId} (hIJ : I ⊆ J) (h : Local I m m') : Local J m m' := by
  obtain ⟨hr, hi, evs, ht, hs⟩ := h
  exact ⟨fun j hj => hr j fun h => hj (hIJ h), fun j hj => hi j fun h => hj (hIJ h), evs, ht,
    fun e he => hIJ (hs e he)⟩

/-- **Acts on behalf of some transfers leave the others alone.** -/
theorem Acts.isLocal (h : Acts refusal I m m') : Local I m m' := by
  induction h with
  | refl => exact .rfl
  | tail _ h ih =>
    obtain ⟨id, hid, ha⟩ := h
    exact ih.trans (ha.isLocal.mono (Set.singleton_subset_iff.mpr hid))

/-- The trace only grows. -/
theorem Move.trace (h : Move refusal crash m m') : m.trace <+: m'.trace := by
  cases h with
  | act h =>
    obtain ⟨evs, ht, -⟩ := h.isLocal.trace
    exact ⟨evs, ht.symm⟩
  | acquired | restarted => exact List.prefix_rfl
  | born => exact List.prefix_append _ _

theorem Moves.trace (h : Moves refusal crash m m') : m.trace <+: m'.trace := by
  induction h with
  | refl => exact List.prefix_rfl
  | tail _ hm ih => exact ih.trans hm.trace

/-! ## The stored transfers are well-formed -/

/-- A transfer is stored under its own id, in a state that has not ended, with a
recipient exactly when this has been called. -/
structure Transfer.Stands (t : Transfer) (id : TransferId) : Prop where
  id : t.id = id
  phase : ∃ p, t.status.phase = some p
  shaped : Shaped t

/-- Every stored transfer is well-formed and recorded as stored, and the index has no
duplicates. -/
structure WellStored (m : Memory) : Prop where
  stands : ∀ {id t}, m.records id = some t → t.Stands id
  known : ∀ {id t}, m.records id = some t → .stored id ∈ m.trace
  index : m.index.Nodup

namespace WellStored

/-- The invariant does not depend on the locked initiators, and the trace may grow. -/
theorem of_eq (h : WellStored m) (hr : m'.records = m.records) (hi : m'.index = m.index)
    (ht : m.trace <+: m'.trace) : WellStored m' where
  stands hid := h.stands (hr ▸ hid)
  known hid := ht.subset (h.known (hr ▸ hid))
  index := hi ▸ h.index

theorem store (h : WellStored m) {t : Transfer} (ht : t.Stands t.id)
    (hr : m'.records = Function.update m.records t.id (some t)) (hi : m'.index = m.index)
    (htr : m'.trace = m.trace ++ [.stored t.id]) : WellStored m' where
  stands {id u} hid := by
    rw [hr, Function.update_apply] at hid
    split at hid
    next heq =>
      cases hid
      exact heq ▸ ht
    next => exact h.stands hid
  known {id u} hid := by
    rw [hr, Function.update_apply] at hid
    rw [htr]
    split at hid
    next heq => simp [heq]
    next => simp [h.known hid]
  index := hi ▸ h.index

theorem forget (h : WellStored m) {id : TransferId}
    (hr : m'.records = Function.update m.records id none) (hi : m'.index = m.index)
    (ht : m.trace <+: m'.trace) : WellStored m' where
  stands {id' u} hid := by
    rw [hr, Function.update_apply] at hid
    split at hid
    next => cases hid
    next => exact h.stands hid
  known {id' u} hid := by
    rw [hr, Function.update_apply] at hid
    split at hid
    next => cases hid
    next => exact ht.subset (h.known hid)
  index := hi ▸ h.index

end WellStored

/-- **Every move keeps the stored transfers well-formed.** -/
theorem Move.wellStored (h : Move refusal crash m m') (hm : WellStored m) : WellStored m' := by
  have ht := h.trace
  cases h with
  | act h =>
    cases h with
    | indexed hn ho hk => exact ⟨hm.stands, hm.known, hn⟩
    | called | announced | kept | aborted | lateAborted => exact hm.of_eq rfl rfl ht
    | updated hst hp hp' hn hs ho hsh =>
      exact hm.store ⟨rfl, ⟨_, hp'⟩, hsh⟩ rfl rfl (by simp [ho])
    | finished => exact hm.forget rfl rfl ht
  | acquired | restarted => exact hm.of_eq rfl rfl ht
  | born hf hfr hp hsh => exact hm.store ⟨rfl, ⟨_, hp⟩, hsh⟩ rfl rfl rfl

theorem Moves.wellStored (h : Moves refusal crash m m') (hm : WellStored m) : WellStored m' := by
  induction h with
  | refl => exact hm
  | tail _ h ih => exact h.wellStored ih

theorem Acts.wellStored (h : Acts refusal I m m') (hm : WellStored m) : WellStored m' :=
  have moves : Moves refusal False m m' := h.moves
  moves.wellStored hm

end Calld.Transfers
