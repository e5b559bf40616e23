/-
# Every transfer lives its life

The runs of calld simulate one machine `Life.Step` for each transfer id, as long as ARI
deletes what it is asked to: what is recorded about a transfer is what its life emits
(`Moves.simulates`).
-/
import Calld.Transfers.Run

namespace Calld.Transfers

open Effect

/-! ## The life shown by the memory -/

/-- What an event shows of the life of a transfer. -/
def Event.observation (id : TransferId) : Event → Option Observation
  | .notified n => if n.transfer.id = id then some (.notified n.kind) else none
  | .originated i _ => if i = id then some .originated else none
  | .removed i => if i = id then some .removed else none
  | _ => none

/-- The life of a transfer, as far as the memory tells. -/
def Memory.life (m : Memory) (id : TransferId) : Life :=
  match m.records id with
  | some t => (t.status.phase).elim .over .live
  | none => if .stored id ∈ m.trace then .over else .unborn

variable {m m' : Memory} {id : TransferId} {t : Transfer} {p : Phase}

theorem Memory.life_stored (h : m.records id = some t) (hp : t.status.phase = some p) :
    m.life id = .live p := by
  simp [life, h, hp]

theorem Memory.life_unborn (h : m.records id = none) (ht : .stored id ∉ m.trace) :
    m.life id = .unborn := by
  simp [life, h, ht]

theorem Memory.life_over (h : m.records id = none) (ht : .stored id ∈ m.trace) :
    m.life id = .over := by
  simp [life, h, ht]

/-- The life depends on the record, and on whether there was one. -/
theorem Memory.life_congr (hr : m'.records id = m.records id)
    (ht : .stored id ∈ m'.trace ↔ .stored id ∈ m.trace) : m'.life id = m.life id := by
  simp [life, hr, ht]

/-- An event about another transfer shows nothing. -/
theorem Event.observation_of_ne {e : Event} (h : e.subject ≠ id) : e.observation id = none := by
  cases e <;> first | rfl | exact if_neg h

/-- An event that a phase allows shows an observation that the phase allows. -/
theorem Says.may {e : Event} (h : Says p id e) {o : Observation}
    (ho : e.observation id = some o) : p.may o = true := by
  cases e with
  | notified n =>
    simp only [Event.observation, h.1, if_true, Option.some.injEq] at ho
    exact ho ▸ h.2
  | originated i c =>
    simp only [Event.observation, h.1, if_true, Option.some.injEq] at ho
    exact ho ▸ h.2
  | called | aborted | stored | removed => exact h.elim

theorem may_of_allowed {evs : List Event} (h : ∀ e ∈ evs, Says p id e) :
    ∀ o ∈ evs.filterMap (Event.observation id), p.may o = true := by
  intro o ho
  obtain ⟨e, he, ho⟩ := List.mem_filterMap.mp ho
  exact (h e he).may ho

/-- What is announced in a phase does not store anything. -/
theorem stored_of_allowed {evs : List Event} (h : ∀ e ∈ evs, Says p id e) : .stored id ∉ evs :=
  fun hm => (h _ hm).elim

/-! ## The simulation -/

/-- The frame of what follows the lives of all transfers. -/
abbrev Lives : Frame Memory := Simulates Life.Step Memory.trace (fun id m => m.life id)
  Event.observation

/-- An act that follows the life of its transfer follows the lives of all. -/
theorem lives_of_local {evs : List Event} (h : Local {id} m m') (ht : m'.trace = m.trace ++ evs)
    (hs : Observed Life.Step (m.life id) (evs.filterMap (Event.observation id)) (m'.life id)) :
    Lives.rel m m' := by
  refine Simulates.of_step id ht (fun j hj => ?_) hs
  obtain ⟨evs', ht', hsub⟩ := h.trace
  obtain rfl : evs' = evs := List.append_cancel_left (ht'.symm.trans ht)
  refine ⟨Memory.life_congr (h.records j hj) ?_, ?_⟩
  · rw [ht, List.mem_append]
    refine or_iff_left fun hm => hj ?_
    exact hsub _ hm
  · refine List.filterMap_eq_nil_iff.mpr fun e he => Event.observation_of_ne ?_
    rw [hsub e he]
    exact Ne.symm hj

/-- An act that shows nothing and leaves the life of its transfer. -/
theorem lives_of_hidden {evs : List Event} (h : Local {id} m m') (ht : m'.trace = m.trace ++ evs)
    (hr : m'.records id = m.records id) (hstored : .stored id ∉ evs)
    (ho : evs.filterMap (Event.observation id) = []) : Lives.rel m m' := by
  have same : m'.life id = m.life id := Memory.life_congr hr (by simp [ht, hstored])
  refine lives_of_local h ht ?_
  rw [ho, same]
  exact .refl _

/-- **Every act follows the lives of the transfers**, when nothing is kept. -/
theorem Act.lives (h : Act False id m m') (hw : WellStored m) : Lives.rel m m' := by
  have hl := h.isLocal
  cases h with
  | indexed => exact Simulates.of_silent rfl fun _ => rfl
  | called => exact lives_of_hidden hl rfl rfl (by simp) rfl
  | @announced t p evs hst hp hs =>
    have same : (m.log evs).life id = m.life id :=
      Memory.life_congr rfl (by simp [stored_of_allowed hs])
    refine lives_of_local hl rfl ?_
    rw [same, Memory.life_stored hst hp]
    exact .single (.move p.next_self (may_of_allowed hs))
  | @updated t t' p p' hst hp hp' hn hs ho hsh =>
    refine lives_of_local hl rfl ?_
    have stored : ((m.store t').log [.stored id]).records id = some t' := by simp [ho]
    rw [Memory.life_stored hst hp, Memory.life_stored stored hp']
    exact .single (.move hn (by simp [Event.observation]))
  | @finished t p evs n hst hp hi hs hk ha =>
    have gone : (((m.unlock t.initiatorCall).forget id).log
        (evs ++ [.notified n, .removed id])).life id = .over :=
      Memory.life_over (by simp) (by simp [hw.known hst])
    have ended : ([.notified n, .removed id] : List Event).filterMap (Event.observation id) =
        [.notified .ended, .removed] := by simp [Event.observation, ha, hk]
    refine lives_of_local hl rfl ?_
    rw [Memory.life_stored hst hp, gone, List.filterMap_append, ended]
    exact .single (.finish hi (may_of_allowed hs))
  | kept hf => exact hf.elim
  | aborted => exact lives_of_hidden hl rfl rfl (by simp) rfl
  | lateAborted => exact lives_of_hidden hl rfl rfl (by simp) rfl

/-- A transfer is born. -/
theorem born_lives (hw : WellStored m) (c : ChannelId) (fresh : .stored t.id ∉ m.trace)
    (hp : t.status.phase = some .initial) :
    Lives.rel m (((m.lock c).store t).log [.stored t.id]) := by
  have unstored : m.records t.id = none := by
    cases hr : m.records t.id with
    | none => rfl
    | some u => exact absurd (hw.known hr) fresh
  have hl : Local {t.id} m (((m.lock c).store t).log [.stored t.id]) :=
    ⟨fun j hj => Function.update_of_ne hj _ _, fun _ _ => Iff.rfl, _, rfl, by simp [Event.subject]⟩
  refine lives_of_local hl rfl ?_
  rw [Memory.life_unborn unstored fresh, Memory.life_stored (t := t) (by simp) hp]
  exact .single .born

variable {crash : Prop}

theorem Move.lives (h : Move False crash m m') (hw : WellStored m) : Lives.rel m m' := by
  cases h with
  | act h => exact h.lives hw
  | acquired => exact Simulates.of_silent rfl fun _ => rfl
  | born free fresh hp hs => exact born_lives hw _ fresh hp
  | restarted => exact Simulates.of_silent rfl fun _ => rfl

/-- **The moves follow the lives of the transfers.** -/
theorem Moves.lives (h : Moves False crash m m') (hw : WellStored m) : Lives.rel m m' := by
  induction h with
  | refl => exact Lives.refl _
  | tail hms hm ih => exact Lives.trans ih (hm.lives (Moves.wellStored hms hw))

end Calld.Transfers
