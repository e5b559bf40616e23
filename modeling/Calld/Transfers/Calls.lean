/-
# What the call of a transition returns

The contract of the call of a transition (`call_spec`) joins what it does to the memory
(`Refinement.lean`) with what it returns and raises (`Graph.lean`).  The contract of the
factory (`make_spec`) says that the call is made on the stored transfer.

How ARI may fail to read and to write the global variables is a parameter: `Env.Reads` and
`Env.Writes` name the exceptions that come of it.
-/
import Calld.Transfers.Graph
import Calld.Transfers.Handlers

namespace Calld.Transfers

open Effect Effect.Program TransferState
open AriHelpers (StartArgs)

variable {env : Env} {E X : Exn → Prop} {I : Set TransferId} {s s₀ : System} {t : Transfer}
  {id : TransferId} {tr : Transition} {g : Target}

/-! ## The global variables -/

/-- The reads of a global variable fail with exceptions of `X` only. -/
def Env.Reads (env : Env) (x : GlobalVariable) (X : Exn → Prop) : Prop :=
  ∀ n a e, env.ari n a (.getGlobalVar x) = .error e → X (if e = .notFound then .keyError else .ari e)

/-- The writes of global variables fail with exceptions of `X` only. -/
def Env.Writes (env : Env) (X : Exn → Prop) : Prop :=
  ∀ n a w e, env.ari n a (.setGlobalVar w) = .error e → X (.ari e)

theorem readGlobal_reads {x : GlobalVariable} (h : env.Reads x X) :
    Within env quiet X (StatePersistor.readGlobal x) := by
  intro s
  simp only [StatePersistor.readGlobal, bind_apply, Program.catching, ari]
  cases ha : env.ari s.tick s.asterisk (.getGlobalVar x) with
  | ok a =>
    refine ⟨⟨rfl, rfl, rfl, rfl, rfl⟩, fun e he => ?_⟩
    simp at he
  | error e =>
    have hx := h _ _ _ ha
    cases e <;> refine ⟨⟨rfl, rfl, rfl, rfl, rfl⟩, fun e' he => ?_⟩ <;> cases he <;> exact hx

theorem getIndex_reads (h : env.Reads .index X) : Within env quiet X StatePersistor.getIndex :=
  (readGlobal_reads h).bind fun _ => .look _

theorem setGlobal_gives (h : env.Writes X) (w : GlobalWrite) :
    Gives env X (ari (.setGlobalVar w)) fun _ => True := by
  intro s _
  unfold ari
  cases ha : env.ari s.tick s.asterisk (.setGlobalVar w) with
  | ok a => trivial
  | error e => exact h _ _ _ _ ha

theorem updateCache_gives (hr : env.Reads .index X) (hw : env.Writes X) (t : Transfer) :
    Gives env X (updateCache t) fun _ => True := by
  have setIndex (ids : List TransferId) : Gives env X (StatePersistor.setIndex ids) fun _ => True :=
    fun s _ => setGlobal_gives hw _ s trivial
  have upsert : Gives env X (StatePersistor.upsert t) fun _ => True := by
    have set : Gives env X (StatePersistor.set t) fun _ => True :=
      (setGlobal_gives hw _).bind fun _ _ _ _ => trivial
    exact set.bind fun _ _ => .after (getIndex_reads hr) fun _ => setIndex _
  have remove : Gives env X (StatePersistor.remove t.id) fun _ => True := by
    have unset : Gives env X (StatePersistor.unset t.id) fun _ => True := by
      intro s _
      refine Gives.bind (Φ := fun _ => True) (setGlobal_gives hw (.unsetTransfer t.id))
        (fun _ _ => ?_) s trivial
      split
      · exact fun _ _ => trivial
      · exact .pure trivial
    refine unset.bind fun _ _ => .after (getIndex_reads hr) fun ids => ?_
    split
    · exact setIndex _
    · exact .pure trivial
  unfold updateCache
  split
  · exact remove
  · exact upsert

/-! ## The call of a transition -/

/-- `NotImplementedError` and `AttributeError`. -/
def Exn.isUnimplemented : Exn → Bool
  | .notImplementedError _ | .attributeError => true
  | _ => false

/-- **The call of a transition that the state implements** returns what the graph says. -/
theorem call_spec (hf : env.Faults E) (hr : env.Reads .index X) (hw : env.Writes X)
    (hg : t.status.target tr = some g) (hX : ∀ e, t.status.raises tr E e → X e) :
    Triple env (Linked env I s₀ t) (call tr t)
      (fun t' s => Called env I s₀ t t' s ∧ g.Results t t')
      fun e s => Aborted env I s₀ t s ∧ X e := by
  have plain (body : Transfer → Code Transfer)
      (hm : t.status.method ⟨"", "", .object [], none⟩ tr = .plain body) :
      Gives env X (body t) (g.Results t) := by
    have moh : tr = .transferredMohStop ∧ g = .stay := by
      cases hst : t.status <;> rw [hst] at hm hg <;> cases tr <;> cases hm <;> cases hg <;>
        exact ⟨rfl, rfl⟩
    obtain ⟨rfl, rfl⟩ := moh
    have steadfast : t.status.steadfast .transferredMohStop = true := by
      cases t.status <;> rfl
    rw [plain_method hm]
    exact (playSilence_gives hf t).weaken (fun _ h => h) fun e he =>
      hX e ((Status.raises_steadfast steadfast).mpr he)
  have decorated (body : Transfer → Code Transfer)
      (hm : t.status.method ⟨"", "", .object [], none⟩ tr = .decorated body) :
      Gives env X (body t) (g.Results t) :=
    (method_gives hf hm hg).weaken (fun _ h => h) hX
  have result : Triple env (fun s => s.stateMachineLocked = true) (call tr t)
      (fun t' _ => g.Results t t') fun e _ => X e :=
    callWith_result (fun hm => absurd hm (method_of_target hg)) plain decorated
      fun t' _ => updateCache_gives hr hw t'
  exact ((callWith_triple _ tr t).and result).pre fun _ h => ⟨h, h.flag⟩

/-- The call of a transition that the state does not implement. -/
theorem call_unimplemented (hg : t.status.target tr = none) :
    Triple env (Linked env I s₀ t) (call tr t) (fun _ _ => False)
      fun e s => Aborted env I s₀ t s ∧ e.isUnimplemented = true := by
  have result : Triple env (fun s => s.stateMachineLocked = true) (call tr t)
      (fun _ _ => False) fun e _ => e.isUnimplemented = true := by
    refine callWith_result (Φ := fun _ => False) (fun _ => rfl) (fun body hm => ?_)
      (fun body hm => ?_) fun _ h => h.elim
    · rcases method_of_no_target hg with h | h <;> rw [hm] at h <;> cases h
    · rcases method_of_no_target hg with h | h <;> rw [hm] at h <;> cases h
      exact Triple.throw fun _ _ => rfl
  exact ((callWith_triple _ tr t).and result).weaken (fun _ h => ⟨h, h.flag⟩)
    (fun _ _ h => h.2) fun _ _ h => h

/-! ## The factory -/

/-- `get` returns the stored transfer, or raises `KeyError` if there is none. -/
theorem get_spec (h : env.Reads (.transfer id) X) :
    Triple env (Quiet s₀) (StatePersistor.get id)
      (fun t s => Quiet s₀ s ∧ s₀.asterisk.records id = some t)
      fun e s => Quiet s₀ s ∧ (X e ∨ s₀.asterisk.records id = none ∧ e = .keyError) := by
  have read : Triple env (Quiet s₀) (StatePersistor.readGlobal (.transfer id))
      (fun _ => Quiet s₀) fun e s => Quiet s₀ s ∧ X e :=
    (readGlobal_reads h).triple fun _ _ hs hq => quiet.trans hs hq
  unfold StatePersistor.get
  refine (read.weaken (fun _ h => h) (fun _ _ h => h) fun _ _ h => ⟨h.1, .inl h.2⟩).bind fun _ => ?_
  refine (Triple.look (Q := fun r s => Quiet s₀ s ∧ s₀.asterisk.records id = r)
    fun s hs => ⟨hs, by rw [hs.records]⟩).bind fun r => ?_
  cases r with
  | none => exact Triple.throw fun s h => ⟨h.1, .inr ⟨h.2, rfl⟩⟩
  | some t => exact Triple.pure fun s h => h

/-- A stored transfer has a state class. -/
theorem Transfer.Stands.hasConstructor (h : t.Stands id) : t.status.hasConstructor = true := by
  obtain ⟨p, hp⟩ := h.phase
  cases hst : t.status <;> first | rfl | (rw [hst] at hp; cases hp)

/-- **The factory runs its body on the stored transfer**, with the state machine locked, in the
memory that it finds. -/
theorem make_at {α : Type} (hr : env.Reads (.transfer id) X) {body : Transfer → Code α}
    {Q : α → System → Prop} {R : Exn → System → Prop} (hw : WellStored s.memory)
    (hst : s.memory.records id = some t) (hid : id ∈ I)
    (hbody : Triple env (fun u => Linked env I s t u ∧ u.memory = s.memory) (body t)
      (fun a u => Q a { u with stateMachineLocked := false })
      fun e u => R e { u with stateMachineLocked := false })
    (hread : ∀ e u, X e → u.memory = s.memory → R e u) :
    Triple env (fun u => u = s) (StateFactory.make id body) Q R := by
  have own : t.id = id := (hw.stands hst).id
  have constructor : t.status.hasConstructor = true := (hw.stands hst).hasConstructor
  unfold StateFactory.make StateFactory.locked
  refine Triple.bind (Q := fun _ u => u = { s with stateMachineLocked := true })
    (Triple.change fun u hu => by rw [hu]) fun _ => Triple.ensuring ?_
  refine Triple.bind (Q := fun t' u => t' = t ∧ Linked env I s t u ∧ u.memory = s.memory) ?_
    fun t' => ?_
  · refine (get_spec hr).run_state (quiet.refl _) ?_ ?_
    · rintro t' u ⟨hq, hrec⟩
      obtain rfl : t' = t := Option.some.inj (hrec.symm.trans hst)
      have memory : u.memory = s.memory := hq.memory
      refine ⟨rfl, ⟨(After.refl hw).of_eq memory, hq.stateMachineLocked, own ▸ hid, .stored ?_⟩,
        memory⟩
      rw [memory, own]
      exact hst
    · rintro e u ⟨hq, hx | ⟨hn, -⟩⟩
      · exact hread e _ hx hq.memory
      · exact absurd (hst.symm.trans hn) (by simp)
  · rintro u ⟨rfl, hl⟩
    simp only [constructor, Bool.not_true, Bool.false_eq_true, if_false]
    exact hbody u hl

theorem make_spec {α : Type} (hr : env.Reads (.transfer id) X) {body : Transfer → Code α}
    {Q : α → System → Prop} {R : Exn → System → Prop} (hw : WellStored s.memory)
    (hst : s.memory.records id = some t) (hid : id ∈ I)
    (hbody : Triple env (Linked env I s t) (body t)
      (fun a u => Q a { u with stateMachineLocked := false })
      fun e u => R e { u with stateMachineLocked := false })
    (hread : ∀ e u, X e → After env I s u → R e u) :
    Triple env (fun u => u = s) (StateFactory.make id body) Q R :=
  make_at hr hw hst hid (hbody.pre fun _ => And.left)
    fun e u hx hm => hread e u hx ((After.refl hw).of_eq hm)

/-- The factory without a stored transfer. -/
theorem make_unstored {α : Type} (hr : env.Reads (.transfer id) X) {body : Transfer → Code α}
    (hn : s.memory.records id = none) :
    Triple env (fun u => u = s) (StateFactory.make id body) (fun _ _ => False)
      fun e u => u.memory = s.memory ∧ (X e ∨ e = .keyError) := by
  unfold StateFactory.make StateFactory.locked
  refine Triple.bind (Q := fun _ u => u = { s with stateMachineLocked := true })
    (Triple.change fun u hu => by rw [hu]) fun _ => Triple.ensuring ?_
  refine Triple.bind (Q := fun _ _ => False) ?_ fun _ _ h => h.elim
  refine (get_spec hr).run_state (quiet.refl _) ?_ ?_
  · rintro t u ⟨-, hrec⟩
    exact absurd (hn.symm.trans hrec) (by simp)
  · rintro e u ⟨hq, hx | ⟨-, rfl⟩⟩
    · exact ⟨hq.memory, .inl hx⟩
    · exact ⟨hq.memory, .inr rfl⟩

/-! ## Healthy environments -/

/-- Nothing fails, but ARI may not find a channel or a bridge. -/
structure Env.Healthy (env : Env) : Prop where
  ari : ∀ {n a r e}, env.ari n a r = .error e → e = .notFound
  reads : ∀ n a x, env.ari n a (.getGlobalVar x) = .ok ()
  writes : ∀ n a w, env.ari n a (.setGlobalVar w) = .ok ()
  ami : ∀ n r e, env.ami n r ≠ .error e
  bus : ∀ n, env.bus n = true

theorem Env.Healthy.faults (h : env.Healthy) : env.Faults (· = .ari .notFound) where
  ari he := by rw [h.ari he]
  ami he := absurd he (h.ami _ _ _)
  bus hb := by
    rw [h.bus] at hb
    cases hb

theorem Env.Healthy.readsAll (h : env.Healthy) (x : GlobalVariable) : env.Reads x X := by
  intro n a e he
  rw [h.reads] at he
  cases he

theorem Env.Healthy.writesAll (h : env.Healthy) : env.Writes X := by
  intro n a w e he
  rw [h.writes] at he
  cases he

/-- A missing channel is no failure that `except ARINotFound` lets through. -/
theorem not_missed {e : Exn} : ¬ Missed (· = .ari .notFound) e := by
  rintro ⟨rfl, hm⟩
  cases hm

/-- **In a healthy environment a steadfast transition returns.** -/
theorem call_steadfast (h : env.Healthy) (hg : t.status.target tr = some g)
    (hs : t.status.steadfast tr = true) :
    Triple env (Linked env I s₀ t) (call tr t)
      (fun t' s => Called env I s₀ t t' s ∧ g.Results t t') fun _ _ => False :=
  (call_spec h.faults (h.readsAll .index) h.writesAll hg fun _ he =>
    not_missed ((Status.raises_steadfast hs).mp he)).weaken (fun _ h => h) (fun _ _ h => h)
    fun _ _ h => h.2

end Calld.Transfers
