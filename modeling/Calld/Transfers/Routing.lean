/-
# Which transfer an event is routed to

The handlers find the transfer of a channel by `StatePersistor.get_by_channel`, which
returns the first one that names the channel.  So a hangup reaches every transfer of the
channel if and only if there is at most one (`hangup_reaches_all_iff`).
-/
import Calld.Transfers.Calls
import Calld.Transfers.Run

namespace Calld.Transfers

open Effect Effect.Program TransfersStasis

variable {env : Env} {I : Set TransferId} {s s' s₀ : System} {t : Transfer} {id : TransferId}
  {c : ChannelId}

/-! ## Reading the store -/

/-- ARI answers the reads of global variables. -/
def Env.AnswersReads (env : Env) : Prop := ∀ n a x, env.ari n a (.getGlobalVar x) = .ok ()

/-- ARI answers the reads of the index and of some of the transfers, and does not find the
other transfers. -/
structure Env.Shows (env : Env) (V : TransferId → Bool) : Prop where
  index : ∀ n a, env.ari n a (.getGlobalVar .index) = .ok ()
  shown : ∀ n a id, V id = true → env.ari n a (.getGlobalVar (.transfer id)) = .ok ()
  hidden : ∀ n a id, V id = false → env.ari n a (.getGlobalVar (.transfer id)) = .error .notFound

theorem Env.AnswersReads.shows (h : env.AnswersReads) : env.Shows fun _ => true :=
  ⟨fun _ _ => h _ _ _, fun _ _ _ _ => h _ _ _, fun _ _ _ hf => by cases hf⟩

theorem Env.AnswersReads.reads (h : env.AnswersReads) (x : GlobalVariable) {X : Exn → Prop} :
    env.Reads x X := by
  intro n a e he
  rw [h] at he
  cases he

theorem Asterisk.mem_live {a : Asterisk} : t ∈ a.live ↔ ∃ id ∈ a.index, a.records id = some t :=
  List.mem_filterMap

/-- A listed transfer is the one stored under its id. -/
theorem WellStored.records_of_live (h : WellStored s.memory) (ht : t ∈ s.asterisk.live) :
    s.memory.records t.id = some t := by
  obtain ⟨id, -, hr⟩ := Asterisk.mem_live.mp ht
  have hr : s.memory.records id = some t := hr
  rw [(h.stands hr).id]
  exact hr

/-- Listed transfers with the same id are the same. -/
theorem WellStored.eq_of_live (h : WellStored s.memory) {t' : Transfer}
    (ht : t ∈ s.asterisk.live) (ht' : t' ∈ s.asterisk.live) (hid : t.id = t'.id) : t = t' := by
  have := h.records_of_live ht
  rw [hid, h.records_of_live ht'] at this
  exact (Option.some.inj this).symm

/-- No two listed transfers have the same id. -/
theorem WellStored.nodup_live (h : WellStored s.memory) : (s.asterisk.live.map Transfer.id).Nodup := by
  have index : s.asterisk.index.Nodup := h.index
  have ids : ∀ ids : List TransferId, ids.Nodup →
      ((ids.filterMap s.asterisk.records).map Transfer.id).Nodup := by
    intro ids hn
    refine List.Nodup.sublist ?_ hn
    induction ids with
    | nil => exact List.Sublist.refl _
    | cons id ids ih =>
      have rest := ih (List.nodup_cons.mp hn).2
      cases hr : s.asterisk.records id with
      | none =>
        rw [List.filterMap_cons_none hr]
        exact rest.cons _
      | some t =>
        rw [List.filterMap_cons_some hr, List.map_cons, (h.stands hr).id]
        exact rest.cons_cons _
  exact ids _ index

theorem readGlobal_shown {x : GlobalVariable} (h : ∀ n a, env.ari n a (.getGlobalVar x) = .ok ()) :
    Triple env (Quiet s₀) (StatePersistor.readGlobal x) (fun _ => Quiet s₀) fun _ _ => False := by
  intro s hs
  simp only [StatePersistor.readGlobal, bind_apply, catching, ari]
  cases ha : env.ari s.tick s.asterisk (.getGlobalVar x) with
  | ok a => exact quiet.trans hs ⟨rfl, rfl, rfl, rfl, rfl⟩
  | error e =>
    rw [h] at ha
    cases ha

theorem readGlobal_hidden {x : GlobalVariable}
    (h : ∀ n a, env.ari n a (.getGlobalVar x) = .error .notFound) :
    Triple env (Quiet s₀) (StatePersistor.readGlobal x) (fun _ _ => False)
      fun e s => Quiet s₀ s ∧ e = .keyError := by
  intro s hs
  simp only [StatePersistor.readGlobal, bind_apply, catching, ari]
  cases ha : env.ari s.tick s.asterisk (.getGlobalVar x) with
  | ok a =>
    rw [h] at ha
    cases ha
  | error e =>
    rw [h] at ha
    cases ha
    exact ⟨quiet.trans hs ⟨rfl, rfl, rfl, rfl, rfl⟩, rfl⟩

/-- One turn of the loop of `list`: a transfer that ARI does not find is skipped. -/
theorem get_shown {V : TransferId → Bool} (henv : env.Shows V) (hw : WellStored s₀.memory)
    (id : TransferId) :
    Triple env (Quiet s₀) (catching Exn.isKeyError (StatePersistor.get id))
      (fun r s => Quiet s₀ s ∧ r = (s₀.asterisk.records id).filter fun t => V t.id)
      fun _ _ => False := by
  have filtered (v : Bool) (hV : V id = v) : (s₀.asterisk.records id).filter (fun t => V t.id) =
      if v = true then s₀.asterisk.records id else none := by
    cases hr : s₀.asterisk.records id with
    | none => cases v <;> rfl
    | some t => cases v <;> simp [(hw.stands hr).id, hV]
  refine Triple.catching ?_
  unfold StatePersistor.get
  cases hV : V id with
  | false =>
    rw [filtered false hV]
    have read : Triple env (Quiet s₀) (StatePersistor.readGlobal _) _ _ :=
      readGlobal_hidden fun n a => henv.hidden n a id hV
    refine Triple.bind (Q := fun _ _ => False) (read.weaken (fun _ h => h) (fun _ _ h => h) ?_)
      fun _ _ => False.elim
    rintro _ s ⟨hs, rfl⟩
    exact ⟨hs, rfl⟩
  | true =>
    rw [filtered true hV]
    refine ((readGlobal_shown fun n a => henv.shown n a id hV).weaken (fun _ h => h)
      (fun _ _ h => h) fun _ _ => False.elim).bind fun _ => ?_
    refine (Triple.look (Q := fun r s => Quiet s₀ s ∧ s₀.asterisk.records id = r)
      fun s hs => ⟨hs, by rw [hs.records]⟩).bind fun r => ?_
    cases r with
    | none => exact Triple.throw fun s h => ⟨h.1, h.2.symm⟩
    | some t => exact Triple.pure fun s h => ⟨h.1, h.2.symm⟩

theorem collect_shown {V : TransferId → Bool} (henv : env.Shows V) (hw : WellStored s₀.memory)
    (ids : List TransferId) :
    Triple env (Quiet s₀) (StatePersistor.collect ids)
      (fun ts s => Quiet s₀ s ∧ ts = (ids.filterMap s₀.asterisk.records).filter fun t => V t.id)
      fun _ _ => False := by
  induction ids with
  | nil => exact Triple.pure fun s hs => ⟨hs, rfl⟩
  | cons id ids ih =>
    unfold StatePersistor.collect
    refine (get_shown henv hw id).bind fun r => Triple.of_fact ?_
    rintro rfl
    cases hr : s₀.asterisk.records id with
    | none =>
      rw [List.filterMap_cons_none hr]
      exact ih
    | some t =>
      rw [List.filterMap_cons_some hr]
      cases hV : V t.id with
      | false =>
        simp only [Option.filter, hV, List.filter_cons, Bool.false_eq_true, if_false]
        exact ih
      | true =>
        simp only [Option.filter, hV, List.filter_cons, if_true]
        refine ih.bind fun ts => Triple.of_fact ?_
        rintro rfl
        exact Triple.pure fun s hs => ⟨hs, rfl⟩

/-- **`list` returns the listed transfers that ARI finds.** -/
theorem list_shown {V : TransferId → Bool} (henv : env.Shows V) (hw : WellStored s₀.memory) :
    Triple env (Quiet s₀) StatePersistor.list
      (fun ts s => Quiet s₀ s ∧ ts = s₀.asterisk.live.filter fun t => V t.id) fun _ _ => False := by
  refine Triple.bind (Q := fun ids s => Quiet s₀ s ∧ ids = s₀.asterisk.index) ?_ fun ids =>
    Triple.of_fact ?_
  · exact (readGlobal_shown henv.index).bind fun _ => Triple.look fun s hs => ⟨hs, hs.index⟩
  · rintro rfl
    exact collect_shown henv hw _

theorem list_answered (henv : env.AnswersReads) (hw : WellStored s₀.memory) :
    Triple env (Quiet s₀) StatePersistor.list
      (fun ts s => Quiet s₀ s ∧ ts = s₀.asterisk.live) fun _ _ => False := by
  refine (list_shown henv.shows hw).weaken (fun _ h => h) (fun ts s h => ⟨h.1, ?_⟩) fun _ _ h => h
  rw [h.2, List.filter_true]

/-- `get_by_channel` returns the first transfer that names the channel. -/
theorem getByChannel_shown {V : TransferId → Bool} (henv : env.Shows V) (hw : WellStored s₀.memory)
    (c : ChannelId) :
    Triple env (Quiet s₀) (StatePersistor.getByChannel c)
      (fun t s => Quiet s₀ s ∧
        (s₀.asterisk.live.filter fun t => V t.id).find? (·.names c) = some t)
      fun e s => Quiet s₀ s ∧
        (s₀.asterisk.live.filter fun t => V t.id).find? (·.names c) = none ∧ e = .keyError := by
  unfold StatePersistor.getByChannel
  refine ((list_shown henv hw).weaken (fun _ h => h) (fun _ _ h => h) fun _ _ => False.elim).bind
    fun ts => Triple.of_fact ?_
  rintro rfl
  cases hf : (s₀.asterisk.live.filter fun t => V t.id).find? (·.names c) with
  | none => exact Triple.throw fun s hs => ⟨hs, rfl, rfl⟩
  | some t => exact Triple.pure fun s hs => ⟨hs, rfl⟩

/-! ## Reading the store in any environment -/

theorem collect_listed {X : Exn → Prop} (hr : ∀ x, env.Reads x X) (ids : List TransferId) :
    Triple env (Quiet s₀) (StatePersistor.collect ids)
      (fun ts s => Quiet s₀ s ∧ ts.Sublist (ids.filterMap s₀.asterisk.records))
      fun e s => Quiet s₀ s ∧ X e := by
  induction ids with
  | nil => exact Triple.pure fun s hs => ⟨hs, .slnil⟩
  | cons id ids ih =>
    have read : Triple env (Quiet s₀) (catching Exn.isKeyError (StatePersistor.get id))
        (fun r s => Quiet s₀ s ∧ ∀ t, r = some t → s₀.asterisk.records id = some t)
        fun e s => Quiet s₀ s ∧ X e := by
      refine Triple.catching ((get_spec (hr _)).weaken (fun _ h => h) ?_ ?_)
      · rintro t s ⟨hq, hrec⟩
        exact ⟨hq, fun t' ht => Option.some.inj ht ▸ hrec⟩
      · rintro e s ⟨hq, hx⟩
        split
        · exact ⟨hq, fun _ ht => nomatch ht⟩
        · refine ⟨hq, hx.resolve_right ?_⟩
          rintro ⟨-, rfl⟩
          contradiction
    unfold StatePersistor.collect
    refine read.bind fun r => Triple.of_fact fun hrec => ?_
    cases r with
    | none =>
      refine ih.weaken (fun _ h => h) (fun ts s h => ⟨h.1, h.2.trans ?_⟩) fun _ _ h => h
      rw [List.filterMap_cons]
      split
      · exact .refl _
      · exact List.sublist_cons_self _ _
    | some t =>
      rw [List.filterMap_cons_some (hrec t rfl)]
      exact ih.bind fun ts => Triple.of_fact fun hts => Triple.pure fun s hs => ⟨hs, hts.cons_cons t⟩

/-- `list` returns some of the listed transfers. -/
theorem list_listed {X : Exn → Prop} (hr : ∀ x, env.Reads x X) :
    Triple env (Quiet s₀) StatePersistor.list
      (fun ts s => Quiet s₀ s ∧ ts.Sublist s₀.asterisk.live) fun e s => Quiet s₀ s ∧ X e := by
  have read : Triple env (Quiet s₀) (StatePersistor.readGlobal .index) (fun _ => Quiet s₀)
      fun e s => Quiet s₀ s ∧ X e :=
    (readGlobal_reads (hr _)).triple fun _ _ hs hq => quiet.trans hs hq
  refine Triple.bind (Q := fun ids s => Quiet s₀ s ∧ ids = s₀.asterisk.index) ?_ fun ids =>
    Triple.of_fact ?_
  · exact read.bind fun _ => Triple.look fun s hs => ⟨hs, hs.index⟩
  · rintro rfl
    exact collect_listed hr _

/-- `get_by_channel` returns a listed transfer that names the channel. -/
theorem getByChannel_listed {X : Exn → Prop} (hr : ∀ x, env.Reads x X) (c : ChannelId) :
    Triple env (Quiet s₀) (StatePersistor.getByChannel c)
      (fun t s => Quiet s₀ s ∧ t ∈ s₀.asterisk.live ∧ t.names c = true)
      fun e s => Quiet s₀ s ∧ (X e ∨ e = .keyError) := by
  unfold StatePersistor.getByChannel
  refine ((list_listed hr).weaken (fun _ h => h) (fun _ _ h => h) fun _ _ h => ⟨h.1, .inl h.2⟩).bind
    fun ts => Triple.of_fact fun hts => ?_
  split
  next t hf =>
    refine Triple.pure fun s hs => ⟨hs, hts.subset (List.mem_of_find?_eq_some hf), ?_⟩
    simpa using List.find?_some hf
  next => exact Triple.throw fun s hs => ⟨hs, .inr rfl⟩

/-! ## Hangups -/

/-- Every class decorates the three hangup transitions. -/
theorem hangup_decorated {p : Phase} (hp : t.status.phase = some p) (role : Role) :
    ∃ body, t.status.method ⟨"", "", .object [], none⟩ (hangupTransition role) =
      .decorated body := by
  cases hst : t.status <;> rw [hst] at hp <;> cases role <;>
    first | exact ⟨_, rfl⟩ | cases hp

/-- The hangup of a party is recorded, whether the transition raises or not. -/
theorem partyHangup_records (henv : env.AnswersReads) (hw : WellStored s.memory)
    (hst : s.memory.records t.id = some t) (role : Role) :
    Triple env (fun u => u = s) (partyHangup role t)
      (fun _ => Records s (.called t.id t.status (hangupTransition role)))
      fun _ => Records s (.called t.id t.status (hangupTransition role)) := by
  obtain ⟨p, hp⟩ := (hw.stands hst).phase
  obtain ⟨body, hm⟩ := hangup_decorated hp role
  refine make_spec (I := Set.univ) (X := fun _ => False) (henv.reads _) hw hst trivial
    (fun u hl => ?_) fun _ _ h => h.elim
  have recorded : Triple env (fun s' => s' = u) (do let _ ← call (hangupTransition role) t)
      (fun _ => Records s (.called t.id t.status (hangupTransition role)))
      fun _ => Records s (.called t.id t.status (hangupTransition role)) :=
    (call_records hm hl).bind fun _ => Triple.pure fun _ h => h
  exact recorded.weaken (fun _ h => h) (fun _ _ h => h) (fun _ _ h => h) u rfl

/-- The hangup of a party has been dispatched to a transfer, and no other has changed. -/
structure Dispatched (env : Env) (role : Role) (t : Transfer) (s s' : System) : Prop where
  records : Records s (.called t.id t.status (hangupTransition role)) s'
  after : After env {t.id} s s'

theorem partyHangup_dispatched (henv : env.AnswersReads) (hw : WellStored s.memory)
    (hst : s.memory.records t.id = some t) (role : Role) :
    Triple env (Quiet s) (publish (partyHangup role t)) (fun _ => Dispatched env role t s)
      fun _ => Dispatched env role t s := by
  intro u hq
  have after : After env {t.id} s u := (After.refl hw).of_quiet hq
  have party : Triple env (fun u' => u' = u) (partyHangup role t)
      (fun _ => Dispatched env role t s) fun _ => Dispatched env role t s :=
    ((partyHangup_records henv after.wellStored (hq.memory ▸ hst) role).and
      (Acting.triple (partyHangup_acting role (Set.mem_singleton t.id)))).run_state ⟨rfl, after⟩
      (fun _ _ h => ⟨h.1.since after, h.2⟩) fun _ _ h => ⟨h.1.since after, h.2⟩
  have caught : Triple env (fun u' => u' = u) (catching isHandled (partyHangup role t))
      (fun _ => Dispatched env role t s) fun _ => Dispatched env role t s :=
    Triple.catching (party.weaken (fun _ h => h) (fun _ _ h => h) fun e u' h => by
      split <;> exact h)
  have published : Triple env (fun u' => u' = u) (publish (partyHangup role t))
      (fun _ => Dispatched env role t s) fun _ => Dispatched env role t s :=
    caught.bind fun _ => Triple.pure fun _ h => h
  exact published u rfl

theorem find?_names {ts : List Transfer} (h : ts.find? (·.names c) = some t) :
    t.names c = true := by
  simpa using List.find?_some h

/-- A hangup is dispatched to the first listed transfer that names the channel. -/
theorem hangup_first (henv : env.AnswersReads) (hw : WellStored s.memory)
    (hf : s.asterisk.live.find? (·.names c) = some t) :
    ∃ role, t.role c = some role ∧ Dispatched env role t s (hangup c env s).2 := by
  have named : (t.role c).isSome = true := (t.role_isSome c).trans (find?_names hf)
  obtain ⟨role, hrole⟩ := Option.isSome_iff_exists.mp named
  have lookup : Triple env (fun u => u = s) (catching Exn.isKeyError (StatePersistor.getByChannel c))
      (fun r u => Quiet s u ∧ r = some t) fun _ _ => False := by
    have shown := getByChannel_shown henv.shows hw c
    simp only [List.filter_true] at shown
    refine Triple.catching (shown.run_state (quiet.refl s) ?_ ?_)
    · rintro t' u ⟨hq, hr⟩
      exact ⟨hq, hr.symm.trans hf⟩
    · rintro e u ⟨-, hn, -⟩
      exact absurd (hf.symm.trans hn) (by simp)
  have dispatched : Triple env (fun u => u = s) (hangup c) (fun _ => Dispatched env role t s)
      fun _ => Dispatched env role t s := by
    unfold hangup
    refine (lookup.weaken (fun _ h => h) (fun _ _ h => h) fun _ _ => False.elim).bind fun r =>
      Triple.of_fact ?_
    rintro rfl
    simp only [roleOf, hrole]
    exact partyHangup_dispatched henv hw
      (hw.records_of_live (List.mem_of_find?_eq_some hf)) role
  exact ⟨role, hrole, dispatched.final rfl⟩

/-- The hangup transition for the role of the channel in the transfer has been called. -/
def Receives (evs : List Event) (t : Transfer) (c : ChannelId) : Prop :=
  ∃ role, t.role c = some role ∧ ∃ st, .called t.id st (hangupTransition role) ∈ evs

/-- **A hangup reaches every transfer of the channel** exactly when at most one stored
transfer names the channel. -/
theorem hangup_reaches_all_iff {A : Allowed} (h : Reachable A s) (henv : env.AnswersReads) :
    (∀ t ∈ s.asterisk.live, t.names c = true → Receives ((Op.hangup c).events env s) t c) ↔
      ∀ t ∈ s.asterisk.live, ∀ t' ∈ s.asterisk.live, t.names c = true → t'.names c = true →
        t = t' := by
  have first {t : Transfer} (ht : t ∈ s.asterisk.live) (hn : t.names c = true) :
      ∃ t₀ ∈ s.asterisk.live, t₀.names c = true ∧ Receives ((Op.hangup c).events env s) t₀ c ∧
        ∀ e ∈ (Op.hangup c).events env s, e.subject = t₀.id := by
    have found : (s.asterisk.live.find? (·.names c)).isSome = true :=
      List.find?_isSome.mpr ⟨t, ht, hn⟩
    obtain ⟨t₀, hf⟩ := Option.isSome_iff_exists.mp found
    obtain ⟨role, hrole, ⟨evs, htr, hev⟩, after⟩ := hangup_first henv h.wellStored hf
    have local_trace : Local {t₀.id} s.memory (hangup c env s).2.memory := Acts.isLocal after.acts
    obtain ⟨evs', htr', hsub⟩ := local_trace.trace
    have events : (Op.hangup c).events env s = evs := by
      show (hangup c env s).2.trace.drop s.trace.length = evs
      rw [htr, List.drop_left]
    obtain rfl : evs' = evs := List.append_cancel_left (htr'.symm.trans htr)
    rw [events]
    exact ⟨t₀, List.mem_of_find?_eq_some hf, find?_names hf, ⟨role, hrole, _, hev⟩, hsub⟩
  constructor
  · intro all t ht t' ht' hn hn'
    obtain ⟨t₀, ht₀, -, -, only⟩ := first ht hn
    have eq_first {u : Transfer} (hu : u ∈ s.asterisk.live) (hun : u.names c = true) : u = t₀ := by
      obtain ⟨role, -, st, he⟩ := all u hu hun
      exact h.wellStored.eq_of_live hu ht₀ (only _ he)
    rw [eq_first ht hn, eq_first ht' hn']
  · intro unique t ht hn
    obtain ⟨t₀, ht₀, hn₀, received, -⟩ := first ht hn
    rwa [unique t ht t₀ ht₀ hn hn₀]

/-! ## A hangup that misses a transfer -/

open Scene

/-- Alice transfers Bob, and Dave transfers Alice. -/
def doubleRun : System :=
  run [(.calm "first" carol, .create (request bob alice .attended)),
    (.calm "second" carol, .create (request alice dave .attended))] .start

theorem doubleRun_reachable : Reachable GlobalsWritten doubleRun :=
  run_reachable ⟨by decide, Env.calm_writes _ _, by decide, Env.calm_writes _ _,
    trivial⟩

theorem Env.calm_answersReads (id : TransferId) (recipient : ChannelId) :
    (Env.calm id recipient).AnswersReads := fun _ _ _ => rfl

/-- The transfer that Alice initiates. -/
def firstTransfer : Transfer :=
  ⟨"first", "user", some "user", bob, alice, some carol, "first", .ringback, .attended⟩

/-- Alice hangs up, and the transfer that she initiates does not know. -/
theorem hangup_misses_initiated_transfer :
    ∃ s, Reachable GlobalsWritten s ∧ firstTransfer ∈ s.asterisk.live ∧
      firstTransfer.names alice = true ∧
      ¬ Receives ((Op.hangup alice).events (.calm "third" carol) s) firstTransfer alice := by
  refine ⟨doubleRun, doubleRun_reachable, by decide, by decide, ?_⟩
  rintro ⟨role, -, st, he⟩
  have other : ∀ e ∈ (Op.hangup alice).events (.calm "third" carol) doubleRun,
      e.subject ≠ "first" := by decide
  exact other _ he rfl

theorem hangup_reaches_all_iff_double :
    (∀ t ∈ doubleRun.asterisk.live, t.names bob = true →
        Receives ((Op.hangup bob).events (.calm "third" carol) doubleRun) t bob) ↔
      ∀ t ∈ doubleRun.asterisk.live, ∀ t' ∈ doubleRun.asterisk.live, t.names bob = true →
        t'.names bob = true → t = t' :=
  hangup_reaches_all_iff doubleRun_reachable (Env.calm_answersReads _ _)

end Calld.Transfers
