/-
# What is always true of relocates

A relocate that is being created is known to its creation only, though others may find it
in the collection: until its recipient is known it stays ready, and no operation moves a
ready relocate.
-/
import Calld.Relocates.Steps

namespace Calld.Relocates

open Effect Effect.Program Effect.Moves

/-! ## The invariant -/

/-- The event is about a relocate. -/
def Event.Concerns (u : RelocateUuid) : Event → Prop
  | .added u' | .notified _ u' | .originated u' _ => u' = u
  | .hungUp _ | .gone _ => False

/-- The relocate that a task is creating. -/
def Task.creating : Task → Option RelocateUuid
  | .insert u _ _ _ | .initiate u _ | .started u _ => some u
  | .createFromUser _ | .onStasisStart _ | .stasisStarted .. | .onHangup .. | .hangupOf ..
  | .completeFromUser .. | .complete _ | .cancelFromUser .. | .cancel _ => none

/-- Nothing is known of unused uuids, the relocates of the collection have been added, and
the recipient of a relocate that is no longer ready is known. -/
structure World.Sound (w : World) : Prop where
  fresh : ∀ u ∉ w.uuids, (w.relocates u).state = .ready ∧
    (w.relocates u).recipientChannel = none ∧ u ∉ w.collection ∧ ∀ e ∈ w.trace, ¬ e.Concerns u
  nodup : w.collection.Nodup
  added : ∀ u ∈ w.collection, .added u ∈ w.trace
  recipient : ∀ u c, .originated u c ∈ w.trace → (w.relocates u).state ≠ .ready →
    (w.relocates u).recipientChannel = some c

/-- A relocate that is being created: ready, and without a recipient. -/
structure World.Starting (w : World) (u : RelocateUuid) : Prop where
  known : u ∈ w.uuids
  ready : (w.relocates u).state = .ready
  recipient : (w.relocates u).recipientChannel = none

/-- What a task remembers is true. -/
def Task.Sound (w : World) : Task → Prop
  | .insert u _ _ _ => w.Starting u ∧ ∀ e ∈ w.trace, ¬ e.Concerns u
  | .initiate u _ => w.Starting u ∧ .added u ∈ w.trace ∧ ∀ c, .originated u c ∉ w.trace
  | .started u c => w.Starting u ∧ .added u ∈ w.trace ∧
      ∀ c', .originated u c' ∈ w.trace → c' = c
  | .stasisStarted u _ | .complete u | .cancel u => .added u ∈ w.trace
  | .hangupOf u c => .added u ∈ w.trace ∧ (w.relocates u).has c
  | .createFromUser _ | .onStasisStart _ | .onHangup .. | .completeFromUser ..
  | .cancelFromUser .. => True

/-- A relocate is created once, and everything under way is sound. -/
structure Sys.Sound (s : Sys) : Prop where
  world : s.world.Sound
  once : (s.tasks.filterMap Task.creating).Nodup
  tasks : ∀ t ∈ s.tasks, t.Sound s.world

/-! ## What a change leaves alone -/

/-- The relocate that a change is about. -/
def Change.subject : Change → Option RelocateUuid
  | .created u _ _ | .inserted u _ _ | .originated u _ | .assigned u _ | .moved u _ | .ended u
  | .told _ u => some u
  | .met .. | .hungUp _ | .unlocked _ => none

section Changes

variable {w w₀ : World} {k : Change} {u : RelocateUuid} {env : Env} {t o : Task}

/-- The event that a change adds to the trace. -/
def Change.event : Change → Option Event
  | .inserted u _ _ => some (.added u)
  | .originated u c => some (.originated u c)
  | .ended u => some (.notified .ended u)
  | .told topic u => some (.notified topic u)
  | .hungUp c => some (.hungUp c)
  | .created .. | .met .. | .assigned .. | .moved .. | .unlocked _ => none

theorem trace_apply (k : Change) (w : World) :
    (k.apply w).trace = w.trace ++ k.event.toList := by
  cases k with
  | created | met | assigned | moved | unlocked => exact (List.append_nil _).symm
  | inserted | originated | ended | told | hungUp => rfl

theorem mem_trace {e : Event} (h : e ∈ w.trace) : e ∈ (k.apply w).trace := by
  rw [trace_apply]
  exact List.mem_append_left _ h

/-- The event of a change is about the relocate that the change is about. -/
theorem subject_of_event {e : Event} (h : k.event = some e) (he : e.Concerns u) :
    k.subject = some u := by
  cases k with
  | inserted | originated | ended | told =>
    cases h
    exact congrArg some he
  | hungUp =>
    cases h
    exact he.elim
  | created | met | assigned | moved | unlocked => cases h

theorem mem_uuids (h : u ∈ w.uuids) : u ∈ (k.apply w).uuids := by
  cases k with
  | created => exact Finset.mem_insert_of_mem h
  | _ => exact h

theorem mem_channels {c : ChannelId} (h : c ∈ w.channels) : c ∈ (k.apply w).channels := by
  cases k with
  | met => exact Finset.mem_insert_of_mem (Finset.mem_insert_of_mem h)
  | originated => exact Finset.mem_insert_of_mem h
  | _ => exact h

/-- Relocates that a change is not about stay as they are. -/
theorem relocates_of_ne (h : k.subject ≠ some u) :
    (k.apply w).relocates u = w.relocates u := by
  cases k with
  | created u' _ _ | inserted u' _ _ | assigned u' _ | moved u' _ | ended u' =>
    exact Function.update_of_ne (fun heq => h (congrArg some heq.symm)) ..
  | _ => rfl

/-- Nothing happens to them. -/
theorem mem_trace_of_ne {e : Event} (h : k.subject ≠ some u) (he : e.Concerns u)
    (hmem : e ∈ (k.apply w).trace) : e ∈ w.trace := by
  rw [trace_apply] at hmem
  rcases List.mem_append.mp hmem with hmem | hmem
  · exact hmem
  · exact absurd (subject_of_event (Option.mem_toList.mp hmem) he) h

theorem World.Starting.keep (h : w.Starting u) (hk : k.subject ≠ some u) :
    (k.apply w).Starting u where
  known := mem_uuids h.known
  ready := by rw [relocates_of_ne hk]; exact h.ready
  recipient := by rw [relocates_of_ne hk]; exact h.recipient

/-- Operations change relocates that are live. -/
theorem mayOperate_live {r : Relocate} {op : Operation} {u' : RelocateUuid}
    (hk : MayOperate env u r op w k) (hs : k.subject = some u') :
    u' = u ∧ (w.relocates u).state.isLive := by
  cases k with
  | told topic v =>
    obtain rfl := Option.some.inj hs
    exact ⟨hk.1, hk.2.2⟩
  | moved v state =>
    obtain rfl := Option.some.inj hs
    exact ⟨hk.1, hk.2.2⟩
  | ended v =>
    obtain rfl := Option.some.inj hs
    refine ⟨hk.1, ?_⟩
    rw [hk.2.1]
    exact hk.2.2.1
  | hungUp c => cases hs
  | created | met | inserted | originated | assigned | unlocked => exact hk.elim

/-- The tasks that operate on a relocate. -/
def Task.operates : Task → Option RelocateUuid
  | .stasisStarted u _ | .hangupOf u _ | .complete u | .cancel u => some u
  | .createFromUser _ | .insert .. | .initiate .. | .started .. | .onStasisStart _ | .onHangup ..
  | .completeFromUser .. | .cancelFromUser .. => none

theorem operation_operates {op : Operation} (h : t.operation w = some (u, op)) :
    t.operates = some u := by
  cases t with
  | stasisStarted u' role =>
    simp only [Task.operation] at h
    split at h
    · cases h
      rfl
    · split at h <;> cases h
      rfl
  | hangupOf u' c =>
    obtain ⟨role, _, heq⟩ := Option.map_eq_some_iff.mp h
    cases heq
    rfl
  | complete u' | cancel u' =>
    cases h
    rfl
  | _ => cases h

/-! ## Which section makes a change -/

theorem may_created {userUuid : UserUuid} {vars : Dict String}
    (hk : t.May env w₀ w (.created u userUuid vars)) :
    (∃ r, t = .createFromUser r) ∧ u = env.uuid4 ∧ u ∉ w.uuids := by
  cases t with
  | createFromUser r => exact ⟨⟨r, rfl⟩, hk⟩
  | insert => cases hk.1
  | initiate | started => exact hk.elim
  | _ =>
    obtain ⟨_, _, _, hmay⟩ := hk
    exact hmay.elim

theorem may_inserted {r : RelocateRequest} {relocatedChannel : ChannelId}
    (hk : t.May env w₀ w (.inserted u r relocatedChannel)) :
    (∃ endpoint, t = .insert u r relocatedChannel endpoint) ∧ w = w₀ ∧
      w.findByChannel r.initiatorCall = none := by
  cases t with
  | createFromUser | initiate | started => exact hk.elim
  | insert u' r' relocated' endpoint =>
    obtain ⟨heq, hrest⟩ := hk
    cases heq
    exact ⟨⟨endpoint, rfl⟩, hrest⟩
  | _ =>
    obtain ⟨_, _, _, hmay⟩ := hk
    exact hmay.elim

theorem may_originated {c : ChannelId} (hk : t.May env w₀ w (.originated u c)) :
    (∃ endpoint, t = .initiate u endpoint) ∧ w = w₀ ∧ c ∉ w.channels ∧
      (w.relocates u).state = .ready := by
  cases t with
  | createFromUser | started => exact hk.elim
  | insert => cases hk.1
  | initiate u' endpoint =>
    obtain ⟨rfl, hrest⟩ := hk
    exact ⟨⟨endpoint, rfl⟩, hrest⟩
  | _ =>
    obtain ⟨_, _, _, hmay⟩ := hk
    exact hmay.elim

theorem may_assigned {c : ChannelId} (hk : t.May env w₀ w (.assigned u c)) :
    t = .started u c ∧ w = w₀ := by
  cases t with
  | createFromUser | initiate => exact hk.elim
  | insert => cases hk.1
  | started u' c' =>
    obtain ⟨rfl, rfl, hrest⟩ := hk
    exact ⟨rfl, hrest⟩
  | _ =>
    obtain ⟨_, _, _, hmay⟩ := hk
    exact hmay.elim

theorem may_moved {state : StateName} (hk : t.May env w₀ w (.moved u state)) :
    (∃ c, t = .started u c ∧ state = .recipientRing ∧ w.trace = w₀.trace ∧
      (w.relocates u).state = (w₀.relocates u).state ∧
      (w.relocates u).recipientChannel = some c) ∨
    (t.operates = some u ∧ state.isLive ∧ (w.relocates u).state.isLive) := by
  cases t with
  | createFromUser | initiate => exact hk.elim
  | insert => cases hk.1
  | started u' c' =>
    obtain ⟨rfl, hrest⟩ := hk
    exact .inl ⟨c', rfl, hrest⟩
  | _ =>
    obtain ⟨_, _, hop, hmay⟩ := hk
    obtain ⟨rfl, hrest⟩ := hmay
    exact .inr ⟨operation_operates hop, hrest⟩

theorem may_ended (hk : t.May env w₀ w (.ended u)) :
    (∃ endpoint, t = .initiate u endpoint ∧ w = w₀ ∧ (w.relocates u).state = .ready ∧
      env.refuses u (w.relocates u) endpoint) ∨
    ∃ op, t.operation w₀ = some (u, op) ∧ w.relocates u = w₀.relocates u ∧
      (w.relocates u).state.isLive ∧ Disposed env u (w.relocates u) op w := by
  cases t with
  | createFromUser | started => exact hk.elim
  | insert => cases hk.1
  | initiate u' endpoint =>
    obtain ⟨rfl, hrest⟩ := hk
    exact .inl ⟨endpoint, rfl, hrest⟩
  | _ =>
    obtain ⟨_, op, hop, hmay⟩ := hk
    obtain ⟨rfl, heq, hlive, hdisposed⟩ := hmay
    rw [← heq] at hlive hdisposed
    exact .inr ⟨op, hop, heq, hlive, hdisposed⟩

theorem may_told {topic : Topic} (hk : t.May env w₀ w (.told topic u)) :
    (∃ endpoint, t = .initiate u endpoint ∧ topic = .ended ∧ (w.relocates u).state = .ended ∧
      env.refuses u (w₀.relocates u) endpoint ∧ env.told .ended u (w₀.relocates u) = .ok ()) ∨
    (t.creating = some u ∧ topic = .initiated ∧ (w.relocates u).state = .recipientRing) ∨
    (t.operates = some u ∧ (topic = .answered ∨ topic = .completed) ∧
      (w.relocates u).state.isLive) := by
  cases t with
  | createFromUser => exact hk.elim
  | insert => cases hk.1
  | initiate u' endpoint =>
    obtain ⟨htopic, rfl, hrest⟩ := hk
    exact .inl ⟨endpoint, rfl, htopic, hrest⟩
  | started u' c =>
    obtain ⟨htopic, rfl, hrest⟩ := hk
    exact .inr (.inl ⟨rfl, htopic, hrest⟩)
  | _ =>
    obtain ⟨_, op, hop, hmay⟩ := hk
    obtain ⟨rfl, hrest⟩ := hmay
    exact .inr (.inr ⟨operation_operates hop, hrest⟩)

/-- A change that a section may make is not about a relocate that another one creates. -/
theorem subject_ne_of_starting (hstart : w.Starting u) (hk : t.May env w₀ w k)
    (hne : t.creating ≠ some u) : k.subject ≠ some u := by
  intro hs
  have hdead : (w.relocates u).state.isLive = false := by
    rw [hstart.ready]
    rfl
  cases k with
  | created v _ _ =>
    obtain rfl := Option.some.inj hs
    exact (may_created hk).2.2 hstart.known
  | inserted v r relocatedChannel =>
    obtain rfl := Option.some.inj hs
    obtain ⟨⟨endpoint, rfl⟩, -⟩ := may_inserted hk
    exact hne rfl
  | originated v c =>
    obtain rfl := Option.some.inj hs
    obtain ⟨⟨endpoint, rfl⟩, -⟩ := may_originated hk
    exact hne rfl
  | assigned v c =>
    obtain rfl := Option.some.inj hs
    obtain ⟨rfl, -⟩ := may_assigned hk
    exact hne rfl
  | moved v state =>
    obtain rfl := Option.some.inj hs
    obtain ⟨c, rfl, -⟩ | ⟨_, _, hlive⟩ := may_moved hk
    · exact hne rfl
    · simp [hdead] at hlive
  | ended v =>
    obtain rfl := Option.some.inj hs
    obtain ⟨endpoint, rfl, -⟩ | ⟨op, _, _, hlive, _⟩ := may_ended hk
    · exact hne rfl
    · simp [hdead] at hlive
  | told topic v =>
    obtain rfl := Option.some.inj hs
    obtain ⟨endpoint, rfl, -⟩ | ⟨hcreate, -⟩ | ⟨_, _, hlive⟩ := may_told hk
    · exact hne rfl
    · exact hne hcreate
    · simp [hdead] at hlive
  | met | hungUp | unlocked => cases hs

/-! ## What the sections keep -/

/-- An unused uuid has not been added. -/
theorem World.Sound.known (hw : w.Sound) (h : .added u ∈ w.trace) : u ∈ w.uuids := by
  by_contra hu
  exact (hw.fresh u hu).2.2.2 _ h rfl

/-- Once a relocate has been added, its channels stay. -/
theorem has_keep {c : ChannelId} (hw : w.Sound) (ht : t.Sound w₀)
    (hk : t.May env w₀ w k) (hadded : .added u ∈ w.trace) (hc : (w.relocates u).has c) :
    ((k.apply w).relocates u).has c := by
  by_cases hs : k.subject = some u
  swap
  · rwa [relocates_of_ne hs]
  cases k with
  | created v _ _ =>
    obtain rfl := Option.some.inj hs
    exact absurd (hw.known hadded) (may_created hk).2.2
  | inserted v r relocatedChannel =>
    obtain rfl := Option.some.inj hs
    obtain ⟨⟨endpoint, rfl⟩, rfl, -⟩ := may_inserted hk
    exact absurd rfl (ht.2 _ hadded)
  | assigned v c' =>
    obtain rfl := Option.some.inj hs
    obtain ⟨rfl, rfl⟩ := may_assigned hk
    rw [assigned_relocates]
    have hnone : (w.relocates v).recipientChannel = none := ht.1.recipient
    simp only [Relocate.has, hnone, Bool.or_eq_true, decide_eq_true_eq] at hc ⊢
    rcases hc with hc | hc
    · exact .inl hc
    · cases hc
  | moved v state | ended v =>
    obtain rfl := Option.some.inj hs
    simpa [Relocate.has] using hc
  | originated | told => exact hc
  | met | hungUp | unlocked => cases hs

/-- What another task remembers stays true. -/
theorem Task.Sound.keep (h : o.Sound w) (hw : w.Sound) (ht : t.Sound w₀)
    (hk : t.May env w₀ w k) (hne : ∀ u, o.creating = some u → t.creating ≠ some u) :
    o.Sound (k.apply w) := by
  cases o with
  | insert u r relocatedChannel endpoint =>
    have hs := subject_ne_of_starting h.1 hk (hne u rfl)
    exact ⟨h.1.keep hs, fun e he hc => h.2 e (mem_trace_of_ne hs hc he) hc⟩
  | initiate u endpoint =>
    have hs := subject_ne_of_starting h.1 hk (hne u rfl)
    exact ⟨h.1.keep hs, mem_trace h.2.1, fun c hc => h.2.2 c (mem_trace_of_ne hs rfl hc)⟩
  | started u c =>
    have hs := subject_ne_of_starting h.1 hk (hne u rfl)
    exact ⟨h.1.keep hs, mem_trace h.2.1, fun c' hc => h.2.2 c' (mem_trace_of_ne hs rfl hc)⟩
  | stasisStarted | complete | cancel => exact mem_trace h
  | hangupOf u c => exact ⟨mem_trace h.1, has_keep hw ht hk h.1 h.2⟩
  | createFromUser | onStasisStart | onHangup | completeFromUser | cancelFromUser => trivial

/-- A relocate that is not ready, or that has a recipient, is known. -/
theorem World.Sound.known_of_state (hw : w.Sound) (h : (w.relocates u).state ≠ .ready) :
    u ∈ w.uuids := by
  by_contra hu
  exact h (hw.fresh u hu).1

theorem not_ready_of_live {state : StateName} (h : state.isLive) : state ≠ .ready := by
  rintro rfl
  cases h

/-- What a change is about is known after it. -/
theorem subject_known (hw : w.Sound) (ht : t.Sound w₀) (hk : t.May env w₀ w k)
    (hs : k.subject = some u) : u ∈ (k.apply w).uuids := by
  cases k with
  | created v _ _ =>
    obtain rfl := Option.some.inj hs
    exact Finset.mem_insert_self ..
  | inserted v r relocatedChannel =>
    obtain rfl := Option.some.inj hs
    obtain ⟨⟨endpoint, rfl⟩, rfl, -⟩ := may_inserted hk
    exact mem_uuids ht.1.known
  | originated v c =>
    obtain rfl := Option.some.inj hs
    obtain ⟨⟨endpoint, rfl⟩, rfl, -⟩ := may_originated hk
    exact mem_uuids ht.1.known
  | assigned v c =>
    obtain rfl := Option.some.inj hs
    obtain ⟨rfl, rfl⟩ := may_assigned hk
    exact mem_uuids ht.1.known
  | moved v state =>
    obtain rfl := Option.some.inj hs
    refine mem_uuids ?_
    obtain ⟨c, rfl, -, -, -, hc⟩ | ⟨_, _, hlive⟩ := may_moved hk
    · by_contra hu
      rw [(hw.fresh v hu).2.1] at hc
      cases hc
    · exact hw.known_of_state (not_ready_of_live hlive)
  | ended v =>
    obtain rfl := Option.some.inj hs
    refine mem_uuids ?_
    obtain ⟨endpoint, rfl, rfl, -⟩ | ⟨op, _, _, hlive, _⟩ := may_ended hk
    · exact ht.1.known
    · exact hw.known_of_state (not_ready_of_live hlive)
  | told topic v =>
    obtain rfl := Option.some.inj hs
    refine mem_uuids (hw.known_of_state ?_)
    obtain ⟨endpoint, rfl, _, hstate, _⟩ | ⟨_, _, hstate⟩ | ⟨_, _, hlive⟩ := may_told hk
    · simp [hstate]
    · simp [hstate]
    · exact not_ready_of_live hlive
  | met | hungUp | unlocked => cases hs

/-- Where the collection comes from. -/
theorem mem_collection (h : u ∈ (k.apply w).collection) :
    u ∈ w.collection ∨ ∃ r relocatedChannel, k = .inserted u r relocatedChannel := by
  cases k with
  | inserted v r relocatedChannel =>
    rcases List.mem_append.mp h with h | h
    · exact .inl h
    · exact .inr ⟨r, relocatedChannel, by rw [List.mem_singleton.mp h]⟩
  | ended v => exact .inl (List.mem_of_mem_erase h)
  | told topic v =>
    cases topic with
    | ended => exact .inl (List.mem_of_mem_erase h)
    | initiated | answered | completed => exact .inl h
  | _ => exact .inl h

/-- A relocate that is being inserted is not in the collection. -/
theorem not_mem_of_inserted {r : RelocateRequest} {relocatedChannel : ChannelId} (hw : w.Sound)
    (ht : t.Sound w₀) (hk : t.May env w₀ w (.inserted u r relocatedChannel)) :
    u ∉ w.collection := by
  obtain ⟨⟨endpoint, rfl⟩, rfl, -⟩ := may_inserted hk
  exact fun hmem => ht.2 _ (hw.added u hmem) rfl

theorem nodup_keep (hw : w.Sound) (ht : t.Sound w₀) (hk : t.May env w₀ w k) :
    (k.apply w).collection.Nodup := by
  cases k with
  | inserted v r relocatedChannel =>
    refine List.nodup_append.mpr ⟨hw.nodup, List.nodup_singleton v, ?_⟩
    rintro a ha b hb rfl
    exact not_mem_of_inserted hw ht hk (List.mem_singleton.mp hb ▸ ha)
  | ended v => exact hw.nodup.erase v
  | told topic v =>
    cases topic with
    | ended => exact hw.nodup.erase v
    | initiated | answered | completed => exact hw.nodup
  | _ => exact hw.nodup

/-- Once a relocate is no longer ready, its recipient is the channel that was originated. -/
theorem recipient_keep {c : ChannelId} (hw : w.Sound) (ht : t.Sound w₀)
    (hk : t.May env w₀ w k) (hc : .originated u c ∈ (k.apply w).trace)
    (hstate : ((k.apply w).relocates u).state ≠ .ready) :
    ((k.apply w).relocates u).recipientChannel = some c := by
  by_cases hs : k.subject = some u
  swap
  · rw [relocates_of_ne hs] at hstate ⊢
    exact hw.recipient u c (mem_trace_of_ne hs rfl hc) hstate
  cases k with
  | created v userUuid vars =>
    obtain rfl := Option.some.inj hs
    rw [created_relocates] at hstate
    exact absurd rfl hstate
  | inserted v r relocatedChannel =>
    obtain rfl := Option.some.inj hs
    obtain ⟨⟨endpoint, rfl⟩, rfl, -⟩ := may_inserted hk
    refine absurd ?_ hstate
    rw [inserted_relocates]
    exact ht.1.ready
  | originated v c' =>
    obtain rfl := Option.some.inj hs
    exact absurd (may_originated hk).2.2.2 hstate
  | assigned v c' =>
    obtain rfl := Option.some.inj hs
    obtain ⟨rfl, rfl⟩ := may_assigned hk
    rw [assigned_relocates] at hstate
    exact absurd ht.1.ready hstate
  | moved v state =>
    obtain rfl := Option.some.inj hs
    rw [moved_relocates]
    obtain ⟨c', rfl, -, htrace, -, hrec⟩ | ⟨_, _, hlive⟩ := may_moved hk
    · have hc₀ : .originated v c ∈ w.trace := hc
      rw [htrace] at hc₀
      rw [ht.2.2 c hc₀]
      exact hrec
    · exact hw.recipient v c hc (not_ready_of_live hlive)
  | ended v =>
    obtain rfl := Option.some.inj hs
    rw [ended_relocates]
    have hc : .originated v c ∈ w.trace := by simpa [Change.apply, World.told, World.update] using hc
    obtain ⟨endpoint, rfl, rfl, -⟩ | ⟨op, _, _, hlive, _⟩ := may_ended hk
    · exact absurd hc (ht.2.2 c)
    · exact hw.recipient v c hc (not_ready_of_live hlive)
  | told topic v =>
    have hc : .originated u c ∈ w.trace := by simpa [Change.apply, World.told] using hc
    exact hw.recipient u c hc hstate
  | met | hungUp | unlocked => cases hs

/-- The world stays sound. -/
theorem World.Sound.keep (hw : w.Sound) (ht : t.Sound w₀) (hk : t.May env w₀ w k) :
    (k.apply w).Sound where
  fresh u hu := by
    have hs : k.subject ≠ some u := fun hs => hu (subject_known hw ht hk hs)
    obtain ⟨hready, hrec, hcol, htrace⟩ := hw.fresh u fun h => hu (mem_uuids h)
    rw [relocates_of_ne hs]
    refine ⟨hready, hrec, fun hmem => ?_, fun e he hc => htrace e (mem_trace_of_ne hs hc he) hc⟩
    rcases mem_collection hmem with hmem | ⟨r, relocatedChannel, rfl⟩
    · exact hcol hmem
    · exact hs rfl
  nodup := nodup_keep hw ht hk
  added u hu := by
    rcases mem_collection hu with hu | ⟨r, relocatedChannel, rfl⟩
    · exact mem_trace (hw.added u hu)
    · exact List.mem_append_right _ (List.mem_singleton_self _)
  recipient u c hc hstate := recipient_keep hw ht hk hc hstate

end Changes

/-! ## The tasks that follow -/

section Tasks

variable {w w' : World} {env : Env} {t next : Task} {tasks : List Task} {u : RelocateUuid}

/-- The channels of a relocate that is found are its own. -/
theorem findByChannel_some {c : ChannelId} (h : w.findByChannel c = some u) :
    u ∈ w.collection ∧ (w.relocates u).has c :=
  ⟨List.mem_of_find?_eq_some h, List.find?_some (p := fun u => (w.relocates u).has c) h⟩

/-- What follows a section is sound. -/
theorem Follows.sound (hw : w.Sound) (ht : t.Sound w) (hp : env.Possible w t)
    (hmoves : (Moves Change.apply (t.May env w)).rel w w') (h : Follows env w t next w') :
    next.Sound w' := by
  cases h with
  | insert r relocatedChannel endpoint hu =>
    obtain ⟨hready, hrec, -, htrace⟩ := hw.fresh env.uuid4 hp.1
    have hnew := Moves.invariant (I := fun s : World => (s.relocates env.uuid4).state = .ready ∧
        (s.relocates env.uuid4).recipientChannel = none ∧ s.trace = w.trace)
      (fun s k hs hk => ?_) hmoves ⟨hready, hrec, rfl⟩
    · exact ⟨⟨hu, hnew.1, hnew.2.1⟩, hnew.2.2 ▸ htrace⟩
    · cases k with
      | created v userUuid vars =>
        obtain ⟨rfl, -⟩ := hk
        rw [created_relocates]
        exact ⟨rfl, rfl, hs.2.2⟩
      | met => exact hs
      | _ => exact hk.elim
  | initiate hfind =>
    refine ⟨⟨ht.1.known, ?_, ?_⟩, ?_, fun c hc => ?_⟩
    · rw [inserted_relocates]
      exact ht.1.ready
    · rw [inserted_relocates]
      exact ht.1.recipient
    · exact List.mem_append_right _ (List.mem_singleton_self _)
    · rcases List.mem_append.mp hc with hc | hc
      · exact ht.2 _ hc rfl
      · cases List.mem_singleton.mp hc
  | started hready hc =>
    refine ⟨⟨ht.1.known, ht.1.ready, ht.1.recipient⟩, mem_trace ht.2.1, fun c' hc' => ?_⟩
    rcases List.mem_append.mp hc' with hc' | hc'
    · exact absurd hc' (ht.2.2 c')
    · cases List.mem_singleton.mp hc'
      rfl
  | stasisStarted role h => exact hw.added _ h
  | hangupOf event h =>
    obtain ⟨hmem, hhas⟩ := findByChannel_some h
    exact ⟨hw.added _ hmem, hhas⟩
  | complete _ h | cancel _ h => exact hw.added _ h

/-- What a section leaves under way is not what it was creating. -/
theorem creating_ne (h : (tasks.filterMap Task.creating).Nodup) (ht : t ∈ tasks) {o : Task}
    (ho : o ∈ tasks.erase t) (hu : o.creating = some u) : t.creating ≠ some u := by
  intro htu
  have hperm := (List.perm_cons_erase ht).filterMap Task.creating
  have hnodup := hperm.nodup_iff.mp h
  rw [List.filterMap_cons_some htu] at hnodup
  exact (List.nodup_cons.mp hnodup).1 (List.mem_filterMap.mpr ⟨o, ho, hu⟩)

/-- A section goes on creating what it was creating, or starts with a new uuid. -/
theorem Follows.creating (h : Follows env w t next w') (hu : next.creating = some u) :
    t.creating = some u ∨ u = env.uuid4 := by
  cases h with
  | insert => exact .inr (Option.some.inj hu).symm
  | initiate | started => exact .inl hu
  | stasisStarted | hangupOf | complete | cancel => cases hu

end Tasks

/-! ## Every state is sound -/

section Reachable

variable {s s' : Sys} {a : Label}

theorem sound_start : Sys.start.Sound where
  world :=
    { fresh := fun _ _ => ⟨rfl, rfl, List.not_mem_nil, fun _ he => absurd he List.not_mem_nil⟩
      nodup := List.nodup_nil
      added := fun _ hu => absurd hu List.not_mem_nil
      recipient := fun _ _ hc => absurd hc List.not_mem_nil }
  once := List.nodup_nil
  tasks _ ht := absurd ht List.not_mem_nil

theorem Task.Sound.starting {w : World} {t : Task} {u : RelocateUuid} (h : t.Sound w)
    (hu : t.creating = some u) : w.Starting u := by
  cases t with
  | insert | initiate | started =>
    cases hu
    exact h.1
  | _ => cases hu

/-- What arrives creates nothing yet. -/
theorem Task.Arrives.creating {w : World} {t : Task} (h : t.Arrives w) : t.creating = none := by
  cases t with
  | insert | initiate | started => exact h.elim
  | _ => rfl

theorem Task.Arrives.sound {w : World} {t : Task} (h : t.Arrives w) : t.Sound w := by
  cases t with
  | insert | initiate | started | stasisStarted | hangupOf | complete | cancel => exact h.elim
  | _ => trivial

/-- That a channel is gone says nothing of relocates. -/
theorem mem_gone {w : World} {c : ChannelId} {u : RelocateUuid} {e : Event} (he : e.Concerns u)
    (h : e ∈ (w.gone c).trace) : e ∈ w.trace := by
  rcases List.mem_append.mp h with h | h
  · exact h
  · obtain rfl := List.mem_singleton.mp h
    exact he.elim

theorem World.Sound.gone {w : World} (hw : w.Sound) (c : ChannelId) : (w.gone c).Sound where
  fresh u hu := by
    obtain ⟨hready, hrec, hcol, htrace⟩ := hw.fresh u hu
    exact ⟨hready, hrec, hcol, fun e he hc => htrace e (mem_gone hc he) hc⟩
  nodup := hw.nodup
  added u hu := List.mem_append_left _ (hw.added u hu)
  recipient u c' hc := hw.recipient u c' (mem_gone (u := u) rfl hc)

theorem Task.Sound.gone {w : World} {t : Task} (h : t.Sound w) (c : ChannelId) :
    t.Sound (w.gone c) := by
  have hstart {u : RelocateUuid} (h : w.Starting u) : (w.gone c).Starting u :=
    ⟨h.known, h.ready, h.recipient⟩
  cases t with
  | insert u r relocatedChannel endpoint =>
    exact ⟨hstart h.1, fun e he hc => h.2 e (mem_gone hc he) hc⟩
  | initiate u endpoint =>
    exact ⟨hstart h.1, List.mem_append_left _ h.2.1, fun c' hc =>
      h.2.2 c' (mem_gone (u := u) rfl hc)⟩
  | started u c' =>
    exact ⟨hstart h.1, List.mem_append_left _ h.2.1, fun c'' hc =>
      h.2.2 c'' (mem_gone (u := u) rfl hc)⟩
  | stasisStarted | complete | cancel => exact List.mem_append_left _ h
  | hangupOf => exact ⟨List.mem_append_left _ h.1, h.2⟩
  | createFromUser | onStasisStart | onHangup | completeFromUser | cancelFromUser => trivial

/-- A section keeps everything sound. -/
theorem Sys.Sound.after (h : s.Sound) {t : Task} {env : Env} (ht : t ∈ s.tasks)
    (hp : env.Possible s.world t) : (s.after t env).Sound := by
  have hmoves := t.moves hp
  have hkeep := Moves.invariant
    (I := fun w => w.Sound ∧ ∀ o ∈ s.tasks.erase t, o.Sound w)
    (fun w k hw hk => ⟨hw.1.keep (h.tasks t ht) hk, fun o ho => (hw.2 o ho).keep hw.1
      (h.tasks t ht) hk fun u hu => creating_ne h.once ht ho hu⟩)
    hmoves ⟨h.world, fun o ho => h.tasks o (List.mem_of_mem_erase ho)⟩
  have honce : ((s.tasks.erase t).filterMap Task.creating).Nodup :=
    h.once.sublist (List.erase_sublist.filterMap _)
  rcases t.follows env s.world with hnil | ⟨next, hnext, hfollows⟩
  · refine ⟨hkeep.1, ?_, fun o ho => ?_⟩
    · show ((s.tasks.erase t ++ following _).filterMap Task.creating).Nodup
      rw [hnil, List.append_nil]
      exact honce
    · have ho : o ∈ s.tasks.erase t ++ following _ := ho
      rw [hnil, List.append_nil] at ho
      exact hkeep.2 o ho
  · refine ⟨hkeep.1, ?_, fun o ho => ?_⟩
    · show ((s.tasks.erase t ++ following _).filterMap Task.creating).Nodup
      rw [hnext, List.filterMap_append]
      cases hc : next.creating with
      | none =>
        rw [List.filterMap_cons_none hc]
        simpa using honce
      | some u =>
        rw [List.filterMap_cons_some hc]
        refine List.nodup_append.mpr ⟨honce, List.nodup_singleton u, ?_⟩
        rintro v hv v' hv' rfl
        obtain rfl := List.mem_singleton.mp hv'
        obtain ⟨o, ho, hov⟩ := List.mem_filterMap.mp hv
        rcases hfollows.creating hc with htv | rfl
        · exact creating_ne h.once ht ho hov htv
        · exact absurd ((h.tasks o (List.mem_of_mem_erase ho)).starting hov).known hp.1
    · have ho : o ∈ s.tasks.erase t ++ following _ := ho
      rw [hnext] at ho
      rcases List.mem_append.mp ho with ho | ho
      · exact hkeep.2 o ho
      · obtain rfl := List.mem_singleton.mp ho
        exact hfollows.sound h.world (h.tasks t ht) hp hmoves

/-- **Soundness**: everything is sound in every state that is reached. -/
theorem sound_of_reaches {C : Sys → Label → Prop} (h : machine.Reaches C s) : s.Sound := by
  refine Machine.Reaches.invariant (I := Sys.Sound) ?_ ?_ h
  · rintro s rfl
    exact sound_start
  · intro s a s' hs _ hstep
    obtain ⟨t, rfl, ht, rfl⟩ | ⟨c, rfl, rfl⟩ | ⟨t, env, rfl, ht, _, hp, rfl⟩ := step_cases hstep
    · refine ⟨hs.world, ?_, fun o ho => ?_⟩
      · show (List.filterMap Task.creating (t :: s.tasks)).Nodup
        rw [List.filterMap_cons_none ht.creating]
        exact hs.once
      · rcases List.mem_cons.mp ho with rfl | ho
        · exact ht.sound
        · exact hs.tasks o ho
    · exact ⟨hs.world.gone c, hs.once, fun o ho => (hs.tasks o ho).gone c⟩
    · exact hs.after ht hp

/-- Run rule: what holds of the world at first, and is kept when a channel is gone and by
every change that a section may make, holds in every state that is reached. -/
theorem world_invariant {C : Sys → Label → Prop} {W : World → Prop} (hinit : W World.initial)
    (hgone : ∀ w c, W w → W (w.gone c))
    (hrun : ∀ s t env w k, machine.Reaches C s → C s (.run t env) → t ∈ s.tasks →
      t.Sound s.world → w.Sound → (∀ e ∈ s.world.trace, e ∈ w.trace) → t.May env s.world w k →
      W w → W (k.apply w))
    (h : machine.Reaches C s) : W s.world := by
  refine Machine.Reaches.invariant_along (I := fun s => W s.world) ?_ ?_ h
  · rintro s rfl
    exact hinit
  · intro s a s' hr hW hC hstep
    obtain ⟨t, rfl, ht, rfl⟩ | ⟨c, rfl, rfl⟩ | ⟨t, env, rfl, ht, _, hp, rfl⟩ := step_cases hstep
    · exact hW
    · exact hgone _ c hW
    · have hsound := sound_of_reaches hr
      have hkeep := Moves.invariant
        (I := fun w => w.Sound ∧ (∀ e ∈ s.world.trace, e ∈ w.trace) ∧ W w)
        (fun w k hw hk => ⟨hw.1.keep (hsound.tasks t ht) hk, fun e he => mem_trace (hw.2.1 e he),
          hrun s t env w k hr hC ht (hsound.tasks t ht) hw.1 hw.2.1 hk hw.2.2⟩)
        (t.moves hp) ⟨hsound.world, fun _ he => he, hW⟩
      exact hkeep.2.2

/-- Run rule: what holds of every task when it arrives, when it follows another, and still
after every step, holds of every task under way. -/
theorem task_invariant {C : Sys → Label → Prop} {B : Task → World → Prop}
    (harrive : ∀ s t, C s (.arrive t) → t.Arrives s.world → B t s.world)
    (hgone : ∀ w c t, B t w → B t (w.gone c))
    (hrun : ∀ s t env o w k, machine.Reaches C s → C s (.run t env) → t ∈ s.tasks →
      o ∈ s.tasks.erase t → w.Sound → t.May env s.world w k → B o w → B o (k.apply w))
    (hnext : ∀ s t env next, machine.Reaches C s → C s (.run t env) → t ∈ s.tasks →
      env.Possible s.world t → B t s.world →
      Follows env s.world t next (t.code env s.world).2 → B next (t.code env s.world).2)
    (h : machine.Reaches C s) : ∀ t ∈ s.tasks, B t s.world := by
  refine Machine.Reaches.invariant_along (I := fun s => ∀ t ∈ s.tasks, B t s.world) ?_ ?_ h
  · rintro s rfl t ht
    exact absurd ht List.not_mem_nil
  · intro s a s' hr hB hC hstep
    obtain ⟨t, rfl, ht, rfl⟩ | ⟨c, rfl, rfl⟩ | ⟨t, env, rfl, ht, _, hp, rfl⟩ := step_cases hstep
    · intro o ho
      rcases List.mem_cons.mp ho with rfl | ho
      · exact harrive s o hC ht
      · exact hB o ho
    · exact fun o ho => hgone _ c o (hB o ho)
    · have hsound := sound_of_reaches hr
      have hkeep := Moves.invariant (I := fun w => w.Sound ∧ ∀ o ∈ s.tasks.erase t, B o w)
        (fun w k hw hk => ⟨hw.1.keep (hsound.tasks t ht) hk, fun o ho =>
          hrun s t env o w k hr hC ht ho hw.1 hk (hw.2 o ho)⟩)
        (t.moves hp) ⟨hsound.world, fun o ho => hB o (List.mem_of_mem_erase ho)⟩
      intro o ho
      rcases List.mem_append.mp ho with ho | ho
      · exact hkeep.2 o ho
      · rcases t.follows env s.world with hnil | ⟨next, hnext', hfollows⟩
        · rw [hnil] at ho
          exact absurd ho List.not_mem_nil
        · rw [hnext'] at ho
          obtain rfl := List.mem_singleton.mp ho
          exact hnext s t env o hr hC ht hp (hB t ht) hfollows

end Reachable

end Calld.Relocates
