/-
# How relocates end

The end of a relocate is published when its state becomes `ended`: the collection removes
the relocate and the notifier is told, once, and nothing is told of it afterwards.  When
Asterisk refuses to originate the recipient, though, `initiate` publishes the end a second
time, after `set_state` has done so.
-/
import Calld.Effect.Changes
import Calld.Relocates.Sound

namespace Calld.Relocates

open Effect Effect.Program Effect.Moves

/-! ## The invariant -/

/-- What the notifier is told does not come after the end of the relocate. -/
def NothingAfterEnd (past : List Event) (e : Event) : Prop :=
  ∀ topic u, e = .notified topic u → .notified .ended u ∉ past

/-- The relocates that have ended are those whose end was published, once; they have left
the collection, and nothing is published of them any more. -/
structure World.Ends (w : World) : Prop where
  always : Always NothingAfterEnd w.trace
  once : ∀ u, w.trace.count (.notified .ended u) ≤ 1
  ended : ∀ u, .notified .ended u ∈ w.trace ↔ (w.relocates u).state = .ended
  left : ∀ u, .added u ∈ w.trace → (u ∈ w.collection ↔ (w.relocates u).state ≠ .ended)

/-- Asterisk does not refuse to originate the recipient, unless the publication of the end
of the relocate raises. -/
def EndsQuietly (s : Sys) : Label → Prop
  | .run (.initiate u endpoint) env =>
    ¬ (env.refuses u (s.world.relocates u) endpoint ∧
      env.told .ended u (s.world.relocates u) = .ok ())
  | .run .. | .arrive _ | .gone _ => True

/-! ## One change -/

section Changes

variable {w w₀ : World} {k : Change} {u : RelocateUuid} {env : Env} {t : Task} {e : Event}

theorem mem_trace_iff_of_ne (h : k.subject ≠ some u) (he : e.Concerns u) :
    e ∈ (k.apply w).trace ↔ e ∈ w.trace :=
  ⟨mem_trace_of_ne h he, mem_trace⟩

theorem mem_collection_of_ne (h : k.subject ≠ some u) :
    u ∈ (k.apply w).collection ↔ u ∈ w.collection := by
  have herase {v : RelocateUuid} (hv : some v ≠ some u) :
      u ∈ w.collection.erase v ↔ u ∈ w.collection :=
    List.mem_erase_of_ne fun heq => hv (congrArg some heq.symm)
  cases k with
  | inserted v r relocatedChannel =>
    show u ∈ w.collection ++ [v] ↔ _
    have hv : u ≠ v := fun heq => h (congrArg some heq.symm)
    simp [hv]
  | ended v => exact herase h
  | told topic v =>
    cases topic with
    | ended => exact herase h
    | initiated | answered | completed => exact Iff.rfl
  | created | met | originated | assigned | moved | hungUp | unlocked => exact Iff.rfl

/-- The section does not publish the end of a relocate a second time. -/
def Task.Quiet (t : Task) (env : Env) (w : World) : Prop :=
  ∀ u endpoint, t = .initiate u endpoint →
    ¬ (env.refuses u (w.relocates u) endpoint ∧ env.told .ended u (w.relocates u) = .ok ())

/-- What a section tells of a relocate: not its end, and not after its end. -/
theorem told_alive {topic : Topic} (hq : t.Quiet env w₀) (hk : t.May env w₀ w (.told topic u)) :
    topic ≠ .ended ∧ (w.relocates u).state ≠ .ended := by
  obtain ⟨endpoint, rfl, _, _, href, htold⟩ | ⟨_, rfl, hstate⟩ | ⟨_, htopic, hlive⟩ := may_told hk
  · exact absurd ⟨href, htold⟩ (hq u endpoint rfl)
  · exact ⟨by simp, by simp [hstate]⟩
  · refine ⟨?_, ?_⟩
    · rcases htopic with rfl | rfl <;> simp
    · intro hstate
      rw [hstate] at hlive
      cases hlive

/-- A change is about a relocate that has not ended. -/
theorem subject_alive (hs : w.Sound) (ht : t.Sound w₀) (hq : t.Quiet env w₀)
    (hk : t.May env w₀ w k) (hu : k.subject = some u) : (w.relocates u).state ≠ .ended := by
  have hready (h : (w.relocates u).state = .ready) : (w.relocates u).state ≠ .ended := by
    simp [h]
  have hlive (h : (w.relocates u).state.isLive) : (w.relocates u).state ≠ .ended := by
    intro heq
    rw [heq] at h
    cases h
  cases k with
  | created v _ _ =>
    obtain rfl := Option.some.inj hu
    exact hready (hs.fresh v (may_created hk).2.2).1
  | inserted v r relocatedChannel =>
    obtain rfl := Option.some.inj hu
    obtain ⟨⟨endpoint, rfl⟩, rfl, -⟩ := may_inserted hk
    exact hready ht.1.ready
  | originated v c =>
    obtain rfl := Option.some.inj hu
    exact hready (may_originated hk).2.2.2
  | assigned v c =>
    obtain rfl := Option.some.inj hu
    obtain ⟨rfl, rfl⟩ := may_assigned hk
    exact hready ht.1.ready
  | moved v state =>
    obtain rfl := Option.some.inj hu
    obtain ⟨c, rfl, -, -, hstate, -⟩ | ⟨_, _, hl⟩ := may_moved hk
    · exact hready (hstate.trans ht.1.ready)
    · exact hlive hl
  | ended v =>
    obtain rfl := Option.some.inj hu
    obtain ⟨_, _, _, hstate, _⟩ | ⟨_, _, _, hl, _⟩ := may_ended hk
    · exact hready hstate
    · exact hlive hl
  | told topic v =>
    obtain rfl := Option.some.inj hu
    exact (told_alive hq hk).2
  | met | hungUp | unlocked => cases hu

/-- Only its end ends a relocate. -/
theorem alive_after (hs : w.Sound) (ht : t.Sound w₀) (hq : t.Quiet env w₀)
    (hk : t.May env w₀ w k) (hu : k.subject = some u) (hne : k ≠ .ended u) :
    ((k.apply w).relocates u).state ≠ .ended ∧ k.event ≠ some (.notified .ended u) := by
  have halive := subject_alive hs ht hq hk hu
  cases k with
  | created v _ _ =>
    obtain rfl := Option.some.inj hu
    exact ⟨by simp [Relocate.new], by simp [Change.event]⟩
  | inserted v _ _ | assigned v _ =>
    obtain rfl := Option.some.inj hu
    exact ⟨by simpa using halive, by simp [Change.event]⟩
  | originated v c =>
    obtain rfl := Option.some.inj hu
    exact ⟨halive, by simp [Change.event]⟩
  | moved v state =>
    obtain rfl := Option.some.inj hu
    refine ⟨?_, by simp [Change.event]⟩
    rw [moved_relocates]
    obtain ⟨c, _, rfl, _⟩ | ⟨_, hlive, _⟩ := may_moved hk
    · simp
    · rintro rfl
      cases hlive
  | ended v => exact absurd (by rw [Option.some.inj hu]) hne
  | told topic v =>
    obtain rfl := Option.some.inj hu
    refine ⟨halive, ?_⟩
    have htopic := (told_alive hq hk).1
    simpa [Change.event] using htopic
  | met | hungUp | unlocked => cases hu

/-! ## The invariant is kept -/

theorem always_keep (hw : w.Ends) (hs : w.Sound) (ht : t.Sound w₀) (hq : t.Quiet env w₀)
    (hk : t.May env w₀ w k) : Always NothingAfterEnd (k.apply w).trace := by
  rw [trace_apply]
  cases he : k.event with
  | none => simpa using hw.always
  | some e =>
    refine hw.always.snoc fun topic u heq hended => ?_
    have hu : k.subject = some u := subject_of_event he (by rw [heq]; rfl)
    exact subject_alive hs ht hq hk hu ((hw.ended u).mp hended)

theorem count_keep (hw : w.Ends) (hs : w.Sound) (ht : t.Sound w₀) (hq : t.Quiet env w₀)
    (hk : t.May env w₀ w k) (u : RelocateUuid) :
    (k.apply w).trace.count (.notified .ended u) ≤ 1 := by
  rw [trace_apply, List.count_append]
  by_cases he : k.event = some (.notified .ended u)
  · have hu : k.subject = some u := subject_of_event he rfl
    have hnot : .notified .ended u ∉ w.trace := fun hmem =>
      subject_alive hs ht hq hk hu ((hw.ended u).mp hmem)
    rw [he, List.count_eq_zero_of_not_mem hnot]
    simp
  · have hzero : k.event.toList.count (.notified .ended u) = 0 := by
      apply List.count_eq_zero_of_not_mem
      exact fun hmem => he (Option.mem_toList.mp hmem)
    have := hw.once u
    omega

theorem ended_keep (hw : w.Ends) (hs : w.Sound) (ht : t.Sound w₀) (hq : t.Quiet env w₀)
    (hk : t.May env w₀ w k) (u : RelocateUuid) :
    .notified .ended u ∈ (k.apply w).trace ↔ ((k.apply w).relocates u).state = .ended := by
  by_cases hu : k.subject = some u
  · by_cases hend : k = .ended u
    · subst hend
      refine iff_of_true ?_ (by simp)
      exact List.mem_append_right _ (List.mem_singleton_self _)
    · obtain ⟨hafter, hevent⟩ := alive_after hs ht hq hk hu hend
      refine iff_of_false ?_ hafter
      rw [trace_apply]
      intro hmem
      rcases List.mem_append.mp hmem with hmem | hmem
      · exact subject_alive hs ht hq hk hu ((hw.ended u).mp hmem)
      · exact hevent (Option.mem_toList.mp hmem)
  · rw [mem_trace_iff_of_ne (e := .notified .ended u) hu rfl, relocates_of_ne hu]
    exact hw.ended u

theorem left_keep (hw : w.Ends) (hs : w.Sound) (ht : t.Sound w₀) (hq : t.Quiet env w₀)
    (hk : t.May env w₀ w k) (u : RelocateUuid) (hadded : .added u ∈ (k.apply w).trace) :
    u ∈ (k.apply w).collection ↔ ((k.apply w).relocates u).state ≠ .ended := by
  by_cases hu : k.subject = some u
  swap
  · rw [mem_collection_of_ne hu, relocates_of_ne hu]
    exact hw.left u ((mem_trace_iff_of_ne (e := .added u) hu rfl).mp hadded)
  by_cases hend : k = .ended u
  · subst hend
    refine iff_of_false ?_ (by simp)
    exact hs.nodup.not_mem_erase
  · obtain ⟨hafter, -⟩ := alive_after hs ht hq hk hu hend
    refine iff_of_true ?_ hafter
    have halive := subject_alive hs ht hq hk hu
    cases k with
    | inserted v r relocatedChannel =>
      obtain rfl := Option.some.inj hu
      exact List.mem_append_right _ (List.mem_singleton_self _)
    | created v _ _ =>
      obtain rfl := Option.some.inj hu
      exact absurd (hs.known hadded) (may_created hk).2.2
    | ended v => exact absurd (by rw [Option.some.inj hu]) hend
    | told topic v =>
      obtain rfl := Option.some.inj hu
      have htopic := (told_alive hq hk).1
      have hbefore : .added v ∈ w.trace := by
        simpa [Change.apply, World.told] using hadded
      show v ∈ if topic = .ended then _ else _
      rw [if_neg htopic]
      exact (hw.left v hbefore).mpr halive
    | moved v _ | assigned v _ =>
      obtain rfl := Option.some.inj hu
      exact (hw.left v hadded).mpr halive
    | originated v c =>
      obtain rfl := Option.some.inj hu
      have hbefore : .added v ∈ w.trace := by simpa [Change.apply] using hadded
      exact (hw.left v hbefore).mpr halive
    | met | hungUp | unlocked => cases hu

theorem World.Ends.keep (hw : w.Ends) (hs : w.Sound) (ht : t.Sound w₀) (hq : t.Quiet env w₀)
    (hk : t.May env w₀ w k) : (k.apply w).Ends :=
  ⟨always_keep hw hs ht hq hk, count_keep hw hs ht hq hk, ended_keep hw hs ht hq hk,
    left_keep hw hs ht hq hk⟩

end Changes

/-! ## Runs -/

theorem EndsQuietly.quiet {s : Sys} {t : Task} {env : Env} (h : EndsQuietly s (.run t env)) :
    t.Quiet env s.world := by
  rintro u endpoint rfl
  exact h

/-- That a channel is gone is no notification. -/
theorem World.Ends.gone {w : World} (hw : w.Ends) (c : ChannelId) : (w.gone c).Ends where
  always := hw.always.snoc fun _ _ heq => by cases heq
  once u := by
    show List.count (.notified .ended u) (w.trace ++ [.gone c]) ≤ 1
    rw [List.count_append]
    simpa using hw.once u
  ended u := by
    show .notified .ended u ∈ w.trace ++ [.gone c] ↔ (w.relocates u).state = .ended
    simpa using hw.ended u
  left u hadded := by
    have hadded : .added u ∈ w.trace := by simpa [World.gone] using hadded
    exact hw.left u hadded

/-- **A relocate ends once**: in every run in which Asterisk does not refuse to originate a
recipient, or publishing the end of the relocate raises, the notifier is told of the end of
a relocate once at most, when the relocate leaves the collection, and of nothing about it
later. -/
theorem ends_once {s : Sys} (h : machine.Reaches EndsQuietly s) :
    Always NothingAfterEnd s.world.trace ∧
      (∀ u, s.world.trace.count (.notified .ended u) ≤ 1) ∧
      ∀ u, .added u ∈ s.world.trace →
        (u ∉ s.world.collection ↔ .notified .ended u ∈ s.world.trace) := by
  have hw : s.world.Ends := by
    refine world_invariant (W := World.Ends) ?_ (fun w c hw => hw.gone c)
      (fun s t env w k _ hC _ ht hs _ hk hw => hw.keep hs ht hC.quiet hk) h
    refine ⟨Always.nil, fun u => by simp [World.initial], fun u => ?_, fun u hu => ?_⟩
    · exact iff_of_false List.not_mem_nil (by simp [World.initial, Relocate.new])
    · exact absurd hu List.not_mem_nil
  refine ⟨hw.always, hw.once, fun u hadded => ?_⟩
  rw [hw.ended u, hw.left u hadded, not_not]

/-- A relocate is created and completed when its recipient answers. -/
def completes : List Label :=
  rings "relocate-1" ++ called (.onStasisStart ["relocate", "relocate-1", "recipient"]) calm ++
    [.run (.stasisStarted "relocate-1" "recipient") calm]

instance (s : Sys) (a : Label) : Decidable (EndsQuietly s a) := by
  unfold EndsQuietly
  rcases a with t | c | ⟨t, env⟩
  · infer_instance
  · infer_instance
  · rcases t with ⟨⟩ <;> infer_instance

/-- Its end is told once. -/
theorem completes_ends_once :
    (served completes).world.trace.count (.notified .ended "relocate-1") ≤ 1 := by
  have run : machine.run completes Sys.start = some (served completes) := rfl
  have meets : machine.Meets EndsQuietly completes Sys.start := by decide
  exact (ends_once (Machine.Reaches.run (.init rfl) meets run)).2.1 "relocate-1"

/-- Asterisk refuses to originate the recipient. -/
def refused : Env := { calm with originate := fun _ => .error .httpError }

/-- The recipient of a relocate has an invalid endpoint. -/
def refusal : List Label := creates "relocate-1" refused

/-- **The end of a refused relocate is told twice.** -/
theorem refusal_ends_twice : machine.Reachable (served refusal) ∧
    (served refusal).world.trace.count (.notified .ended "relocate-1") = 2 :=
  ⟨served_reachable refusal, by decide⟩

end Calld.Relocates
