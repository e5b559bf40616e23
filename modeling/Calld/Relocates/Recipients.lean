/-
# The recipients of relocates

Asterisk originates the recipient before the relocate knows it, and whatever ends the
relocate without completing it hangs the recipient up, or finds it gone.  A completion whose
bridging fails is the exception: the failure is logged, and the relocate ends all the same.
-/
import Calld.Relocates.Sound

namespace Calld.Relocates

open Effect Effect.Program Effect.Moves

/-! ## The condition -/

/-- The operation of a section does not fail to bridge the recipient. -/
def Task.bridged (t : Task) (w : World) (env : Env) : Bool :=
  match t.operation w with
  | none => true
  | some (u, op) => !((w.relocates u).bridges env op && env.failsToBridge u (w.relocates u))

/-- No operation fails to bridge the recipient, and a channel leaves the stasis application
only when it is gone. -/
def Bridges (s : Sys) : Label → Prop
  | .run t env => t.bridged s.world env
  | .arrive (.onHangup _ c) => .gone c ∈ s.world.trace
  | .arrive _ | .gone _ => True

/-! ## The invariant -/

/-- The recipient of a relocate that has ended without being completed has been hung up, or
is gone. -/
def World.Cleared (w : World) : Prop :=
  ∀ u c, .originated u c ∈ w.trace → (w.relocates u).state = .ended →
    .notified .completed u ∈ w.trace ∨ .hungUp (some c) ∈ w.trace ∨ .gone c ∈ w.trace

/-- A hangup is one of a channel that is gone. -/
def Task.Gone (t : Task) (w : World) : Prop :=
  match t with
  | .onHangup _ c | .hangupOf _ c => .gone c ∈ w.trace
  | _ => True

section Reachable

variable {s : Sys}

theorem gone_of_reaches (h : machine.Reaches Bridges s) : ∀ t ∈ s.tasks, t.Gone s.world := by
  refine task_invariant (B := Task.Gone) ?_ ?_ ?_ ?_ h
  · intro s t hC ht
    cases t with
    | onHangup event c => exact hC
    | hangupOf => exact ht.elim
    | _ => trivial
  · intro w c t ht
    cases t with
    | onHangup | hangupOf => exact List.mem_append_left _ ht
    | _ => trivial
  · intro s t env o w k _ _ _ _ _ _ ho
    cases o with
    | onHangup | hangupOf => exact mem_trace ho
    | _ => trivial
  · intro s t env next _ _ _ _ ht hnext
    generalize (t.code env s.world).2 = w' at hnext
    cases hnext with
    | hangupOf event h => exact ht
    | _ => trivial

/-- A section that hangs the recipient up is about the channel of the recipient. -/
theorem recipientHangup_operation {w : World} {t : Task} {u : RelocateUuid}
    (h : t.operation w = some (u, .recipientHangup)) :
    ∃ c, t = .hangupOf u c ∧ (w.relocates u).recipientChannel = some c := by
  cases t with
  | stasisStarted u' role =>
    simp only [Task.operation] at h
    split at h
    · cases h
    · split at h <;> cases h
  | hangupOf u' c =>
    obtain ⟨role, hrole, heq⟩ := Option.map_eq_some_iff.mp h
    cases role <;> cases heq
    refine ⟨c, rfl, ?_⟩
    unfold Relocate.role at hrole
    split at hrole
    · cases hrole
    · split at hrole
      · cases hrole
      · split at hrole
        · assumption
        · cases hrole
  | _ => cases h

/-- When an operation ends a relocate, its recipient has been dealt with. -/
theorem cleared_of_ended {w w₀ : World} {t : Task} {env : Env} {u : RelocateUuid} {c : ChannelId}
    (hs : w.Sound) (ht : t.Sound w₀) (hgone : t.Gone w₀) (hpast : ∀ e ∈ w₀.trace, e ∈ w.trace)
    (hbridged : t.bridged w₀ env)
    (hk : t.May env w₀ w (.ended u)) (hc : .originated u c ∈ w.trace) :
    .notified .completed u ∈ w.trace ∨ .hungUp (some c) ∈ w.trace ∨ .gone c ∈ w.trace := by
  obtain ⟨endpoint, rfl, rfl, -⟩ | ⟨op, hop, heq, hlive, hdisposed⟩ := may_ended hk
  · exact absurd hc (ht.2.2 c)
  · have hrec := hs.recipient u c hc (not_ready_of_live hlive)
    rcases hdisposed with hcompleted | hhung | rfl | ⟨hbridge, hfails⟩
    · exact .inl hcompleted
    · rw [hrec] at hhung
      exact .inr (.inl hhung)
    · obtain ⟨c', rfl, hrec'⟩ := recipientHangup_operation hop
      rw [heq, hrec'] at hrec
      cases hrec
      exact .inr (.inr (hpast _ hgone))
    · rw [heq] at hbridge hfails
      simp [Task.bridged, hop, hbridge, hfails] at hbridged

theorem cleared_of_reaches (h : machine.Reaches Bridges s) : s.world.Cleared := by
  have hgrows {w : World} {k : Change} {u : RelocateUuid} {c : ChannelId}
      (h : .notified .completed u ∈ w.trace ∨ .hungUp (some c) ∈ w.trace ∨ .gone c ∈ w.trace) :
      .notified .completed u ∈ (k.apply w).trace ∨ .hungUp (some c) ∈ (k.apply w).trace ∨
        .gone c ∈ (k.apply w).trace :=
    h.imp mem_trace (Or.imp mem_trace mem_trace)
  refine world_invariant (W := World.Cleared) ?_ ?_ ?_ h
  · exact fun _ _ hc => absurd hc List.not_mem_nil
  · intro w c hw u c' hc hended
    have hold := hw u c' (mem_gone (u := u) rfl hc) hended
    exact hold.imp (List.mem_append_left _)
      (Or.imp (List.mem_append_left _) (List.mem_append_left _))
  · intro s t env w k hr hC ht hts hs hpast hk hw u c hc hended
    by_cases hsub : k.subject = some u
    swap
    · rw [relocates_of_ne hsub] at hended
      exact hgrows (hw u c (mem_trace_of_ne hsub rfl hc) hended)
    cases k with
    | created v _ _ =>
      obtain rfl := Option.some.inj hsub
      rw [created_relocates] at hended
      cases hended
    | inserted v r relocatedChannel =>
      obtain rfl := Option.some.inj hsub
      obtain ⟨⟨endpoint, rfl⟩, rfl, -⟩ := may_inserted hk
      rw [inserted_relocates] at hended
      have hready : (s.world.relocates v).state = .ready := hts.1.ready
      simp [hready] at hended
    | originated v c' =>
      obtain rfl := Option.some.inj hsub
      have hready : (w.relocates v).state = .ready := (may_originated hk).2.2.2
      have hended : (w.relocates v).state = .ended := hended
      simp [hready] at hended
    | assigned v c' =>
      obtain rfl := Option.some.inj hsub
      obtain ⟨rfl, rfl⟩ := may_assigned hk
      rw [assigned_relocates] at hended
      have hready : (s.world.relocates v).state = .ready := hts.1.ready
      simp [hready] at hended
    | moved v state =>
      obtain rfl := Option.some.inj hsub
      rw [moved_relocates] at hended
      obtain ⟨c', _, rfl, _⟩ | ⟨_, hlive, _⟩ := may_moved hk
      · cases hended
      · have hended : state = .ended := hended
        subst hended
        cases hlive
    | ended v =>
      obtain rfl := Option.some.inj hsub
      have hold : .originated v c ∈ w.trace := by
        simpa [Change.apply, World.told, World.update] using hc
      exact hgrows (cleared_of_ended hs hts (gone_of_reaches hr t ht) hpast hC hk hold)
    | told topic v =>
      have hold : .originated u c ∈ w.trace := by simpa [Change.apply, World.told] using hc
      exact hgrows (hw u c hold hended)
    | met | hungUp | unlocked => cases hsub

/-- A relocate whose end has been published has ended, for good. -/
theorem ended_of_notified {C : Sys → Label → Prop} (h : machine.Reaches C s) :
    ∀ u, .notified .ended u ∈ s.world.trace → (s.world.relocates u).state = .ended := by
  refine world_invariant (W := fun w => ∀ u, .notified .ended u ∈ w.trace →
    (w.relocates u).state = .ended) ?_ ?_ ?_ h
  · exact fun _ hu => absurd hu List.not_mem_nil
  · exact fun w c hw u hu => hw u (mem_gone (u := u) rfl hu)
  · intro s t env w k _ _ _ hts hs _ hk hw u hu
    by_cases hsub : k.subject = some u
    swap
    · rw [relocates_of_ne hsub]
      exact hw u (mem_trace_of_ne hsub rfl hu)
    cases k with
    | created v _ _ =>
      obtain rfl := Option.some.inj hsub
      exact absurd rfl ((hs.fresh v (may_created hk).2.2).2.2.2 _ hu)
    | inserted v _ _ | originated v _ =>
      obtain rfl := Option.some.inj hsub
      have hold : .notified .ended v ∈ w.trace := by simpa [Change.apply] using hu
      simpa [Change.apply] using hw v hold
    | assigned v c =>
      obtain rfl := Option.some.inj hsub
      rw [assigned_relocates]
      exact hw v hu
    | moved v state =>
      obtain rfl := Option.some.inj hsub
      have hold := hw v hu
      obtain ⟨c, rfl, -, -, hstate, -⟩ | ⟨_, _, hlive⟩ := may_moved hk
      · have hready : (s.world.relocates v).state = .ready := hts.1.ready
        rw [hready, hold] at hstate
        cases hstate
      · rw [hold] at hlive
        cases hlive
    | ended v =>
      obtain rfl := Option.some.inj hsub
      simp
    | told topic v =>
      obtain rfl := Option.some.inj hsub
      obtain ⟨_, _, _, hstate, _⟩ | ⟨_, rfl, _⟩ | ⟨_, rfl | rfl, _⟩ := may_told hk
      · exact hstate
      all_goals
        refine hw v ?_
        simpa [Change.apply, World.told] using hu
    | met | hungUp | unlocked => cases hsub

end Reachable

instance (s : Sys) (a : Label) : Decidable (Bridges s a) := by
  unfold Bridges
  rcases a with t | c | ⟨t, env⟩
  · rcases t with ⟨⟩ <;> infer_instance
  · infer_instance
  · infer_instance

/-- A relocate is cancelled while its recipient rings. -/
def cancels : List Label :=
  rings "relocate-1" ++ called (.cancelFromUser "relocate-1" "user") calm ++
    [.run (.cancel "relocate-1") calm]

/-- The recipient answers, and Asterisk does not bridge it. -/
def notBridged : Env := { calm with addChannel := fun _ _ => .error .ariException }

/-- A relocate whose recipient answers is not bridged. -/
def unbridged : List Label :=
  rings "relocate-1" ++ called (.onStasisStart ["relocate", "relocate-1", "recipient"]) calm ++
    [.run (.stasisStarted "relocate-1" "recipient") notBridged]

end Calld.Relocates
