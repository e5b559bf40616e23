/-
# The channels of relocates

Events are routed to a relocate by the channel they are about.  A creation makes sure that
no relocate of the collection has its initiator, and Asterisk gives the recipient a new
channel; that the relocated channel belongs to no other relocate is not checked.
-/
import Calld.Relocates.Sound

namespace Calld.Relocates

open Effect Effect.Program Effect.Moves

/-! ## The condition -/

/-- The channel of a recipient that is not known to its relocate yet. -/
def Task.leg : Task → Option ChannelId
  | .started _ c => some c
  | .createFromUser _ | .insert .. | .initiate .. | .onStasisStart _ | .stasisStarted ..
  | .onHangup .. | .hangupOf .. | .completeFromUser .. | .complete _ | .cancelFromUser ..
  | .cancel _ => none

/-- When a relocate passes the check for duplicates, its relocated channel belongs to no
relocate of the collection, and none of its channels is a leg that is being originated. -/
def Apart (s : Sys) : Label → Prop
  | .run (.insert _ r relocatedChannel _) _ =>
    s.world.findByChannel r.initiatorCall = none →
      (∀ v ∈ s.world.collection, ¬ (s.world.relocates v).has relocatedChannel) ∧
      ∀ t ∈ s.tasks, t.leg ≠ some relocatedChannel ∧ t.leg ≠ some r.initiatorCall
  | .run .. | .arrive _ | .gone _ => True

/-! ## Channels that are in use -/

/-- The channels of relocates are in use, and no two relocates have been given one leg. -/
structure World.InUse (w : World) : Prop where
  legs : ∀ u c, .originated u c ∈ w.trace → c ∈ w.channels
  once : ∀ u v c, .originated u c ∈ w.trace → .originated v c ∈ w.trace → u = v
  channels : ∀ u ∈ w.collection, ∀ c, (w.relocates u).has c → c ∈ w.channels

/-- The channels that a creation remembers are in use. -/
def Task.InUse (t : Task) (w : World) : Prop :=
  match t with
  | .insert _ r relocatedChannel _ => relocatedChannel ∈ w.channels ∧ r.initiatorCall ∈ w.channels
  | .started u c => .originated u c ∈ w.trace
  | _ => True

section Changes

variable {w w₀ : World} {k : Change} {u v : RelocateUuid} {c : ChannelId} {env : Env} {t : Task}

/-- How a relocate of the collection comes to have a channel. -/
theorem has_cases (ht : t.Sound w₀) (hk : t.May env w₀ w k) (hu : u ∈ (k.apply w).collection)
    (h : ((k.apply w).relocates u).has c) :
    (u ∈ w.collection ∧ (w.relocates u).has c) ∨
    (∃ r relocatedChannel, k = .inserted u r relocatedChannel ∧
      (c = relocatedChannel ∨ c = r.initiatorCall)) ∨
    (u ∈ w.collection ∧ k = .assigned u c) := by
  by_cases hins : ∃ r relocatedChannel, k = .inserted u r relocatedChannel
  · obtain ⟨r, relocatedChannel, rfl⟩ := hins
    refine .inr (.inl ⟨r, relocatedChannel, rfl, ?_⟩)
    obtain ⟨⟨endpoint, rfl⟩, rfl, -⟩ := may_inserted hk
    rw [inserted_relocates] at h
    simp only [Relocate.has, Bool.or_eq_true, decide_eq_true_eq, Option.some.injEq] at h
    rcases h with (h | h) | h
    · exact .inl h.symm
    · exact .inr h.symm
    · rw [ht.1.recipient] at h
      cases h
  have hmem : u ∈ w.collection := by
    rcases mem_collection hu with hmem | hmem
    · exact hmem
    · exact absurd hmem hins
  by_cases hs : k.subject = some u
  swap
  · rw [relocates_of_ne hs] at h
    exact .inl ⟨hmem, h⟩
  cases k with
  | created v userUuid vars =>
    obtain rfl := Option.some.inj hs
    rw [created_relocates] at h
    simp [Relocate.has, Relocate.new] at h
  | inserted v r relocatedChannel =>
    obtain rfl := Option.some.inj hs
    exact absurd ⟨r, relocatedChannel, rfl⟩ hins
  | assigned v c' =>
    obtain rfl := Option.some.inj hs
    rw [assigned_relocates] at h
    simp only [Relocate.has, Bool.or_eq_true, decide_eq_true_eq, Option.some.injEq] at h
    rcases h with (h | h) | rfl
    · exact .inl ⟨hmem, by simp [Relocate.has, h]⟩
    · exact .inl ⟨hmem, by simp [Relocate.has, h]⟩
    · exact .inr (.inr ⟨hmem, rfl⟩)
  | moved v state | ended v =>
    obtain rfl := Option.some.inj hs
    exact .inl ⟨hmem, by simpa [Relocate.has] using h⟩
  | originated | told => exact .inl ⟨hmem, h⟩
  | met | hungUp | unlocked => cases hs

/-- Which changes originate a leg. -/
theorem originated_cases (h : .originated u c ∈ (k.apply w).trace) :
    .originated u c ∈ w.trace ∨ k = .originated u c := by
  rw [trace_apply] at h
  rcases List.mem_append.mp h with h | h
  · exact .inl h
  · cases k <;> simp [Change.event] at h
    exact .inr (by rw [h.1, h.2])

theorem World.InUse.keep (hw : w.InUse) (hs : t.Sound w₀) (ht : t.InUse w₀)
    (hk : t.May env w₀ w k) : (k.apply w).InUse where
  legs u c h := by
    rcases originated_cases h with h | rfl
    · exact mem_channels (hw.legs u c h)
    · exact Finset.mem_insert_self ..
  once u v c hu hv := by
    rcases originated_cases hu with hu' | rfl
    · rcases originated_cases hv with hv' | rfl
      · exact hw.once u v c hu' hv'
      · exact absurd (hw.legs u c hu') (may_originated hk).2.2.1
    · rcases originated_cases hv with hv' | heq
      · exact absurd (hw.legs v c hv') (may_originated hk).2.2.1
      · cases heq
        rfl
  channels u hu c hc := by
    rcases has_cases hs hk hu hc with ⟨hu', hc'⟩ | ⟨r, relocatedChannel, rfl, hchan⟩ | ⟨_, rfl⟩
    · exact mem_channels (hw.channels u hu' c hc')
    · obtain ⟨⟨endpoint, rfl⟩, rfl, -⟩ := may_inserted hk
      rcases hchan with rfl | rfl
      · exact ht.1
      · exact ht.2
    · obtain ⟨rfl, rfl⟩ := may_assigned hk
      exact hw.legs u c ht

end Changes

/-! ## Runs -/

section Reachable

variable {s : Sys} {C : Sys → Label → Prop}

theorem task_inUse_of_reaches (h : machine.Reaches C s) : ∀ t ∈ s.tasks, t.InUse s.world := by
  refine task_invariant (B := Task.InUse) ?_ ?_ ?_ ?_ h
  · intro s t _ ht
    cases t with
    | insert | started => exact ht.elim
    | _ => trivial
  · intro w c t ht
    cases t with
    | insert => exact ⟨Finset.mem_insert_of_mem ht.1, Finset.mem_insert_of_mem ht.2⟩
    | started => exact List.mem_append_left _ ht
    | _ => trivial
  · intro s t env o w k _ _ _ _ _ _ ho
    cases o with
    | insert => exact ⟨mem_channels ho.1, mem_channels ho.2⟩
    | started => exact mem_trace ho
    | _ => trivial
  · intro s t env next _ _ _ _ _ hnext
    generalize (t.code env s.world).2 = w' at hnext
    cases hnext with
    | insert r relocatedChannel endpoint _ hrelocated hinitiator => exact ⟨hrelocated, hinitiator⟩
    | started => exact List.mem_append_right _ (List.mem_singleton_self _)
    | _ => trivial

theorem inUse_of_reaches (h : machine.Reaches C s) : s.world.InUse := by
  refine world_invariant (W := World.InUse) ⟨?_, ?_, ?_⟩ ?_ ?_ h
  · exact fun _ _ h => absurd h List.not_mem_nil
  · exact fun _ _ _ h => absurd h List.not_mem_nil
  · exact fun _ h => absurd h List.not_mem_nil
  · intro w c hw
    refine ⟨fun u c' h => ?_, fun u v c' hu hv => ?_, fun u hu c' hc => ?_⟩
    · exact Finset.mem_insert_of_mem (hw.legs u c' (mem_gone (u := u) rfl h))
    · exact hw.once u v c' (mem_gone (u := u) rfl hu) (mem_gone (u := v) rfl hv)
    · exact Finset.mem_insert_of_mem (hw.channels u hu c' hc)
  · intro s t env w k hr _ ht hs _ _ hk hw
    exact hw.keep hs (task_inUse_of_reaches hr t ht) hk

/-- The leg of a recipient belongs to no relocate before its own knows it. -/
def Task.Unclaimed (t : Task) (w : World) : Prop :=
  ∀ c ∈ t.leg, ∀ u ∈ w.collection, ¬ (w.relocates u).has c

theorem unclaimed_of_reaches (h : machine.Reaches Apart s) : ∀ t ∈ s.tasks, t.Unclaimed s.world := by
  refine task_invariant (B := Task.Unclaimed) ?_ (fun w c t ht => ht) ?_ ?_ h
  · intro s t _ ht c hc
    cases t with
    | started => exact ht.elim
    | _ => cases hc
  · intro s t env o w k hr hC ht ho _ hk hB c hc u hu hhas
    have hsound := sound_of_reaches hr
    rcases has_cases (hsound.tasks t ht) hk hu hhas with
      ⟨hu, hhas⟩ | ⟨r, relocatedChannel, rfl, hchan⟩ | ⟨_, rfl⟩
    · exact hB c hc u hu hhas
    · obtain ⟨⟨endpoint, rfl⟩, rfl, hfind⟩ := may_inserted hk
      obtain ⟨hne, hne'⟩ := (hC hfind).2 o (List.mem_of_mem_erase ho)
      rcases hchan with rfl | rfl
      · exact hne hc
      · exact hne' hc
    · obtain ⟨rfl, rfl⟩ := may_assigned hk
      -- two creations would have been given one leg
      cases o with
      | started v c' =>
        cases hc
        have huse := task_inUse_of_reaches hr
        have hv := huse _ (List.mem_of_mem_erase ho)
        obtain rfl := (inUse_of_reaches hr).once _ _ _ (huse _ ht) hv
        exact creating_ne hsound.once ht ho rfl rfl
      | _ => cases hc
  · intro s t env next hr _ ht hp _ hnext
    generalize hw' : (t.code env s.world).2 = w' at hnext
    intro c hc u hu hhas
    cases hnext with
    | started hready horiginate =>
      cases hc
      have hnew := hp.2 _ rfl
      rw [horiginate] at hnew
      have hnew : c ∉ s.world.channels := by simpa [isNewChannel] using hnew
      exact hnew ((inUse_of_reaches hr).channels u hu _ hhas)
    | _ => cases hc

/-- Relocates of the collection with a common channel are the same. -/
def World.Apart (w : World) : Prop :=
  ∀ u ∈ w.collection, ∀ v ∈ w.collection, ∀ c,
    (w.relocates u).has c → (w.relocates v).has c → u = v

/-- The relocates of the collection have no channel in common with one that is inserted. -/
theorem apart_of_inserted {r : RelocateRequest} {relocatedChannel c : ChannelId} {w : World}
    {v : RelocateUuid} (hfind : w.findByChannel r.initiatorCall = none)
    (hrelocated : ∀ v ∈ w.collection, ¬ (w.relocates v).has relocatedChannel)
    (hc : c = relocatedChannel ∨ c = r.initiatorCall) (hv : v ∈ w.collection) :
    ¬ (w.relocates v).has c := by
  rcases hc with rfl | rfl
  · exact hrelocated v hv
  · exact fun hhas => List.find?_eq_none.mp hfind v hv hhas

theorem apart_of_reaches (h : machine.Reaches Apart s) : s.world.Apart := by
  refine world_invariant (W := World.Apart) ?_ (fun w c hw => hw) ?_ h
  · exact fun _ hu => absurd hu List.not_mem_nil
  · intro s t env w k hr hC ht hs _ _ hk hw u hu v hv c huc hvc
    have hinserted {r : RelocateRequest} {relocatedChannel : ChannelId} {x y : RelocateUuid}
        (hk : t.May env s.world w (.inserted x r relocatedChannel))
        (hc : c = relocatedChannel ∨ c = r.initiatorCall) (hy : y ∈ w.collection) :
        ¬ (w.relocates y).has c := by
      obtain ⟨⟨endpoint, rfl⟩, rfl, hfind⟩ := may_inserted hk
      exact apart_of_inserted hfind (hC hfind).1 hc hy
    have hassigned {x y : RelocateUuid} (hk : t.May env s.world w (.assigned x c))
        (hy : y ∈ w.collection) : ¬ (w.relocates y).has c := by
      obtain ⟨rfl, rfl⟩ := may_assigned hk
      exact unclaimed_of_reaches hr _ ht c rfl y hy
    rcases has_cases hs hk hu huc with ⟨hu', huc'⟩ | ⟨r, rel, rfl, hchan⟩ | ⟨_, rfl⟩
    · rcases has_cases hs hk hv hvc with ⟨hv', hvc'⟩ | ⟨r, rel, rfl, hchan⟩ | ⟨_, rfl⟩
      · exact hw u hu' v hv' c huc' hvc'
      · exact absurd huc' (hinserted hk hchan hu')
      · exact absurd huc' (hassigned hk hu')
    · rcases has_cases hs hk hv hvc with ⟨hv', hvc'⟩ | ⟨r', rel', heq, -⟩ | ⟨_, heq⟩
      · exact absurd hvc' (hinserted hk hchan hv')
      · cases heq
        rfl
      · cases heq
    · rcases has_cases hs hk hv hvc with ⟨hv', hvc'⟩ | ⟨r', rel', heq, -⟩ | ⟨_, heq⟩
      · exact absurd hvc' (hassigned hk hv')
      · cases heq
      · cases heq
        rfl

/-- **Routing is unambiguous**: in every run in which relocates that pass the check for
duplicates have a relocated channel that no other relocate has, no two relocates of the
collection have a channel in common, and the relocate found by a channel is the only one
that has it. -/
theorem routing_unambiguous (h : machine.Reaches Apart s) :
    (∀ u ∈ s.world.collection, ∀ v ∈ s.world.collection, ∀ c,
      (s.world.relocates u).has c → (s.world.relocates v).has c → u = v) ∧
    ∀ u ∈ s.world.collection, ∀ c, (s.world.relocates u).has c →
      s.world.findByChannel c = some u := by
  have hapart := apart_of_reaches h
  refine ⟨hapart, fun u hu c hc => ?_⟩
  cases hfind : s.world.findByChannel c with
  | none => exact absurd hc (List.find?_eq_none.mp hfind u hu)
  | some v =>
    obtain ⟨hv, hvc⟩ := findByChannel_some hfind
    rw [hapart u hu v hv c hc hvc]

end Reachable

instance (s : Sys) (a : Label) : Decidable (Apart s a) := by
  unfold Apart
  rcases a with t | c | ⟨t, env⟩
  · infer_instance
  · infer_instance
  · rcases t with ⟨⟩ <;> infer_instance

/-- The recipient of a relocate that rings is found by its channel. -/
theorem ringing_is_found :
    (served (rings "relocate-1")).world.findByChannel recipientId = some "relocate-1" := by
  have run : machine.run (rings "relocate-1") Sys.start = some (served (rings "relocate-1")) := rfl
  have meets : machine.Meets Apart (rings "relocate-1") Sys.start := by decide
  exact (routing_unambiguous (Machine.Reaches.run (.init rfl) meets run)).2 "relocate-1"
    (by decide) recipientId (by decide)

/-- The relocated channel is not in stasis, and wazo-amid does not redirect it. -/
def notRedirected : Env :=
  { calm with isInStasis := fun _ => .ok false, redirect := fun _ _ _ => .error .wazoAmidError }

theorem otherId_nonempty : "1700000000.4" ≠ "" := by decide

/-- The channel of a second user, to whom the relocated channel has been transferred. -/
def otherId : ChannelId := ⟨"1700000000.4", otherId_nonempty⟩

/-- The second user asks for a relocate of the same peer. -/
def otherRequest : RelocateRequest := { request with initiatorCall := otherId }

/-- A relocate waits for a relocated channel that is not redirected, and its initiator hangs
up; the relocated channel then talks to somebody else, who relocates it too. -/
def relocatedTwice : List Label :=
  rings "relocate-1" ++ called (.onStasisStart ["relocate", "relocate-1", "recipient"]) calm ++
    [.run (.stasisStarted "relocate-1" "recipient") notRedirected] ++
    called (.onHangup .stasisEnd initiatorId) calm ++
    [.run (.hangupOf "relocate-1" initiatorId) calm] ++
    called (.createFromUser otherRequest) (.calm "relocate-2") ++
    [.run (.insert "relocate-2" otherRequest relocatedId "PJSIP/line") calm]

/-- **Two relocates have the same relocated channel**, and its events go to the first. -/
theorem relocatedTwice_ambiguous : machine.Reachable (served relocatedTwice) ∧
    (∀ u ∈ ["relocate-1", "relocate-2"], u ∈ (served relocatedTwice).world.collection ∧
      ((served relocatedTwice).world.relocates u).has relocatedId) ∧
    (served relocatedTwice).world.findByChannel relocatedId = some "relocate-1" :=
  ⟨served_reachable relocatedTwice, by decide, by decide⟩

end Calld.Relocates
