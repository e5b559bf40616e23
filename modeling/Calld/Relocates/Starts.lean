/-
# How relocates start

A relocate is put in the collection before Asterisk is asked to originate its recipient.
When Asterisk refuses with an HTTP error the relocate ends; any other exception of the
originate leaves it in the collection, ready, with nobody to initiate it.
-/
import Calld.Relocates.Endings

namespace Calld.Relocates

open Effect Effect.Program Effect.Moves

/-! ## Creations under way -/

/-- Originate answers a channel or an `HTTPError`. -/
def Env.answersOriginate (env : Env) (u : RelocateUuid) (r : Relocate) (endpoint : String) :
    Bool :=
  match env.originate (r.originateRequest u endpoint) with
  | .ok _ => true
  | .error o => isHTTPError (.outside o)

/-- Originate answers a channel or an `HTTPError`, and the publication of the start of a
relocate does not raise. -/
def StartsOrEnds (s : Sys) : Label → Prop
  | .run (.initiate u endpoint) env => env.answersOriginate u (s.world.relocates u) endpoint
  | .run (.started u c) env =>
    env.told .initiated u ((s.world.rings u c).relocates u) = .ok ()
  | .run .. | .arrive _ | .gone _ => True

/-- Every relocate of the collection that is ready is being created. -/
def Sys.NoneUnstarted (s : Sys) : Prop :=
  ∀ u ∈ s.world.collection, (s.world.relocates u).state = .ready →
    ∃ t ∈ s.tasks, t.creating = some u

/-- The relocate that a section of a creation makes. -/
def Task.makes (env : Env) : Task → Option RelocateUuid
  | .createFromUser _ => some env.uuid4
  | .insert u _ _ _ | .initiate u _ | .started u _ => some u
  | .onStasisStart _ | .stasisStarted .. | .onHangup .. | .hangupOf .. | .completeFromUser ..
  | .complete _ | .cancelFromUser .. | .cancel _ => none

/-! ## Sections -/

section Sections

variable {w w₀ : World} {k : Change} {u : RelocateUuid} {env : Env} {t : Task} {s : Sys}

/-- A relocate of the collection does not become ready. -/
theorem ready_before (hs : w.Sound) (hk : t.May env w₀ w k) (hu : u ∈ w.collection)
    (h : ((k.apply w).relocates u).state = .ready) : (w.relocates u).state = .ready := by
  by_cases hsub : k.subject = some u
  swap
  · rwa [relocates_of_ne hsub] at h
  cases k with
  | created v _ _ =>
    obtain rfl := Option.some.inj hsub
    exact absurd (hs.known (hs.added v hu)) (may_created hk).2.2
  | moved v state =>
    obtain rfl := Option.some.inj hsub
    rw [moved_relocates] at h
    obtain ⟨c, _, rfl, _⟩ | ⟨_, hlive, _⟩ := may_moved hk
    · cases h
    · exact absurd h (not_ready_of_live hlive)
  | ended v =>
    obtain rfl := Option.some.inj hsub
    rw [ended_relocates] at h
    cases h
  | inserted v _ _ | assigned v _ =>
    obtain rfl := Option.some.inj hsub
    simpa using h
  | originated | told => exact h
  | met | hungUp | unlocked => cases hsub

/-- A section leaves the ready relocates of others where they were. -/
theorem ready_of_moves (hs : w.Sound) (ht : t.Sound w) (hne : t.creating ≠ some u) {w' : World}
    (hmoves : (Moves Change.apply (t.May env w)).rel w w')
    (hu : u ∈ w'.collection) (h : (w'.relocates u).state = .ready) :
    u ∈ w.collection ∧ (w.relocates u).state = .ready := by
  refine (Moves.invariant (I := fun w' => w'.Sound ∧
    (u ∈ w'.collection → (w'.relocates u).state = .ready →
      u ∈ w.collection ∧ (w.relocates u).state = .ready)) (fun w' k hw' hk => ?_) hmoves
    ⟨hs, fun hu h => ⟨hu, h⟩⟩).2 hu h
  refine ⟨hw'.1.keep ht hk, fun hu h => ?_⟩
  rcases mem_collection hu with hu | ⟨r, relocatedChannel, rfl⟩
  · exact hw'.2 hu (ready_before hw'.1 hk hu h)
  · obtain ⟨⟨endpoint, rfl⟩, -⟩ := may_inserted hk
    exact absurd rfl hne

/-- A relocate that is being inserted is found free, or nothing happens. -/
theorem insert_cases (env : Env) (r : RelocateRequest) (relocatedChannel : ChannelId) (endpoint : String) :
    (w.findByChannel r.initiatorCall = none ∧
      (Task.insert u r relocatedChannel endpoint).code env w =
        (.ok [.initiate u endpoint], (Change.inserted u r relocatedChannel).apply w)) ∨
    (∃ v, w.findByChannel r.initiatorCall = some v ∧
      (Task.insert u r relocatedChannel endpoint).code env w =
        (.error .relocateAlreadyStarted, w)) := by
  show (_ ∧ insertRelocate u r relocatedChannel endpoint env w = _) ∨
    ∃ v, _ ∧ insertRelocate u r relocatedChannel endpoint env w = _
  unfold insertRelocate
  rw [bind_apply]
  simp only [look_apply]
  cases hfind : w.findByChannel r.initiatorCall with
  | none => exact .inl ⟨rfl, rfl⟩
  | some v => exact .inr ⟨v, rfl, rfl⟩

/-- A relocate that is being initiated goes on, or ends. -/
theorem initiate_answered (env : Env) (endpoint : String) (hready : (w.relocates u).state = .ready)
    (h : env.answersOriginate u (w.relocates u) endpoint) :
    (∃ c, (Task.initiate u endpoint).code env w =
      (.ok [.started u c], (Change.originated u c).apply w)) ∨
    ∃ e w', (Task.initiate u endpoint).code env w = (.error e, w') ∧
      (w'.relocates u).state = .ended ∧ (w.collection.Nodup → u ∉ w'.collection) := by
  have hcode : (Task.initiate u endpoint).code env w = initiate u endpoint env w := rfl
  rw [hcode]
  obtain ⟨c, _, hrun⟩ | ⟨_, e, _, hrun⟩ | ⟨_, _, hrun⟩ | ⟨o, ho, hhttp, _⟩ :=
    initiate_cases env endpoint hready
  · exact .inl ⟨c, hrun⟩
  · exact .inr ⟨_, _, hrun, by simp, fun h => h.not_mem_erase⟩
  · refine .inr ⟨_, _, hrun, by simp, fun h hmem => ?_⟩
    exact h.not_mem_erase (List.mem_of_mem_erase hmem)
  · unfold Env.answersOriginate at h
    rw [ho] at h
    simp [hhttp] at h

/-- A section leaves no relocate of the collection unstarted. -/
theorem Sys.NoneUnstarted.after (h : s.NoneUnstarted) (hsound : s.Sound) (ht : t ∈ s.tasks)
    (hp : env.Possible s.world t) (hC : StartsOrEnds s (.run t env)) :
    (s.after t env).NoneUnstarted := by
  intro u hu hready
  have htSound := hsound.tasks t ht
  by_cases hne : t.creating = some u
  swap
  · obtain ⟨hu, hready⟩ := ready_of_moves hsound.world htSound hne (t.moves hp) hu hready
    obtain ⟨o, ho, hou⟩ := h u hu hready
    have hot : o ≠ t := by
      rintro rfl
      exact hne hou
    exact ⟨o, List.mem_append_left _ ((List.mem_erase_of_ne hot).mpr ho), hou⟩
  have hfollows {next : Task} (hnext : following (t.code env s.world).1 = [next])
      (hc : next.creating = some u) : ∃ o ∈ (s.after t env).tasks, o.creating = some u :=
    ⟨next, List.mem_append_right _ (by rw [hnext]; exact List.mem_singleton_self _), hc⟩
  have hu : u ∈ (t.code env s.world).2.collection := hu
  have hready : ((t.code env s.world).2.relocates u).state = .ready := hready
  cases t with
  | insert v r relocatedChannel endpoint =>
    obtain rfl := Option.some.inj hne
    obtain ⟨_, hrun⟩ | ⟨_, _, hrun⟩ := insert_cases env r relocatedChannel endpoint
    · exact hfollows (by rw [hrun]; rfl) rfl
    · rw [hrun] at hu
      exact absurd rfl (htSound.2 _ (hsound.world.added v hu))
  | initiate v endpoint =>
    obtain rfl := Option.some.inj hne
    obtain ⟨c, hrun⟩ | ⟨e, w', hrun, hended, _⟩ :=
      initiate_answered env endpoint htSound.1.ready hC
    · exact hfollows (by rw [hrun]; rfl) rfl
    · rw [hrun] at hready
      simp [hended] at hready
  | started v c =>
    obtain rfl := Option.some.inj hne
    have hring : ((Task.started v c).code env s.world).2 =
        (Change.unlocked v).apply (s.world.rings v c) :=
      congrArg Prod.snd (started_apply env s.world v c)
    rw [hring] at hready
    have : ((s.world.rings v c).relocates v).state = .recipientRing := by simp [World.rings]
    have hready : ((s.world.rings v c).relocates v).state = .ready := hready
    simp [this] at hready
  | _ => cases hne

/-- A section of a creation that raises leaves its relocate out of the collection. -/
theorem raises_not_mem (hsound : s.Sound) (ht : t ∈ s.tasks) (hp : env.Possible s.world t)
    (hC : StartsOrEnds s (.run t env)) (hu : t.makes env = some u) {e : Exn}
    (he : (t.code env s.world).1 = .error e) : u ∉ (t.code env s.world).2.collection := by
  have htSound := hsound.tasks t ht
  cases t with
  | createFromUser r =>
    obtain rfl := Option.some.inj hu
    have hcol := Moves.untouched (f := World.collection) (fun w k hk => ?_)
      (Task.moves (.createFromUser r) hp)
    · rw [hcol]
      exact (hsound.world.fresh _ hp.1).2.2.1
    · cases k with
      | created | met => rfl
      | _ => exact hk.elim
  | insert v r relocatedChannel endpoint =>
    obtain rfl := Option.some.inj hu
    obtain ⟨_, hrun⟩ | ⟨_, _, hrun⟩ := insert_cases env r relocatedChannel endpoint
    · rw [hrun] at he
      cases he
    · rw [hrun]
      exact fun hmem => absurd rfl (htSound.2 _ (hsound.world.added v hmem))
  | initiate v endpoint =>
    obtain rfl := Option.some.inj hu
    obtain ⟨c, hrun⟩ | ⟨e', w', hrun, _, hnot⟩ :=
      initiate_answered env endpoint htSound.1.ready hC
    · rw [hrun] at he
      cases he
    · rw [hrun]
      exact hnot hsound.world.nodup
  | started v c =>
    obtain rfl := Option.some.inj hu
    have hring : ((Task.started v c).code env s.world).1 = .ok [] := by
      have hC : env.told .initiated v ((s.world.rings v c).relocates v) = .ok () := hC
      refine (congrArg Prod.fst (started_apply env s.world v c)).trans ?_
      rw [hC]
      rfl
    rw [hring] at he
    cases he
  | _ => cases hu

end Sections

/-! ## Runs -/

theorem none_unstarted_of_reaches {s : Sys} (h : machine.Reaches StartsOrEnds s) :
    s.NoneUnstarted := by
  refine Machine.Reaches.invariant_along (I := Sys.NoneUnstarted) ?_ ?_ h
  · rintro s rfl u hu
    exact absurd hu List.not_mem_nil
  · intro s a s' hr hs hC hstep
    obtain ⟨t, rfl, ht, rfl⟩ | ⟨c, rfl, rfl⟩ | ⟨t, env, rfl, ht, _, hp, rfl⟩ := step_cases hstep
    · intro u hu hready
      obtain ⟨o, ho, hou⟩ := hs u hu hready
      exact ⟨o, List.mem_cons_of_mem _ ho, hou⟩
    · exact hs
    · exact Sys.NoneUnstarted.after hs (sound_of_reaches hr) ht hp hC

/-- **No relocate stays unstarted**: in every run in which originate answers a channel or an
`HTTPError` and publishing a start does not raise, the relocates of the collection that are
ready are being created; when a section of a creation raises, its relocate is not in the
collection, and a creation is refused for the sake of a relocate that has been started, or
that is being created. -/
theorem none_stays_unstarted {s : Sys} (h : machine.Reaches StartsOrEnds s) :
    (∀ u ∈ s.world.collection, (s.world.relocates u).state = .ready →
      ∃ t ∈ s.tasks, t.creating = some u) ∧
    (∀ t ∈ s.tasks, ∀ env u e, env.Possible s.world t → StartsOrEnds s (.run t env) →
      t.makes env = some u → (t.code env s.world).1 = .error e →
      u ∉ (t.code env s.world).2.collection) ∧
    ∀ u r relocatedChannel endpoint env,
      ((Task.insert u r relocatedChannel endpoint).code env s.world).1 =
        .error .relocateAlreadyStarted →
      ∃ v ∈ s.world.collection, (s.world.relocates v).has r.initiatorCall ∧
        ((s.world.relocates v).state ≠ .ready ∨ ∃ t ∈ s.tasks, t.creating = some v) := by
  have hnone := none_unstarted_of_reaches h
  refine ⟨hnone, fun t ht env u e hp hC hu he => raises_not_mem (sound_of_reaches h) ht hp hC hu he,
    fun u r relocatedChannel endpoint env he => ?_⟩
  obtain ⟨_, hrun⟩ | ⟨v, hfind, _⟩ := insert_cases env (u := u) (w := s.world) r
    relocatedChannel endpoint
  · rw [hrun] at he
    cases he
  · obtain ⟨hmem, hhas⟩ := findByChannel_some hfind
    refine ⟨v, hmem, hhas, ?_⟩
    by_cases hready : (s.world.relocates v).state = .ready
    · exact .inr (hnone v hmem hready)
    · exact .inl hready

instance (s : Sys) (a : Label) : Decidable (StartsOrEnds s a) := by
  unfold StartsOrEnds
  rcases a with t | c | ⟨t, env⟩
  · infer_instance
  · infer_instance
  · rcases t with ⟨⟩ <;> infer_instance

/-- A relocate that Asterisk refuses is not left behind. -/
theorem refusal_not_unstarted : machine.Reaches StartsOrEnds (served refusal) ∧
    ∀ u ∈ (served refusal).world.collection, ((served refusal).world.relocates u).state = .ready →
      ∃ t ∈ (served refusal).tasks, t.creating = some u := by
  have run : machine.run refusal Sys.start = some (served refusal) := rfl
  have meets : machine.Meets StartsOrEnds refusal Sys.start := by decide
  have reaches : machine.Reaches StartsOrEnds (served refusal) :=
    Machine.Reaches.run (.init rfl) meets run
  exact ⟨reaches, (none_stays_unstarted reaches).1⟩

/-- ARI fails to originate the recipient. -/
def failing : Env := { calm with originate := fun _ => .error .ariException }

/-- ARI fails, and the user tries again. -/
def retry : List Label :=
  creates "relocate-1" failing ++ called (.createFromUser request) (.calm "relocate-2")

/-- **A relocate whose originate fails stays in the collection, ready**, with no creation
under way but the next one, which is refused because of it. -/
theorem retry_is_refused : machine.Reachable (served retry) ∧
    "relocate-1" ∈ (served retry).world.collection ∧
    ((served retry).world.relocates "relocate-1").state = .ready ∧
    (served retry).tasks = [.insert "relocate-2" request relocatedId "PJSIP/line"] ∧
    ((Task.insert "relocate-2" request relocatedId "PJSIP/line").code calm
      (served retry).world).1 = .error .relocateAlreadyStarted :=
  ⟨served_reachable retry, by decide, by decide, by decide, rfl⟩

end Calld.Relocates
