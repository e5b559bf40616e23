/-
# Entries that are removed under a lookup

A lookup tests that an entry is there in one step and uses it in another one.  In between, an
event may invalidate the id, and another lookup may evict what has expired: then the lookup
raises `KeyError`.  As long as neither happens, a lookup raises nothing but what it documents.
-/
import Calld.Parkings.Negative

namespace Calld.Parkings

open Effect Effect.Interactive

/-! ## What a lookup counts on -/

/-- The indexes that are still to be looked at. -/
def Stage.rest : Stage → List ℤ
  | .evicting rest => rest
  | .expired rest => rest
  | _ => []

/-- The lookup has found that the id is invalid, and will read its entry. -/
def LookupPhase.NeedsInvalid (k : LookupPhase) (key : ℤ) : Prop :=
  key ∈ k.stage.rest ∨ (k.stage = .invalid ∧ key = k.parkingId)

/-- The lookup has found the lot in the cache, and will read it. -/
def LookupPhase.NeedsCached (k : LookupPhase) (key : ℤ) : Prop :=
  k.stage = .present ∧ key = k.parkingId

/-- A step that does not remove an entry that another lookup counts on. -/
def Undisturbed (s : CachePool) : CacheLabel → Prop
  | .answer i _ =>
    match s.asked i with
    | some (.evict index) => ∀ j k, j ≠ i → s.phases j = some k → ¬ k.NeedsInvalid index
    | _ => True
  | .outside (.invalidate key) =>
    ∀ j k, s.phases j = some k → ¬ k.NeedsInvalid key ∧ ¬ k.NeedsCached key
  | _ => True

/-- What a stage has of an exception: it comes from the client of confd. -/
def Stage.Documented : Stage → Prop
  | .failed e => ∃ (x : ConfdAnswer) (id : ℤ), x.reply id = .error e
  | .recorded e => ∃ (x : ConfdAnswer) (id : ℤ), x.reply id = .error e
  | .raised _ => False
  | _ => True

/-- What the lookup counts on is there, and it has raised nothing else than what it documents. -/
structure LookupPhase.Founded (w : CacheWorld) (k : LookupPhase) : Prop where
  invalid : ∀ key, k.NeedsInvalid key → (w.invalidIds.get key).isSome
  cached : ∀ key, k.NeedsCached key → (w.cache.get key).isSome
  nodup : k.stage.rest.Nodup
  documented : k.stage.Documented

section Steps

variable {w : CacheWorld} {k k' : LookupPhase} {r : CacheRequest} {x : ConfdAnswer} {key : ℤ}

/-- A stage that counts on nothing. -/
theorem LookupPhase.Founded.of_stage {stage : Stage} (hstage : k.stage = stage)
    (hrest : stage.rest = []) (hinvalid : stage ≠ .invalid) (hpresent : stage ≠ .present)
    (hdocumented : stage.Documented) : k.Founded w := by
  subst hstage
  refine ⟨fun key hneeds => ?_, fun key hneeds => absurd hneeds.1 hpresent, ?_, hdocumented⟩
  · obtain hmem | ⟨hstage, -⟩ := hneeds
    · rw [hrest] at hmem
      cases hmem
    · exact absurd hstage hinvalid
  · rw [hrest]
    exact List.nodup_nil

/-- A stage that goes through the indexes. -/
theorem LookupPhase.Founded.of_rest {rest : List ℤ}
    (hstage : k.stage = .evicting rest ∨ k.stage = .expired rest)
    (hthere : ∀ key ∈ rest, (w.invalidIds.get key).isSome) (hnodup : rest.Nodup) :
    k.Founded w := by
  have hrest : k.stage.rest = rest := by
    obtain hstage | hstage := hstage <;> rw [hstage, Stage.rest]
  have hneither : k.stage ≠ .invalid ∧ k.stage ≠ .present ∧ k.stage.Documented := by
    obtain hstage | hstage := hstage <;> rw [hstage] <;> exact ⟨nofun, nofun, trivial⟩
  refine ⟨fun key hneeds => ?_, fun key hneeds => absurd hneeds.1 hneither.2.1, hrest ▸ hnodup,
    hneither.2.2⟩
  obtain hmem | ⟨hinvalid, -⟩ := hneeds
  · exact hthere key (hrest ▸ hmem)
  · exact absurd hinvalid hneither.1

/-- An entry of an invalid id is kept by all steps but its eviction. -/
theorem invalid_after (hr : r ≠ .evict key) (h : (w.invalidIds.get key).isSome) :
    ((w.after x k r).invalidIds.get key).isSome := by
  cases r with
  | evict index =>
    have hne : key ≠ index := fun e => hr (e ▸ rfl)
    rwa [CacheWorld.after, Dict.get_pop_of_ne _ hne]
  | refresh parkingId =>
    rcases hentry : w.invalidIds.get parkingId with _ | entry <;>
      simp only [CacheWorld.after, hentry]
    · exact h
    · rw [Dict.get_set]
      split
      · rfl
      · exact h
  | addInvalid parkingId =>
    simp only [CacheWorld.after]
    rw [Dict.get_set]
    split
    · rfl
    · exact h
  | _ => exact h

/-- A lot in the cache is kept by all steps. -/
theorem cached_after (h : (w.cache.get key).isSome) :
    ((w.after x k r).cache.get key).isSome := by
  cases r with
  | refresh parkingId =>
    rcases hentry : w.invalidIds.get parkingId with _ | entry <;>
      simp only [CacheWorld.after, hentry] <;> exact h
  | store parking =>
    simp only [CacheWorld.after]
    rw [Dict.get_set]
    split
    · rfl
    · exact h
  | _ => exact h

/-- A step of another lookup, which removes nothing that this one counts on. -/
theorem LookupPhase.Founded.after (h : k'.Founded w)
    (hr : ∀ index, r = .evict index → ¬ k'.NeedsInvalid index) :
    k'.Founded (w.after x k r) where
  invalid key hneeds := invalid_after (fun e => hr key e hneeds) (h.invalid key hneeds)
  cached key hneeds := cached_after (h.cached key hneeds)
  nodup := h.nodup
  documented := h.documented

/-- A step of the lookup itself. -/
theorem LookupPhase.Founded.next (h : k.Founded w) (ht : k.takes r) :
    (k.next w r (w.reply x r)).Founded (w.after x k r) := by
  cases r with
  | monotonicNs =>
    have hnext : (k.next w .monotonicNs (w.reply x .monotonicNs)).stage = .listing := rfl
    exact .of_stage hnext rfl (by simp) (by simp) trivial
  | invalidIds =>
    refine .of_rest (.inl rfl) (fun key hkey => ?_) w.invalidIds.nodup
    exact (w.invalidIds.mem_keys key).mp hkey
  | expiration index =>
    obtain ⟨rest, hstage⟩ := ht
    have hrest : k.stage.rest = index :: rest := by rw [hstage, Stage.rest]
    obtain ⟨e, he⟩ := Option.isSome_iff_exists.mp (h.invalid index (.inl (by simp [hrest])))
    have hthere : ∀ key ∈ index :: rest, (w.invalidIds.get key).isSome :=
      fun key hkey => h.invalid key (.inl (hrest ▸ hkey))
    have hnodup : (index :: rest).Nodup := hrest ▸ h.nodup
    have hnext : (k.next w (.expiration index) (w.reply x (.expiration index))).stage =
        if e.expiration ≤ k.began then .expired (index :: rest) else .evicting rest := by
      simp only [LookupPhase.next, LookupPhase.nextStage, CacheWorld.reply, he, entry, hstage,
        Except.map, Stage.checked, decide_eq_true_eq]
    by_cases hdue : e.expiration ≤ k.began
    · rw [if_pos hdue] at hnext
      exact .of_rest (.inr hnext) hthere hnodup
    · rw [if_neg hdue] at hnext
      exact .of_rest (.inl hnext) (fun key hkey => hthere key (List.mem_cons_of_mem _ hkey))
        (List.nodup_cons.mp hnodup).2
  | evict index =>
    obtain ⟨rest, hstage⟩ := ht
    have hrest : k.stage.rest = index :: rest := by rw [hstage, Stage.rest]
    obtain ⟨e, he⟩ := Option.isSome_iff_exists.mp (h.invalid index (.inl (by simp [hrest])))
    have hnext : (k.next w (.evict index) (w.reply x (.evict index))).stage =
        .evicting rest := by
      simp only [LookupPhase.next, LookupPhase.nextStage, CacheWorld.reply, he, entry, hstage,
        Except.map, Stage.done]
    obtain ⟨hindex, hnodup⟩ := List.nodup_cons.mp (hrest ▸ h.nodup)
    refine .of_rest (.inl hnext) (fun key hkey => ?_) hnodup
    -- the keys are distinct: those that are left have not been evicted
    have hne : key ≠ index := fun heq => hindex (heq ▸ hkey)
    exact invalid_after (by simpa using Ne.symm hne) (h.invalid key (.inl (by simp [hrest, hkey])))
  | isInvalid parkingId =>
    obtain ⟨hstage, rfl⟩ := ht
    rcases hfound : (w.invalidIds.get k.parkingId).isSome with _ | _
    · have hnext : (k.next w (.isInvalid k.parkingId)
          (w.reply x (.isInvalid k.parkingId))).stage = .valid := by
        simp [LookupPhase.next, LookupPhase.nextStage, CacheWorld.reply, hfound]
      exact .of_stage hnext rfl (by simp) (by simp) trivial
    · have hnext : (k.next w (.isInvalid k.parkingId)
          (w.reply x (.isInvalid k.parkingId))).stage = .invalid := by
        simp [LookupPhase.next, LookupPhase.nextStage, CacheWorld.reply, hfound]
      refine ⟨fun key hneeds => ?_, fun key hneeds => ?_, by simp [hnext, Stage.rest],
        by simp [hnext, Stage.Documented]⟩
      · obtain hmem | ⟨-, rfl⟩ := hneeds
        · rw [hnext] at hmem
          cases hmem
        · exact hfound
      · exact absurd hneeds.1 (by simp [hnext])
  | refresh parkingId =>
    obtain ⟨hstage, rfl⟩ := ht
    obtain ⟨e, he⟩ := Option.isSome_iff_exists.mp (h.invalid k.parkingId (.inr ⟨hstage, rfl⟩))
    have hnext : (k.next w (.refresh k.parkingId) (w.reply x (.refresh k.parkingId))).stage =
        .refused := by
      simp only [LookupPhase.next, LookupPhase.nextStage, CacheWorld.reply, he, entry, hstage,
        Except.map, Stage.done]
    exact .of_stage hnext rfl (by simp) (by simp) trivial
  | isCached parkingId =>
    obtain ⟨hstage, rfl⟩ := ht
    rcases hfound : (w.cache.get k.parkingId).isSome with _ | _
    · have hnext : (k.next w (.isCached k.parkingId)
          (w.reply x (.isCached k.parkingId))).stage = .missing := by
        simp [LookupPhase.next, LookupPhase.nextStage, CacheWorld.reply, hfound]
      exact .of_stage hnext rfl (by simp) (by simp) trivial
    · have hnext : (k.next w (.isCached k.parkingId)
          (w.reply x (.isCached k.parkingId))).stage = .present := by
        simp [LookupPhase.next, LookupPhase.nextStage, CacheWorld.reply, hfound]
      refine ⟨fun key hneeds => ?_, fun key hneeds => ?_, by simp [hnext, Stage.rest],
        by simp [hnext, Stage.Documented]⟩
      · obtain hmem | ⟨hstage', -⟩ := hneeds
        · rw [hnext] at hmem
          cases hmem
        · exact absurd hstage' (by simp [hnext])
      · obtain ⟨-, rfl⟩ := hneeds
        exact hfound
  | get parkingId =>
    rcases hreply : x.reply parkingId with e | lot
    · have hnext : (k.next w (.get parkingId) (w.reply x (.get parkingId))).stage = .failed e := by
        simp only [LookupPhase.next, LookupPhase.nextStage, CacheWorld.reply, hreply]
      exact .of_stage hnext rfl (by simp) (by simp) ⟨x, parkingId, hreply⟩
    · have hnext : (k.next w (.get parkingId) (w.reply x (.get parkingId))).stage =
          .fetched lot (w.invalidations parkingId) := by
        simp only [LookupPhase.next, LookupPhase.nextStage, CacheWorld.reply, hreply]
      exact .of_stage hnext rfl (by simp) (by simp) trivial
  | store parking =>
    obtain ⟨version, hstage⟩ := ht
    have hnext : (k.next w (.store parking) (w.reply x (.store parking))).stage =
        .returned parking version := by
      simp only [LookupPhase.next, LookupPhase.nextStage, CacheWorld.reply, hstage, Stage.done]
    exact .of_stage hnext rfl (by simp) (by simp) trivial
  | addInvalid parkingId =>
    obtain ⟨⟨e, hstage⟩, rfl⟩ := ht
    have hnext : (k.next w (.addInvalid k.parkingId)
        (w.reply x (.addInvalid k.parkingId))).stage = .recorded e := by
      simp only [LookupPhase.next, LookupPhase.nextStage, CacheWorld.reply, hstage, Stage.done]
    have hdocumented := h.documented
    rw [hstage] at hdocumented
    exact .of_stage hnext rfl (by simp) (by simp) hdocumented
  | cached parkingId =>
    obtain ⟨hstage, rfl⟩ := ht
    obtain ⟨lot, hlot⟩ := Option.isSome_iff_exists.mp (h.cached k.parkingId ⟨hstage, rfl⟩)
    have hnext : (k.next w (.cached k.parkingId) (w.reply x (.cached k.parkingId))).stage =
        .returned lot (w.version k.parkingId) := by
      simp only [LookupPhase.next, LookupPhase.nextStage, CacheWorld.reply, hlot, entry]
    exact .of_stage hnext rfl (by simp) (by simp) trivial

/-- What happens beside the lookups. -/
theorem LookupPhase.Founded.outside {event : CacheEvent} {w' : CacheWorld} (h : k.Founded w)
    (hevent : ∀ key, event = .invalidate key → ¬ k.NeedsInvalid key ∧ ¬ k.NeedsCached key)
    (hw : cacheSystem.outside event w = some w') : k.Founded w' := by
  cases event with
  | tick nanoseconds =>
    obtain rfl := Option.some.inj hw
    exact ⟨h.invalid, h.cached, h.nodup, h.documented⟩
  | invalidate key =>
    obtain rfl := Option.some.inj hw
    obtain ⟨hinvalid, hcached⟩ := hevent key rfl
    refine ⟨fun id hneeds => ?_, fun id hneeds => ?_, h.nodup, h.documented⟩
    · have hne : id ≠ key := fun heq => hinvalid (heq ▸ hneeds)
      rw [CacheWorld.invalidate, Dict.get_pop_of_ne _ hne]
      exact h.invalid id hneeds
    · have hne : id ≠ key := fun heq => hcached (heq ▸ hneeds)
      rw [CacheWorld.invalidate, Dict.get_pop_of_ne _ hne]
      exact h.cached id hneeds

end Steps

/-! ## Runs -/

section Runs

variable {s : CachePool}

/-- In the runs that do not disturb a lookup, what the lookups count on is there. -/
theorem founded_of_reaches (h : cacheSystem.machine.Reaches Undisturbed s) :
    ∀ i k, s.phases i = some k → k.Founded s.world := by
  refine h.invariant_along (I := fun s => ∀ i k, s.phases i = some k → k.Founded s.world)
    (fun s hs i k hk => ?_) fun s a s' hr ih hC hstep => ?_
  · simp [Pool.phases, hs.2 i] at hk
  obtain ⟨i, parkingId, w, k, p, -, -, hl, rfl⟩ | ⟨i, x, k, r, next, y, rfl, ht, ha, rfl⟩ |
    ⟨event, w, rfl, hw, rfl⟩ := System.step_cases hstep
  · rw [System.phases_update]
    simp only [cacheSystem, Option.some.injEq, Prod.mk.injEq] at hl
    obtain ⟨rfl, rfl, -⟩ := hl
    exact System.forall_update ih (.of_stage rfl rfl (by simp) (by simp) trivial)
  · rw [System.phases_update]
    have hk : s.phases i = some k := by simp [Pool.phases, ht]
    have htakes : k.takes r := (System.keeps_of_reaches lookup_launch_keeps hr i k _ ht).1
    obtain rfl := Option.some.inj ha
    intro j k' hj
    obtain ⟨-, rfl⟩ | ⟨hne, hold⟩ := System.update_cases hj
    · exact (ih i k hk).next htakes
    · refine (ih j k' hold).after fun index hr => ?_
      have hasked : s.asked i = some (.evict index) := by simp [Pool.asked, ht, hr]
      simp only [Undisturbed, hasked] at hC
      exact hC j k' hne hold
  · intro j k hj
    refine (ih j k hj).outside (fun key hevent => ?_) hw
    subst hevent
    exact hC j k hj

/-- The lookups that raise have found their id invalid, or raise what confd has answered. -/
def RaisesDocumented (s : CachePool) : Prop :=
  ∀ i k e, s.tasks i = some (k, .error e) →
    e = .noSuchParking k.parkingId ∨ ∃ (x : ConfdAnswer) (id : ℤ) (e' : Exn),
      x.reply id = .error e' ∧ e = fetchError k.parkingId e'

/-- **As long as no entry is removed that another lookup counts on, every lookup that ends returns
a lot, or raises `NoSuchParking` or the error of confd.** -/
theorem lookup_raises_documented (h : cacheSystem.machine.Reaches Undisturbed s) :
    RaisesDocumented s := by
  intro i k e ht
  have hraises : k.Raises e := System.keeps_of_reaches lookup_launch_keeps h i k _ ht
  have hdocumented := (founded_of_reaches h i k (by simp [Pool.phases, ht])).documented
  obtain ⟨-, he⟩ | ⟨e', hstage, he⟩ | hstage := hraises
  · exact .inl he
  · rw [hstage] at hdocumented
    obtain ⟨x, id, hreply⟩ := hdocumented
    exact .inr ⟨x, id, e', hreply, he⟩
  · rw [hstage] at hdocumented
    exact hdocumented.elim

end Runs

/-! ## An invalidation between the test and the use -/

/-- The lookup that finds its id invalid reads the entry after the id has been invalidated. -/
def invalidatedUnder : List CacheLabel :=
  looking 0 (.status 404) 6 ++ looking 1 .unreachable 4 ++
    [.outside (.invalidate 1), .answer 1 .unreachable]

/-- **The second lookup raises `KeyError`.** -/
theorem key_error_reached : ¬ ∀ s, cacheSystem.machine.Reachable s → RaisesDocumented s := by
  intro hall
  have hraises := hall _ (cacheAfter_reaches (Machine.meets_true invalidatedUnder _)) 1
    ⟨1, 0, 0, .raised .keyError⟩ .keyError rfl
  obtain he | ⟨x, id, e', hreply, he⟩ := hraises
  · cases he
  · cases x with
    | found lot => cases hreply
    | status code =>
      cases hreply
      by_cases hcode : code = 404 <;> simp [fetchError, hcode] at he
    | unreachable =>
      cases hreply
      cases he

/-- A step that removes no entry. -/
def quiet (s : CachePool) : CacheLabel → Bool
  | .answer i _ =>
    match s.asked i with
    | some (.evict _) => false
    | _ => true
  | .outside (.invalidate _) => false
  | _ => true

theorem undisturbed_of_quiet {s : CachePool} {a : CacheLabel} (h : quiet s a) :
    Undisturbed s a := by
  cases a with
  | start i job => trivial
  | answer i x =>
    simp only [quiet] at h
    simp only [Undisturbed]
    split
    · rename_i index hasked
      simp [hasked] at h
    · trivial
  | outside event =>
    cases event with
    | tick nanoseconds => trivial
    | invalidate key => cases h

/-- Confd answers 404 to a lookup, and another one finds what it has recorded. -/
theorem lookup_raises_documented_refused : ∃ s, cacheSystem.machine.Reaches Undisturbed s ∧
    s.tasks 1 = some (⟨1, 0, 0, .refused⟩, .error (.noSuchParking 1)) ∧ RaisesDocumented s := by
  have hmeets : cacheSystem.machine.Meets (fun s a => quiet s a)
      (looking 0 (.status 404) 6 ++ looking 1 .unreachable 5) emptyCache := by
    decide
  have hreach := (cacheAfter_reaches hmeets).mono fun _ _ => undisturbed_of_quiet
  exact ⟨_, hreach, rfl, lookup_raises_documented hreach⟩

end Calld.Parkings
