/-
# Invalidations of the cached parking lots

An event that a parking lot has changed removes it from the cache.  A lookup that has fetched
the lot before may store it afterwards: the lot is then as old as its fetch, however late it
is stored.
-/
import Calld.Parkings.Negative

namespace Calld.Parkings

open Effect Effect.Interactive

section Invalidation

variable {w w' : CacheWorld} {x : ConfdAnswer} {k : LookupPhase} {r : CacheRequest}
  {ph : ℕ → Option LookupPhase}

/-- The lot that a lookup has in hand is its own, and confd served it after every invalidation
of it that came before the lookup. -/
def LookupPhase.Current (k : LookupPhase) : Prop :=
  match k.stage with
  | .fetched lot version => lot.id = k.parkingId ∧ k.since ≤ version
  | .returned _ version => k.since ≤ version
  | _ => True

/-- No lot is cached that was served before the last invalidation of its id. -/
structure Fresh (w : CacheWorld) (ph : ℕ → Option LookupPhase) : Prop where
  cached : ∀ id lot, w.cache.get id = some lot → w.invalidations id ≤ w.version id
  since : ∀ i k, ph i = some k → k.since ≤ w.invalidations k.parkingId
  current : ∀ i k, ph i = some k → k.Current

/-- A lot is stored only when its id has not been invalidated since confd served it: no
invalidation comes between the fetch and the store of a lookup. -/
def FreshStore (w : CacheWorld) (ph : ℕ → Option LookupPhase) (i : ℕ) (_ : ConfdAnswer) :
    CacheRequest → Prop
  | .store parking => ∀ k ∈ ph i, w.invalidations parking.id ≤ k.stage.version
  | _ => True

instance (w : CacheWorld) (ph : ℕ → Option LookupPhase) (i : ℕ) (x : ConfdAnswer)
    (r : CacheRequest) : Decidable (FreshStore w ph i x r) := by
  cases r <;> unfold FreshStore <;> infer_instance

theorem invalidations_after : (w.after x k r).invalidations = w.invalidations := by
  unfold CacheWorld.after
  split <;> try rfl
  split <;> rfl

/-- Only a store changes what is cached. -/
theorem cache_after (h : ∀ parking, r ≠ .store parking) :
    (w.after x k r).cache = w.cache ∧ (w.after x k r).version = w.version := by
  unfold CacheWorld.after
  split
  · exact ⟨rfl, rfl⟩
  · split <;> exact ⟨rfl, rfl⟩
  · exact ⟨rfl, rfl⟩
  · next parking => exact absurd rfl (h parking)
  · exact ⟨rfl, rfl⟩
  · exact ⟨rfl, rfl⟩

/-- What a lookup has in hand after a step of its own. -/
theorem current_next (hf : Fresh w ph) {i : ℕ} (hk : ph i = some k) (ht : k.takes r) :
    (k.next w r (w.reply x r)).Current := by
  have hcurrent := hf.current i k hk
  have hsince := hf.since i k hk
  cases r with
  | monotonicNs => trivial
  | invalidIds => trivial
  | expiration index =>
    obtain ⟨rest, hstage⟩ := ht
    cases hentry : w.invalidIds.get index with
    | none => simp [LookupPhase.next, LookupPhase.nextStage, CacheWorld.reply, hentry, entry,
        Except.map, LookupPhase.Current]
    | some found =>
      by_cases hdue : found.expiration ≤ k.began <;>
        simp [LookupPhase.next, LookupPhase.nextStage, CacheWorld.reply, hentry, entry,
          Except.map, hstage, Stage.checked, hdue, LookupPhase.Current]
  | evict index =>
    obtain ⟨rest, hstage⟩ := ht
    cases hentry : w.invalidIds.get index <;>
      simp [LookupPhase.next, LookupPhase.nextStage, CacheWorld.reply, hentry, entry,
        Except.map, hstage, Stage.done, LookupPhase.Current]
  | isInvalid parkingId =>
    cases hentry : w.invalidIds.get parkingId <;>
      simp [LookupPhase.next, LookupPhase.nextStage, CacheWorld.reply, hentry,
        LookupPhase.Current]
  | refresh parkingId =>
    cases hentry : w.invalidIds.get parkingId <;>
      simp [LookupPhase.next, LookupPhase.nextStage, CacheWorld.reply, hentry, entry,
        Except.map, ht.1, Stage.done, LookupPhase.Current]
  | isCached parkingId =>
    cases hlot : w.cache.get parkingId <;>
      simp [LookupPhase.next, LookupPhase.nextStage, CacheWorld.reply, hlot,
        LookupPhase.Current]
  | get parkingId =>
    obtain ⟨-, rfl⟩ := ht
    cases x with
    | found lot => exact ⟨rfl, hsince⟩
    | status code => trivial
    | unreachable => trivial
  | store parking =>
    obtain ⟨version, hstage⟩ := ht
    unfold LookupPhase.Current at hcurrent
    rw [hstage] at hcurrent
    simpa [LookupPhase.next, LookupPhase.nextStage, CacheWorld.reply, hstage, Stage.done,
      LookupPhase.Current] using hcurrent.2
  | addInvalid parkingId =>
    obtain ⟨⟨e, hstage⟩, -⟩ := ht
    simp [LookupPhase.next, LookupPhase.nextStage, CacheWorld.reply, hstage, Stage.done,
      LookupPhase.Current]
  | cached parkingId =>
    obtain ⟨-, rfl⟩ := ht
    cases hlot : w.cache.get k.parkingId with
    | none => simp [LookupPhase.next, LookupPhase.nextStage, CacheWorld.reply, hlot, entry,
        LookupPhase.Current]
    | some lot =>
      have hfresh := hsince.trans (hf.cached k.parkingId lot hlot)
      simpa [LookupPhase.next, LookupPhase.nextStage, CacheWorld.reply, hlot, entry,
        LookupPhase.Current] using hfresh

/-- A step of one lookup, that stores nothing outdated. -/
theorem Fresh.answer (hf : Fresh w ph) {i : ℕ} (hk : ph i = some k) (ht : k.takes r)
    (hstore : FreshStore w ph i x r) :
    Fresh (w.after x k r) (Function.update ph i (some (k.next w r (w.reply x r)))) where
  cached id lot h := by
    rw [invalidations_after]
    by_cases hr : ∃ parking, r = .store parking
    · obtain ⟨parking, rfl⟩ := hr
      simp only [CacheWorld.after, Dict.get_set] at h ⊢
      by_cases hid : id = parking.id
      · subst hid
        rw [Function.update_self]
        exact hstore k hk
      · rw [if_neg hid] at h
        rw [Function.update_of_ne hid]
        exact hf.cached id lot h
    · obtain ⟨hcache, hversion⟩ := cache_after (w := w) (x := x) (k := k) fun parking heq =>
        hr ⟨parking, heq⟩
      rw [hcache] at h
      rw [hversion]
      exact hf.cached id lot h
  since := by
    rw [invalidations_after]
    exact System.forall_update hf.since (hf.since i k hk)
  current := System.forall_update hf.current (current_next hf hk ht)

/-- An invalidation leaves nothing of its id that could be outdated. -/
theorem Fresh.outside (hf : Fresh w ph) {event : CacheEvent}
    (h : cacheSystem.outside event w = some w') : Fresh w' ph := by
  cases event with
  | tick nanoseconds =>
    obtain rfl := Option.some.inj h
    exact ⟨hf.cached, hf.since, hf.current⟩
  | invalidate key =>
    obtain rfl := Option.some.inj h
    refine ⟨fun id lot hlot => ?_, fun i k hk => ?_, hf.current⟩
    · simp only [CacheWorld.invalidate, Dict.get_pop] at hlot ⊢
      split at hlot
      · cases hlot
      · next hne =>
        rw [Function.update_of_ne hne]
        exact hf.cached id lot hlot
    · refine (hf.since i k hk).trans ?_
      simp only [CacheWorld.invalidate]
      by_cases hid : k.parkingId = key
      · rw [hid, Function.update_self]
        exact Nat.le_succ _
      · rw [Function.update_of_ne hid]

/-! ## Runs -/

variable {s : CachePool}

theorem fresh_of_reaches (h : cacheSystem.machine.Reaches (System.Answers FreshStore) s) :
    Fresh s.world s.phases := by
  refine System.invariant_phases lookup_launch_keeps ?_ ?_ ?_ ?_ h
  · rintro w ⟨hcache, -, -⟩
    refine ⟨fun id lot hlot => ?_, fun _ _ hk => ?_, fun _ _ hk => ?_⟩
    · rw [hcache] at hlot
      cases hlot
    all_goals cases hk
  · intro w ph i parkingId w' k p hf _ hl
    simp only [cacheSystem, Option.some.injEq, Prod.mk.injEq] at hl
    obtain ⟨rfl, rfl, -⟩ := hl
    exact ⟨hf.cached, System.forall_update hf.since le_rfl,
      System.forall_update hf.current trivial⟩
  · intro w ph i x k r y hf hk ht hstore ha
    obtain rfl := Option.some.inj ha
    exact hf.answer hk ht hstore
  · intro w ph event w' hf he
    exact hf.outside he

/-- The lookups that have returned a lot have it from after every invalidation of their id
that came before them. -/
def ReturnsFresh (s : CachePool) : Prop :=
  ∀ i k lot, s.tasks i = some (k, .ok lot) → ∃ version, k.stage = .returned lot version ∧
    k.since ≤ version

/-- **As long as no invalidation comes between the fetch and the store of a lookup, no lookup
returns what confd had served before an invalidation that came before the lookup.** -/
theorem invalidation_wins (h : cacheSystem.machine.Reaches (System.Answers FreshStore) s) :
    ReturnsFresh s := by
  intro i k lot ht
  have hreturns : k.Returns lot := System.keeps_of_reaches lookup_launch_keeps h i k _ ht
  obtain ⟨version, hstage⟩ := hreturns
  have hcurrent := (fresh_of_reaches h).current i k (by simp [Pool.phases, ht])
  unfold LookupPhase.Current at hcurrent
  rw [hstage] at hcurrent
  exact ⟨version, hstage, hcurrent⟩

end Invalidation

/-! ## A slow fetch -/

/-- A lot of a tenant. -/
def lotOf (tenant : String) : ConfdParkingLot :=
  ⟨1, tenant, "some-parking", "701", "750", "45", "default", []⟩

/-- The first lookup fetches the lot, the event of its invalidation comes before or after it
is stored, and another lookup follows. -/
def fetchedThen (stored : Bool) : List CacheLabel :=
  looking 0 (.found (lotOf "some-tenant")) (if stored then 6 else 5) ++
    [.outside (.invalidate 1)] ++
    (if stored then [] else [.answer 0 .unreachable]) ++
    looking 1 (.found (lotOf "other-tenant")) (if stored then 6 else 5)

/-- When the lot is invalidated after it is stored, the next lookup fetches it again. -/
theorem invalidation_wins_stored : ∃ s, cacheSystem.machine.Reaches
      (System.Answers FreshStore) s ∧
    s.tasks 1 = some (⟨1, 1, 0, .returned (lotOf "other-tenant") 1⟩,
      .ok (lotOf "other-tenant")) ∧ ReturnsFresh s := by
  have hmeets : cacheSystem.machine.Meets (System.Answers FreshStore) (fetchedThen true)
      emptyCache := by
    decide
  have hreach := cacheAfter_reaches hmeets
  exact ⟨_, hreach, rfl, invalidation_wins hreach⟩

/-- When it is invalidated before it is stored, the next lookup returns what was served before
the invalidation. -/
theorem stored_after_invalidation : ¬ ∀ s, cacheSystem.machine.Reachable s → ReturnsFresh s := by
  intro hall
  obtain ⟨version, hstage, hle⟩ := hall _
    (cacheAfter_reaches (Machine.meets_true (fetchedThen false) _)) 1
    ⟨1, 1, 0, .returned (lotOf "some-tenant") 0⟩ (lotOf "some-tenant") rfl
  have hversion : 0 = version := (Stage.returned.inj hstage).2
  have hsince : 1 ≤ version := hle
  omega

end Calld.Parkings
