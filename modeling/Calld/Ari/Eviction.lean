/-
# What leaves the cache of the channel variables

`on_hang_up` drops the variables of the channel that has been destroyed and, once an hour, those of
the channels whose id dates them before the last hour.  The walk over the keys of the cache is not
under the lock: the reads of other threads go on, and add channels to the cache.

The date of a channel is what `float` makes of its id.
-/
import Calld.Ari.Caching

namespace Calld.Ari

open Effect

/-! ## The model -/

/-- What `float` gives for a string. -/
inductive PyFloat where
  | nan
  | minusInf
  | finite (value : ℚ)
  | inf
  deriving DecidableEq, Repr

/-- `x < threshold`, which no `nan` is. -/
def PyFloat.before (threshold : Int) : PyFloat → Bool
  | nan | inf => false
  | minusInf => true
  | finite value => value < threshold

/-- What `on_hang_up` raises. -/
inductive EvictionError where
  /-- the id of a channel is not a number -/
  | valueError
  /-- the cache changes size during the iteration -/
  | runtimeError
  deriving DecidableEq, Repr

/-- A call of `on_hang_up`, with the cache that it finds. -/
structure HangUp where
  channelId : String
  cache : Dict String (Dict String String)

/-- Where `on_hang_up` stands. -/
inductive HangUpPhase where
  | idle
  /-- `_remove_cached_channel` of the channel that is gone -/
  | popping (call : HangUp)
  /-- `_remove_old_calls_from_cache` -/
  | testing (call : HangUp)
  /-- the loop over the keys, with those that are left; the cache had that size -/
  | walking (call : HangUp) (now : Int) (size : ℕ) (callIds toRemove : List String)
  /-- `_remove_cached_channel` of the old calls -/
  | removing (call : HangUp) (now : Int) (callIds : List String)

/-- How `on_hang_up` has ended: when it was called, the last clean-up before it, what it raises and
what it leaves. -/
structure HungUp where
  call : HangUp
  now : Int
  previous : Int
  result : Except EvictionError Unit
  cache : Dict String (Dict String String)
  lastCacheCleanup : Int

/-- The cache beside the thread that handles the hang-ups. -/
structure EvictingAri where
  ari : CachedAri
  phase : HangUpPhase
  handled : List HungUp

namespace EvictingAri

def goTo (s : EvictingAri) (phase : HangUpPhase) : EvictingAri := { s with phase := phase }

/-- `_remove_cached_channel`, under the lock. -/
def remove (s : EvictingAri) (channelId : String) : EvictingAri :=
  { s with ari := s.ari.removeCachedChannel channelId }

/-- `on_hang_up` ends, with the time of the last clean-up. -/
def finish (s : EvictingAri) (call : HangUp) (now lastCacheCleanup : Int)
    (result : Except EvictionError Unit) : EvictingAri where
  ari := { s.ari with lastCacheCleanup := lastCacheCleanup }
  phase := .idle
  handled := s.handled ++
    [⟨call, now, s.ari.lastCacheCleanup, result, s.ari.variableCache, lastCacheCleanup⟩]

/-- The next step of `on_hang_up`, at that time; `order` is the order of the set `to_remove`. -/
def hangUpStep (float : String → Option PyFloat) (s : EvictingAri) (time : Int)
    (order : List String) : Option EvictingAri :=
  match s.phase with
  | .idle => none
  | .popping call =>
    if s.ari.lock = none then some ((s.remove call.channelId).goTo (.testing call)) else none
  | .testing call =>
    if s.ari.lastCacheCleanup > time - channelCacheExpiration then
      some (s.finish call time s.ari.lastCacheCleanup (.ok ()))
    else
      let callIds := s.ari.variableCache.keys
      some (s.goTo (.walking call time callIds.length callIds []))
  | .walking call now size callIds toRemove =>
    if s.ari.variableCache.keys.length ≠ size then
      some (s.finish call now s.ari.lastCacheCleanup (.error .runtimeError))
    else
      match callIds with
      | [] => if order.Perm toRemove then some (s.goTo (.removing call now order)) else none
      | callId :: callIds =>
        match float callId with
        | none => some (s.finish call now s.ari.lastCacheCleanup (.error .valueError))
        | some started =>
          let old := started.before (now - channelCacheExpiration)
          some (s.goTo (.walking call now size callIds
            (if old then toRemove ++ [callId] else toRemove)))
  | .removing call now [] => some (s.finish call now now (.ok ()))
  | .removing call now (callId :: callIds) =>
    if s.ari.lock = none then some ((s.remove callId).goTo (.removing call now callIds)) else none

end EvictingAri

/-- The channel that is hung up. -/
def HangUpPhase.channelId : HangUpPhase → Option String
  | idle => none
  | popping call | testing call | walking call _ _ _ _ | removing call _ _ => some call.channelId

/-- Who moves: the thread that handles the hang-ups, or a read, a write or Asterisk. -/
inductive EvictionLabel where
  /-- `on_hang_up` is called, for a channel that Asterisk has no longer -/
  | onHangUp (channelId : String)
  | hangUp (time : Int) (order : List String)
  | other (label : CacheLabel)

/-- What others do while `on_hang_up` handles that channel: no other thread handles hang-ups, and the
id of the channel is not used again. -/
def CacheLabel.Beside (channelId : Option String) : CacheLabel → Prop
  | .call _ (.onHangUp _) => False
  | .channelCreated channelId' _ => channelId ≠ some channelId'
  | _ => True

instance CacheLabel.decidableBeside (channelId : Option String) :
    DecidablePred (CacheLabel.Beside channelId)
  | .call _ (.onHangUp _) => isFalse id
  | .channelCreated channelId' _ => inferInstanceAs (Decidable (channelId ≠ some channelId'))
  | .call _ (.getChannelVar ..) | .advance .. | .setChannelVar .. | .dialplan .. | .channelEnds _ =>
    isTrue trivial

/-- `on_hang_up` among the reads, with any cache to begin with. -/
def evicting (float : String → Option PyFloat) : Machine EvictingAri EvictionLabel where
  init s := s.ari.lock = none ∧ (∀ i, s.ari.tasks i = none) ∧ s.phase = .idle ∧ s.handled = []
  step
    | .onHangUp channelId, s =>
      match s.phase with
      | .idle =>
        if (s.ari.channels channelId).isNone then
          some (s.goTo (.popping ⟨channelId, s.ari.variableCache⟩))
        else none
      | _ => none
    | .hangUp time order, s => s.hangUpStep float time order
    | .other label, s =>
      if label.Beside s.phase.channelId then
        (caching.step label s.ari).map fun ari => { s with ari := ari }
      else none

/-! ## What is claimed of a hang-up -/

/-- The id of the channel dates it before the last hour. -/
def Expired (float : String → Option PyFloat) (now : Int) (channelId : String) : Prop :=
  ∃ started ∈ float channelId, started.before (now - channelCacheExpiration) = true

/-- The entry of a variable. -/
def cachedEntry (cache : Dict String (Dict String String)) (channelId name : String) :
    Option String :=
  (cache.get channelId).bind (·.get name)

/-- A clean-up was due. -/
def HungUp.Due (h : HungUp) : Prop := h.previous ≤ h.now - channelCacheExpiration

/-- Nothing is raised, the channel leaves the cache and, if a clean-up is due, all the expired
channels with it, and no other entry; the time of the clean-up is recorded. -/
structure HungUp.Evicts (float : String → Option PyFloat) (h : HungUp) : Prop where
  result : h.result = .ok ()
  gone : h.cache.get h.call.channelId = none
  kept : ∀ channelId name, channelId ≠ h.call.channelId → ¬ (h.Due ∧ Expired float h.now channelId) →
    (cachedEntry h.call.cache channelId name).isSome → (cachedEntry h.cache channelId name).isSome
  cleaned : h.Due → h.lastCacheCleanup = h.now ∧
    ∀ channelId, Expired float h.now channelId → h.cache.get channelId = none

/-- A clean-up is about to be tested for. -/
def HangUpPhase.tests : HangUpPhase → Bool
  | testing _ => true
  | _ => false

/-- A read may put that channel in the cache. -/
def HangUpPhase.Admits (float : String → Option PyFloat) (cache : Dict String (Dict String String))
    (channelId : String) : HangUpPhase → Prop
  | walking .. => (cache.get channelId).isSome
  | removing _ now callIds => Expired float now channelId → channelId ∈ callIds
  | _ => True

/-- The read whose value goes to the cache next. -/
def CacheTask.toStore : CacheTask → Option Read
  | .storing get _ => some get
  | _ => none

/-- The ids of the cache are numbers when a clean-up begins, and no read adds a channel while the
keys are walked over, or an expired channel afterwards. -/
def Undisturbed (float : String → Option PyFloat) (s : EvictingAri) : EvictionLabel → Prop
  | .hangUp time _ => s.phase.tests → s.ari.lastCacheCleanup ≤ time - channelCacheExpiration →
      ∀ channelId ∈ s.ari.variableCache.keys, (float channelId).isSome
  | .other (.advance i _) => ∀ get ∈ (s.ari.tasks i).bind CacheTask.toStore,
      s.phase.Admits float s.ari.variableCache get.channelId
  | _ => True

instance decidableExpired (float : String → Option PyFloat) (now : Int) (channelId : String) :
    Decidable (Expired float now channelId) :=
  match h : float channelId with
  | none => isFalse fun ⟨_, hstarted, _⟩ => by simp [h] at hstarted
  | some started =>
    decidable_of_iff (started.before (now - channelCacheExpiration) = true) (by simp [Expired, h])

instance HangUpPhase.decidableAdmits (float : String → Option PyFloat)
    (cache : Dict String (Dict String String)) (channelId : String) :
    ∀ phase : HangUpPhase, Decidable (phase.Admits float cache channelId)
  | walking .. => inferInstanceAs (Decidable ((cache.get channelId).isSome = true))
  | removing _ now callIds =>
    inferInstanceAs (Decidable (Expired float now channelId → channelId ∈ callIds))
  | idle | popping _ | testing _ => isTrue trivial

instance decidableUndisturbed (float : String → Option PyFloat) (s : EvictingAri) :
    DecidablePred (Undisturbed float s)
  | .hangUp time _ => inferInstanceAs (Decidable
      (s.phase.tests → s.ari.lastCacheCleanup ≤ time - channelCacheExpiration →
        ∀ channelId ∈ s.ari.variableCache.keys, (float channelId).isSome))
  | .other (.advance i _) => inferInstanceAs (Decidable
      (∀ get ∈ (s.ari.tasks i).bind CacheTask.toStore,
        s.phase.Admits float s.ari.variableCache get.channelId))
  | .onHangUp _ | .other (.call ..) | .other (.setChannelVar ..) | .other (.dialplan ..)
  | .other (.channelCreated ..) | .other (.channelEnds _) => isTrue trivial

/-! ## The reads -/

/-- It is a read. -/
def CacheTask.IsRead : CacheTask → Prop
  | .lookup _ | .locking _ | .fetching .. | .storing .. => True
  | _ => False

/-- Only reads are under way, and the one that fetches for the cache has the lock. -/
structure CachedAri.Reading (s : CachedAri) : Prop where
  reads : ∀ i task, s.tasks i = some task → task.IsRead
  holder : ∀ i task, s.tasks i = some task → task.holdsLock → s.lock = some i

/-- What a read does: it goes on, perhaps with the lock, and may put a value in the cache. -/
structure ReadStep (i : ℕ) (task : CacheTask) (s s' : CachedAri) (next : Option CacheTask) :
    Prop where
  channels : s'.channels = s.channels
  lastCacheCleanup : s'.lastCacheCleanup = s.lastCacheCleanup
  tasks : s'.tasks = Function.update s.tasks i next
  cache : s'.variableCache = s.variableCache ∨ ∃ get value, task = .storing get value ∧
    s'.variableCache = (s.cacheVariable get.channelId get.variable_ value).variableCache
  reads : ∀ task' ∈ next, task'.IsRead
  stored : ∀ get value, next = some (.storing get value) → (s.channels get.channelId).isSome
  lock : (s'.lock = s.lock ∧ ∀ task' ∈ next, task'.holdsLock → task.holdsLock) ∨
    (s.lock = none ∧ s'.lock = some i) ∨
    (task.holdsLock ∧ ∀ task' ∈ next, task'.holdsLock = false)

theorem CacheTask.step_read {s s' : CachedAri} {i : ℕ} {env : CacheEnv} {task : CacheTask}
    (hread : task.IsRead) (hs : task.step i env s = some s') :
    ∃ next, ReadStep i task s s' next := by
  cases task with
  | lookup get =>
    dsimp only [CacheTask.step] at hs
    split at hs <;> cases hs
    · exact ⟨none, rfl, rfl, rfl, .inl rfl, by simp, by simp, .inl ⟨rfl, by simp⟩⟩
    · refine ⟨some (.locking get), rfl, rfl, rfl, .inl rfl, ?_, by simp, .inl ⟨rfl, ?_⟩⟩
      · rintro _ ⟨⟩
        trivial
      · rintro _ ⟨⟩ h
        cases h
  | locking get =>
    dsimp only [CacheTask.step] at hs
    by_cases hfree : s.lock = none
    · rw [if_pos hfree] at hs
      split at hs <;> cases hs
      · exact ⟨none, rfl, rfl, rfl, .inl rfl, by simp, by simp, .inl ⟨rfl, by simp⟩⟩
      · refine ⟨some (.fetching get true), rfl, rfl, rfl, .inl rfl, ?_, by simp,
          .inr (.inl ⟨hfree, rfl⟩)⟩
        rintro _ ⟨⟩
        trivial
    · rw [if_neg hfree] at hs
      cases hs
  | fetching get forCache =>
    -- whatever Asterisk answers, the lock is released by the read that has it
    have hends (result : Except ReadError String) :
        ReadStep i (.fetching get forCache) s
          ((if forCache then s.setLock none else s).answer i get result) none := by
      cases forCache with
      | false => exact ⟨rfl, rfl, rfl, .inl rfl, by simp, by simp, .inl ⟨rfl, by simp⟩⟩
      | true => exact ⟨rfl, rfl, rfl, .inl rfl, by simp, by simp, .inr (.inr ⟨rfl, by simp⟩)⟩
    dsimp only [CacheTask.step] at hs
    split at hs
    · cases hs
      exact ⟨none, hends _⟩
    · split at hs
      · cases hs
        exact ⟨none, hends _⟩
      next value hvalue =>
        cases forCache with
        | false =>
          cases hs
          exact ⟨none, hends _⟩
        | true =>
          cases hs
          refine ⟨some (.storing get value), rfl, rfl, rfl, .inl rfl, ?_, ?_, .inl ⟨rfl, ?_⟩⟩
          · rintro _ ⟨⟩
            trivial
          · rintro get' value' ⟨⟩
            obtain ⟨vars, hvars, -⟩ := Option.bind_eq_some_iff.mp hvalue
            rw [hvars]
            rfl
          · rintro _ ⟨⟩ _
            rfl
  | storing get value =>
    cases hs
    exact ⟨none, rfl, rfl, rfl, .inr ⟨get, value, rfl, rfl⟩, by simp, by simp,
      .inr (.inr ⟨rfl, by simp⟩)⟩
  | hangUp channelId => exact hread.elim
  | cleanup => exact hread.elim
  | removing callIds now => exact hread.elim

/-- A read keeps its place among the reads. -/
theorem ReadStep.reading {s s' : CachedAri} {i : ℕ} {task : CacheTask} {next : Option CacheTask}
    (h : s.Reading) (htask : s.tasks i = some task) (hs : ReadStep i task s s' next) :
    s'.Reading where
  reads j task' hj := by
    rw [hs.tasks] at hj
    by_cases hji : j = i
    · subst hji
      rw [Function.update_self] at hj
      exact hs.reads task' hj
    · rw [Function.update_of_ne hji] at hj
      exact h.reads j task' hj
  holder j task' hj hholds := by
    rw [hs.tasks] at hj
    by_cases hji : j = i
    · subst hji
      rw [Function.update_self] at hj
      obtain ⟨hlock, hnext⟩ | ⟨-, hlock⟩ | ⟨-, hnext⟩ := hs.lock
      · rw [hlock]
        exact h.holder j task htask (hnext task' hj hholds)
      · exact hlock
      · rw [hnext task' hj] at hholds
        cases hholds
    · -- another read has the lock
      rw [Function.update_of_ne hji] at hj
      have hother := h.holder j task' hj hholds
      obtain ⟨hlock, -⟩ | ⟨hfree, -⟩ | ⟨hmine, -⟩ := hs.lock
      · rw [hlock]
        exact hother
      · rw [hfree] at hother
        cases hother
      · rw [h.holder i task htask hmine] at hother
        exact absurd (Option.some.inj hother).symm hji

/-- What the others do: a read goes on, or the cache is left as it is. -/
theorem other_cases {s s' : CachedAri} {label : CacheLabel} {c : Option String} (h : s.Reading)
    (hb : label.Beside c) (hs : caching.step label s = some s') :
    (∃ i env task next, label = .advance i env ∧ s.tasks i = some task ∧
      ReadStep i task s s' next) ∨
    (s'.variableCache = s.variableCache ∧ s'.lastCacheCleanup = s.lastCacheCleanup ∧ s'.Reading ∧
      (∀ i get value, s'.tasks i = some (.storing get value) →
        s.tasks i = some (.storing get value)) ∧
      ∀ channelId, c = some channelId → s.channels channelId = none →
        s'.channels channelId = none) := by
  cases label with
  | advance i env =>
    obtain ⟨task, htask, hs⟩ := Option.bind_eq_some_iff.mp hs
    obtain ⟨next, hnext⟩ := task.step_read (h.reads i task htask) hs
    exact .inl ⟨i, env, task, next, rfl, htask, hnext⟩
  | call i request =>
    cases request with
    | onHangUp channelId => exact hb.elim
    | getChannelVar channelId name noCache =>
      dsimp only [caching] at hs
      split at hs
      next hidle =>
        cases hs
        have hread : ((CacheRequest.getChannelVar channelId name noCache).task s).IsRead ∧
            ((CacheRequest.getChannelVar channelId name noCache).task s).holdsLock = false ∧
            ∀ get value, (CacheRequest.getChannelVar channelId name noCache).task s ≠
              .storing get value := by
          unfold CacheRequest.task
          dsimp only
          split
          · exact ⟨trivial, rfl, nofun⟩
          · exact ⟨trivial, rfl, nofun⟩
        refine .inr ⟨rfl, rfl, ⟨fun j task hj => ?_, fun j task hj hholds => ?_⟩,
          fun j get value hj => ?_, fun _ _ => id⟩
        all_goals
          simp only [CachedAri.goOn, Function.update_apply] at hj
          split at hj
        · cases hj
          exact hread.1
        · exact h.reads j task hj
        · cases hj
          rw [hread.2.1] at hholds
          cases hholds
        · exact h.holder j task hj hholds
        · exact absurd (Option.some.inj hj) (hread.2.2 get value)
        · exact hj
      · cases hs
  | setChannelVar channelId name value accepted =>
    dsimp only [caching] at hs
    split at hs <;> cases hs
    · refine .inr ⟨rfl, rfl, ⟨h.reads, h.holder⟩, fun _ _ _ => id, fun channelId' _ hnone => ?_⟩
      simp only [CachedAri.write, Function.update_apply]
      split
      next heq => rw [← heq, hnone, Option.map_none]
      · exact hnone
    · exact .inr ⟨rfl, rfl, h, fun _ _ _ => id, fun _ _ => id⟩
  | dialplan channelId name value =>
    cases hs
    refine .inr ⟨rfl, rfl, ⟨h.reads, h.holder⟩, fun _ _ _ => id, fun channelId' _ hnone => ?_⟩
    simp only [CachedAri.write, Function.update_apply]
    split
    next heq => rw [← heq, hnone, Option.map_none]
    · exact hnone
  | channelCreated channelId vars =>
    cases hs
    refine .inr ⟨rfl, rfl, ⟨h.reads, h.holder⟩, fun _ _ _ => id, fun channelId' hc hnone => ?_⟩
    have hne : channelId' ≠ channelId := by
      rintro rfl
      exact hb hc
    simp only [CachedAri.replace, Function.update_of_ne hne]
    exact hnone
  | channelEnds channelId =>
    cases hs
    refine .inr ⟨rfl, rfl, ⟨h.reads, h.holder⟩, fun _ _ _ => id, fun channelId' _ hnone => ?_⟩
    simp only [CachedAri.replace, Function.update_apply]
    split
    · rfl
    · exact hnone

/-! ## What the cache holds -/

section Cache

variable {s s' : CachedAri} {c k x v : String}

theorem cacheVariable_get_of_ne (hne : k ≠ c) :
    (s.cacheVariable c x v).variableCache.get k = s.variableCache.get k := by
  unfold CachedAri.cacheVariable
  cases s.variableCache.get c <;> exact Dict.get_set_of_ne _ hne _

/-- A variable more of a channel that is in the cache. -/
theorem cacheVariable_keys (hc : (s.variableCache.get c).isSome) :
    (s.cacheVariable c x v).variableCache.keys = s.variableCache.keys := by
  have hmem : c ∈ s.variableCache.keys := (s.variableCache.mem_keys c).mpr hc
  unfold CachedAri.cacheVariable
  cases s.variableCache.get c <;> exact if_pos hmem

theorem removeCachedChannel_get_self : (s.removeCachedChannel c).variableCache.get c = none :=
  Dict.get_pop_self ..

theorem removeCachedChannel_get_of_ne (hne : k ≠ c) :
    (s.removeCachedChannel c).variableCache.get k = s.variableCache.get k :=
  Dict.get_pop_of_ne _ hne

/-- The channel is gone, and so are its variables; no read is about to put them back. -/
structure CachedAri.Gone (s : CachedAri) (channelId : String) : Prop where
  channel : s.channels channelId = none
  stored : ∀ i get value, s.tasks i = some (.storing get value) → get.channelId ≠ channelId
  cache : s.variableCache.get channelId = none

/-- A read of a channel that is gone finds nothing. -/
theorem ReadStep.gone {i : ℕ} {task : CacheTask} {next : Option CacheTask} (h : s.Gone c)
    (htask : s.tasks i = some task) (hs : ReadStep i task s s' next) : s'.Gone c where
  channel := by rw [hs.channels, h.channel]
  stored j get value hj := by
    rw [hs.tasks] at hj
    by_cases hji : j = i
    · subst hji
      rw [Function.update_self] at hj
      rintro rfl
      have hsome := hs.stored get value hj
      rw [h.channel] at hsome
      cases hsome
    · rw [Function.update_of_ne hji] at hj
      exact h.stored j get value hj
  cache := by
    obtain hsame | ⟨get, value, rfl, hstore⟩ := hs.cache
    · rw [hsame, h.cache]
    · rw [hstore, cacheVariable_get_of_ne (h.stored i get value htask).symm, h.cache]

/-- The channel is removed while no read has the lock. -/
theorem gone_of_remove (h : s.Reading) (hlock : s.lock = none) (hchannel : s.channels c = none) :
    (s.removeCachedChannel c).Gone c where
  channel := hchannel
  stored i get value hi := by
    have hheld := h.holder i _ hi rfl
    rw [hlock] at hheld
    cases hheld
  cache := removeCachedChannel_get_self

end Cache

/-! ## How far the hang-up is -/

section Progress

variable {float : String → Option PyFloat} {s s' : EvictingAri} {ari : CachedAri} {call : HangUp}
  {now : Int}

/-- The entries that `on_hang_up` found are there, but for those of its channel and of the channels
that it drops. -/
def CachedAri.Keeps (ari : CachedAri) (call : HangUp) (dropped : String → Prop) : Prop :=
  ∀ channelId name, channelId ≠ call.channelId → ¬ dropped channelId →
    (cachedEntry call.cache channelId name).isSome →
      (cachedEntry ari.variableCache channelId name).isSome

/-- The keys are walked over: those that have been seen and are old are in `to_remove`. -/
structure CachedAri.Walked (float : String → Option PyFloat) (ari : CachedAri) (now : Int)
    (size : ℕ) (callIds toRemove : List String) : Prop where
  due : ari.lastCacheCleanup ≤ now - channelCacheExpiration
  size : ari.variableCache.keys.length = size
  dated : ∀ callId ∈ callIds, (float callId).isSome
  old : ∀ callId ∈ toRemove, Expired float now callId
  seen : ∀ callId ∈ ari.variableCache.keys, Expired float now callId →
    callId ∈ toRemove ∨ callId ∈ callIds

/-- The old channels are removed: those that are left are still to come. -/
structure CachedAri.Cleaned (float : String → Option PyFloat) (ari : CachedAri) (now : Int)
    (callIds : List String) : Prop where
  due : ari.lastCacheCleanup ≤ now - channelCacheExpiration
  old : ∀ callId ∈ callIds, Expired float now callId
  left : ∀ callId, Expired float now callId → ari.variableCache.get callId ≠ none →
    callId ∈ callIds

/-- How far `on_hang_up` is. -/
def CachedAri.Reached (float : String → Option PyFloat) (ari : CachedAri) : HangUpPhase → Prop
  | .idle => True
  | .popping call => ari.channels call.channelId = none ∧ ari.Keeps call fun _ => False
  | .testing call => ari.Gone call.channelId ∧ ari.Keeps call fun _ => False
  | .walking call now size callIds toRemove => ari.Gone call.channelId ∧
      (ari.Keeps call fun _ => False) ∧ ari.Walked float now size callIds toRemove
  | .removing call now callIds => ari.Gone call.channelId ∧ ari.Keeps call (Expired float now) ∧
      ari.Cleaned float now callIds

/-- The invariant: `on_hang_up` is as far as its place says, and has done all of it before. -/
structure EvictingAri.Sound (float : String → Option PyFloat) (s : EvictingAri) : Prop where
  reading : s.ari.Reading
  reached : s.ari.Reached float s.phase
  handled : ∀ h ∈ s.handled, h.Evicts float

/-- A read drops nothing. -/
theorem keeps_of_entries {ari' : CachedAri} {dropped : String → Prop} (h : ari.Keeps call dropped)
    (hentries : ∀ channelId name, (cachedEntry ari.variableCache channelId name).isSome →
      (cachedEntry ari'.variableCache channelId name).isSome) : ari'.Keeps call dropped :=
  fun channelId name hne hdropped hentry => hentries _ _ (h channelId name hne hdropped hentry)

theorem ReadStep.entries {i : ℕ} {task : CacheTask} {ari' : CachedAri} {next : Option CacheTask}
    (hs : ReadStep i task ari ari' next) (channelId name : String)
    (h : (cachedEntry ari.variableCache channelId name).isSome) :
    (cachedEntry ari'.variableCache channelId name).isSome := by
  obtain hsame | ⟨get, value, -, hstore⟩ := hs.cache
  · rwa [hsame]
  · have hget := getCachedVariable_cacheVariable ari get.channelId get.variable_ value channelId name
    rw [hstore]
    change (CachedAri.getCachedVariable _ _ _).isSome
    rw [hget]
    split
    · rfl
    · exact h

/-- A read goes on beside `on_hang_up`. -/
theorem ReadStep.reached {i : ℕ} {task : CacheTask} {ari' : CachedAri} {next : Option CacheTask}
    {env : CacheEnv} (h : s.ari.Reached float s.phase)
    (hc : Undisturbed float s (.other (.advance i env))) (htask : s.ari.tasks i = some task)
    (hs : ReadStep i task s.ari ari' next) : ari'.Reached float s.phase := by
  have hadmits {get : Read} {value : String} (hstoring : task = .storing get value) :
      s.phase.Admits float s.ari.variableCache get.channelId := by
    refine hc get ?_
    rw [htask, hstoring]
    rfl
  cases hphase : s.phase with
  | idle => trivial
  | popping call =>
    rw [hphase] at h
    exact ⟨hs.channels ▸ h.1, keeps_of_entries h.2 hs.entries⟩
  | testing call =>
    rw [hphase] at h
    exact ⟨ReadStep.gone h.1 htask hs, keeps_of_entries h.2 hs.entries⟩
  | walking call now size callIds toRemove =>
    rw [hphase] at h
    obtain ⟨hgone, hkeeps, hwalked⟩ := h
    refine ⟨ReadStep.gone hgone htask hs, keeps_of_entries hkeeps hs.entries, ?_⟩
    -- no channel comes in
    have hkeys : ari'.variableCache.keys = s.ari.variableCache.keys := by
      obtain hsame | ⟨get, value, rfl, hstore⟩ := hs.cache
      · rw [hsame]
      · have hget := hadmits rfl
        rw [hphase] at hget
        rw [hstore]
        exact cacheVariable_keys hget
    exact ⟨hs.lastCacheCleanup ▸ hwalked.due, by rw [hkeys, hwalked.size], hwalked.dated, hwalked.old,
      by rw [hkeys]; exact hwalked.seen⟩
  | removing call now callIds =>
    rw [hphase] at h
    obtain ⟨hgone, hkeeps, hcleaned⟩ := h
    refine ⟨ReadStep.gone hgone htask hs, keeps_of_entries hkeeps hs.entries,
      hs.lastCacheCleanup ▸ hcleaned.due, hcleaned.old, fun callId hexpired hget => ?_⟩
    obtain hsame | ⟨get, value, rfl, hstore⟩ := hs.cache
    · rw [hsame] at hget
      exact hcleaned.left callId hexpired hget
    · -- an expired channel that comes in is still to be removed
      by_cases hmine : callId = get.channelId
      · subst hmine
        have hget := hadmits rfl
        rw [hphase] at hget
        exact hget hexpired
      · rw [hstore, cacheVariable_get_of_ne hmine] at hget
        exact hcleaned.left callId hexpired hget

/-- What neither the cache nor the channel that is gone depends on. -/
theorem CachedAri.Reached.of_same {ari' : CachedAri} {phase : HangUpPhase}
    (h : ari.Reached float phase) (hcache : ari'.variableCache = ari.variableCache)
    (hlast : ari'.lastCacheCleanup = ari.lastCacheCleanup)
    (hstored : ∀ i get value, ari'.tasks i = some (.storing get value) →
      ari.tasks i = some (.storing get value))
    (hgone : ∀ channelId, phase.channelId = some channelId → ari.channels channelId = none →
      ari'.channels channelId = none) : ari'.Reached float phase := by
  have keeps {call : HangUp} {dropped : String → Prop} (hk : ari.Keeps call dropped) :
      ari'.Keeps call dropped := keeps_of_entries hk fun _ _ hentry => by rwa [hcache]
  have gone {c : String} (hc : phase.channelId = some c) (hg : ari.Gone c) : ari'.Gone c :=
    ⟨hgone c hc hg.channel, fun i get value hi => hg.stored i get value (hstored i get value hi),
      hcache ▸ hg.cache⟩
  cases phase with
  | idle => trivial
  | popping call => exact ⟨hgone _ rfl h.1, keeps h.2⟩
  | testing call => exact ⟨gone rfl h.1, keeps h.2⟩
  | walking call now size callIds toRemove =>
    obtain ⟨hg, hk, hw⟩ := h
    exact ⟨gone rfl hg, keeps hk, hlast ▸ hw.due, hcache ▸ hw.size, hw.dated, hw.old,
      hcache ▸ hw.seen⟩
  | removing call now callIds =>
    obtain ⟨hg, hk, hc⟩ := h
    exact ⟨gone rfl hg, keeps hk, hlast ▸ hc.due, hc.old, hcache ▸ hc.left⟩

namespace EvictingAri.Sound

theorem other {label : CacheLabel} (h : s.Sound float) (hb : label.Beside s.phase.channelId)
    (hc : Undisturbed float s (.other label)) (hs : caching.step label s.ari = some ari) :
    EvictingAri.Sound float { s with ari := ari } := by
  obtain ⟨i, env, task, next, rfl, htask, hnext⟩ | ⟨hcache, hlast, hreading, hstored, hgone⟩ :=
    other_cases h.reading hb hs
  · have hreached : ari.Reached float s.phase := hnext.reached h.reached hc htask
    exact ⟨hnext.reading h.reading htask, hreached, h.handled⟩
  · exact ⟨hreading, h.reached.of_same hcache hlast hstored hgone, h.handled⟩

/-- `on_hang_up` goes on. -/
theorem goTo (h : s.Sound float) {phase : HangUpPhase} (hreached : s.ari.Reached float phase) :
    (s.goTo phase).Sound float := ⟨h.reading, hreached, h.handled⟩

/-- `on_hang_up` ends. -/
theorem finish (h : s.Sound float) {last : Int} {result : Except EvictionError Unit}
    (hevicts : HungUp.Evicts float ⟨call, now, s.ari.lastCacheCleanup, result, s.ari.variableCache,
      last⟩) : (s.finish call now last result).Sound float where
  reading := ⟨h.reading.reads, h.reading.holder⟩
  reached := trivial
  handled hungUp hmem := by
    obtain hold | hnew := List.mem_append.mp hmem
    · exact h.handled hungUp hold
    · rw [List.mem_singleton.mp hnew]
      exact hevicts

/-- A channel is removed that `on_hang_up` is to drop. -/
theorem keeps_remove {dropped : String → Prop} {channelId : String}
    (hk : ari.Keeps call dropped) (hdrop : channelId = call.channelId ∨ dropped channelId) :
    (ari.removeCachedChannel channelId).Keeps call dropped := by
  intro k name hne hdropped hentry
  have hother : k ≠ channelId := by
    rintro rfl
    exact hdrop.elim hne hdropped
  rw [cachedEntry, removeCachedChannel_get_of_ne hother]
  exact hk k name hne hdropped hentry

/-- The next key is looked at. -/
theorem walked {size : ℕ} {callId : String} {callIds toRemove : List String} {started : PyFloat}
    (h : ari.Walked float now size (callId :: callIds) toRemove) (hfloat : float callId = some started) :
    ari.Walked float now size callIds
      (if started.before (now - channelCacheExpiration) then toRemove ++ [callId] else toRemove) where
  due := h.due
  size := h.size
  dated k hk := h.dated k (List.mem_cons_of_mem _ hk)
  old k hk := by
    split at hk
    next hbefore =>
      obtain hold | hnew := List.mem_append.mp hk
      · exact h.old k hold
      · rw [List.mem_singleton.mp hnew]
        exact ⟨started, hfloat, hbefore⟩
    · exact h.old k hk
  seen k hk hexpired := by
    obtain hremove | hleft := h.seen k hk hexpired
    · left
      split
      · exact List.mem_append_left _ hremove
      · exact hremove
    · obtain rfl | hleft := List.mem_cons.mp hleft
      · obtain ⟨started', hfloat', hbefore⟩ := hexpired
        rw [hfloat] at hfloat'
        cases hfloat'
        left
        rw [if_pos hbefore]
        exact List.mem_append_right _ (List.mem_singleton_self _)
      · exact .inr hleft

/-- An old channel is removed. -/
theorem cleaned {callId : String} {callIds : List String}
    (h : ari.Cleaned float now (callId :: callIds)) :
    (ari.removeCachedChannel callId).Cleaned float now callIds where
  due := h.due
  old k hk := h.old k (List.mem_cons_of_mem _ hk)
  left k hexpired hget := by
    have hne : k ≠ callId := by
      rintro rfl
      exact hget removeCachedChannel_get_self
    rw [removeCachedChannel_get_of_ne hne] at hget
    exact (List.mem_cons.mp (h.left k hexpired hget)).resolve_left hne

theorem remove_gone {c k : String} (h : ari.Gone c) : (ari.removeCachedChannel k).Gone c where
  channel := h.channel
  stored := h.stored
  cache := by
    by_cases hck : c = k
    · subst hck
      exact removeCachedChannel_get_self
    · rw [removeCachedChannel_get_of_ne hck, h.cache]

theorem hangUp {time : Int} {order : List String} (h : s.Sound float)
    (hc : Undisturbed float s (.hangUp time order))
    (hs : s.hangUpStep float time order = some s') : s'.Sound float := by
  have hreached := h.reached
  unfold EvictingAri.hangUpStep at hs
  cases hphase : s.phase with
  | idle =>
    simp only [hphase] at hs
    cases hs
  | popping call =>
    simp only [hphase] at hs hreached
    split at hs <;> cases hs
    next hlock =>
      exact ⟨⟨h.reading.reads, h.reading.holder⟩,
        ⟨gone_of_remove h.reading hlock hreached.1, keeps_remove hreached.2 (.inl rfl)⟩, h.handled⟩
  | testing call =>
    simp only [hphase] at hs hreached
    obtain ⟨hgone, hkeeps⟩ := hreached
    have hdated := hc (by rw [hphase]; rfl)
    split at hs <;> cases hs
    next hrecent =>
      refine h.finish ⟨rfl, hgone.cache, fun k name hne _ => hkeeps k name hne id, fun hdue => ?_⟩
      exact absurd hrecent (not_lt.mpr hdue)
    next hrecent =>
      have hdue := not_lt.mp hrecent
      exact h.goTo ⟨hgone, hkeeps, hdue, rfl, hdated hdue, nofun, fun k hk _ => .inr hk⟩
  | walking call now size callIds toRemove =>
    simp only [hphase] at hs hreached
    obtain ⟨hgone, hkeeps, hwalked⟩ := hreached
    rw [if_neg (not_not.mpr hwalked.size)] at hs
    cases callIds with
    | nil =>
      simp only at hs
      split at hs <;> cases hs
      next hperm =>
        refine h.goTo ⟨hgone, fun k name hne _ => hkeeps k name hne id, hwalked.due,
          fun k hk => hwalked.old k (hperm.mem_iff.mp hk), fun k hexpired hget => ?_⟩
        have hmem : k ∈ s.ari.variableCache.keys :=
          (s.ari.variableCache.mem_keys k).mpr (Option.isSome_iff_ne_none.mpr hget)
        exact hperm.mem_iff.mpr ((hwalked.seen k hmem hexpired).resolve_right List.not_mem_nil)
    | cons callId callIds =>
      obtain ⟨started, hfloat⟩ := Option.isSome_iff_exists.mp (hwalked.dated callId (.head _))
      simp only [hfloat] at hs
      cases hs
      exact h.goTo ⟨hgone, hkeeps, walked hwalked hfloat⟩
  | removing call now callIds =>
    simp only [hphase] at hreached
    obtain ⟨hgone, hkeeps, hcleaned⟩ := hreached
    cases callIds with
    | nil =>
      simp only [hphase] at hs
      cases hs
      refine h.finish ⟨rfl, hgone.cache, fun k name hne hkept => hkeeps k name hne fun hexpired =>
        hkept ⟨hcleaned.due, hexpired⟩, fun _ => ⟨rfl, fun k hexpired => ?_⟩⟩
      by_contra hget
      exact absurd (hcleaned.left k hexpired hget) List.not_mem_nil
    | cons callId callIds =>
      simp only [hphase] at hs
      split at hs <;> cases hs
      exact ⟨⟨h.reading.reads, h.reading.holder⟩, ⟨remove_gone hgone,
        keeps_remove hkeeps (.inr (hcleaned.old callId (.head _))), cleaned hcleaned⟩, h.handled⟩

theorem step {label : EvictionLabel} (h : s.Sound float) (hc : Undisturbed float s label)
    (hs : (evicting float).step label s = some s') : s'.Sound float := by
  cases label with
  | onHangUp channelId =>
    dsimp only [evicting] at hs
    split at hs
    · split at hs <;> cases hs
      next hnone =>
        exact h.goTo ⟨Option.isNone_iff_eq_none.mp hnone, fun _ _ _ _ => id⟩
    · cases hs
  | hangUp time order => exact h.hangUp hc hs
  | other label =>
    dsimp only [evicting] at hs
    split at hs
    next hb =>
      obtain ⟨ari, hari, rfl⟩ := Option.map_eq_some_iff.mp hs
      exact h.other hb hc hari
    · cases hs

theorem start (h : (evicting float).init s) : s.Sound float := by
  obtain ⟨-, htasks, hphase, hhandled⟩ := h
  refine ⟨⟨fun i task hi => ?_, fun i task hi => ?_⟩, ?_, ?_⟩
  · rw [htasks i] at hi
    cases hi
  · rw [htasks i] at hi
    cases hi
  · rw [hphase]
    trivial
  · rw [hhandled]
    exact nofun

end EvictingAri.Sound

/-- Every hang-up leaves the cache as it should, with any cache to begin with and among any reads,
while the ids in the cache are numbers and no read comes in the way of a clean-up. -/
theorem hang_up_evicts (h : (evicting float).Reaches (Undisturbed float) s) :
    ∀ hungUp ∈ s.handled, hungUp.Evicts float :=
  (h.invariant (fun _ => EvictingAri.Sound.start) fun _ _ _ hsound => hsound.step).handled

end Progress

/-! ## Two caches -/

/-- The number that a string of digits is. -/
def digits (cs : List Char) : ℕ := cs.foldl (fun n c => 10 * n + (c.toNat - 48)) 0

/-- `float` of an id of the form seconds.sequence; what else it reads is left out. -/
def decimal (id : String) : Option PyFloat :=
  match id.toList.splitOn '.' with
  | [seconds, sequence] =>
    if seconds ≠ [] ∧ (seconds ++ sequence).all Char.isDigit then
      some (.finite (digits seconds + digits sequence / 10 ^ sequence.length))
    else none
  | _ => none

/-- A cache with those channels, which was last cleaned up at that time. -/
def cacheOf (channelIds : List String) (lastCacheCleanup : Int) : EvictingAri where
  ari :=
    { CachedAri.start lastCacheCleanup with
      variableCache := channelIds.foldl
        (fun cache channelId => cache.set channelId ((∅ : Dict String String).set "CHANNEL(linkedid)"
          channelId)) ∅ }
  phase := .idle
  handled := []

/-- The hang-up of a channel, with a clean-up that is due. -/
def cleansUp (channelId : String) (steps : ℕ) (toRemove : List String) : List EvictionLabel :=
  .onHangUp channelId :: List.replicate steps (.hangUp 1700009000 toRemove)

/-- A cache with a channel of the last hour, one that is older and one that is to be hung up. -/
def mixedCache : EvictingAri :=
  cacheOf ["1700000000.1", "1700008000.7", "1700008888.9"] 1700000000

/-- The old channel leaves the cache with the one that is hung up. -/
theorem hang_up_evicts_old :
    ∃ s, (evicting decimal).run (cleansUp "1700008000.7" 7 ["1700000000.1"]) mixedCache = some s ∧
      s.handled.length = 1 ∧ s.ari.variableCache.keys = ["1700008888.9"] ∧
      ∀ h ∈ s.handled, h.Evicts decimal := by
  let labels := cleansUp "1700008000.7" 7 ["1700000000.1"]
  have runs : ((evicting decimal).run labels mixedCache).isSome := by decide +kernel
  let s := ((evicting decimal).run labels mixedCache).getD mixedCache
  have run : (evicting decimal).run labels mixedCache = some s := by
    obtain ⟨t, ht⟩ := Option.isSome_iff_exists.mp runs
    simp only [s, ht, Option.getD_some]
  have meets : (evicting decimal).Meets (Undisturbed decimal) labels mixedCache := by decide +kernel
  exact ⟨s, run, by decide +kernel, by decide +kernel,
    hang_up_evicts (Machine.Reaches.run (.init ⟨rfl, fun _ => rfl, rfl, rfl⟩) meets run)⟩

/-- A cache with a channel that has been given an id of its own. -/
def namedCache : EvictingAri := cacheOf ["PBX-1.2"] 1700000000

/-- A channel whose id is not a number fails the hang-up of another one. -/
theorem named_channel_fails :
    ¬ ∀ s, (evicting decimal).Reachable s → ∀ h ∈ s.handled, h.Evicts decimal := by
  intro h
  let labels := cleansUp "1700008000.7" 3 []
  let s := ((evicting decimal).run labels namedCache).getD namedCache
  have run : (evicting decimal).run labels namedCache = some s := by rfl
  have evicts := h s (Machine.Reaches.reachable_run (.init ⟨rfl, fun _ => rfl, rfl, rfl⟩) run)
    _ (.head _)
  cases evicts.result

end Calld.Ari
