/-
# The cache of the channel variables

`CachingRepository` stands before the channels repository of ARI.  It answers `getChannelVar`
for a fixed set of variables from a cache of its own, which all the threads of calld share,
and forwards every other method untouched, `setChannelVar` and `hangup` among them.  A
variable that is not in the cache is fetched under a lock; the variables of a channel leave
the cache when the channel has been destroyed.

A thread stops where it waits for the lock or for Asterisk; there the other threads, and
Asterisk itself, may take any step.
-/
import Calld.Effect.Dict
import Calld.Effect.Machine

namespace Calld.Ari

open Effect

/-! ## The model -/

/-- `cached_variables`. -/
def cachedVariables : List String :=
  ["CALLERID(number)", "CHANNEL(channeltype)", "CHANNEL(language)", "CHANNEL(linkedid)",
    "CHANNEL(pjsip,call-id)", "CONNECTEDLINE(all)", "WAZO_CHANNEL_DIRECTION",
    "WAZO_DEREFERENCED_USERUUID", "WAZO_ENTRY_EXTEN", "WAZO_LINE_ID",
    "WAZO_RECORDING_START_SOUND", "WAZO_RECORDING_STOP_SOUND", "WAZO_SIP_CALL_ID",
    "WAZO_SWITCHBOARD_FALLBACK_NOANSWER_ACTION", "WAZO_SWITCHBOARD_TIMEOUT",
    "WAZO_TENANT_UUID", "WAZO_USER_OUTGOING_CALL", "XIVO_ORIGINAL_CALLER_ID", "WAZO_USERUUID"]

/-- `CHANNEL_CACHE_EXPIRATION`, in seconds. -/
def channelCacheExpiration : Int := 60 * 60

/-- What a read raises. -/
inductive ReadError where
  /-- `ARINotFound`: no such channel, or the variable is unset -/
  | notFound
  /-- Asterisk does not answer -/
  | requestException
  deriving DecidableEq, Repr

/-- A read of a variable; `since` counts the writes of the variable before it has started. -/
structure Read where
  channelId : String
  variable_ : String
  since : Nat
  deriving DecidableEq, Repr

/-- Where a thread of calld stands. -/
inductive CacheTask where
  /-- `_get_or_fetch_cached_variable` is entered -/
  | lookup (get : Read)
  /-- it waits for the lock -/
  | locking (get : Read)
  /-- Asterisk is asked, for the cache or not -/
  | fetching (get : Read) (forCache : Bool)
  /-- Asterisk has answered, and the value goes to the cache -/
  | storing (get : Read) (value : String)
  /-- `on_hang_up` -/
  | hangUp (channelId : String)
  /-- `_remove_old_calls_from_cache` -/
  | cleanup
  /-- the channels that it removes -/
  | removing (callIds : List String) (now : Int)
  deriving DecidableEq, Repr

/-- What a read has answered, and the value that calld has written, if no other write of the
variable has come in between. -/
structure CacheAnswer where
  get : Read
  expected : Option String
  result : Except ReadError String

/-- Asterisk, the cache and the threads; `lastWrite` is the value of the last write of a
variable when it is one of calld, and `writes` counts them all. -/
structure CachedAri where
  channels : String → Option (String → Option String)
  variableCache : Dict String (Dict String String)
  lastCacheCleanup : Int
  lock : Option Nat
  tasks : Nat → Option CacheTask
  lastWrite : String → String → Option String
  writes : String → String → Nat
  answers : List CacheAnswer

namespace CachedAri

/-- No channel, and nothing in the cache. -/
def start (now : Int) : CachedAri where
  channels := fun _ => none
  variableCache := ∅
  lastCacheCleanup := now
  lock := none
  tasks := fun _ => none
  lastWrite := fun _ _ => none
  writes := fun _ _ => 0
  answers := []

/-- `_get_cached_variable`. -/
def getCachedVariable (s : CachedAri) (channelId name : String) : Option String :=
  (s.variableCache.get channelId).bind (·.get name)

/-- The assignment of `_fetch_and_cache_variable_locked`. -/
def cacheVariable (s : CachedAri) (channelId name value : String) : CachedAri :=
  { s with variableCache :=
      match s.variableCache.get channelId with
      | none => s.variableCache.set channelId ((∅ : Dict String String).set name value)
      | some channelCache => s.variableCache.set channelId (channelCache.set name value) }

/-- `_remove_cached_channel`, under the lock. -/
def removeCachedChannel (s : CachedAri) (channelId : String) : CachedAri :=
  { s with variableCache := s.variableCache.pop channelId }

/-- The thread goes on, or ends. -/
def goOn (s : CachedAri) (i : Nat) (task : Option CacheTask) : CachedAri :=
  { s with tasks := Function.update s.tasks i task }

/-- The thread takes the lock, or releases it. -/
def setLock (s : CachedAri) (holder : Option Nat) : CachedAri := { s with lock := holder }

/-- The read of a thread ends. -/
def answer (s : CachedAri) (i : Nat) (get : Read) (result : Except ReadError String) :
    CachedAri :=
  let expected := if get.since = s.writes get.channelId get.variable_ then
    s.lastWrite get.channelId get.variable_ else none
  { s.goOn i none with answers := s.answers ++ [⟨get, expected, result⟩] }

/-- A variable is written, by calld or not. -/
def write (s : CachedAri) (channelId name : String) (value written : Option String) : CachedAri :=
  { s with
    channels := Function.update s.channels channelId
      ((s.channels channelId).map fun vars => Function.update vars name value)
    lastWrite := fun c x => if c = channelId ∧ x = name then written else s.lastWrite c x
    writes := fun c x => if c = channelId ∧ x = name then s.writes c x + 1 else s.writes c x }

/-- A channel appears or is destroyed: all of its variables change. -/
def replace (s : CachedAri) (channelId : String) (vars : Option (String → Option String)) :
    CachedAri :=
  { s with
    channels := Function.update s.channels channelId vars
    lastWrite := fun c x => if c = channelId then none else s.lastWrite c x
    writes := fun c x => if c = channelId then s.writes c x + 1 else s.writes c x }

end CachedAri

/-- What calld asks the repository for. -/
inductive CacheRequest where
  | getChannelVar (channelId name : String) (noCache : Bool)
  | onHangUp (channelId : String)
  deriving DecidableEq, Repr

/-- What a step of a thread gets from the outside: Asterisk does not answer, the time, the
cache changes while it is iterated over, and the numbers that the ids of channels are. -/
structure CacheEnv where
  fails : Bool := false
  now : Int := 0
  changes : Bool := false
  float : String → Option Int := fun _ => some 0

/-- `getChannelVar` or `on_hang_up` is called. -/
def CacheRequest.task (s : CachedAri) : CacheRequest → CacheTask
  | .getChannelVar channelId name noCache =>
    let get := ⟨channelId, name, s.writes channelId name⟩
    if noCache || name ∉ cachedVariables then .fetching get false else .lookup get
  | .onHangUp channelId => .hangUp channelId

/-- The next step of a thread. -/
def CacheTask.step (i : Nat) (env : CacheEnv) (s : CachedAri) : CacheTask → Option CachedAri
  | .lookup get =>
    match s.getCachedVariable get.channelId get.variable_ with
    | some value => some (s.answer i get (.ok value))
    | none => some (s.goOn i (some (.locking get)))
  | .locking get =>
    if s.lock = none then
      match s.getCachedVariable get.channelId get.variable_ with
      | some value => some (s.answer i get (.ok value))
      | none => some ((s.setLock (some i)).goOn i (some (.fetching get true)))
    else none
  | .fetching get forCache =>
    let released := if forCache then s.setLock none else s
    if env.fails then some (released.answer i get (.error .requestException))
    else
      match (s.channels get.channelId).bind (· get.variable_) with
      | none => some (released.answer i get (.error .notFound))
      | some value =>
        if forCache then some (s.goOn i (some (.storing get value)))
        else some (s.answer i get (.ok value))
  | .storing get value =>
    some (((s.cacheVariable get.channelId get.variable_ value).setLock none).answer i get
      (.ok value))
  | .hangUp channelId =>
    if s.lock = none then some ((s.removeCachedChannel channelId).goOn i (some .cleanup))
    else none
  | .cleanup =>
    let threshold := env.now - channelCacheExpiration
    if s.lastCacheCleanup > threshold then some (s.goOn i none)
    else if env.changes || s.variableCache.keys.any fun callId => (env.float callId).isNone then
      -- the iteration raises, and nothing is removed
      some (s.goOn i none)
    else
      let toRemove := s.variableCache.keys.filter fun callId =>
        (env.float callId).any fun started => started < threshold
      some (s.goOn i (some (.removing toRemove env.now)))
  | .removing [] now => some ({ s with lastCacheCleanup := now }.goOn i none)
  | .removing (callId :: callIds) now =>
    if s.lock = none then
      some ((s.removeCachedChannel callId).goOn i (some (.removing callIds now)))
    else none

/-! ## The machine -/

/-- Who moves: a thread of calld, a write of calld, or Asterisk. -/
inductive CacheLabel where
  | call (i : Nat) (request : CacheRequest)
  | advance (i : Nat) (env : CacheEnv)
  /-- `setChannelVar`, which Asterisk carries out or refuses -/
  | setChannelVar (channelId name value : String) (accepted : Bool)
  /-- the dialplan sets or unsets a variable -/
  | dialplan (channelId name : String) (value : Option String)
  | channelCreated (channelId : String) (vars : String → Option String)
  /-- `hangup`, or the channel ends by itself -/
  | channelEnds (channelId : String)

/-- The threads of calld beside Asterisk, in any interleaving. -/
def caching : Machine CachedAri CacheLabel where
  init s := ∃ now, s = CachedAri.start now
  step
    | .call i request, s =>
      if s.tasks i = none then some (s.goOn i (some (request.task s))) else none
    | .advance i env, s => (s.tasks i).bind (·.step i env s)
    | .setChannelVar channelId name value accepted, s =>
      if accepted && (s.channels channelId).isSome then
        some (s.write channelId name (some value) (some value))
      else some s
    | .dialplan channelId name value, s => some (s.write channelId name value none)
    | .channelCreated channelId vars, s => some (s.replace channelId (some vars))
    | .channelEnds channelId, s => some (s.replace channelId none)

/-- A read that follows a write of calld, with no other write in between, returns the value
that has been written, if Asterisk answers at all. -/
def CacheAnswer.Sees (a : CacheAnswer) : Prop :=
  ∀ value, a.expected = some value →
    a.result = .ok value ∨ a.result = .error .requestException

/-- The value that a thread is about to store in the cache. -/
def CacheTask.stores (channelId name : String) : CacheTask → Option String
  | .storing get value =>
    if get.channelId = channelId ∧ get.variable_ = name then some value else none
  | _ => none

/-- A variable is written when the cache holds no other value for it, and no thread has
fetched another one. -/
def WritesUncached (s : CachedAri) : CacheLabel → Prop
  | .setChannelVar channelId name value accepted =>
    accepted = true → (s.channels channelId).isSome →
      (∀ cached ∈ s.getCachedVariable channelId name, cached = value) ∧
      ∀ i ∈ s.lock, ∀ task ∈ s.tasks i, ∀ fetched ∈ task.stores channelId name, fetched = value
  | _ => True

/-! ## The cache -/

section Cache

variable {s : CachedAri} {c c' x x' v w : String}

theorem getCachedVariable_cacheVariable (s : CachedAri) (c x v c' x' : String) :
    (s.cacheVariable c x v).getCachedVariable c' x' =
      if c' = c ∧ x' = x then some v else s.getCachedVariable c' x' := by
  unfold CachedAri.getCachedVariable CachedAri.cacheVariable
  cases hcache : s.variableCache.get c with
  | none =>
    by_cases hc : c' = c
    · subst hc
      by_cases hx : x' = x
      · simp [hx]
      · simp [hcache, hx, Dict.get_set_of_ne]
    · simp [hc, Dict.get_set_of_ne]
  | some channelCache =>
    by_cases hc : c' = c
    · subst hc
      by_cases hx : x' = x
      · simp [hx]
      · simp [hcache, hx, Dict.get_set_of_ne]
    · simp [hc, Dict.get_set_of_ne]

/-- What is left when a channel is removed was there before. -/
theorem getCachedVariable_removeCachedChannel
    (h : (s.removeCachedChannel c).getCachedVariable c' x = some v) :
    s.getCachedVariable c' x = some v := by
  unfold CachedAri.getCachedVariable at h ⊢
  obtain ⟨channelCache, hcache, hv⟩ := Option.bind_eq_some_iff.mp h
  rw [s.variableCache.shrinks_pop c c' channelCache hcache]
  exact hv

end Cache

/-! ## The invariant -/

/-- It has taken the lock. -/
def CacheTask.holdsLock : CacheTask → Bool
  | .fetching _ true | .storing .. => true
  | _ => false

/-- A variable that calld has written last has that value in Asterisk, and no other in the
cache or on its way there; a thread that fetches for the cache has the lock. -/
structure CachedAri.Coherent (s : CachedAri) : Prop where
  known : ∀ c x v, s.lastWrite c x = some v →
    ∃ vars, s.channels c = some vars ∧ vars x = some v
  cached : ∀ c x v, s.lastWrite c x = some v → ∀ w, s.getCachedVariable c x = some w → w = v
  stored : ∀ i get w, s.tasks i = some (.storing get w) →
    ∀ v, s.lastWrite get.channelId get.variable_ = some v → w = v
  holder : ∀ i task, s.tasks i = some task → task.holdsLock → s.lock = some i
  sees : ∀ a ∈ s.answers, a.Sees

namespace CachedAri.Coherent

variable {s : CachedAri} {i : Nat} {get : Read} {c x : String}

theorem start (now : Int) : (CachedAri.start now).Coherent where
  known _ _ _ h := by cases h
  cached _ _ _ h := by cases h
  stored _ _ _ h := by cases h
  holder _ _ h := by cases h
  sees _ h := by cases h

/-- A thread goes on, with a value that is not stale and with the lock if it needs it. -/
theorem goOn (h : s.Coherent) {task : Option CacheTask}
    (hstored : ∀ get w, task = some (.storing get w) →
      ∀ v, s.lastWrite get.channelId get.variable_ = some v → w = v)
    (hholder : ∀ t, task = some t → t.holdsLock → s.lock = some i) :
    (s.goOn i task).Coherent where
  known := h.known
  cached := h.cached
  stored j get w hj := by
    by_cases hji : j = i
    · subst hji
      exact hstored get w (by simpa [CachedAri.goOn] using hj)
    · exact h.stored j get w (by simpa [CachedAri.goOn, hji] using hj)
  holder j task hj := by
    by_cases hji : j = i
    · subst hji
      exact hholder task (by simpa [CachedAri.goOn] using hj)
    · exact h.holder j task (by simpa [CachedAri.goOn, hji] using hj)
  sees := h.sees

/-- A thread goes on without the lock and without a value. -/
theorem goOn_idle (h : s.Coherent) {task : Option CacheTask}
    (htask : ∀ t, task = some t → t.holdsLock = false) : (s.goOn i task).Coherent := by
  refine h.goOn ?_ ?_
  · rintro get w rfl
    cases htask _ rfl
  · rintro t rfl ht
    rw [htask t rfl] at ht
    cases ht

theorem takeLock (h : s.Coherent) (hfree : s.lock = none) :
    (s.setLock (some i)).Coherent where
  known := h.known
  cached := h.cached
  stored := h.stored
  holder j task hj ht := by
    rw [h.holder j task hj ht] at hfree
    cases hfree
  sees := h.sees

/-- The thread that has the lock ends, and releases it. -/
theorem release (h : s.Coherent) (hlock : s.lock = some i) :
    ((s.setLock none).goOn i none).Coherent where
  known := h.known
  cached := h.cached
  stored j get w hj := by
    by_cases hji : j = i
    · subst hji
      simp [CachedAri.goOn] at hj
    · exact h.stored j get w (by simpa [CachedAri.goOn, CachedAri.setLock, hji] using hj)
  holder j task hj ht := by
    by_cases hji : j = i
    · subst hji
      simp [CachedAri.goOn] at hj
    · have hold := h.holder j task (by simpa [CachedAri.goOn, CachedAri.setLock, hji] using hj) ht
      rw [hlock] at hold
      exact absurd (Option.some.inj hold).symm hji
  sees := h.sees

/-- A read ends with the value that calld has written last, if it has. -/
theorem answer {result : Except ReadError String} (h : (s.goOn i none).Coherent)
    (hresult : ∀ v, s.lastWrite get.channelId get.variable_ = some v →
      result = .ok v ∨ result = .error .requestException) :
    (s.answer i get result).Coherent where
  known := h.known
  cached := h.cached
  stored := h.stored
  holder := h.holder
  sees a ha := by
    rcases List.mem_append.mp ha with ha | ha
    · exact h.sees a ha
    · rw [List.mem_singleton.mp ha]
      intro v hv
      dsimp only at hv
      split at hv
      · exact hresult v hv
      · cases hv

/-- A value that is not stale goes to the cache. -/
theorem cacheVariable (h : s.Coherent) {w : String}
    (hw : ∀ v, s.lastWrite c x = some v → w = v) : (s.cacheVariable c x w).Coherent where
  known := h.known
  cached c' x' v hv w' hw' := by
    rw [getCachedVariable_cacheVariable] at hw'
    split at hw'
    · rename_i heq
      obtain ⟨rfl, rfl⟩ := heq
      cases hw'
      exact hw v hv
    · exact h.cached c' x' v hv w' hw'
  stored := h.stored
  holder := h.holder
  sees := h.sees

theorem removeCachedChannel (h : s.Coherent) (c : String) :
    (s.removeCachedChannel c).Coherent where
  known := h.known
  cached c' x v hv w hw := h.cached c' x v hv w (getCachedVariable_removeCachedChannel hw)
  stored := h.stored
  holder := h.holder
  sees := h.sees

/-- The cache and the threads know nothing else of a variable that calld writes. -/
theorem write (h : s.Coherent) {value written : Option String}
    (hwritten : ∀ v, written = some v → value = some v ∧ (s.channels c).isSome ∧
      (∀ w, s.getCachedVariable c x = some w → w = v) ∧
      ∀ i get w, s.tasks i = some (.storing get w) → get.channelId = c → get.variable_ = x →
        w = v) :
    (s.write c x value written).Coherent where
  known c' x' v hv := by
    dsimp only [CachedAri.write] at hv ⊢
    split at hv
    · rename_i heq
      obtain ⟨rfl, rfl⟩ := heq
      obtain ⟨rfl, hsome, -⟩ := hwritten v hv
      obtain ⟨vars, hvars⟩ := Option.isSome_iff_exists.mp hsome
      exact ⟨Function.update vars x' (some v), by simp [hvars], by simp⟩
    · rename_i hne
      obtain ⟨vars, hvars, hx⟩ := h.known c' x' v hv
      by_cases hc : c' = c
      · subst hc
        have hx' : x' ≠ x := fun e => hne ⟨rfl, e⟩
        exact ⟨Function.update vars x value, by simp [hvars], by simp [hx', hx]⟩
      · exact ⟨vars, by simp [hc, hvars], hx⟩
  cached c' x' v hv w hw := by
    dsimp only [CachedAri.write] at hv
    split at hv
    · rename_i heq
      obtain ⟨rfl, rfl⟩ := heq
      exact (hwritten v hv).2.2.1 w hw
    · exact h.cached c' x' v hv w hw
  stored i get w hi v hv := by
    dsimp only [CachedAri.write] at hv
    split at hv
    · rename_i heq
      exact (hwritten v hv).2.2.2 i get w hi heq.1 heq.2
    · exact h.stored i get w hi v hv
  holder := h.holder
  sees := h.sees

/-- Nothing is known of the variables of a channel that appears or ends. -/
theorem replace (h : s.Coherent) (c : String) (vars : Option (String → Option String)) :
    (s.replace c vars).Coherent where
  known c' x v hv := by
    dsimp only [CachedAri.replace] at hv ⊢
    split at hv
    · cases hv
    · rename_i hc
      obtain ⟨vars', hvars, hx⟩ := h.known c' x v hv
      exact ⟨vars', by simp [hc, hvars], hx⟩
  cached c' x v hv := by
    dsimp only [CachedAri.replace] at hv
    split at hv
    · cases hv
    · exact h.cached c' x v hv
  stored i get w hi v hv := by
    dsimp only [CachedAri.replace] at hv
    split at hv
    · cases hv
    · exact h.stored i get w hi v hv
  holder := h.holder
  sees := h.sees

/-- A thread ends, with the lock or without. -/
theorem ends (h : s.Coherent) : (s.goOn i none).Coherent := h.goOn_idle fun _ ht => by cases ht

/-- Asterisk has the value that calld has written last. -/
theorem fetched (h : s.Coherent) {v : String}
    (hv : s.lastWrite get.channelId get.variable_ = some v) :
    (s.channels get.channelId).bind (· get.variable_) = some v := by
  obtain ⟨vars, hvars, hx⟩ := h.known _ _ v hv
  rw [hvars]
  exact hx

end CachedAri.Coherent

/-! ## One step -/

/-- A step of a thread keeps the cache coherent. -/
theorem CacheTask.step_coherent {s s' : CachedAri} {i : Nat} {env : CacheEnv} {task : CacheTask}
    (h : s.Coherent) (htask : s.tasks i = some task) (hstep : task.step i env s = some s') :
    s'.Coherent := by
  cases task with
  | lookup get =>
    dsimp only [CacheTask.step] at hstep
    split at hstep <;> cases hstep
    · rename_i value hvalue
      exact h.ends.answer fun v hv => .inl (congrArg _ (h.cached _ _ v hv value hvalue))
    · exact h.goOn_idle fun t ht => by cases ht; rfl
  | locking get =>
    dsimp only [CacheTask.step] at hstep
    by_cases hfree : s.lock = none
    · rw [if_pos hfree] at hstep
      split at hstep <;> cases hstep
      · rename_i value hvalue
        exact h.ends.answer fun v hv => .inl (congrArg _ (h.cached _ _ v hv value hvalue))
      · exact (h.takeLock hfree).goOn (fun _ _ ht => by cases ht) fun _ _ _ => rfl
    · rw [if_neg hfree] at hstep
      cases hstep
  | fetching get forCache =>
    -- the lock is released by the thread that has it
    have hreleased : ((if forCache then s.setLock none else s).goOn i none).Coherent := by
      cases forCache with
      | false => exact h.ends
      | true => exact h.release (h.holder i _ htask rfl)
    have hlast : (if forCache then s.setLock none else s).lastWrite = s.lastWrite := by
      split <;> rfl
    dsimp only [CacheTask.step] at hstep
    split at hstep
    · cases hstep
      exact hreleased.answer fun _ _ => .inr rfl
    · split at hstep
      · rename_i hnone
        cases hstep
        refine hreleased.answer fun v hv => ?_
        rw [hlast] at hv
        rw [h.fetched hv] at hnone
        cases hnone
      · rename_i value hvalue
        have hfresh : ∀ v, s.lastWrite get.channelId get.variable_ = some v → value = v := by
          intro v hv
          rw [h.fetched hv] at hvalue
          exact (Option.some.inj hvalue).symm
        cases forCache with
        | false =>
          cases hstep
          exact h.ends.answer fun v hv => .inl (congrArg _ (hfresh v hv))
        | true =>
          cases hstep
          refine h.goOn ?_ fun _ _ _ => h.holder i _ htask rfl
          rintro _ _ ⟨⟩
          exact hfresh
  | storing get value =>
    cases hstep
    have hfresh := h.stored i get value htask
    exact ((h.cacheVariable hfresh).release (h.holder i _ htask rfl)).answer
      fun v hv => .inl (congrArg _ (hfresh v hv))
  | hangUp c =>
    dsimp only [CacheTask.step] at hstep
    split at hstep <;> cases hstep
    exact (h.removeCachedChannel c).goOn_idle fun t ht => by cases ht; rfl
  | cleanup =>
    dsimp only [CacheTask.step] at hstep
    split at hstep
    · cases hstep
      exact h.ends
    · split at hstep <;> cases hstep
      · exact h.ends
      · exact h.goOn_idle fun t ht => by cases ht; rfl
  | removing callIds now =>
    cases callIds with
    | nil =>
      cases hstep
      exact CachedAri.Coherent.ends ⟨h.known, h.cached, h.stored, h.holder, h.sees⟩
    | cons callId callIds =>
      dsimp only [CacheTask.step] at hstep
      split at hstep <;> cases hstep
      exact (h.removeCachedChannel callId).goOn_idle fun t ht => by cases ht; rfl

/-- A step keeps the cache coherent, unless calld writes a variable of which the cache or a
thread has another value. -/
theorem step_coherent {s s' : CachedAri} {a : CacheLabel} (h : s.Coherent)
    (hC : WritesUncached s a) (hstep : caching.step a s = some s') : s'.Coherent := by
  cases a with
  | call i request =>
    dsimp only [caching] at hstep
    split at hstep <;> cases hstep
    refine h.goOn_idle fun t ht => ?_
    cases ht
    cases request with
    | onHangUp => rfl
    | getChannelVar c x noCache =>
      unfold CacheRequest.task
      dsimp only
      split <;> rfl
  | advance i env =>
    obtain ⟨task, htask, hstep⟩ := Option.bind_eq_some_iff.mp hstep
    exact task.step_coherent h htask hstep
  | setChannelVar c x v accepted =>
    dsimp only [caching] at hstep
    split at hstep <;> cases hstep
    · rename_i haccepted
      obtain ⟨haccepted, hsome⟩ := Bool.and_eq_true_iff.mp haccepted
      obtain ⟨hcached, hstoring⟩ := hC haccepted hsome
      refine h.write fun v' hv' => ?_
      cases hv'
      refine ⟨rfl, hsome, hcached, fun i get w hi hc hx => ?_⟩
      exact hstoring i (h.holder i _ hi rfl) _ hi w (by simp [CacheTask.stores, hc, hx])
    · exact h
  | dialplan c x value =>
    cases hstep
    exact h.write fun _ hv => by cases hv
  | channelCreated c vars =>
    cases hstep
    exact h.replace c _
  | channelEnds c =>
    cases hstep
    exact h.replace c _

theorem coherent_of_reaches {s : CachedAri} (h : caching.Reaches WritesUncached s) :
    s.Coherent := by
  refine Machine.Reaches.invariant (I := CachedAri.Coherent) ?_ ?_ h
  · rintro s ⟨now, rfl⟩
    exact .start now
  · intro s a s' hs hC hstep
    exact step_coherent hs hC hstep

/-! ## What is cached -/

/-- The read whose value goes to the cache. -/
def CacheTask.forCache : CacheTask → Option Read
  | .lookup get | .locking get | .fetching get true | .storing get _ => some get
  | _ => none

/-- Only the variables of the list are cached. -/
structure CachedAri.Listed (s : CachedAri) : Prop where
  cached : ∀ c x w, s.getCachedVariable c x = some w → x ∈ cachedVariables
  task : ∀ i task get, s.tasks i = some task → task.forCache = some get →
    get.variable_ ∈ cachedVariables

namespace CachedAri.Listed

variable {s : CachedAri} {i : Nat}

theorem goOn (h : s.Listed) {task : Option CacheTask}
    (htask : ∀ t get, task = some t → t.forCache = some get →
      get.variable_ ∈ cachedVariables) : (s.goOn i task).Listed where
  cached := h.cached
  task j t get hj := by
    by_cases hji : j = i
    · subst hji
      exact htask t get (by simpa [CachedAri.goOn] using hj)
    · exact h.task j t get (by simpa [CachedAri.goOn, hji] using hj)

theorem ends (h : s.Listed) : (s.goOn i none).Listed := h.goOn fun _ _ ht => by cases ht

theorem cacheVariable (h : s.Listed) {c x w : String} (hx : x ∈ cachedVariables) :
    (s.cacheVariable c x w).Listed where
  cached c' x' w' hw' := by
    rw [getCachedVariable_cacheVariable] at hw'
    split at hw'
    · rename_i heq
      exact heq.2 ▸ hx
    · exact h.cached c' x' w' hw'
  task := h.task

theorem removeCachedChannel (h : s.Listed) (c : String) : (s.removeCachedChannel c).Listed where
  cached c' x w hw := h.cached c' x w (getCachedVariable_removeCachedChannel hw)
  task := h.task

/-- What neither the cache nor the threads depend on. -/
theorem of_eq {s' : CachedAri} (h : s.Listed) (hcache : s'.variableCache = s.variableCache)
    (htasks : s'.tasks = s.tasks) : s'.Listed where
  cached c x w hw := by
    unfold CachedAri.getCachedVariable at hw
    rw [hcache] at hw
    exact h.cached c x w hw
  task := by
    rw [htasks]
    exact h.task

end CachedAri.Listed

theorem CacheTask.step_listed {s s' : CachedAri} {i : Nat} {env : CacheEnv} {task : CacheTask}
    (h : s.Listed) (htask : s.tasks i = some task) (hstep : task.step i env s = some s') :
    s'.Listed := by
  cases task with
  | lookup get =>
    dsimp only [CacheTask.step] at hstep
    split at hstep <;> cases hstep
    · exact h.ends.of_eq rfl rfl
    · exact h.goOn fun t g ht hg => by cases ht; cases hg; exact h.task i _ get htask rfl
  | locking get =>
    dsimp only [CacheTask.step] at hstep
    split at hstep
    · split at hstep <;> cases hstep
      · exact h.ends.of_eq rfl rfl
      · have hgo : (s.goOn i (some (.fetching get true))).Listed :=
          h.goOn fun t g ht hg => by cases ht; cases hg; exact h.task i _ get htask rfl
        exact hgo.of_eq rfl rfl
    · cases hstep
  | fetching get forCache =>
    have hreleased : ∀ r, ((if forCache then s.setLock none else s).answer i get r).Listed := by
      intro r
      refine (h.ends (i := i)).of_eq ?_ ?_ <;> cases forCache <;> rfl
    dsimp only [CacheTask.step] at hstep
    split at hstep
    · cases hstep
      exact hreleased _
    · split at hstep
      · cases hstep
        exact hreleased _
      · cases forCache with
        | false =>
          cases hstep
          exact h.ends.of_eq rfl rfl
        | true =>
          cases hstep
          exact h.goOn fun t g ht hg => by cases ht; cases hg; exact h.task i _ get htask rfl
  | storing get value =>
    cases hstep
    exact (h.cacheVariable (h.task i _ get htask rfl)).ends.of_eq rfl rfl
  | hangUp c =>
    dsimp only [CacheTask.step] at hstep
    split at hstep <;> cases hstep
    exact (h.removeCachedChannel c).goOn fun t g ht hg => by cases ht; cases hg
  | cleanup =>
    dsimp only [CacheTask.step] at hstep
    split at hstep
    · cases hstep
      exact h.ends
    · split at hstep <;> cases hstep
      · exact h.ends
      · exact h.goOn fun t g ht hg => by cases ht; cases hg
  | removing callIds now =>
    cases callIds with
    | nil =>
      cases hstep
      exact h.ends.of_eq rfl rfl
    | cons callId callIds =>
      dsimp only [CacheTask.step] at hstep
      split at hstep <;> cases hstep
      exact (h.removeCachedChannel callId).goOn fun t g ht hg => by cases ht; cases hg

theorem listed_of_reaches {C : CachedAri → CacheLabel → Prop} {s : CachedAri}
    (h : caching.Reaches C s) : s.Listed := by
  refine Machine.Reaches.invariant (I := CachedAri.Listed) ?_ ?_ h
  · rintro s ⟨now, rfl⟩
    exact ⟨fun _ _ _ hw => (by cases hw), fun _ _ _ ht => by cases ht⟩
  · intro s a s' hs _ hstep
    cases a with
    | call i request =>
      dsimp only [caching] at hstep
      split at hstep <;> cases hstep
      refine hs.goOn fun t get ht hget => ?_
      cases ht
      cases request with
      | onHangUp => cases hget
      | getChannelVar c x noCache =>
        unfold CacheRequest.task at hget
        dsimp only at hget
        split at hget <;> cases hget
        rename_i hx
        simp only [Bool.or_eq_true, decide_eq_true_eq, not_or, not_not] at hx
        exact hx.2
    | advance i env =>
      obtain ⟨task, htask, hstep⟩ := Option.bind_eq_some_iff.mp hstep
      exact task.step_listed hs htask hstep
    | setChannelVar c x v accepted =>
      dsimp only [caching] at hstep
      split at hstep <;> cases hstep
      · exact hs.of_eq rfl rfl
      · exact hs
    | dialplan | channelCreated | channelEnds =>
      cases hstep
      exact hs.of_eq rfl rfl

/-! ## Reads after writes -/

section Reads

variable {s : CachedAri} {i j : Nat} {c x v w : String}

/-- A read that finds its variable in the cache. -/
def readAgain (i : Nat) (c x : String) : List CacheLabel :=
  [.call i (.getChannelVar c x false), .advance i {}]

/-- A variable that is in the cache is answered from there. -/
theorem run_cached_read (hfree : s.tasks i = none) (hx : x ∈ cachedVariables)
    (hcached : s.getCachedVariable c x = some w) :
    ∃ s', caching.run (readAgain i c x) s = some s' ∧
      ⟨⟨c, x, s.writes c x⟩, s.lastWrite c x, .ok w⟩ ∈ s'.answers := by
  have hcall : caching.step (.call i (.getChannelVar c x false)) s =
      some (s.goOn i (some (.lookup ⟨c, x, s.writes c x⟩))) := by
    simp [caching, hfree, CacheRequest.task, hx]
  have hread : caching.step (.advance i {})
      (s.goOn i (some (.lookup ⟨c, x, s.writes c x⟩))) =
      some ((s.goOn i (some (.lookup ⟨c, x, s.writes c x⟩))).answer i ⟨c, x, s.writes c x⟩
        (.ok w)) := by
    have hgo : (s.goOn i (some (.lookup ⟨c, x, s.writes c x⟩))).getCachedVariable c x = some w :=
      hcached
    simp only [caching, CachedAri.goOn, Function.update_self, Option.bind_some,
      CacheTask.step] at hgo ⊢
    rw [hgo]
  refine ⟨(s.goOn i (some (.lookup ⟨c, x, s.writes c x⟩))).answer i ⟨c, x, s.writes c x⟩ (.ok w),
    ?_, List.mem_append_right _ (List.mem_singleton.mpr ?_)⟩
  · rw [readAgain, Machine.run, hcall, Option.bind_some, Machine.run, hread]
    rfl
  · simp [CachedAri.goOn]

/-- The read answers what calld has not written. -/
theorem not_sees {get : Read} (hne : w ≠ v) :
    ¬ CacheAnswer.Sees ⟨get, some v, .ok w⟩ := by
  intro h
  rcases h v rfl with heq | heq
  · exact hne (Except.ok.inj heq)
  · cases heq

/-- After a write of a variable of which the cache or a thread has another value, a read
answers that other value. -/
theorem stale_read (hlisted : s.Listed) (hfree : s.tasks i = none) {accepted : Bool}
    (hC : ¬ WritesUncached s (.setChannelVar c x v accepted)) :
    ∃ as s', caching.run (.setChannelVar c x v accepted :: as) s = some s' ∧
      ∃ a ∈ s'.answers, ¬ a.Sees := by
  simp only [WritesUncached, Classical.not_imp] at hC
  obtain ⟨rfl, hsome, hC⟩ := hC
  have hset : caching.step (.setChannelVar c x v true) s =
      some (s.write c x (some v) (some v)) := by
    simp [caching, hsome]
  have hlast : (s.write c x (some v) (some v)).lastWrite c x = some v := by
    simp [CachedAri.write]
  by_cases hcached : ∀ cached ∈ s.getCachedVariable c x, cached = v
  · -- the value that a thread has fetched goes to the cache first
    have hstoring : ¬ _ := fun hstoring => hC ⟨hcached, hstoring⟩
    push Not at hstoring
    obtain ⟨j, hlock, task, htask, w, hw, hne⟩ := hstoring
    cases task with
    | storing get value =>
      have hget : get.channelId = c ∧ get.variable_ = x ∧ value = w := by
        simp only [CacheTask.stores, Option.mem_def, Option.ite_none_right_eq_some,
          Option.some.injEq] at hw
        exact ⟨hw.1.1, hw.1.2, hw.2⟩
      obtain ⟨rfl, rfl, rfl⟩ := hget
      have hij : i ≠ j := by
        rintro rfl
        rw [hfree] at htask
        cases htask
      set s₁ := s.write get.channelId get.variable_ (some v) (some v) with hs₁
      set s₂ := ((s₁.cacheVariable get.channelId get.variable_ value).setLock none).answer j get
        (.ok value) with hs₂
      have hstore : caching.step (.advance j {}) s₁ = some s₂ := by
        have : s₁.tasks j = some (.storing get value) := htask
        simp [caching, this, CacheTask.step, hs₂]
      have hfree₂ : s₂.tasks i = none := by
        show Function.update s.tasks j none i = none
        rw [Function.update_of_ne hij]
        exact hfree
      have hcached₂ : s₂.getCachedVariable get.channelId get.variable_ = some value := by
        have : s₂.getCachedVariable get.channelId get.variable_ =
            (s₁.cacheVariable get.channelId get.variable_ value).getCachedVariable get.channelId
              get.variable_ := rfl
        rw [this, getCachedVariable_cacheVariable, if_pos ⟨rfl, rfl⟩]
      obtain ⟨s', hrun, hmem⟩ := run_cached_read hfree₂ (hlisted.task j _ get htask rfl) hcached₂
      refine ⟨.advance j {} :: readAgain i get.channelId get.variable_, s', ?_, _, hmem, ?_⟩
      · rw [Machine.run, hset, Option.bind_some, Machine.run, hstore, Option.bind_some]
        exact hrun
      · have hlast₂ : s₂.lastWrite get.channelId get.variable_ = some v := hlast
        rw [hlast₂]
        exact not_sees hne
    | lookup | locking | fetching | hangUp | cleanup | removing => cases hw
  · push Not at hcached
    obtain ⟨w, hw, hne⟩ := hcached
    obtain ⟨s', hrun, hmem⟩ := run_cached_read
      (s := s.write c x (some v) (some v)) (i := i) hfree (hlisted.cached c x w hw) hw
    refine ⟨readAgain i c x, s', ?_, _, hmem, ?_⟩
    · rw [Machine.run, hset, Option.bind_some]
      exact hrun
    · rw [hlast]
      exact not_sees hne

end Reads

/-- **The cache shows calld's own writes**: in every interleaving in which calld writes no
variable of which the cache, or a thread on its way to the cache, holds another value, a read
that follows a write, with no other in between, returns what has been written.  After a write
that is not so, the next read returns the other value. -/
theorem reads_see_writes {s : CachedAri} (h : caching.Reaches WritesUncached s) :
    (∀ a ∈ s.answers, a.Sees) ∧
      ∀ i channelId name value accepted, s.tasks i = none →
        ¬ WritesUncached s (.setChannelVar channelId name value accepted) →
        ∃ as s', caching.run (.setChannelVar channelId name value accepted :: as) s = some s' ∧
          ∃ a ∈ s'.answers, ¬ a.Sees :=
  ⟨(coherent_of_reaches h).sees,
    fun _ _ _ _ _ hfree hC => stale_read (listed_of_reaches h) hfree hC⟩

instance (s : CachedAri) (a : CacheLabel) : Decidable (WritesUncached s a) := by
  cases a <;> unfold WritesUncached <;> infer_instance

/-- Where a list of steps leads. -/
def cachingAfter (as : List CacheLabel) : CachedAri :=
  (caching.run as (.start 0)).getD (.start 0)

/-- The user of a channel. -/
def userIs (user : String) : String → Option String :=
  fun name => if name = "WAZO_USERUUID" then some user else none

/-- `Channel.user` of a channel whose user is not in the cache. -/
def firstRead (i : Nat) : List CacheLabel :=
  .call i (.getChannelVar "1700000000.1" "WAZO_USERUUID" false) ::
    [.advance i {}, .advance i {}, .advance i {}, .advance i {}]

/-- `_pickup_occurred`: the channel gets the user who has picked the call up, and is asked
for it, past the cache, until it has. -/
def pickup (i : Nat) (user : String) : List CacheLabel :=
  [.setChannelVar "1700000000.1" "WAZO_USERUUID" user true,
    .call i (.getChannelVar "1700000000.1" "WAZO_USERUUID" true), .advance i {}]

/-- A call is picked up before anyone has asked for its user. -/
def pickedUp : List CacheLabel :=
  .channelCreated "1700000000.1" (userIs "called") :: pickup 0 "picker" ++ firstRead 1

theorem pickedUp_seen : caching.Reaches WritesUncached (cachingAfter pickedUp) ∧
    ∀ a ∈ (cachingAfter pickedUp).answers, a.Sees := by
  have run : caching.run pickedUp (.start 0) = some (cachingAfter pickedUp) := rfl
  have meets : caching.Meets WritesUncached pickedUp (.start 0) := by decide
  have reaches : caching.Reaches WritesUncached (cachingAfter pickedUp) :=
    Machine.Reaches.run (.init ⟨0, rfl⟩) meets run
  exact ⟨reaches, (reads_see_writes reaches).1⟩

/-- The user is asked for before and after the call is picked up. -/
def pickedUpLate : List CacheLabel :=
  .channelCreated "1700000000.1" (userIs "called") :: firstRead 0 ++ pickup 1 "picker" ++
    readAgain 2 "1700000000.1" "WAZO_USERUUID"

/-- **A read after a pickup returns the former user**: the write has not touched the cache. -/
theorem pickedUpLate_stale :
    ∃ a ∈ (cachingAfter pickedUpLate).answers,
      a.get.channelId = "1700000000.1" ∧ a.get.variable_ = "WAZO_USERUUID" ∧
      a.expected = some "picker" ∧ a.result.toOption = some "called" ∧ ¬ a.Sees := by
  have run : (cachingAfter pickedUpLate).answers =
      [⟨⟨"1700000000.1", "WAZO_USERUUID", 1⟩, none, .ok "called"⟩,
        ⟨⟨"1700000000.1", "WAZO_USERUUID", 2⟩, some "picker", .ok "picker"⟩,
        ⟨⟨"1700000000.1", "WAZO_USERUUID", 2⟩, some "picker", .ok "called"⟩] := rfl
  rw [run]
  exact ⟨_, List.mem_cons_of_mem _ (List.mem_cons_of_mem _ List.mem_cons_self), rfl, rfl, rfl,
    rfl, not_sees (by decide)⟩

end Calld.Ari
