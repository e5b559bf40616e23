/-
# The confd lookup cache

`ConfdClientGetUUIDCacheDecorator` keeps the answers of a `get` of confd, by uuid and by
the other arguments, until an event tells that the resource has changed.  A lookup tests
the cache, fetches and stores; a change of confd, and the event that tells of it, may come
between any two of these steps of any number of lookups.

For the statements every response is marked with what it was asked for, and with the number
of changes of the resource that confd had seen when it served it.
-/
import Calld.Effect.Dict
import Calld.Effect.Interactive

namespace Calld.Switchboards

open Effect Effect.Interactive

/-! ## Keys -/

/-- Keyword arguments: every name comes once. -/
structure Kwargs (V : Type) where
  items : List (String × V)
  nodup : (items.map Prod.fst).Nodup

/-- The arguments of a lookup that come after the uuid. -/
structure Arguments (V : Type) where
  args : List V
  kwargs : Kwargs V

/-- A part of a key; the mark is an object of its own, and equal to no argument. -/
inductive KeyPart (V : Type) where
  | value (v : V)
  | mark
  | item (name : String) (v : V)
  deriving DecidableEq

abbrev Key (V : Type) : Type := List (KeyPart V)

section Keys

variable {V : Type}

/-- The same positional arguments, and the same keyword arguments in any order. -/
def Arguments.Same (a b : Arguments V) : Prop :=
  a.args = b.args ∧ a.kwargs.items.Perm b.kwargs.items

/-- `sorted(kwargs.items())`, which compares names only, as no name comes twice. -/
def Kwargs.sorted (kwargs : Kwargs V) : List (String × V) :=
  kwargs.items.insertionSort (Order.Preimage Prod.fst (· ≤ ·))

/-- `_make_key`. -/
def makeKey (arguments : Arguments V) : Key V :=
  arguments.args.map .value ++
    .mark :: arguments.kwargs.sorted.map fun item => .item item.1 item.2

/-- The mark separates the two kinds of arguments. -/
theorem append_mark_inj {xs ys : List V} {l m : Key V}
    (h : xs.map KeyPart.value ++ KeyPart.mark :: l = ys.map KeyPart.value ++ KeyPart.mark :: m) :
    xs = ys ∧ l = m := by
  induction xs generalizing ys with
  | nil =>
    cases ys with
    | nil => exact ⟨rfl, (List.cons.inj h).2⟩
    | cons y ys => exact absurd (List.cons.inj h).1 (by simp)
  | cons x xs ih =>
    cases ys with
    | nil => exact absurd (List.cons.inj h).1 (by simp)
    | cons y ys =>
      obtain ⟨hxy, htail⟩ := List.cons.inj h
      obtain ⟨rfl, rfl⟩ := ih htail
      exact ⟨by rw [KeyPart.value.inj hxy], rfl⟩

/-- Sorting forgets the order of the keyword arguments, and nothing else. -/
theorem Kwargs.sorted_eq_iff {k k' : Kwargs V} :
    k.sorted = k'.sorted ↔ k.items.Perm k'.items := by
  have hperm (k : Kwargs V) : k.sorted.Perm k.items := List.perm_insertionSort _ _
  constructor
  · intro h
    exact (hperm k).symm.trans (h ▸ hperm k')
  · intro h
    have hsorted (k : Kwargs V) : k.sorted.Pairwise (Order.Preimage Prod.fst (· ≤ ·)) :=
      List.pairwise_insertionSort _ _
    refine ((hperm k).trans (h.trans (hperm k').symm)).eq_of_pairwise ?_ (hsorted k) (hsorted k')
    intro a b ha hb hab hba
    -- two items with one name are one item
    refine List.inj_on_of_nodup_map k.nodup ((hperm k).mem_iff.mp ha)
      (h.mem_iff.mpr ((hperm k').mem_iff.mp hb)) ?_
    exact le_antisymm hab hba

/-- Two lookups have one key when they have the same arguments. -/
theorem makeKey_eq_iff {a b : Arguments V} : makeKey a = makeKey b ↔ a.Same b := by
  constructor
  · intro h
    obtain ⟨hargs, hitems⟩ := append_mark_inj h
    have hinj : Function.Injective fun item : String × V => KeyPart.item item.1 item.2 := by
      rintro ⟨n, v⟩ ⟨n', v'⟩ hitem
      obtain ⟨rfl, rfl⟩ := KeyPart.item.inj hitem
      rfl
    exact ⟨hargs, Kwargs.sorted_eq_iff.mp (List.map_injective_iff.mpr hinj hitems)⟩
  · rintro ⟨hargs, hkwargs⟩
    unfold makeKey
    rw [hargs, Kwargs.sorted_eq_iff.mpr hkwargs]

end Keys

/-! ## The decorators -/

/-- What the handlers read of the body of an event; a missing field raises `KeyError`. -/
structure EventBody (U : Type) where
  uuid : Option U
  id : Option U
  userUuid : Option U

/-- `ConfdClientGetUUIDCacheDecorator` and the two classes derived from it, with the events
that they are subscribed to. -/
inductive Decorator where
  | getUUID (events : List String)
  | getID (events : List String)
  | userLineGet

/-- The entry that the handlers of an event invalidate. -/
def Decorator.entry {U : Type} : Decorator → String → EventBody U → Option U
  | .getUUID events, event, body => if event ∈ events then body.uuid else none
  | .getID events, event, body => if event ∈ events then body.id else none
  | .userLineGet, event, body =>
    if event = "user_edited" ∨ event = "user_deleted" then body.uuid
    else if event = "user_line_associated" ∨ event = "user_line_dissociated" then body.userUuid
    else none

/-- The caches that the plugin makes of `switchboards.get`, `lines.get` and `users.get`. -/
def switchboardGetCache : Decorator := .getUUID ["switchboard_edited", "switchboard_deleted"]

def lineGetCache : Decorator := .getID ["line_edited", "line_deleted"]

def userLineGetCache : Decorator := .userLineGet

/-- The steps of a lookup: the cache test, the request of confd, and the store, which is one
step as the handler of the events takes the same lock. -/
inductive CacheRequest (U V T : Type) where
  | read (uuid : U) (argsKey : Key V)
  | decoratedGet (uuid : U) (arguments : Arguments V)
  | store (uuid : U) (argsKey : Key V) (response : T)

@[reducible] def CacheRequest.Reply {U V T : Type} : CacheRequest U V T → Type
  | .read .. => T
  | .decoratedGet .. => T
  | .store .. => Unit

inductive LookupExn (ε : Type) where
  | keyError
  | confd (e : ε)

def LookupExn.isKeyError {ε : Type} : LookupExn ε → Bool
  | .keyError => true
  | .confd _ => false

/-- `__call__`. -/
def call {U V T ε : Type} (uuid : U) (arguments : Arguments V) :
    Interactive (CacheRequest U V T) CacheRequest.Reply (LookupExn ε) T := do
  let argsKey := makeKey arguments
  match ← catching LookupExn.isKeyError (request (.read uuid argsKey)) with
  | some response => pure response
  | none =>
    let response ← request (.decoratedGet uuid arguments)
    request (.store uuid argsKey response : CacheRequest U V T)
    pure response

/-! ## Lookups, changes and events -/

section Machine

variable {U V R ε : Type} [DecidableEq U] [DecidableEq V]

/-- A response, marked: what it was asked for, and the changes of the resource before. -/
structure Served (U V R : Type) where
  uuid : U
  arguments : Arguments V
  version : ℕ
  response : R

/-- The cache, how often every resource of confd has changed, and the last of these changes
whose event has been processed. -/
structure CacheWorld (U V R : Type) where
  cache : Dict U (Dict (Key V) (Served U V R))
  version : U → ℕ
  processed : U → ℕ

/-- `self._cache[uuid][args_key]`, or a `KeyError`. -/
def CacheWorld.cached (w : CacheWorld U V R) (uuid : U) (argsKey : Key V) :
    Option (Served U V R) :=
  (w.cache.get uuid).bind (·.get argsKey)

/-- `setdefault`, and the assignment. -/
def CacheWorld.store (w : CacheWorld U V R) (uuid : U) (argsKey : Key V)
    (v : Served U V R) : CacheWorld U V R :=
  { w with cache := w.cache.set uuid (((w.cache.get uuid).getD ∅).set argsKey v) }

/-- `invalidate_cache_entry`, on the event of a change of a number. -/
def CacheWorld.invalidate (w : CacheWorld U V R) (uuid : U) (change : ℕ) : CacheWorld U V R :=
  { w with
    cache := w.cache.pop uuid
    processed := Function.update w.processed uuid (max (w.processed uuid) change) }

/-- A lookup; `since` is the last change whose event had been processed when it began. -/
structure CacheLookup (U V : Type) where
  uuid : U
  arguments : Arguments V
  since : ℕ

inductive LookupPhase (U V R : Type) where
  | looking (l : CacheLookup U V)
  | missing (l : CacheLookup U V)
  | fetched (l : CacheLookup U V) (v : Served U V R)
  | returned (l : CacheLookup U V) (v : Served U V R)

def LookupPhase.lookup : LookupPhase U V R → CacheLookup U V
  | .looking l => l
  | .missing l => l
  | .fetched l _ => l
  | .returned l _ => l

abbrev CacheLookup.key (l : CacheLookup U V) : Key V := makeKey l.arguments

/-- What a lookup asks next. -/
def LookupPhase.takes : LookupPhase U V R → CacheRequest U V (Served U V R) → Prop
  | .looking l, .read uuid argsKey => uuid = l.uuid ∧ argsKey = l.key
  | .missing l, .decoratedGet uuid arguments => uuid = l.uuid ∧ arguments = l.arguments
  | .fetched l v, .store uuid argsKey response => uuid = l.uuid ∧ argsKey = l.key ∧ response = v
  | _, _ => False

/-- The cache and confd; `x` is what confd answers. -/
def cacheService : Service (CacheRequest U V (Served U V R)) CacheRequest.Reply (LookupExn ε)
    (CacheWorld U V R) (LookupPhase U V R) (Except ε R) where
  takes := LookupPhase.takes
  answer x _ w k
    | .read uuid argsKey =>
      match w.cached uuid argsKey with
      | some v => some (.ok v, w, .returned k.lookup v)
      | none => some (.error .keyError, w, .missing k.lookup)
    | .decoratedGet uuid arguments =>
      match x with
      | .ok response =>
        some (.ok ⟨uuid, arguments, w.version uuid, response⟩, w,
          .fetched k.lookup ⟨uuid, arguments, w.version uuid, response⟩)
      | .error e => some (.error (.confd e), w, .missing k.lookup)
    | .store uuid argsKey v => some (.ok (), w.store uuid argsKey v, .returned k.lookup v)

/-- What happens beside the lookups: a resource changes, and the event of one of its changes
is delivered. -/
inductive CacheEvent (U : Type) where
  | change (uuid : U)
  | deliver (event : String) (body : EventBody U) (change : ℕ)

/-- The cache, and the lookups under way. -/
abbrev CachePool (U V R ε : Type) : Type :=
  Pool (CacheRequest U V (Served U V R)) CacheRequest.Reply (LookupExn ε) (Served U V R)
    (CacheWorld U V R) (LookupPhase U V R)

abbrev CacheLabel (U V R ε : Type) : Type :=
  System.Label (Except ε R) (U × Arguments V) (CacheEvent U)

/-- The lookups of one decorator, with the changes and their events. -/
def cacheSystem (d : Decorator) : System (CacheRequest U V (Served U V R)) CacheRequest.Reply
    (LookupExn ε) (Served U V R) (CacheWorld U V R) (LookupPhase U V R) (Except ε R)
    (U × Arguments V) (CacheEvent U) where
  toService := cacheService
  init w := w.cache = ∅ ∧ ∀ uuid, w.processed uuid = 0
  launch job w :=
    some (w, .looking ⟨job.1, job.2, w.processed job.1⟩, call job.1 job.2)
  outside
    | .change uuid, w =>
      some { w with version := Function.update w.version uuid (w.version uuid + 1) }
    | .deliver event body change, w =>
      match d.entry event body with
      | none => some w
      | some uuid => if change ≤ w.version uuid then some (w.invalidate uuid change) else none

end Machine

/-! ## What a lookup does -/

section Lookups

variable {U V R ε : Type} [DecidableEq U] [DecidableEq V] {w : CacheWorld U V R} {uuid u : U}
  {argsKey key : Key V} {v : Served U V R} {change : ℕ}

theorem cached_store : (w.store uuid argsKey v).cached u key =
    if u = uuid ∧ key = argsKey then some v else w.cached u key := by
  unfold CacheWorld.cached CacheWorld.store
  rw [Dict.get_set]
  by_cases hu : u = uuid
  · subst hu
    rw [if_pos rfl, Option.bind_some, Dict.get_set]
    by_cases hkey : key = argsKey
    · rw [if_pos hkey, if_pos ⟨rfl, hkey⟩]
    · rw [if_neg hkey, if_neg fun h => hkey h.2]
      cases w.cache.get u <;> rfl
  · rw [if_neg hu, if_neg fun h => hu h.1]

omit [DecidableEq V] in
theorem processed_invalidate : (w.invalidate uuid change).processed u =
    if u = uuid then max (w.processed uuid) change else w.processed u :=
  Function.update_apply ..

omit [DecidableEq V] in
theorem cached_invalidate : (w.invalidate uuid change).cached u key =
    if u = uuid then none else w.cached u key := by
  unfold CacheWorld.cached CacheWorld.invalidate
  rw [Dict.get_pop]
  by_cases hu : u = uuid
  · rw [if_pos hu, if_pos hu, Option.bind_none]
  · rw [if_neg hu, if_neg hu]

/-- A lookup asks as its phases say, and returns what it has found or stored. -/
theorem call_keeps (l : CacheLookup U V) : (cacheService (R := R) (ε := ε)).Keeps
    (fun k v => ∃ l, k = .returned l v) (fun _ _ => True) (.looking l)
    (call l.uuid l.arguments) := by
  unfold call
  refine Service.Keeps.bind (.catching (.request ⟨rfl, rfl⟩ fun _ _ w y hy => ?_))
  cases hcached : w.cached l.uuid l.key with
  | some v =>
    simp only [cacheService, hcached, Option.mem_some_iff] at hy
    subst hy
    exact ⟨l, rfl⟩
  | none =>
    simp only [cacheService, hcached, Option.mem_some_iff] at hy
    subst hy
    refine Service.Keeps.bind (.request ⟨rfl, rfl⟩ fun x _ w y hy => ?_)
    cases x with
    | error e =>
      simp only [cacheService, Option.mem_some_iff] at hy
      subst hy
      trivial
    | ok value =>
      simp only [cacheService, Option.mem_some_iff] at hy
      subst hy
      refine Service.Keeps.bind (.request ⟨rfl, rfl, rfl⟩ fun _ _ w y hy => ?_)
      simp only [cacheService, Option.mem_some_iff] at hy
      subst hy
      exact ⟨l, rfl⟩

/-- What an answer does. -/
theorem cache_answer_cases {x : Except ε R} {i : ℕ} {k k' : LookupPhase U V R}
    {r : CacheRequest U V (Served U V R)} {w' : CacheWorld U V R}
    {a : Except (LookupExn ε) r.Reply} (ht : k.takes r)
    (h : cacheService.answer x i w k r = some (a, w', k')) :
    (∃ l, k = .looking l ∧ w' = w ∧
      (k' = .missing l ∨ ∃ v, w.cached l.uuid l.key = some v ∧ k' = .returned l v)) ∨
    (∃ l, k = .missing l ∧ w' = w ∧ (k' = .missing l ∨
      ∃ value, k' = .fetched l ⟨l.uuid, l.arguments, w.version l.uuid, value⟩)) ∨
    (∃ l v, k = .fetched l v ∧ r = .store l.uuid l.key v ∧ w' = w.store l.uuid l.key v ∧
      k' = .returned l v) := by
  match k, r, ht with
  | .looking l, .read _ _, ⟨rfl, rfl⟩ =>
    cases hcached : w.cached l.uuid l.key with
    | some v =>
      simp only [cacheService, hcached, Option.some.injEq, Prod.mk.injEq] at h
      obtain ⟨-, rfl, rfl⟩ := h
      exact .inl ⟨l, rfl, rfl, .inr ⟨v, hcached, rfl⟩⟩
    | none =>
      simp only [cacheService, hcached, Option.some.injEq, Prod.mk.injEq] at h
      obtain ⟨-, rfl, rfl⟩ := h
      exact .inl ⟨l, rfl, rfl, .inl rfl⟩
  | .missing l, .decoratedGet _ _, ⟨rfl, rfl⟩ =>
    cases x with
    | error e =>
      simp only [cacheService, Option.some.injEq, Prod.mk.injEq] at h
      obtain ⟨-, rfl, rfl⟩ := h
      exact .inr (.inl ⟨l, rfl, rfl, .inl rfl⟩)
    | ok value =>
      simp only [cacheService, Option.some.injEq, Prod.mk.injEq] at h
      obtain ⟨-, rfl, rfl⟩ := h
      exact .inr (.inl ⟨l, rfl, rfl, .inr ⟨value, rfl⟩⟩)
  | .fetched l v, .store _ _ _, ⟨rfl, rfl, rfl⟩ =>
    simp only [cacheService, Option.some.injEq, Prod.mk.injEq] at h
    obtain ⟨-, rfl, rfl⟩ := h
    exact .inr (.inr ⟨l, v, rfl, rfl, rfl, rfl⟩)

end Lookups

/-! ## Invariants -/

section Runs

variable {U V R ε : Type} [DecidableEq U] [DecidableEq V] {d : Decorator}
  {w w' : CacheWorld U V R} {ph : ℕ → Option (LookupPhase U V R)}

/-- A response that a lookup has in hand was served for its uuid and its arguments. -/
def LookupPhase.Own : LookupPhase U V R → Prop
  | .fetched l v | .returned l v => v.uuid = l.uuid ∧ v.arguments.Same l.arguments
  | _ => True

/-- A response that a lookup has in hand was not served before a change whose event had been
processed when the lookup began. -/
def LookupPhase.Fresh : LookupPhase U V R → Prop
  | .fetched l v | .returned l v => l.since ≤ v.version
  | _ => True

/-- Every response is kept under the uuid and the arguments that it was served for. -/
structure CacheSound (w : CacheWorld U V R) (ph : ℕ → Option (LookupPhase U V R)) : Prop where
  processed : ∀ uuid, w.processed uuid ≤ w.version uuid
  cached : ∀ uuid key v, w.cached uuid key = some v → v.uuid = uuid ∧ makeKey v.arguments = key
  phases : ∀ i k, ph i = some k → k.Own ∧ k.lookup.since ≤ w.processed k.lookup.uuid

/-- Moreover no response is older than the last event of its resource. -/
structure CacheFresh (w : CacheWorld U V R) (ph : ℕ → Option (LookupPhase U V R)) : Prop where
  cached : ∀ uuid key v, w.cached uuid key = some v → w.processed uuid ≤ v.version
  phases : ∀ i k, ph i = some k → k.Fresh

/-- A response is stored only while no event of a later change has been processed: between
the fetch and the store, none comes. -/
def FreshStore (w : CacheWorld U V R) (_ : ℕ → Option (LookupPhase U V R)) (_ : ℕ)
    (_ : Except ε R) : CacheRequest U V (Served U V R) → Prop
  | .store uuid _ v => w.processed uuid ≤ v.version
  | _ => True

instance (w : CacheWorld U V R) (ph : ℕ → Option (LookupPhase U V R)) (i : ℕ) (x : Except ε R)
    (r : CacheRequest U V (Served U V R)) : Decidable (FreshStore w ph i x r) := by
  cases r <;> unfold FreshStore <;> infer_instance

/-! ## Steps -/

/-- Every step keeps every response under what it was served for. -/
theorem CacheSound.answer {x : Except ε R} {i : ℕ} {k : LookupPhase U V R}
    {r : CacheRequest U V (Served U V R)} {y : Except (LookupExn ε) r.Reply × _ × _}
    (hs : CacheSound w ph) (hk : ph i = some k) (ht : k.takes r)
    (h : cacheService.answer x i w k r = some y) :
    CacheSound y.2.1 (Function.update ph i (some y.2.2)) := by
  obtain ⟨a, w', k'⟩ := y
  obtain ⟨hown, hsince⟩ := hs.phases i k hk
  obtain ⟨l, rfl, rfl, rfl | ⟨v, hv, rfl⟩⟩ | ⟨l, rfl, rfl, rfl | ⟨value, rfl⟩⟩ |
    ⟨l, v, rfl, rfl, rfl, rfl⟩ := cache_answer_cases ht h
  · exact ⟨hs.processed, hs.cached, System.forall_update hs.phases ⟨trivial, hsince⟩⟩
  · obtain ⟨huuid, hkey⟩ := hs.cached _ _ v hv
    exact ⟨hs.processed, hs.cached,
      System.forall_update hs.phases ⟨⟨huuid, makeKey_eq_iff.mp hkey⟩, hsince⟩⟩
  · exact ⟨hs.processed, hs.cached, System.forall_update hs.phases ⟨trivial, hsince⟩⟩
  · exact ⟨hs.processed, hs.cached,
      System.forall_update hs.phases ⟨⟨rfl, rfl, List.Perm.refl _⟩, hsince⟩⟩
  · refine ⟨hs.processed, fun uuid key u hu => ?_, System.forall_update hs.phases ⟨hown, hsince⟩⟩
    rw [cached_store] at hu
    split at hu
    · next heq =>
      obtain ⟨rfl, rfl⟩ := heq
      cases hu
      exact ⟨hown.1, makeKey_eq_iff.mpr hown.2⟩
    · exact hs.cached uuid key u hu

/-- A lookup that stores a response that is not outdated keeps the cache fresh. -/
theorem CacheFresh.answer {x : Except ε R} {i : ℕ} {k : LookupPhase U V R}
    {r : CacheRequest U V (Served U V R)} {y : Except (LookupExn ε) r.Reply × _ × _}
    (hf : CacheFresh w ph) (hs : CacheSound w ph) (hk : ph i = some k) (ht : k.takes r)
    (hstore : FreshStore w ph i x r) (h : cacheService.answer x i w k r = some y) :
    CacheFresh y.2.1 (Function.update ph i (some y.2.2)) := by
  obtain ⟨a, w', k'⟩ := y
  have hfresh := hf.phases i k hk
  have hsince := (hs.phases i k hk).2
  obtain ⟨l, rfl, rfl, rfl | ⟨v, hv, rfl⟩⟩ | ⟨l, rfl, rfl, rfl | ⟨value, rfl⟩⟩ |
    ⟨l, v, rfl, rfl, rfl, rfl⟩ := cache_answer_cases ht h
  · exact ⟨hf.cached, System.forall_update hf.phases trivial⟩
  · exact ⟨hf.cached, System.forall_update hf.phases (hsince.trans (hf.cached _ _ v hv))⟩
  · exact ⟨hf.cached, System.forall_update hf.phases trivial⟩
  · -- confd serves what it has now, after every change whose event has been processed
    exact ⟨hf.cached, System.forall_update hf.phases (hsince.trans (hs.processed _))⟩
  · refine ⟨fun uuid key u hu => ?_, System.forall_update hf.phases hfresh⟩
    rw [cached_store] at hu
    split at hu
    · next heq =>
      obtain ⟨rfl, rfl⟩ := heq
      cases hu
      exact hstore
    · exact hf.cached uuid key u hu

/-- An entry that is invalidated leaves nothing that could be outdated. -/
theorem cache_outside {e : CacheEvent U} (hs : CacheSound w ph)
    (h : (cacheSystem (ε := ε) d).outside e w = some w') :
    CacheSound w' ph ∧ (CacheFresh w ph → CacheFresh w' ph) := by
  cases e with
  | change uuid =>
    obtain rfl := Option.some.inj h
    refine ⟨⟨fun u => (hs.processed u).trans ?_, hs.cached, hs.phases⟩,
      fun hf => ⟨hf.cached, hf.phases⟩⟩
    by_cases hu : u = uuid
    · subst hu
      simp
    · simp [Function.update_of_ne hu]
  | deliver event body change =>
    cases hentry : d.entry event body with
    | none =>
      simp only [cacheSystem, hentry, Option.some.injEq] at h
      subst h
      exact ⟨hs, id⟩
    | some uuid =>
      simp only [cacheSystem, hentry, Option.ite_none_right_eq_some, Option.some.injEq] at h
      obtain ⟨hle, rfl⟩ := h
      have hprocessed : ∀ u, w.processed u ≤ (w.invalidate uuid change).processed u := by
        intro u
        rw [processed_invalidate]
        split
        · next hu =>
          rw [hu]
          exact le_max_left _ _
        · exact le_rfl
      refine ⟨⟨fun u => ?_, fun u key v hv => ?_, fun i k hk => ?_⟩, fun hf => ⟨?_, hf.phases⟩⟩
      · rw [processed_invalidate]
        split
        · next hu =>
          rw [hu]
          exact max_le (hs.processed uuid) hle
        · exact hs.processed u
      · rw [cached_invalidate] at hv
        split at hv
        · cases hv
        · exact hs.cached u key v hv
      · exact ⟨(hs.phases i k hk).1, (hs.phases i k hk).2.trans (hprocessed _)⟩
      · intro u key v hv
        rw [cached_invalidate] at hv
        split at hv
        · cases hv
        · next hu =>
          rw [processed_invalidate, if_neg hu]
          exact hf.cached u key v hv

/-! ## Runs -/

variable {s t : CachePool U V R ε} {a : CacheLabel U V R ε}

/-- Every lookup of the system keeps to its phases. -/
theorem cache_launch_keeps (job : U × Arguments V) (w w' : CacheWorld U V R)
    (k : LookupPhase U V R) (p : Interactive (CacheRequest U V (Served U V R))
      CacheRequest.Reply (LookupExn ε) (Served U V R))
    (h : (cacheSystem d).launch job w = some (w', k, p)) :
    (cacheSystem (ε := ε) d).Keeps (fun k v => ∃ l, k = .returned l v) (fun _ _ => True) k p := by
  simp only [cacheSystem, Option.some.injEq, Prod.mk.injEq] at h
  obtain ⟨-, rfl, rfl⟩ := h
  exact call_keeps ⟨job.1, job.2, w.processed job.1⟩

/-- A lookup that has returned has the response in hand. -/
theorem lookup_returned {D : _ → _ → Prop} (h : (cacheSystem d).machine.Reaches D s) {i : ℕ}
    {k : LookupPhase U V R} {v : Served U V R} (ht : s.tasks i = some (k, .ok v)) :
    ∃ l, k = .returned l v := by
  have hkeeps := System.keeps_of_reaches cache_launch_keeps h i k _ ht
  exact hkeeps

/-- A lookup that begins. -/
theorem CacheSound.start {i : ℕ} {job : U × Arguments V} {k : LookupPhase U V R}
    {p : Interactive (CacheRequest U V (Served U V R)) CacheRequest.Reply (LookupExn ε)
      (Served U V R)} (hs : CacheSound w ph)
    (h : (cacheSystem d).launch job w = some (w', k, p)) :
    CacheSound w' (Function.update ph i (some k)) ∧
      (CacheFresh w ph → CacheFresh w' (Function.update ph i (some k))) := by
  simp only [cacheSystem, Option.some.injEq, Prod.mk.injEq] at h
  obtain ⟨rfl, rfl, rfl⟩ := h
  exact ⟨⟨hs.processed, hs.cached, System.forall_update hs.phases ⟨trivial, le_rfl⟩⟩,
    fun hf => ⟨hf.cached, System.forall_update hf.phases trivial⟩⟩

/-- In every run the cache is sound, and it is fresh as long as every response that is
stored is. -/
theorem cache_invariant {C : CacheWorld U V R → (ℕ → Option (LookupPhase U V R)) → ℕ →
      Except ε R → CacheRequest U V (Served U V R) → Prop}
    (h : (cacheSystem d).machine.Reaches (System.Answers C) s) :
    CacheSound s.world s.phases ∧
      ((∀ w ph i x r, C w ph i x r → FreshStore w ph i x r) → CacheFresh s.world s.phases) := by
  refine System.invariant_phases (I := fun w ph => CacheSound w ph ∧
    ((∀ w ph i x r, C w ph i x r → FreshStore w ph i x r) → CacheFresh w ph))
    cache_launch_keeps ?_ ?_ ?_ ?_ h
  · rintro w ⟨hcache, hprocessed⟩
    have hcached : ∀ uuid key v, w.cached uuid key ≠ some v := by
      intro uuid key v hv
      unfold CacheWorld.cached at hv
      rw [hcache] at hv
      cases hv
    refine ⟨⟨fun u => ?_, fun _ _ _ hv => absurd hv (hcached _ _ _), fun _ _ hk => ?_⟩,
      fun _ => ⟨fun _ _ _ hv => absurd hv (hcached _ _ _), fun _ _ hk => ?_⟩⟩
    · rw [hprocessed u]
      exact Nat.zero_le _
    · cases hk
    · cases hk
  · intro w ph i job w' k p hinv _ hl
    have hstart := hinv.1.start (i := i) hl
    exact ⟨hstart.1, fun hC => hstart.2 (hinv.2 hC)⟩
  · intro w ph i x k r y hinv hk ht hc ha
    exact ⟨hinv.1.answer hk ht ha, fun hC => (hinv.2 hC).answer hinv.1 hk ht (hC _ _ _ _ _ hc) ha⟩
  · intro w ph e w' hinv he
    have hout := cache_outside hinv.1 he
    exact ⟨hout.1, fun hC => hout.2 (hinv.2 hC)⟩

/-- What the lookups that are over have returned was served for their uuid and arguments. -/
def ReturnsOwn (s : CachePool U V R ε) : Prop :=
  ∀ i k v, s.tasks i = some (k, .ok v) →
    v.uuid = k.lookup.uuid ∧ v.arguments.Same k.lookup.arguments

/-- What the lookups that are over have returned was not served before a change whose event
had been processed when they began. -/
def ReturnsCurrent (s : CachePool U V R ε) : Prop :=
  ∀ i k v, s.tasks i = some (k, .ok v) → k.lookup.since ≤ v.version

/-- A lookup of what is cached is answered from the cache. -/
theorem hit_returns {uuid : U} {arguments : Arguments V} {v : Served U V R} {j : ℕ}
    (hj : t.tasks j = none) (hv : t.world.cached uuid (makeKey arguments) = some v)
    (x : Except ε R) :
    ∃ u, (cacheSystem d).machine.run [.start j (uuid, arguments), .answer j x] t = some u ∧
      u.tasks j = some (.returned ⟨uuid, arguments, t.world.processed uuid⟩ v, .ok v) := by
  let looking : CachePool U V R ε := ⟨t.world, Function.update t.tasks j
    (some (.looking ⟨uuid, arguments, t.world.processed uuid⟩, call uuid arguments))⟩
  have hstart : (cacheSystem d).machine.step (.start j (uuid, arguments)) t = some looking :=
    System.step_start hj rfl
  have hlooking : looking.tasks j =
      some (.looking ⟨uuid, arguments, t.world.processed uuid⟩, call uuid arguments) :=
    Function.update_self ..
  have hanswer : (cacheSystem (ε := ε) d).answer x j t.world
      (.looking ⟨uuid, arguments, t.world.processed uuid⟩) (.read uuid (makeKey arguments)) =
        some (.ok v, t.world, .returned ⟨uuid, arguments, t.world.processed uuid⟩ v) := by
    simp only [cacheSystem, cacheService, hv]
    rfl
  let found : CachePool U V R ε := ⟨t.world, Function.update looking.tasks j
    (some (.returned ⟨uuid, arguments, t.world.processed uuid⟩ v, .ok v))⟩
  have hread : (cacheSystem d).machine.step (.answer j x) looking = some found :=
    System.step_answer hlooking hanswer
  refine ⟨found, ?_, Function.update_self ..⟩
  rw [Machine.run, hstart, Option.bind_some, Machine.run, hread, Option.bind_some, Machine.run]

/-- Once an outdated response is stored, the next lookup of it is answered with it. -/
theorem outdated_is_read (h : (cacheSystem d).machine.Reaches (System.Answers FreshStore) s)
    (hstep : (cacheSystem d).machine.step a s = some t)
    (hstore : ¬ System.Answers FreshStore s a) :
    ∃ i job x u, (cacheSystem d).machine.run [.start i job, .answer i x] t = some u ∧
      ¬ ReturnsCurrent u := by
  obtain ⟨i, job, w, k, p, rfl, -, -, -⟩ | ⟨i, x, k, r, next, y, rfl, ht, ha, rfl⟩ |
    ⟨e, w, rfl, -, -⟩ := System.step_cases hstep
  · exact absurd trivial hstore
  · have hasked : s.asked i = some r := by simp [Pool.asked, ht]
    simp only [System.Answers, hasked, Option.mem_some_iff, forall_eq'] at hstore
    cases r with
    | read => exact absurd trivial hstore
    | decoratedGet => exact absurd trivial hstore
    | store uuid key v =>
      have hstale : v.version < s.world.processed uuid := not_le.mp hstore
      obtain rfl := Option.some.inj ha
      have htakes : k.takes (.store uuid key v) :=
        (System.keeps_of_reaches cache_launch_keeps h i k _ ht).1
      cases k with
      | looking l => exact (htakes : False).elim
      | missing l => exact (htakes : False).elim
      | returned l v => exact (htakes : False).elim
      | fetched l v =>
        obtain ⟨rfl, rfl, rfl⟩ := htakes
        have hreach : (cacheSystem d).machine.Reachable _ :=
          (h.mono fun _ _ _ => trivial).step trivial hstep
        -- a later lookup of the same arguments
        obtain ⟨j, hj⟩ := System.exists_idle hreach
        have hcached : (s.world.store l.uuid l.key v).cached l.uuid l.key = some v := by
          rw [cached_store, if_pos ⟨rfl, rfl⟩]
        obtain ⟨u, hrun, hu⟩ := hit_returns hj hcached x
        exact ⟨j, _, x, u, hrun, fun hcurrent => absurd (hcurrent j _ v hu) (not_le.mpr hstale)⟩
  · exact absurd trivial hstore

/-- **A lookup returns what confd has served for its uuid and its arguments; and it is never
stale after an event, up to the first response that is stored after the event of a later
change has been processed.** -/
theorem lookups_own_and_current (d : Decorator) :
    (∀ s : CachePool U V R ε, (cacheSystem d).machine.Reachable s → ReturnsOwn s) ∧
    ∀ s : CachePool U V R ε, (cacheSystem d).machine.Reaches (System.Answers FreshStore) s →
      ReturnsCurrent s ∧
        ∀ a t, (cacheSystem d).machine.step a s = some t → ¬ System.Answers FreshStore s a →
          ∃ i job x u, (cacheSystem d).machine.run [.start i job, .answer i x] t = some u ∧
            ¬ ReturnsCurrent u := by
  refine ⟨fun s h i k v ht => ?_, fun s h => ⟨fun i k v ht => ?_, fun a t hstep hstore =>
    outdated_is_read h hstep hstore⟩⟩
  · have hall := System.reaches_of_reachable h
    obtain ⟨l, rfl⟩ := lookup_returned h ht
    have hphase : s.phases i = some (.returned l v) := by simp [Pool.phases, ht]
    exact ((cache_invariant hall).1.phases i _ hphase).1
  · obtain ⟨l, rfl⟩ := lookup_returned h ht
    have hphase : s.phases i = some (.returned l v) := by simp [Pool.phases, ht]
    exact ((cache_invariant h).2 fun _ _ _ _ _ => id).phases i _ hphase

end Runs

/-! ## A slow fetch -/

/-- No arguments but the uuid. -/
def noArguments : Arguments String := ⟨[], ⟨[], List.nodup_nil⟩⟩

/-- The cache before anything has happened. -/
def emptyCache : CachePool String String String Unit :=
  ⟨⟨∅, fun _ => 0, fun _ => 0⟩, fun _ => none⟩

theorem emptyCache_init : (cacheSystem switchboardGetCache).machine.init emptyCache :=
  ⟨⟨rfl, fun _ => rfl⟩, fun _ => rfl⟩

/-- The state after a list of steps. -/
def cacheAfter (steps : List (CacheLabel String String String Unit)) :
    CachePool String String String Unit :=
  ((cacheSystem switchboardGetCache).machine.run steps emptyCache).getD emptyCache

theorem cacheAfter_reaches {C : _ → _ → Prop} {steps : List (CacheLabel String String String Unit)}
    (h : (cacheSystem switchboardGetCache).machine.Meets C steps emptyCache) :
    (cacheSystem switchboardGetCache).machine.Reaches C (cacheAfter steps) := by
  unfold cacheAfter
  cases hrun : (cacheSystem switchboardGetCache).machine.run steps emptyCache with
  | none => exact .init emptyCache_init
  | some s => exact Machine.Reaches.run (.init emptyCache_init) h hrun

/-- A lookup that asks confd. -/
def fetching : List (CacheLabel String String String Unit) :=
  [.start 0 ("some-uuid", noArguments), .answer 0 (.ok ""), .answer 0 (.ok "some-response")]

/-- The switchboard is edited, and the event is processed. -/
def edited : List (CacheLabel String String String Unit) :=
  [.outside (.change "some-uuid"),
    .outside (.deliver "switchboard_edited" ⟨some "some-uuid", none, none⟩ 1)]

/-- The first lookup stores what confd has answered, and another one reads it. -/
def readingAgain : List (CacheLabel String String String Unit) :=
  [.answer 0 (.ok ""), .start 1 ("some-uuid", noArguments), .answer 1 (.ok "")]

theorem fetched_meets : (cacheSystem switchboardGetCache).machine.Meets
    (System.Answers FreshStore) (fetching ++ readingAgain) emptyCache := by
  decide

/-- With no change between the fetch and the store, the second lookup is answered from the
cache. -/
theorem lookups_current_fetched :
    (cacheAfter (fetching ++ readingAgain)).tasks 1 = some
      (.returned ⟨"some-uuid", noArguments, 0⟩ ⟨"some-uuid", noArguments, 0, "some-response"⟩,
        .ok ⟨"some-uuid", noArguments, 0, "some-response"⟩) ∧
      ReturnsOwn (cacheAfter (fetching ++ readingAgain)) ∧
      ReturnsCurrent (cacheAfter (fetching ++ readingAgain)) :=
  ⟨rfl, (lookups_own_and_current _).1 _ (cacheAfter_reaches (Machine.meets_true _ _)),
    ((lookups_own_and_current _).2 _ (cacheAfter_reaches fetched_meets)).1⟩

/-- The event of a change is processed before the old response is stored, and the next lookup
returns the old response. -/
theorem slow_fetch_is_stale : ¬ ∀ s : CachePool String String String Unit,
    (cacheSystem switchboardGetCache).machine.Reachable s → ReturnsCurrent s := by
  intro hall
  have hcurrent := hall _ (cacheAfter_reaches (Machine.meets_true
    (fetching ++ edited ++ readingAgain) _)) 1 _ _ rfl
  exact absurd hcurrent (by decide)

end Calld.Switchboards
