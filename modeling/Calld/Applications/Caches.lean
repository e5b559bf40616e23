/-
# The cache of the applications, beside its events

The first access to the cache fetches the list of confd, under a lock.  The events tell every
change of confd in order, some time after it: what the list has seen already is told again,
and an event that comes before the cache is there is skipped.

For the statements an operation has a phase, and the event that is being handled is kept
apart from those that are to come until it has been stored or skipped.
-/
import Calld.Applications.Services

namespace Calld.Applications

open Effect Effect.Interactive Calld.Ari

/-! ## Changes and events -/

/-- What is left of the application after the change that the event tells. -/
def AppEvent.content (event : AppEvent) : Option Application :=
  if event.kind = .deleted then none else some event.app

/-- What the last event of the list about an application leaves of it, if one is about it. -/
def lastTold (uuid : String) (events : List AppEvent) : Option (Option Application) :=
  events.foldl (fun told event => if event.app.uuid = uuid then some event.content else told) none

/-- Confd after a change. -/
def applyEvent (confd : Dict String Application) (event : AppEvent) : Dict String Application :=
  if event.kind = .deleted then confd.pop event.app.uuid else confd.set event.app.uuid event.app

@[simp] theorem get_applyEvent (confd : Dict String Application) (event : AppEvent)
    (uuid : String) : (applyEvent confd event).get uuid =
      if uuid = event.app.uuid then event.content else confd.get uuid := by
  unfold applyEvent AppEvent.content
  split
  · exact Dict.get_pop ..
  · exact Dict.get_set ..

@[simp] theorem lastTold_nil (uuid : String) : lastTold uuid [] = none := rfl

theorem lastTold_concat (uuid : String) (events : List AppEvent) (event : AppEvent) :
    lastTold uuid (events ++ [event]) =
      if event.app.uuid = uuid then some event.content else lastTold uuid events := by
  simp [lastTold, List.foldl_append]

theorem lastTold_cons (uuid : String) (event : AppEvent) (events : List AppEvent) :
    lastTold uuid (event :: events) = (lastTold uuid events).or
      (if event.app.uuid = uuid then some event.content else none) := by
  induction events using List.reverseRecOn with
  | nil =>
    simp only [lastTold, List.foldl_cons, List.foldl_nil]
    split <;> rfl
  | append_singleton events last ih =>
    rw [← List.cons_append, lastTold_concat, lastTold_concat, ih]
    split <;> simp

/-! ## Operations -/

/-- What an operation has of the lock: nothing, the lock, the lock of a cache that is not
there, or the list of confd for it. -/
inductive Hold where
  | free
  | locked
  | empty
  | fetched (apps : List Application)
  deriving DecidableEq

/-- What becomes of an event: it has come, the cache was there when it was tested, it has been
stored or skipped; or the cache was gone after it had been tested. -/
inductive EventStage where
  | new
  | passed
  | done
  | broken
  deriving DecidableEq

/-- An operation: the event that it handles, if it does, and what it has of the lock. -/
structure CachePhase where
  event : Option AppEvent
  stage : EventStage
  hold : Hold
  deriving DecidableEq

/-- What an operation asks in a phase. -/
def CachePhase.Takes (k : CachePhase) : Request → Prop
  | .acquire => k.hold = .free
  | .release => k.hold ≠ .free
  | .isNone => k.hold = .locked
  | .confdList => k.hold = .empty
  | .setCache apps => k.hold = .fetched apps
  | .setEntry app => k.stage = .passed ∧ ∃ event, k.event = some event ∧ event.app = app ∧
      event.kind ≠ .deleted
  | .popEntry uuid => k.stage = .passed ∧ ∃ event, k.event = some event ∧
      event.app.uuid = uuid ∧ event.kind = .deleted
  | .ack => k.stage = .done ∧ k.event.isSome
  | _ => True

/-- What an operation asks; of one that has found the cache gone nothing is known. -/
def CachePhase.takes (k : CachePhase) (r : Request) : Prop := k.stage = .broken ∨ k.Takes r

/-- Confd, the cache and its lock; the event that is handled and not yet stored or skipped,
those that are to come, and whether the consumer of the bus is at one. -/
structure CacheWorld where
  confd : Dict String Application
  cache : Option (Dict String Application)
  lock : Option ℕ
  current : Option AppEvent
  queue : List AppEvent
  busy : Bool

/-- The answers of everything that is not the cache. -/
abbrev Answer : Type := (r : Request) → Except Exn r.Reply

/-- The cache, or an error when it is not there. -/
def CacheWorld.cached {α : Type} (w : CacheWorld) (f : Dict String Application → α) :
    Except Exn α :=
  match w.cache with
  | some cache => .ok (f cache)
  | none => .error .noneType

/-- The answer to an operation. -/
def CacheWorld.reply (x : Answer) (w : CacheWorld) : (r : Request) → Except Exn r.Reply
  | .acquire => .ok ()
  | .release => .ok ()
  | .isNone => .ok w.cache.isNone
  | .confdList => (x .confdList).map fun _ => w.confd.items.map Prod.snd
  | .setCache _ => .ok ()
  | .entry uuid => w.cached (·.get uuid)
  | .entries => w.cached fun cache => cache.items.map Prod.snd
  | .setEntry _ => w.cached fun _ => ()
  | .popEntry _ => w.cached fun _ => ()
  | .ack => .ok ()
  | r => x r

/-- The event has been stored or skipped. -/
def CacheWorld.settle (w : CacheWorld) (k : CachePhase) : Option AppEvent :=
  if k.event.isSome then none else w.current

/-- What a step of an operation does. -/
def CacheWorld.after (w : CacheWorld) (i : ℕ) (k : CachePhase) : Request → CacheWorld
  | .acquire => { w with lock := some i }
  | .release => { w with lock := none }
  | .isNone =>
    if k.stage = .new ∧ w.cache = none then { w with current := w.settle k } else w
  | .setCache apps => { w with cache := some (index Application.uuid apps) }
  | .setEntry app =>
    { w with cache := w.cache.map (·.set app.uuid app), current := w.settle k }
  | .popEntry uuid => { w with cache := w.cache.map (·.pop uuid), current := w.settle k }
  | .ack => { w with busy := false }
  | _ => w

/-- What an operation has of the lock after an answer. -/
def CachePhase.nextHold (k : CachePhase) (w : CacheWorld) :
    (r : Request) → Except Exn r.Reply → Hold
  | .acquire, _ => .locked
  | .release, _ => .free
  | .isNone, _ => if w.cache = none ∧ k.stage ≠ .new then .empty else .locked
  | .confdList, .ok apps => .fetched apps
  | .setCache _, _ => .locked
  | _, _ => k.hold

/-- What has become of the event after an answer. -/
def CachePhase.nextStage (k : CachePhase) (w : CacheWorld) (r : Request) : EventStage :=
  if k.stage = .passed ∧ w.cache = none then .broken
  else match r with
    | .isNone => if k.stage = .new then (if w.cache = none then .done else .passed) else k.stage
    | .setEntry _ => if k.stage = .broken then .broken else .done
    | .popEntry _ => if k.stage = .broken then .broken else .done
    | _ => k.stage

def CachePhase.next (k : CachePhase) (w : CacheWorld) (r : Request)
    (reply : Except Exn r.Reply) : CachePhase where
  event := if r = .ack ∧ k.stage ≠ .broken then none else k.event
  stage := k.nextStage w r
  hold := k.nextHold w r reply

/-- The operations that use the cache, and the consumer that takes the next event. -/
inductive CacheJob where
  | list
  | get (uuid : String)
  | initialise
  | consume

/-- The handler of an event, and then the consumer goes on. -/
def consume (event : AppEvent) : Code Unit := ensuring (handle event) (ask .ack)

/-- A change of confd is one of an application that is there, or makes one that is not. -/
def AppEvent.Possible (confd : Dict String Application) (event : AppEvent) : Prop :=
  (confd.get event.app.uuid).isNone ↔ event.kind = .created

instance (confd : Dict String Application) (event : AppEvent) :
    Decidable (event.Possible confd) := inferInstanceAs (Decidable (_ ↔ _))

/-- The operations and the consumer, beside the changes of confd. -/
def cacheSystem : System Request Request.Reply Exn Unit CacheWorld CachePhase Answer CacheJob
    AppEvent where
  takes := CachePhase.takes
  answer x i w k r :=
    if r = .acquire ∧ w.lock ≠ none then none
    else some (w.reply x r, w.after i k r, k.next w r (w.reply x r))
  init w := w.cache = none ∧ w.lock = none ∧ w.current = none ∧ w.queue = [] ∧ w.busy = false ∧
    Keyed Application.uuid w.confd.get
  launch job w :=
    match job with
    | .list => some (w, ⟨none, .done, .free⟩, do
        let _ ← list
        pure ())
    | .get uuid => some (w, ⟨none, .done, .free⟩, do
        let _ ← get uuid
        pure ())
    | .initialise => some (w, ⟨none, .done, .free⟩, initialise)
    | .consume =>
      match w.busy, w.queue with
      | false, event :: queue =>
        some ({ w with current := some event, queue := queue, busy := true },
          ⟨some event, .new, .free⟩, consume event)
      | _, _ => none
  outside event w :=
    if event.Possible w.confd then
      some { w with confd := applyEvent w.confd event, queue := w.queue ++ [event] }
    else none

abbrev CachePool : Type := Pool Request Request.Reply Exn Unit CacheWorld CachePhase

abbrev CacheLabel : Type := System.Label Answer CacheJob AppEvent

/-! ## Programs and phases -/

section Phases

variable {k : CachePhase} {event : Option AppEvent} {stage : EventStage} {α : Type}
  {Q : CachePhase → α → Prop} {E : CachePhase → Exn → Prop}

theorem broken_next {w : CacheWorld} {r : Request} {reply : Except Exn r.Reply}
    (h : k.stage = .broken) : (k.next w r reply).stage = .broken := by
  change k.nextStage w r = .broken
  unfold CachePhase.nextStage
  rw [h, if_neg (by simp)]
  cases r <;> rfl

/-- An operation that has found the cache gone may do anything. -/
theorem broken_keeps (p : Code α) (h : k.stage = .broken)
    (hQ : ∀ k a, k.stage = .broken → Q k a) (hE : ∀ k e, k.stage = .broken → E k e) :
    cacheSystem.Keeps Q E k p := by
  induction p generalizing k with
  | ok a => exact hQ k a h
  | error e => exact hE k e h
  | ask r next ih =>
    refine ⟨.inl h, fun x i w y hy => ?_⟩
    obtain ⟨-, rfl⟩ : _ ∧ _ = y := by simpa [cacheSystem] using hy
    exact ih _ (broken_next h)

/-- A step of an operation, by its answer. -/
theorem ask_keeps {r : Request} {Q : CachePhase → r.Reply → Prop} (ht : k.Takes r)
    (hok : ∀ x w a, (k.stage = .passed → w.cache ≠ none) → w.reply x r = .ok a →
      Q (k.next w r (.ok a)) a)
    (herror : ∀ x w e, (k.stage = .passed → w.cache ≠ none) → w.reply x r = .error e →
      E (k.next w r (.error e)) e)
    (hQ : ∀ k a, k.stage = .broken → Q k a) (hE : ∀ k e, k.stage = .broken → E k e) :
    cacheSystem.Keeps Q E k (ask r) := by
  refine Service.Keeps.request (.inr ht) fun x i w y hy => ?_
  obtain ⟨-, rfl⟩ : _ ∧ _ = y := by simpa [cacheSystem] using hy
  by_cases hgone : k.stage = .passed ∧ w.cache = none
  · have hbroken (reply : Except Exn r.Reply) : (k.next w r reply).stage = .broken := if_pos hgone
    cases h : w.reply x r with
    | ok a => exact hQ _ a (hbroken _)
    | error e => exact hE _ e (hbroken _)
  · have hthere (hp : k.stage = .passed) : w.cache ≠ none := fun hn => hgone ⟨hp, hn⟩
    cases h : w.reply x r with
    | ok a => exact hok x w a hthere h
    | error e => exact herror x w e hthere h

/-- The operation is where it was, or it has found the cache gone. -/
def Same (k k' : CachePhase) : Prop := k' = k ∨ k'.stage = .broken

/-- The requests that store nothing, and do not end the event. -/
def Request.Plain : Request → Prop
  | .setEntry _ => False
  | .popEntry _ => False
  | .ack => False
  | _ => True

/-- An operation stays at its stage until it tests its event, and then until it stores. -/
theorem next_plain {w : CacheWorld} {r : Request} {reply : Except Exn r.Reply} (hr : r.Plain)
    (hthere : k.stage = .passed → w.cache ≠ none) (hnew : k.stage = .new → r ≠ .isNone) :
    k.next w r reply = ⟨k.event, k.stage, k.nextHold w r reply⟩ := by
  have hgone : ¬ (k.stage = .passed ∧ w.cache = none) := fun h => hthere h.1 h.2
  have hack : ¬ (r = .ack ∧ k.stage ≠ .broken) := by
    rintro ⟨rfl, -⟩
    exact hr
  unfold CachePhase.next CachePhase.nextStage
  rw [if_neg hack, if_neg hgone]
  cases r with
  | isNone =>
    have hnot : k.stage ≠ .new := fun h => hnew h rfl
    simp [hnot]
  | setEntry app => exact hr.elim
  | popEntry uuid => exact hr.elim
  | _ => rfl

/-- A plain step of an operation that does not test its event. -/
theorem plain_keeps {r : Request} {hold : Hold} {Q : CachePhase → r.Reply → Prop}
    (hr : r.Plain) (hnew : stage = .new → r ≠ .isNone)
    (ht : CachePhase.Takes ⟨event, stage, hold⟩ r)
    (hok : ∀ x w a, (stage = .passed → w.cache ≠ none) → w.reply x r = .ok a →
      Q ⟨event, stage, CachePhase.nextHold ⟨event, stage, hold⟩ w r (.ok a)⟩ a)
    (herror : ∀ x w e, (stage = .passed → w.cache ≠ none) → w.reply x r = .error e →
      E ⟨event, stage, CachePhase.nextHold ⟨event, stage, hold⟩ w r (.error e)⟩ e)
    (hQ : ∀ k a, k.stage = .broken → Q k a) (hE : ∀ k e, k.stage = .broken → E k e) :
    cacheSystem.Keeps Q E ⟨event, stage, hold⟩ (ask r) := by
  refine ask_keeps ht (fun x w a hthere h => ?_) (fun x w e hthere h => ?_) hQ hE
  · rw [next_plain hr hthere hnew]
    exact hok x w a hthere h
  · rw [next_plain hr hthere hnew]
    exact herror x w e hthere h

/-- The lock is given back. -/
theorem release_keeps {hold : Hold} {Q : CachePhase → Unit → Prop} (hheld : hold ≠ .free)
    (hok : Q ⟨event, stage, .free⟩ ())
    (hQ : ∀ k a, k.stage = .broken → Q k a) (hE : ∀ k e, k.stage = .broken → E k e) :
    cacheSystem.Keeps Q E ⟨event, stage, hold⟩ (ask .release) :=
  plain_keeps trivial (fun _ => by simp) hheld (fun _ _ _ _ _ => hok)
    (fun _ _ _ _ h => by cases h) hQ hE

/-- `_applications`; once the event has passed its test, it does not raise. -/
theorem applications_keeps (hnew : stage ≠ .new) :
    cacheSystem.Keeps (fun k' _ => Same ⟨event, stage, .free⟩ k')
      (fun k' _ => Same ⟨event, stage, .free⟩ k' ∧ (stage = .passed → k'.stage = .broken))
      ⟨event, stage, .free⟩ applications := by
  have hbroken {α : Type} (p : Code α) (k : CachePhase) (hb : k.stage = .broken) :
      cacheSystem.Keeps (fun k' _ => Same ⟨event, stage, .free⟩ k')
        (fun k' _ => Same ⟨event, stage, .free⟩ k' ∧ (stage = .passed → k'.stage = .broken)) k p :=
    broken_keeps p hb (fun _ _ => .inr) fun _ _ hb => ⟨.inr hb, fun _ => hb⟩
  have hraised (k : CachePhase) (e : Exn) (hb : k.stage = .broken) :
      cacheSystem.Keeps (fun k' _ => Same ⟨event, stage, .free⟩ k' ∧
        (stage = .passed → k'.stage = .broken)) (fun k' _ => Same ⟨event, stage, .free⟩ k' ∧
        (stage = .passed → k'.stage = .broken)) k (ask .release) :=
    broken_keeps _ hb (fun _ _ hb => ⟨.inr hb, fun _ => hb⟩) fun _ _ hb => ⟨.inr hb, fun _ => hb⟩
  unfold applications
  refine Service.Keeps.bind (plain_keeps trivial (fun h => absurd h hnew) rfl
    (fun _ _ _ _ _ => ?_) (fun _ _ _ _ h => by cases h) (fun k _ => hbroken _ k)
    fun _ _ hb => ⟨.inr hb, fun _ => hb⟩)
  refine Service.Keeps.ensuring ?_
  refine Service.Keeps.bind (plain_keeps trivial (fun h => absurd h hnew) rfl
    (fun x w none hthere h => ?_) (fun _ _ _ _ h => by cases h)
    (fun k a hb => broken_keeps _ hb (fun k _ => hbroken _ k) hraised) hraised)
  obtain rfl : w.cache.isNone = none := Except.ok.inj h
  cases hcache : w.cache with
  | some cache =>
    simp only [CachePhase.nextHold, hcache]
    exact release_keeps (by simp) (.inl rfl) (fun _ _ => .inr) fun _ _ hb => ⟨.inr hb, fun _ => hb⟩
  | none =>
    have hpassed : stage ≠ .passed := fun hp => hthere hp hcache
    simp only [CachePhase.nextHold, hcache, Option.isNone_none, if_true]
    rw [if_pos ⟨trivial, hnew⟩]
    refine Service.Keeps.bind (Service.Keeps.tryCatch (plain_keeps trivial
      (fun h => absurd h hnew) rfl (fun x w apps _ _ => ?_) (fun x w e _ _ => ?_) ?_ ?_))
    · refine plain_keeps trivial (fun h => absurd h hnew) rfl (fun _ _ _ _ _ => ?_)
        (fun _ _ _ _ h => by cases h) (fun k _ => hbroken _ k) hraised
      exact release_keeps (by simp [CachePhase.nextHold]) (.inl rfl) (fun _ _ => .inr)
        fun _ _ hb => ⟨.inr hb, fun _ => hb⟩
    · -- the list has not come, and nothing is stored
      have hrelease : cacheSystem.Keeps (fun k' _ => Same ⟨event, stage, .free⟩ k' ∧
          (stage = .passed → k'.stage = .broken)) (fun k' _ => Same ⟨event, stage, .free⟩ k' ∧
          (stage = .passed → k'.stage = .broken)) ⟨event, stage, .empty⟩ (ask .release) :=
        release_keeps (by simp) ⟨.inl rfl, fun hp => absurd hp hpassed⟩
          (fun _ _ hb => ⟨.inr hb, fun _ => hb⟩) fun _ _ hb => ⟨.inr hb, fun _ => hb⟩
      cases e <;> exact hrelease
    · exact fun k a hb => broken_keeps _ hb (fun k _ => hbroken _ k) hraised
    · exact fun k e hb => broken_keeps _ hb
        (fun k a hb => broken_keeps _ hb (fun k _ => hbroken _ k) hraised) hraised

/-- `_is_initialized`, by which the handler of an event begins. -/
theorem isInitialized_keeps :
    cacheSystem.Keeps (fun k' there =>
        k' = ⟨event, if there = true then .passed else .done, .free⟩ ∨ k'.stage = .broken)
      (fun k' _ => k'.stage = .broken) ⟨event, .new, .free⟩ isInitialized := by
  have hbroken {α : Type} (p : Code α) (Q : CachePhase → α → Prop)
      (hQ : ∀ k a, k.stage = .broken → Q k a) (k : CachePhase) (hb : k.stage = .broken) :
      cacheSystem.Keeps Q (fun k' _ => k'.stage = .broken) k p :=
    broken_keeps p hb hQ fun _ _ => id
  unfold isInitialized
  refine Service.Keeps.bind (plain_keeps trivial (fun _ => by simp) rfl
    (fun _ _ _ _ _ => ?_) (fun _ _ _ _ h => by cases h)
    (fun k _ => hbroken _ _ (fun _ _ => .inr) k) fun _ _ => id)
  refine Service.Keeps.ensuring (Service.Keeps.bind (ask_keeps rfl (fun x w none _ h => ?_)
    (fun _ _ _ _ h => by cases h) ?_ ?_))
  · obtain rfl : w.cache.isNone = none := Except.ok.inj h
    change cacheSystem.Keeps _ _
      (CachePhase.next ⟨event, .new, .locked⟩ w .isNone (.ok w.cache.isNone)) _
    by_cases hcache : w.cache = none
    · have hnext : CachePhase.next ⟨event, .new, .locked⟩ w .isNone (.ok w.cache.isNone) =
          ⟨event, .done, .locked⟩ := by
        simp [CachePhase.next, CachePhase.nextStage, hcache, CachePhase.nextHold]
      rw [hnext, hcache]
      exact release_keeps (by simp) (.inl rfl) (fun _ _ => .inr) fun _ _ => id
    · have hnext : CachePhase.next ⟨event, .new, .locked⟩ w .isNone (.ok w.cache.isNone) =
          ⟨event, .passed, .locked⟩ := by
        simp [CachePhase.next, CachePhase.nextStage, hcache, CachePhase.nextHold]
      have hthere : w.cache.isNone = false := by
        rw [Option.isNone_eq_false_iff]
        exact Option.isSome_iff_ne_none.mpr hcache
      rw [hnext, hthere]
      exact release_keeps (by simp) (.inl rfl) (fun _ _ => .inr) fun _ _ => id
  · exact fun k a hb => hbroken _ _ (fun _ _ => .inr) k hb
  · exact fun k e hb => hbroken _ _ (fun _ _ => id) k hb

/-! ## What follows when the event is stored -/

/-- A part that an operation comes back from, without an event that is to be stored. -/
def Stays (p : Code α) : Prop := ∀ event, cacheSystem.Keeps
  (fun k' _ => Same ⟨event, .done, .free⟩ k') (fun k' _ => Same ⟨event, .done, .free⟩ k')
  ⟨event, .done, .free⟩ p

namespace Stays

variable {β : Type} {p : Code α} {f : α → Code β}

protected theorem pure (a : α) : Stays (pure a) := fun _ => .inl rfl

protected theorem throw (e : Exn) : Stays (throw e : Code α) := fun _ => .inl rfl

protected theorem bind (hp : Stays p) (hf : ∀ a, Stays (f a)) : Stays (p >>= f) := by
  intro event
  refine (hp event).after ?_ fun _ _ => id
  rintro k a (rfl | hb)
  · exact hf a event
  · exact broken_keeps _ hb (fun _ _ => .inr) fun _ _ => .inr

protected theorem tryCatch {h : Exn → Code α} (hp : Stays p) (hh : ∀ e, Stays (h e)) :
    Stays (tryCatch p h) := by
  intro event
  refine Service.Keeps.tryCatch ((hp event).mono (fun _ _ => id) ?_)
  rintro k e (rfl | hb)
  · exact hh e event
  · exact broken_keeps _ hb (fun _ _ => .inr) fun _ _ => .inr

theorem catching {C : Exn → Bool} (hp : Stays p) : Stays (catching C p) := by
  intro event
  refine Service.Keeps.catching ((hp event).mono (fun _ _ => id) fun k e hk => ?_)
  split <;> exact hk

theorem ignoring {C : Exn → Bool} (hp : Stays p) : Stays (ignoring C p) :=
  hp.catching.bind fun _ => .pure ()

theorem forM {l : List β} {g : β → Code Unit} (hg : ∀ b, Stays (g b)) : Stays (l.forM g) := by
  induction l with
  | nil => exact .pure ()
  | cons b l ih => exact (hg b).bind fun _ => ih

end Stays

/-- The requests that have nothing to do with the lock and the events. -/
def Request.Other : Request → Prop
  | .acquire => False
  | .release => False
  | .isNone => False
  | .confdList => False
  | .setCache _ => False
  | .setEntry _ => False
  | .popEntry _ => False
  | .ack => False
  | _ => True

theorem stays_ask {r : Request} (hr : r.Other) : Stays (ask r) := by
  intro event
  have hplain : r.Plain := by
    cases r <;> trivial
  have htakes : CachePhase.Takes ⟨event, .done, .free⟩ r := by
    cases r <;> trivial
  have hhold {w : CacheWorld} {reply : Except Exn r.Reply} :
      CachePhase.nextHold ⟨event, .done, .free⟩ w r reply = .free := by
    cases r <;> first | rfl | exact hr.elim
  refine plain_keeps hplain (fun h => by cases h) htakes (fun _ _ _ _ _ => ?_) (fun _ _ _ _ _ => ?_)
    (fun _ _ => .inr) fun _ _ => .inr
  · rw [hhold]
    exact .inl rfl
  · rw [hhold]
    exact .inl rfl

theorem stays_list : Stays list := by
  refine Stays.bind (fun event => ?_) fun _ => stays_ask trivial
  exact (applications_keeps (by simp)).mono (fun _ _ => id) fun _ _ h => h.1

theorem stays_get (uuid : String) : Stays (get uuid) := by
  refine Stays.bind (fun event => ?_) fun _ => Stays.bind (stays_ask trivial) fun found => ?_
  · exact (applications_keeps (by simp)).mono (fun _ _ => id) fun _ _ h => h.1
  · cases found with
    | none => exact .throw _
    | some application => exact .pure application

theorem stays_createDestinationNode (application : Application) :
    Stays (createDestinationNode application) := by
  refine Stays.tryCatch (Stays.bind (stays_ask trivial) fun _ => .pure ()) fun e => ?_
  cases e with
  | ariNotFound =>
    dsimp only
    cases application.type with
    | none => exact .throw _
    | some bridgeType =>
      exact Stays.bind (stays_ask trivial) fun _ => Stays.bind (stays_ask trivial) fun _ => stays_ask trivial
  | _ => exact .throw _

theorem stays_deleteDestinationNode (application : Application) :
    Stays (deleteDestinationNode application) := by
  refine Stays.bind (Stays.catching (stays_ask trivial)) fun channels => ?_
  cases channels with
  | none => exact .pure ()
  | some channels =>
    refine Stays.bind (Stays.forM fun callId => Stays.ignoring (Stays.tryCatch
      (stays_ask trivial) fun e => ?_)) fun _ => Stays.ignoring (stays_ask trivial)
    cases e <;> exact .throw _

theorem stays_updateDestinationNode (oldApp : Option Application) (newApp : Application) :
    Stays (updateDestinationNode oldApp newApp) := by
  cases oldApp with
  | none => exact .pure ()
  | some oldApp =>
    unfold updateDestinationNode
    dsimp only
    split
    · exact stays_createDestinationNode newApp
    · split
      · exact stays_deleteDestinationNode newApp
      · exact .pure ()

theorem stays_onApplicationRegistered : Stays onApplicationRegistered := by
  refine Stays.ignoring (stays_list.bind fun _ => Stays.forM fun application => ?_)
  split
  · exact stays_createDestinationNode application
  · exact .pure ()

theorem stays_registerApplication (name : AppName) : Stays (registerApplication name) := by
  refine Stays.bind (stays_ask trivial) fun listed => ?_
  cases listed with
  | true => exact .pure ()
  | false =>
    refine Stays.bind (stays_ask trivial) fun _ => Stays.bind (stays_ask trivial) fun _ => ?_
    exact Stays.bind (stays_ask trivial) fun _ => Stays.bind (stays_ask trivial) fun _ =>
      Stays.forM fun _ => stays_onApplicationRegistered

theorem stays_addAriApplication (application : Application) :
    Stays (addAriApplication application) := by
  refine Stays.bind (Stays.bind (stays_ask trivial) fun _ => Stays.bind (stays_ask trivial) fun registered => ?_)
    fun _ => stays_registerApplication _
  cases registered with
  | true => exact stays_onApplicationRegistered
  | false => exact .pure ()

theorem stays_removeAriApplication (application : Application) :
    Stays (removeAriApplication application) := by
  refine Stays.bind (stays_ask trivial) fun _ => Stays.bind (stays_ask trivial) fun listed => ?_
  cases listed with
  | true => exact Stays.bind (stays_ask trivial) fun _ => Stays.bind (stays_ask trivial) fun _ =>
      stays_ask trivial
  | false => exact .pure ()

theorem stays_initialise : Stays initialise :=
  stays_list.bind fun _ => (Stays.forM fun application => stays_addAriApplication application).bind
    fun _ => Stays.forM fun _ => stays_registerApplication _

/-! ## Handlers -/

/-- The handler of an event ends when the event has been stored or skipped. -/
def Ended (event : AppEvent) (k : CachePhase) : Prop := Same ⟨some event, .done, .free⟩ k

/-- What a handler does once its event has passed the test: it stores the event, and goes on. -/
theorem stored_keeps {e : AppEvent} {r : Request} {p : r.Reply → Code Unit}
    (ht : CachePhase.Takes ⟨some e, .passed, .free⟩ r)
    (hr : (∃ app, r = .setEntry app) ∨ ∃ uuid, r = .popEntry uuid) (hp : ∀ a, Stays (p a)) :
    cacheSystem.Keeps (fun k _ => Ended e k) (fun k _ => Ended e k) ⟨some e, .passed, .free⟩
      (ask r >>= p) := by
  have hnext {w : CacheWorld} {reply : Except Exn r.Reply} (hw : w.cache ≠ none) :
      CachePhase.next ⟨some e, .passed, .free⟩ w r reply = ⟨some e, .done, .free⟩ := by
    rcases hr with ⟨app, rfl⟩ | ⟨uuid, rfl⟩ <;>
      simp [CachePhase.next, CachePhase.nextStage, CachePhase.nextHold, hw]
  refine Service.Keeps.bind (ask_keeps ht (fun x w a hthere _ => ?_) (fun x w _ hthere _ => ?_)
    (fun k a hb => broken_keeps _ hb (fun _ _ => .inr) fun _ _ => .inr) fun _ _ => .inr)
  · rw [hnext (hthere rfl)]
    exact hp a (some e)
  · rw [hnext (hthere rfl)]
    exact .inl rfl

/-- `_applications`, before the event is stored. -/
theorem passed_keeps {e : AppEvent} {p : Code Unit}
    (hp : cacheSystem.Keeps (fun k _ => Ended e k) (fun k _ => Ended e k)
      ⟨some e, .passed, .free⟩ p) :
    cacheSystem.Keeps (fun k _ => Ended e k) (fun k _ => Ended e k) ⟨some e, .passed, .free⟩
      (applications >>= fun _ => p) := by
  refine (applications_keeps (by simp)).after ?_ fun k _ h => .inr (h.2 rfl)
  rintro k - (rfl | hb)
  · exact hp
  · exact broken_keeps _ hb (fun _ _ => .inr) fun _ _ => .inr

/-- A handler tests whether the cache is there, and skips the event when it is not. -/
theorem tested_keeps {e : AppEvent} {p : Code Unit}
    (hp : cacheSystem.Keeps (fun k _ => Ended e k) (fun k _ => Ended e k)
      ⟨some e, .passed, .free⟩ p) :
    cacheSystem.Keeps (fun k _ => Ended e k) (fun k _ => Ended e k) ⟨some e, .new, .free⟩
      (isInitialized >>= fun there => if there = true then p else pure ()) := by
  refine isInitialized_keeps.after ?_ fun _ _ => .inr
  rintro k there (rfl | hb)
  · cases there with
    | true => exact hp
    | false => exact .inl rfl
  · exact broken_keeps _ hb (fun _ _ => .inr) fun _ _ => .inr

theorem handle_keeps (e : AppEvent) :
    cacheSystem.Keeps (fun k _ => Ended e k) (fun k _ => Ended e k) ⟨some e, .new, .free⟩
      (handle e) := by
  obtain ⟨kind, app⟩ := e
  cases kind with
  | created =>
    refine tested_keeps (passed_keeps (stored_keeps ?_ (.inl ⟨app, rfl⟩) fun _ => ?_))
    · exact ⟨rfl, _, rfl, rfl, by simp⟩
    · exact stays_addAriApplication app
  | edited =>
    refine tested_keeps (passed_keeps ?_)
    -- what was cached before is read first
    refine Service.Keeps.bind (plain_keeps trivial (fun h => by cases h) trivial
      (fun x w old _ _ => ?_) (fun x w exn hthere h => ?_)
      (fun k a hb => broken_keeps _ hb (fun _ _ => .inr) fun _ _ => .inr) fun _ _ => .inr)
    · refine passed_keeps (stored_keeps ?_ (.inl ⟨app, rfl⟩) fun _ => ?_)
      · exact ⟨rfl, _, rfl, rfl, by simp⟩
      · exact stays_updateDestinationNode old app
    · obtain ⟨cache, hcache⟩ := Option.ne_none_iff_exists'.mp (hthere rfl)
      simp [CacheWorld.reply, CacheWorld.cached, hcache] at h
  | deleted =>
    refine tested_keeps (passed_keeps (stored_keeps ?_ (.inr ⟨app.uuid, rfl⟩) fun _ => ?_))
    · exact ⟨rfl, _, rfl, rfl, rfl⟩
    · exact stays_removeAriApplication app

/-- Every operation keeps to its phases. -/
theorem cache_launch_keeps (job : CacheJob) (w w' : CacheWorld) (k : CachePhase) (p : Code Unit)
    (h : cacheSystem.launch job w = some (w', k, p)) :
    cacheSystem.Keeps (fun _ _ => True) (fun _ _ => True) k p := by
  have hany {p : Code Unit} (hp : Stays p) :
      cacheSystem.Keeps (fun _ _ => True) (fun _ _ => True) ⟨none, .done, .free⟩ p :=
    (hp none).mono (fun _ _ _ => trivial) fun _ _ _ => trivial
  cases job with
  | list =>
    cases h
    exact hany (stays_list.bind fun _ => .pure ())
  | get uuid =>
    cases h
    exact hany ((stays_get uuid).bind fun _ => .pure ())
  | initialise =>
    cases h
    exact hany stays_initialise
  | consume =>
    simp only [cacheSystem] at h
    split at h
    · next event queue _ _ =>
      cases h
      have hack {k : CachePhase} (hk : Ended event k) :
          cacheSystem.Keeps (fun _ _ => True) (fun _ _ => True) k (ask .ack) := by
        rcases hk with rfl | hb
        · exact ask_keeps ⟨rfl, rfl⟩ (fun _ _ _ _ _ => trivial) (fun _ _ _ _ _ => trivial)
            (fun _ _ _ => trivial) fun _ _ _ => trivial
        · exact broken_keeps _ hb (fun _ _ _ => trivial) fun _ _ _ => trivial
      exact Service.Keeps.ensuring ((handle_keeps event).mono (fun _ _ => hack) fun _ _ => hack)
    · cases h

end Phases

/-! ## The cache and confd -/

/-- The events whose changes are made, and which are not yet stored or skipped. -/
def CacheWorld.due (w : CacheWorld) : List AppEvent := w.current.toList ++ w.queue

/-- A list of the applications that needs only the events that are due. -/
def CacheWorld.Awaits (w : CacheWorld) (apps : Dict String Application) : Prop :=
  ∀ uuid, lastTold uuid w.due = none → apps.get uuid = w.confd.get uuid

/-- What an operation has of the lock: the cache is not there before it has the list. -/
def Hold.Holds (w : CacheWorld) : Hold → Prop
  | .empty => w.cache = none
  | .fetched apps => w.cache = none ∧ w.Awaits (index Application.uuid apps)
  | _ => True

/-- What has become of the event of an operation. -/
def CachePhase.Tested (w : CacheWorld) (k : CachePhase) : Prop :=
  match k.stage with
  | .new => k.event.isSome ∧ w.current = k.event
  | .passed => (k.event.isSome ∧ w.current = k.event) ∧ w.cache ≠ none
  | .done => k.event.isSome → w.current = none
  | .broken => False

/-- What is known of the operation of a number. -/
structure CachePhase.Sound (w : CacheWorld) (i : ℕ) (k : CachePhase) : Prop where
  locked : k.hold ≠ .free → w.lock = some i
  holds : k.hold.Holds w
  tested : k.Tested w
  busy : k.event.isSome → w.busy = true

/-- The last event that is due of an application tells what confd has of it; of the others the
cache, and a list that is fetched for it, has what confd has. -/
structure Converging (w : CacheWorld) (ph : ℕ → Option CachePhase) : Prop where
  keyed : Keyed Application.uuid w.confd.get
  told : ∀ uuid content, lastTold uuid w.due = some content → w.confd.get uuid = content
  cached : ∀ cache, w.cache = some cache → w.Awaits cache
  idle : w.busy = false → w.current = none
  sound : ∀ i k, ph i = some k → k.Sound w i
  one : ∀ i j k k', ph i = some k → ph j = some k' → k.event.isSome → k'.event.isSome → i = j

section Steps

variable {w w' : CacheWorld} {ph : ℕ → Option CachePhase} {k : CachePhase} {i : ℕ} {x : Answer}
  {r : Request} {uuid : String} {event : AppEvent}

/-- What is still due after the first event has been stored or skipped. -/
theorem lastTold_of_tail {events : List AppEvent} {content : Option Application}
    (h : lastTold uuid events = some content) : lastTold uuid (event :: events) = some content := by
  rw [lastTold_cons, h]
  rfl

/-- An operation that has its event after the test has found the cache there. -/
theorem CachePhase.Sound.there (h : k.Sound w i) (hp : k.stage = .passed) : w.cache ≠ none := by
  have htested := h.tested
  unfold CachePhase.Tested at htested
  rw [hp] at htested
  exact htested.2

/-- An operation that may still have to store its event. -/
theorem CachePhase.Sound.current (h : k.Sound w i) (hp : k.stage = .new ∨ k.stage = .passed) :
    ∃ event, k.event = some event ∧ w.current = some event := by
  have htested := h.tested
  unfold CachePhase.Tested at htested
  obtain ⟨hsome, hcurrent⟩ : k.event.isSome ∧ w.current = k.event := by
    rcases hp with hp | hp <;> rw [hp] at htested
    · exact htested
    · exact htested.1
  obtain ⟨event, hevent⟩ := Option.isSome_iff_exists.mp hsome
  exact ⟨event, hevent, hcurrent.trans hevent⟩

/-- While one operation has the lock, the others have nothing of it. -/
theorem CachePhase.Sound.free {j : ℕ} (h : k.Sound w j) (hlock : w.lock = some i) (hj : j ≠ i) :
    k.hold = .free := by
  by_contra hheld
  have hsome : some i = some j := hlock.symm.trans (h.locked hheld)
  exact hj (Option.some.inj hsome).symm

/-- A step of one operation: what it does to confd and the cache, to itself and to the others. -/
theorem Converging.update {k' : CachePhase} (hf : Converging w ph) (hk : ph i = some k)
    (hkeyed : Keyed Application.uuid w'.confd.get)
    (htold : ∀ uuid content, lastTold uuid w'.due = some content → w'.confd.get uuid = content)
    (hcached : ∀ cache, w'.cache = some cache → w'.Awaits cache)
    (hidle : w'.busy = false → w'.current = none) (hself : k'.Sound w' i)
    (hothers : ∀ j k₁, j ≠ i → ph j = some k₁ → k₁.Sound w j → k₁.Sound w' j)
    (hevent : k'.event.isSome → k.event.isSome) :
    Converging w' (Function.update ph i (some k')) where
  keyed := hkeyed
  told := htold
  cached := hcached
  idle := hidle
  sound j k₁ hj := by
    obtain ⟨rfl, rfl⟩ | ⟨hne, hold⟩ := System.update_cases hj
    · exact hself
    · exact hothers j k₁ hne hold (hf.sound j k₁ hold)
  one j j' k₁ k₂ hj hj' h₁ h₂ := by
    obtain ⟨rfl, rfl⟩ | ⟨-, hold⟩ := System.update_cases hj <;>
      obtain ⟨rfl, rfl⟩ | ⟨-, hold'⟩ := System.update_cases hj'
    · rfl
    · exact hf.one _ _ _ _ hk hold' (hevent h₁) h₂
    · exact hf.one _ _ _ _ hold hk h₁ (hevent h₂)
    · exact hf.one _ _ _ _ hold hold' h₁ h₂

/-- A step that only an operation itself notices. -/
theorem Converging.turn {k' : CachePhase} (hf : Converging w ph) (hk : ph i = some k)
    (hself : k'.Sound w i) (hevent : k'.event.isSome → k.event.isSome) :
    Converging w (Function.update ph i (some k')) :=
  hf.update hk hf.keyed hf.told hf.cached hf.idle hself (fun _ _ _ _ h => h) hevent

/-- The lock is taken, or given back. -/
theorem Converging.relock {k' : CachePhase} {lock : Option ℕ} (hf : Converging w ph)
    (hk : ph i = some k) (hself : k'.Sound { w with lock := lock } i)
    (hfree : ∀ (j : ℕ) (k₁ : CachePhase), j ≠ i → k₁.Sound w j → k₁.hold = .free)
    (hevent : k'.event.isSome → k.event.isSome) :
    Converging { w with lock := lock } (Function.update ph i (some k')) := by
  refine hf.update hk hf.keyed hf.told hf.cached hf.idle hself (fun j k₁ hj _ h => ?_) hevent
  have hnone := hfree j k₁ hj h
  refine ⟨fun hheld => absurd hnone hheld, ?_, h.tested, h.busy⟩
  rw [hnone]
  trivial

/-- An event is skipped before the cache is there. -/
theorem Converging.skip {k' : CachePhase} (hf : Converging w ph) (hk : ph i = some k)
    (hnew : k.stage = .new) (hlock : w.lock = some i) (hnone : w.cache = none)
    (hself : k'.Sound { w with current := none } i) (hevent : k'.event.isSome → k.event.isSome) :
    Converging { w with current := none } (Function.update ph i (some k')) := by
  obtain ⟨event, hown, hcurrent⟩ := (hf.sound i k hk).current (.inl hnew)
  refine hf.update hk hf.keyed (fun uuid content h => ?_) (fun cache h => ?_) (fun _ => rfl) hself
    (fun j k₁ hj hold h => ?_) hevent
  · refine hf.told uuid content ?_
    unfold CacheWorld.due at h ⊢
    rw [hcurrent]
    exact lastTold_of_tail h
  · rw [show w.cache = some cache from h] at hnone
    cases hnone
  · have hother : ¬ k₁.event.isSome := fun hsome =>
      hj (hf.one j i k₁ k hold hk hsome (by rw [hown]; rfl))
    refine ⟨h.locked, ?_, ?_, h.busy⟩
    · rw [h.free hlock hj]
      trivial
    · have htested := h.tested
      unfold CachePhase.Tested at htested ⊢
      cases hstage : k₁.stage <;> rw [hstage] at htested
      · exact absurd htested.1 hother
      · exact absurd htested.1.1 hother
      · exact fun hsome => absurd hsome hother
      · exact htested

/-- An event is stored in the cache. -/
theorem Converging.store {k' : CachePhase} {cache cache' : Dict String Application}
    (hf : Converging w ph) (hk : ph i = some k) (hpassed : k.stage = .passed)
    (hown : k.event = some event) (hcache : w.cache = some cache)
    (hstored : ∀ uuid, cache'.get uuid =
      if uuid = event.app.uuid then event.content else cache.get uuid)
    (hself : k'.Sound { w with cache := some cache', current := none } i)
    (hevent : k'.event.isSome → k.event.isSome) :
    Converging { w with cache := some cache', current := none }
      (Function.update ph i (some k')) := by
  obtain ⟨event', hown', hcurrent⟩ := (hf.sound i k hk).current (.inr hpassed)
  obtain rfl : event = event' := Option.some.inj (hown.symm.trans hown')
  have hdue : w.due = event :: w.queue := by
    unfold CacheWorld.due
    rw [hcurrent]
    rfl
  refine hf.update hk hf.keyed (fun uuid content h => ?_) (fun c h => ?_) (fun _ => rfl) hself
    (fun j k₁ hj hold h => ?_) hevent
  · refine hf.told uuid content ?_
    rw [hdue]
    exact lastTold_of_tail h
  · obtain rfl := Option.some.inj h
    intro uuid hnone
    have hqueue : lastTold uuid w.queue = none := hnone
    change cache'.get uuid = w.confd.get uuid
    rw [hstored]
    by_cases hid : uuid = event.app.uuid
    · rw [if_pos hid]
      refine (hf.told uuid event.content ?_).symm
      rw [hdue, lastTold_cons, hqueue, if_pos hid.symm]
      rfl
    · rw [if_neg hid]
      refine hf.cached cache hcache uuid ?_
      rw [hdue, lastTold_cons, hqueue, if_neg (Ne.symm hid)]
      rfl
  · have hother : ¬ k₁.event.isSome := fun hsome =>
      hj (hf.one j i k₁ k hold hk hsome (by rw [hown]; rfl))
    refine ⟨h.locked, ?_, ?_, h.busy⟩
    · have hholds := h.holds
      cases hhold : k₁.hold <;> rw [hhold] at hholds
      · trivial
      · trivial
      · rw [show w.cache = none from hholds] at hcache
        cases hcache
      · rw [show w.cache = none from hholds.1] at hcache
        cases hcache
    · have htested := h.tested
      unfold CachePhase.Tested at htested ⊢
      cases hstage : k₁.stage <;> rw [hstage] at htested
      · exact absurd htested.1 hother
      · exact absurd htested.1.1 hother
      · exact fun hsome => absurd hsome hother
      · exact htested

/-- What a plain step leaves of an operation. -/
theorem CachePhase.Sound.plain {reply : Except Exn r.Reply} (h : k.Sound w i) (hr : r.Plain)
    (hnew : k.stage = .new → r ≠ .isNone) :
    k.next w r reply = ⟨k.event, k.stage, k.nextHold w r reply⟩ :=
  next_plain hr h.there hnew

/-- A step of an operation that has to do with the lock only. -/
theorem CachePhase.Sound.to {hold : Hold} (h : k.Sound w i)
    (hlocked : hold ≠ .free → w.lock = some i) (hholds : hold.Holds w) :
    CachePhase.Sound w i ⟨k.event, k.stage, hold⟩ :=
  ⟨hlocked, hholds, h.tested, h.busy⟩

/-- What storing the event leaves of an operation. -/
theorem next_stored {reply : Except Exn r.Reply}
    (hstage : k.nextStage w r = .done) (hhold : k.nextHold w r reply = k.hold) (hr : r ≠ .ack) :
    k.next w r reply = ⟨k.event, .done, k.hold⟩ := by
  unfold CachePhase.next
  rw [hstage, hhold, if_neg fun h => hr h.1]

/-- An operation that has stored its event has not to do with the fetch of the cache. -/
theorem CachePhase.Sound.done {cache cache' : Dict String Application} (h : k.Sound w i)
    (hcache : w.cache = some cache) : CachePhase.Sound
      { w with cache := some cache', current := none } i ⟨k.event, .done, k.hold⟩ := by
  refine ⟨h.locked, ?_, fun _ => rfl, h.busy⟩
  have hholds := h.holds
  change k.hold.Holds _
  cases hhold : k.hold <;> rw [hhold] at hholds
  · trivial
  · trivial
  · rw [show w.cache = none from hholds] at hcache
    cases hcache
  · rw [show w.cache = none from hholds.1] at hcache
    cases hcache

/-- Every step of an operation. -/
theorem Converging.answer (hf : Converging w ph) (hk : ph i = some k) (ht : k.Takes r)
    (hlock : r = .acquire → w.lock = none) :
    Converging (w.after i k r) (Function.update ph i (some (k.next w r (w.reply x r)))) := by
  have hs := hf.sound i k hk
  have hplain (hr : r.Plain) (hnew : k.stage = .new → r ≠ .isNone) :
      k.next w r (w.reply x r) = ⟨k.event, k.stage, k.nextHold w r (w.reply x r)⟩ :=
    hs.plain hr hnew
  cases r with
  | acquire =>
    have hnone := hlock rfl
    rw [hplain trivial fun _ => by simp]
    refine hf.relock hk ⟨fun _ => rfl, trivial, hs.tested, hs.busy⟩ (fun j k₁ _ h => ?_) id
    by_contra hheld
    rw [h.locked hheld] at hnone
    cases hnone
  | release =>
    have hheld := hs.locked ht
    rw [hplain trivial fun _ => by simp]
    exact hf.relock hk ⟨fun h => absurd rfl h, trivial, hs.tested, hs.busy⟩
      (fun j k₁ hj h => h.free hheld hj) id
  | isNone =>
    have hheld : w.lock = some i := hs.locked (by rw [show k.hold = .locked from ht]; simp)
    by_cases hnew : k.stage = .new
    · obtain ⟨event, hown, hcurrent⟩ := hs.current (.inl hnew)
      by_cases hnone : w.cache = none
      · have hnext : k.next w .isNone (w.reply x .isNone) = ⟨k.event, .done, .locked⟩ := by
          simp [CachePhase.next, CachePhase.nextStage, CachePhase.nextHold, hnew, hnone]
        have hafter : w.after i k .isNone = { w with current := none } := by
          simp [CacheWorld.after, hnew, hnone, CacheWorld.settle, hown]
        rw [hnext, hafter]
        exact hf.skip hk hnew hheld hnone ⟨fun _ => hheld, trivial, fun _ => rfl, hs.busy⟩ id
      · have hnext : k.next w .isNone (w.reply x .isNone) = ⟨k.event, .passed, .locked⟩ := by
          simp [CachePhase.next, CachePhase.nextStage, CachePhase.nextHold, hnew, hnone]
        have hafter : w.after i k .isNone = w := by
          simp [CacheWorld.after, hnone]
        rw [hnext, hafter]
        refine hf.turn hk ⟨fun _ => hheld, trivial, ?_, hs.busy⟩ id
        exact ⟨⟨by rw [hown]; rfl, by rw [hown, hcurrent]⟩, hnone⟩
    · have hafter : w.after i k .isNone = w := by
        simp [CacheWorld.after, hnew]
      rw [hplain trivial fun h => absurd h hnew, hafter]
      refine hf.turn hk (hs.to (fun _ => hheld) ?_) id
      change Hold.Holds w (if w.cache = none ∧ k.stage ≠ .new then .empty else .locked)
      split
      · next h => exact h.1
      · trivial
  | confdList =>
    have hempty : k.hold = .empty := ht
    have hheld : w.lock = some i := hs.locked (by rw [hempty]; simp)
    have hnone : w.cache = none := by
      have := hs.holds
      rwa [hempty] at this
    rw [hplain trivial fun _ => by simp]
    refine hf.turn hk (hs.to (fun _ => hheld) ?_) id
    cases hx : x .confdList with
    | error e => simpa [CacheWorld.reply, hx, Except.map, CachePhase.nextHold] using hs.holds
    | ok apps =>
      simp only [CacheWorld.reply, hx, Except.map, CachePhase.nextHold]
      refine ⟨hnone, fun uuid _ => ?_⟩
      rw [get_index_items hf.keyed]
  | setCache apps =>
    have hfetched : k.hold = .fetched apps := ht
    have hheld : w.lock = some i := hs.locked (by rw [hfetched]; simp)
    obtain ⟨hnone, hawaits⟩ : w.cache = none ∧ w.Awaits (index Application.uuid apps) := by
      have := hs.holds
      rwa [hfetched] at this
    rw [hplain trivial fun _ => by simp]
    refine hf.update hk hf.keyed hf.told (fun cache h => ?_) hf.idle ?_ (fun j k₁ hj _ h => ?_) id
    · obtain rfl := Option.some.inj h
      exact hawaits
    · refine ⟨fun _ => hheld, trivial, ?_, hs.busy⟩
      have htested := hs.tested
      have hnot : k.stage ≠ .passed := fun hp => hs.there hp hnone
      unfold CachePhase.Tested at htested ⊢
      cases hstage : k.stage <;> rw [hstage] at htested
      · exact htested
      · exact absurd hstage hnot
      · exact htested
      · exact htested
    · refine ⟨h.locked, ?_, ?_, h.busy⟩
      · rw [h.free hheld hj]
        trivial
      · have htested := h.tested
        unfold CachePhase.Tested at htested ⊢
        cases hstage : k₁.stage <;> rw [hstage] at htested
        · exact htested
        · exact ⟨htested.1, by simp [CacheWorld.after]⟩
        · exact htested
        · exact htested
  | setEntry app =>
    obtain ⟨hpassed, event, hown, rfl, hkind⟩ := ht
    obtain ⟨cache, hcache⟩ := Option.ne_none_iff_exists'.mp (hs.there hpassed)
    have hafter : w.after i k (.setEntry event.app) =
        { w with cache := some (cache.set event.app.uuid event.app), current := none } := by
      simp [CacheWorld.after, CacheWorld.settle, hcache, hown]
    rw [next_stored (by simp [CachePhase.nextStage, hpassed, hcache]) rfl (by simp),
      hafter]
    refine hf.store hk hpassed hown hcache (fun uuid => ?_) ?_ id
    · rw [Dict.get_set, AppEvent.content, if_neg hkind]
    · exact hs.done hcache
  | popEntry uuid =>
    obtain ⟨hpassed, event, hown, rfl, hkind⟩ := ht
    obtain ⟨cache, hcache⟩ := Option.ne_none_iff_exists'.mp (hs.there hpassed)
    have hafter : w.after i k (.popEntry event.app.uuid) =
        { w with cache := some (cache.pop event.app.uuid), current := none } := by
      simp [CacheWorld.after, CacheWorld.settle, hcache, hown]
    rw [next_stored (by simp [CachePhase.nextStage, hpassed, hcache]) rfl (by simp),
      hafter]
    refine hf.store hk hpassed hown hcache (fun uuid => ?_) ?_ id
    · rw [Dict.get_pop, AppEvent.content, if_pos hkind]
    · exact hs.done hcache
  | ack =>
    obtain ⟨hdone, hsome⟩ := ht
    have hnext : k.next w .ack (w.reply x .ack) = ⟨none, .done, k.hold⟩ := by
      simp [CachePhase.next, CachePhase.nextStage, CachePhase.nextHold, hdone]
    have hcurrent : w.current = none := by
      have := hs.tested
      unfold CachePhase.Tested at this
      rw [hdone] at this
      exact this hsome
    rw [hnext]
    refine hf.update hk hf.keyed hf.told hf.cached (fun _ => hcurrent) ?_ (fun j k₁ hj hold h => ?_)
      (fun h => by cases h)
    · exact ⟨hs.locked, hs.holds, fun h => (by cases h), fun h => by cases h⟩
    · refine ⟨h.locked, h.holds, h.tested, fun h₁ => ?_⟩
      exact absurd (hf.one j i k₁ k hold hk h₁ hsome) hj
  | _ =>
    rw [hplain trivial fun _ => by simp]
    exact hf.turn hk (hs.to hs.locked hs.holds) id

/-- A change of confd is due. -/
theorem Converging.outside (hf : Converging w ph) (h : cacheSystem.outside event w = some w') :
    Converging w' ph := by
  simp only [cacheSystem] at h
  split at h
  swap
  · cases h
  obtain rfl := Option.some.inj h
  have hdue : CacheWorld.due { w with
      confd := applyEvent w.confd event, queue := w.queue ++ [event] } = w.due ++ [event] :=
    (List.append_assoc ..).symm
  -- who needs only what is due before, needs only this after
  have hawaits {apps : Dict String Application} (h : w.Awaits apps) : CacheWorld.Awaits { w with
      confd := applyEvent w.confd event, queue := w.queue ++ [event] } apps := by
    intro uuid hnone
    rw [hdue, lastTold_concat] at hnone
    split at hnone
    · cases hnone
    · next hne =>
      change apps.get uuid = (applyEvent w.confd event).get uuid
      rw [get_applyEvent, if_neg (Ne.symm hne)]
      exact h uuid hnone
  refine ⟨fun uuid app happ => ?_, fun uuid content htold => ?_, fun cache hc => ?_, hf.idle,
    fun i k hk => ?_, hf.one⟩
  · simp only [get_applyEvent] at happ
    split at happ
    · next heq =>
      unfold AppEvent.content at happ
      split at happ
      · cases happ
      · rw [← Option.some.inj happ, heq]
    · exact hf.keyed uuid app happ
  · rw [hdue, lastTold_concat] at htold
    change (applyEvent w.confd event).get uuid = content
    rw [get_applyEvent]
    split at htold
    · next heq =>
      rw [if_pos heq.symm]
      exact Option.some.inj htold
    · next hne =>
      rw [if_neg (Ne.symm hne)]
      exact hf.told uuid content htold
  · exact hawaits (hf.cached cache hc)
  · have hs := hf.sound i k hk
    refine ⟨hs.locked, ?_, hs.tested, hs.busy⟩
    have hholds := hs.holds
    cases hhold : k.hold <;> rw [hhold] at hholds
    · trivial
    · trivial
    · exact hholds
    · exact ⟨hholds.1, hawaits hholds.2⟩

/-- An operation starts. -/
theorem Converging.start {job : CacheJob} {p : Code Unit} (hf : Converging w ph)
    (hi : ph i = none) (h : cacheSystem.launch job w = some (w', k, p)) :
    Converging w' (Function.update ph i (some k)) := by
  -- an operation that is no handler of an event
  have hreader : Converging w (Function.update ph i (some ⟨none, .done, .free⟩)) := by
    refine ⟨hf.keyed, hf.told, hf.cached, hf.idle, fun j k₁ hj => ?_, fun j j' k₁ k₂ hj hj' h₁ h₂ => ?_⟩
    · obtain ⟨rfl, rfl⟩ | ⟨-, hold⟩ := System.update_cases hj
      · exact ⟨fun h => absurd rfl h, trivial, fun h => (by cases h), fun h => by cases h⟩
      · exact hf.sound j k₁ hold
    · obtain ⟨rfl, rfl⟩ | ⟨-, hold⟩ := System.update_cases hj
      · cases h₁
      · obtain ⟨rfl, rfl⟩ | ⟨-, hold'⟩ := System.update_cases hj'
        · cases h₂
        · exact hf.one j j' k₁ k₂ hold hold' h₁ h₂
  cases job with
  | list =>
    cases h
    exact hreader
  | get uuid =>
    cases h
    exact hreader
  | initialise =>
    cases h
    exact hreader
  | consume =>
    simp only [cacheSystem] at h
    split at h
    swap
    · cases h
    · next event queue hbusy hqueue =>
      cases h
      have hcurrent := hf.idle hbusy
      have hdue : CacheWorld.due { w with
          current := some event, queue := queue, busy := true } = w.due := by
        unfold CacheWorld.due
        rw [hcurrent, hqueue]
        rfl
      -- no handler is under way
      have hnone (j : ℕ) (k₁ : CachePhase) (hj : ph j = some k₁) : ¬ k₁.event.isSome := by
        intro hsome
        have := (hf.sound j k₁ hj).busy hsome
        rw [hbusy] at this
        cases this
      have hawaits {apps : Dict String Application} (h : w.Awaits apps) : CacheWorld.Awaits
          { w with current := some event, queue := queue, busy := true } apps := by
        intro uuid hlast
        rw [hdue] at hlast
        exact h uuid hlast
      refine ⟨hf.keyed, fun uuid content htold => ?_, fun cache hc => hawaits (hf.cached cache hc),
        fun h => (by cases h), fun j k₁ hj => ?_, fun j j' k₁ k₂ hj hj' h₁ h₂ => ?_⟩
      · rw [hdue] at htold
        exact hf.told uuid content htold
      · obtain ⟨rfl, rfl⟩ | ⟨-, hold⟩ := System.update_cases hj
        · exact ⟨fun h => absurd rfl h, trivial, ⟨rfl, rfl⟩, fun _ => rfl⟩
        · have hs := hf.sound j k₁ hold
          refine ⟨hs.locked, ?_, ?_, fun _ => rfl⟩
          · have hholds := hs.holds
            cases hhold : k₁.hold <;> rw [hhold] at hholds
            · trivial
            · trivial
            · exact hholds
            · exact ⟨hholds.1, hawaits hholds.2⟩
          · have htested := hs.tested
            unfold CachePhase.Tested at htested ⊢
            cases hstage : k₁.stage <;> rw [hstage] at htested
            · exact absurd htested.1 (hnone j k₁ hold)
            · exact absurd htested.1.1 (hnone j k₁ hold)
            · exact fun hsome => absurd hsome (hnone j k₁ hold)
            · exact htested
      · obtain ⟨rfl, rfl⟩ | ⟨-, hold⟩ := System.update_cases hj
        · obtain ⟨rfl, rfl⟩ | ⟨-, hold'⟩ := System.update_cases hj'
          · rfl
          · exact absurd h₂ (hnone j' k₂ hold')
        · exact absurd h₁ (hnone j k₁ hold)

end Steps

/-! ## Runs -/

section Runs

variable {s : CachePool}

theorem converging_of_reachable (h : cacheSystem.machine.Reachable s) :
    Converging s.world s.phases := by
  refine System.invariant_phases cache_launch_keeps ?_ ?_ ?_ ?_ (System.reaches_of_reachable h)
  · rintro w ⟨hcache, -, hcurrent, hqueue, -, hkeyed⟩
    have hdue : w.due = [] := by
      unfold CacheWorld.due
      rw [hcurrent, hqueue]
      rfl
    refine ⟨hkeyed, fun uuid content htold => ?_, fun cache hc => ?_, fun _ => hcurrent,
      fun _ _ hk => (by cases hk), fun _ _ _ _ hk => by cases hk⟩
    · rw [hdue] at htold
      cases htold
    · rw [hcache] at hc
      cases hc
  · intro w ph i job w' k p hf hi hl
    exact hf.start hi hl
  · intro w ph i x k r y hf hk ht _ ha
    have hblocked : ¬ (r = .acquire ∧ w.lock ≠ none) := by
      intro hb
      simp [cacheSystem, hb] at ha
    simp only [cacheSystem, if_neg hblocked, Option.some.injEq] at ha
    subst ha
    refine hf.answer hk (ht.resolve_left fun hbroken => ?_) fun hr => ?_
    · have htested := (hf.sound i k hk).tested
      unfold CachePhase.Tested at htested
      rw [hbroken] at htested
      exact htested
    · by_contra hlock
      exact hblocked ⟨hr, hlock⟩
  · intro w ph event w' hf he
    exact hf.outside he

/-- **Once the cache is there and every event is handled, the cache has exactly the
applications of confd.** -/
theorem cache_converges {cache : Dict String Application}
    (h : cacheSystem.machine.Reachable s) (hcache : s.world.cache = some cache)
    (hdelivered : s.world.queue = []) (hidle : s.world.busy = false) :
    cache.get = s.world.confd.get := by
  have hf := converging_of_reachable h
  have hdue : s.world.due = [] := by
    unfold CacheWorld.due
    rw [hf.idle hidle, hdelivered]
    rfl
  funext uuid
  refine hf.cached cache hcache uuid ?_
  rw [hdue, lastTold_nil]

end Runs

/-! ## An application that comes while the list is fetched -/

/-- Confd has one application, and nothing has happened. -/
def oneApplication : CachePool where
  world := ⟨(∅ : Dict String Application).set "a" ⟨"a", none, none⟩, none, none, none, [], false⟩
  tasks _ := none

theorem oneApplication_init : cacheSystem.machine.init oneApplication := by
  refine ⟨⟨rfl, rfl, rfl, rfl, rfl, fun uuid app h => ?_⟩, fun _ => rfl⟩
  simp only [oneApplication, Dict.get_set] at h
  split at h
  · next heq => rw [← Option.some.inj h, heq]
  · cases h

/-- Confd answers, and Asterisk does not. -/
def confdOnly : Answer
  | .confdList => .ok []
  | _ => .error .requestException

/-- An application comes before the list is read, and the other goes before it is stored; then
both events are handled. -/
def listing : List CacheLabel :=
  [.start 0 .list, .answer 0 confdOnly, .answer 0 confdOnly,
    .outside ⟨.created, ⟨"b", some "node", some "mixing"⟩⟩, .answer 0 confdOnly,
    .outside ⟨.deleted, ⟨"a", none, none⟩⟩, .answer 0 confdOnly, .answer 0 confdOnly] ++
    .start 1 .consume :: List.replicate 9 (.answer 1 confdOnly) ++
    .start 2 .consume :: List.replicate 9 (.answer 2 confdOnly)

/-- Where this leads. -/
def afterListing : CachePool := (cacheSystem.machine.run listing oneApplication).getD oneApplication

theorem cache_converges_listing : ∃ cache, afterListing.world.cache = some cache ∧
    cache.get "a" = none ∧ cache.get "b" = some ⟨"b", some "node", some "mixing"⟩ ∧
    cache.get = afterListing.world.confd.get := by
  have hreach : cacheSystem.machine.Reachable afterListing := by
    unfold afterListing
    cases hrun : cacheSystem.machine.run listing oneApplication with
    | none => exact .init oneApplication_init
    | some s => exact Machine.Reaches.reachable_run (.init oneApplication_init) hrun
  obtain ⟨cache, hcache⟩ : ∃ cache, afterListing.world.cache = some cache := ⟨_, rfl⟩
  have hconverges := cache_converges hreach hcache rfl rfl
  refine ⟨cache, hcache, ?_, ?_, hconverges⟩ <;> rw [hconverges] <;> rfl

end Calld.Applications
