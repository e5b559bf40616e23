/-
# Pushes and their cancellations

A push is requested, published, and then cancelled or completed.  Every cancellation is
that of a push that has been published, no push is cancelled twice, and none is cancelled
after the mobile has answered.

The last part is not so in every run: the section that publishes a push looks for any
pending push of the call and not for its own, so that a push that has been completed
meanwhile is sent all the same when a newer request is pending.
-/
import Calld.DialMobile.Sections

namespace Calld.DialMobile

open Effect Effect.Program

/-! ## What is to be shown -/

/-- A cancellation is that of a push published before, for the first time, and before the
push was completed. -/
def CancelsMatch (past : List Event) : Event → Prop
  | .cancelPushNotification n => .pushNotification n ∈ past ∧
      (∀ n', .cancelPushNotification n' ∈ past → n'.push ≠ n.push) ∧
      ∀ push, .pushCompleted push ∈ past → push.id ≠ n.push
  | _ => True

/-- A push that has been completed is about to be published because of a newer pending one. -/
def Overtaken (s : Sys) : Label → Prop
  | .run (.publishPush push) _ =>
      (s.world.incomingCalls.get push.originCallId).any IncomingCall.isPending = true ∧
        .pushCompleted push ∈ s.world.trace
  | _ => False

instance (s : Sys) (a : Label) : Decidable (Overtaken s a) := by
  unfold Overtaken
  rcases a with t | timer | ⟨t, env⟩
  · infer_instance
  · infer_instance
  · rcases t with ⟨⟩ <;> infer_instance

/-! ## The invariant -/

/-- The events about pushes. -/
def Event.aboutPush : Event → Bool
  | pushRequested _ | pushNotification _ | cancelPushNotification _ | pushCompleted _ => true
  | _ => false

/-- What is known of the pushes. -/
structure PushesKnown (w : World) : Prop where
  bounded : ∀ push, .pushRequested push ∈ w.trace → push.id < w.objects
  unique : ∀ push push', .pushRequested push ∈ w.trace → .pushRequested push' ∈ w.trace →
    push.id = push'.id → push = push'
  entries : ∀ call incoming, w.incomingCalls.get call = some incoming →
    incoming.push.originCallId = call ∧ .pushRequested incoming.push ∈ w.trace
  published : ∀ n, .pushNotification n ∈ w.trace → ∃ push,
    .pushRequested push ∈ w.trace ∧ n = push.notification push.originCallId
  cancelled : ∀ n, .cancelPushNotification n ∈ w.trace → .pushNotification n ∈ w.trace
  completed : ∀ push, .pushCompleted push ∈ w.trace → .pushRequested push ∈ w.trace
  notified : ∀ call push, w.incomingCalls.get call = some (.notified push) →
    .pushNotification (push.notification call) ∈ w.trace ∧
      ∀ n, .cancelPushNotification n ∈ w.trace → n.push ≠ push.id
  opened : ∀ call incoming, w.incomingCalls.get call = some incoming → incoming.isOpen = true →
    .pushCompleted incoming.push ∉ w.trace
  matching : Always CancelsMatch w.trace

/-- A push that is still to be published. -/
def Unpublished (push : Push) (w : World) : Prop :=
  .pushRequested push ∈ w.trace ∧ ∀ n, .pushNotification n ∈ w.trace → n.push ≠ push.id

/-- What is known of the pushes, and of the sections that will publish one. -/
structure PushesTracked (s : Sys) : Prop where
  known : PushesKnown s.world
  unpublished : ∀ push, .publishPush push ∈ s.tasks → Unpublished push s.world
  once : ∀ push, s.tasks.count (.publishPush push) ≤ 1

/-! ## What is no matter of pushes -/

/-- Entries may go, and events about other things may happen. -/
abbrev PushAside : World → World → Prop := Aside Event.aboutPush World.incomingCalls

/-- The changes that are a matter of pushes. -/
def Change.Pushes : Change → Prop
  | incomingCall .. => True
  | event e => e.aboutPush = true
  | _ => False

theorem Change.aside {k : Change} (h : ¬ k.Pushes) (w : World) : PushAside w (k.apply w) := by
  cases k with
  | incomingCall call incoming => exact absurd trivial h
  | event e => exact .event (by simpa [Change.Pushes] using h) w
  | pruned b call => exact .of_shrinks rfl (Nat.le_refl _) (Effect.Dict.shrinks_pop _ call)
  | object => exact .of_shrinks rfl (Nat.le_succ _) (.refl _)
  | _ => exact .of_shrinks rfl (Nat.le_refl _) (.refl _)

/-- The tasks that are a matter of pushes. -/
def Task.Pushes : Task → Prop
  | .sendPush _ | .publishPush _ | .joinCancel .. | .gonePush .. | .cancelPush _
  | .completePush _ | .fallbackCommit .. => True
  | _ => False

theorem Task.aside {t : Task} (h : ¬ t.Pushes) (env : Env) (w : World) :
    PushAside w (t.code env w).2 := by
  refine .of_madeOf (fun k hk w => Change.aside (fun hp => ?_) w) (t.madeOf_may env) w
  cases k with
  | incomingCall call incoming => cases t <;> first | exact hk | exact h trivial
  | event e =>
    cases e <;> cases hp
    all_goals cases t <;> first | exact hk | exact h trivial
  | _ => exact hp

namespace PushesKnown

variable {w w' : World} {call : CallId} {push : Push}

theorem initial : PushesKnown World.initial where
  bounded _ h := by cases h
  unique _ _ h := by cases h
  entries _ _ h := by cases h
  published _ h := by cases h
  cancelled _ h := by cases h
  completed _ h := by cases h
  notified _ _ h := by cases h
  opened _ _ h := by cases h
  matching := .nil

theorem aside (h : PushesKnown w) (ha : PushAside w w') : PushesKnown w' := by
  constructor
  · intro push hp
    exact (h.bounded push ((ha.mem_trace rfl).mp hp)).trans_le ha.objects
  · intro push push' hp hp'
    exact h.unique push push' ((ha.mem_trace rfl).mp hp) ((ha.mem_trace rfl).mp hp')
  · intro call incoming hg
    obtain ⟨ho, hp⟩ := h.entries call incoming (ha.entries _ _ hg)
    exact ⟨ho, (ha.mem_trace rfl).mpr hp⟩
  · intro n hn
    obtain ⟨push, hp, hn⟩ := h.published n ((ha.mem_trace rfl).mp hn)
    exact ⟨push, (ha.mem_trace rfl).mpr hp, hn⟩
  · intro n hn
    exact (ha.mem_trace rfl).mpr (h.cancelled n ((ha.mem_trace rfl).mp hn))
  · intro push hp
    exact (ha.mem_trace rfl).mpr (h.completed push ((ha.mem_trace rfl).mp hp))
  · intro call push hg
    obtain ⟨hn, hc⟩ := h.notified call push (ha.entries _ _ hg)
    exact ⟨(ha.mem_trace rfl).mpr hn, fun n hn' => hc n ((ha.mem_trace rfl).mp hn')⟩
  · intro call incoming hg ho hc
    exact h.opened call incoming (ha.entries _ _ hg) ho ((ha.mem_trace rfl).mp hc)
  · obtain ⟨evs, hevs, htr⟩ := ha.trace
    rw [htr]
    refine h.matching.append fun e he past => ?_
    have hother := hevs e he
    cases e <;> trivial

/-- A new request has a new identity. -/
theorem requested (h : PushesKnown w) (r : PushRequest) : PushesKnown (w.requested r) := by
  have hin : ∀ call, (w.requested r).incomingCalls.get call =
      if call = r.originCallId then some (.pending (r.push w.objects))
      else w.incomingCalls.get call := fun call => Effect.Dict.get_set ..
  have hfresh : .pushRequested (r.push w.objects) ∉ w.trace := fun hp =>
    absurd (h.bounded _ hp) (Nat.lt_irrefl w.objects)
  constructor
  · intro push hp
    show push.id < w.objects + 2
    rcases mem_snoc.mp hp with hp | hp
    · exact (h.bounded push hp).trans (by omega)
    · cases hp
      show w.objects < w.objects + 2
      omega
  · intro push push' hp hp' hid
    rcases mem_snoc.mp hp with hp | hp <;> rcases mem_snoc.mp hp' with hp' | hp'
    · exact h.unique push push' hp hp' hid
    · cases hp'
      exact absurd (h.bounded push hp) (by rw [hid]; exact Nat.lt_irrefl w.objects)
    · cases hp
      exact absurd (h.bounded push' hp') (by rw [← hid]; exact Nat.lt_irrefl w.objects)
    · cases hp
      cases hp'
      rfl
  · intro call incoming hg
    rw [hin] at hg
    split at hg
    · cases hg
      exact ⟨Eq.symm ‹_›, mem_snoc.mpr (.inr rfl)⟩
    · obtain ⟨ho, hp⟩ := h.entries call incoming hg
      exact ⟨ho, mem_snoc.mpr (.inl hp)⟩
  · intro n hn
    obtain ⟨push, hp, hn⟩ := h.published n (mem_of_snoc hn nofun)
    exact ⟨push, mem_snoc.mpr (.inl hp), hn⟩
  · intro n hn
    exact mem_snoc.mpr (.inl (h.cancelled n (mem_of_snoc hn nofun)))
  · intro push hp
    exact mem_snoc.mpr (.inl (h.completed push (mem_of_snoc hp nofun)))
  · intro call push hg
    rw [hin] at hg
    split at hg
    · cases hg
    · obtain ⟨hn, hc⟩ := h.notified call push hg
      exact ⟨mem_snoc.mpr (.inl hn), fun n hn' => hc n (mem_of_snoc hn' nofun)⟩
  · intro call incoming hg ho hc
    have hc := mem_of_snoc hc nofun
    rw [hin] at hg
    split at hg
    · cases hg
      exact hfresh (h.completed _ hc)
    · exact h.opened call incoming hg ho hc
  · exact h.matching.snoc trivial

/-- A push is published for the first time. -/
theorem publish (h : PushesKnown w) (hp : Unpublished push w)
    (hc : .pushCompleted push ∉ w.trace) : PushesKnown (w.published push) := by
  have hin : ∀ call, (w.published push).incomingCalls.get call =
      if call = push.originCallId then some (.notified push)
      else w.incomingCalls.get call := fun call => Effect.Dict.get_set ..
  constructor
  · intro p hp
    exact h.bounded p (mem_of_snoc hp nofun)
  · intro p p' hp hp'
    exact h.unique p p' (mem_of_snoc hp nofun) (mem_of_snoc hp' nofun)
  · intro call incoming hg
    rw [hin] at hg
    split at hg
    · cases hg
      exact ⟨Eq.symm ‹_›, mem_snoc.mpr (.inl hp.1)⟩
    · obtain ⟨ho, hp⟩ := h.entries call incoming hg
      exact ⟨ho, mem_snoc.mpr (.inl hp)⟩
  · intro n hn
    rcases mem_snoc.mp hn with hn | hn
    · obtain ⟨p, hp, hn⟩ := h.published n hn
      exact ⟨p, mem_snoc.mpr (.inl hp), hn⟩
    · cases hn
      exact ⟨push, mem_snoc.mpr (.inl hp.1), rfl⟩
  · intro n hn
    exact mem_snoc.mpr (.inl (h.cancelled n (mem_of_snoc hn nofun)))
  · intro p hp
    exact mem_snoc.mpr (.inl (h.completed p (mem_of_snoc hp nofun)))
  · intro call p hg
    rw [hin] at hg
    split at hg
    · rename_i hcall
      cases hg
      refine ⟨mem_snoc.mpr (.inr (by rw [hcall])), fun n hn => ?_⟩
      exact hp.2 n (h.cancelled n (mem_of_snoc hn nofun))
    · obtain ⟨hn, hc⟩ := h.notified call p hg
      exact ⟨mem_snoc.mpr (.inl hn), fun n hn' => hc n (mem_of_snoc hn' nofun)⟩
  · intro call incoming hg ho hc'
    have hc' := mem_of_snoc hc' nofun
    rw [hin] at hg
    split at hg
    · cases hg
      exact hc hc'
    · exact h.opened call incoming hg ho hc'
  · exact h.matching.snoc trivial

/-- An entry is closed; nothing is said about it. -/
theorem close (h : PushesKnown w) {incoming : IncomingCall} (closed : IncomingCall)
    (hg : w.incomingCalls.get call = some incoming) (hpush : closed.push = incoming.push)
    (hclosed : closed.isOpen = false) :
    PushesKnown ((Change.incomingCall call closed).apply w) := by
  have hin : ∀ call', ((Change.incomingCall call closed).apply w).incomingCalls.get call' =
      if call' = call then some closed else w.incomingCalls.get call' :=
    fun call' => Effect.Dict.get_set ..
  refine ⟨h.bounded, h.unique, fun call' incoming' hg' => ?_, h.published, h.cancelled, h.completed,
    fun call' push hg' => ?_, fun call' incoming' hg' ho => ?_, h.matching⟩
  · rw [hin] at hg'
    split at hg'
    · rename_i hcall
      cases hg'
      rw [hpush, hcall]
      exact h.entries call incoming hg
    · exact h.entries call' incoming' hg'
  · rw [hin] at hg'
    split at hg'
    · cases hg'
      cases hclosed
    · exact h.notified call' push hg'
  · rw [hin] at hg'
    split at hg'
    · cases hg'
      rw [hclosed] at ho
      cases ho
    · exact h.opened call' incoming' hg' ho

/-- The entry of a push is the one of its call. -/
theorem call_eq (h : PushesKnown w) {call' : CallId} {incoming incoming' : IncomingCall}
    (hg : w.incomingCalls.get call = some incoming)
    (hg' : w.incomingCalls.get call' = some incoming')
    (hid : incoming.push.id = incoming'.push.id) : call = call' := by
  obtain ⟨ho, hp⟩ := h.entries call incoming hg
  obtain ⟨ho', hp'⟩ := h.entries call' incoming' hg'
  rw [← ho, ← ho', h.unique _ _ hp hp' hid]

/-- A push in flight is cancelled: it has been published, and neither cancelled nor
completed. -/
theorem cancel (h : PushesKnown w) (hg : w.incomingCalls.get call = some (.notified push)) :
    PushesKnown (w.pushCancelled call push) := by
  obtain ⟨hpub, hnever⟩ := h.notified call push hg
  obtain ⟨ho, hreq⟩ := h.entries call _ hg
  have hin : ∀ call', (w.pushCancelled call push).incomingCalls.get call' =
      if call' = call then some (.pushCancelled push) else w.incomingCalls.get call' :=
    fun call' => Effect.Dict.get_set ..
  constructor
  · intro p hp
    exact h.bounded p (mem_of_snoc hp nofun)
  · intro p p' hp hp'
    exact h.unique p p' (mem_of_snoc hp nofun) (mem_of_snoc hp' nofun)
  · intro call' incoming hg'
    rw [hin] at hg'
    split at hg'
    · cases hg'
      exact ⟨ho.trans (Eq.symm ‹_›), mem_snoc.mpr (.inl hreq)⟩
    · obtain ⟨ho', hp⟩ := h.entries call' incoming hg'
      exact ⟨ho', mem_snoc.mpr (.inl hp)⟩
  · intro n hn
    obtain ⟨p, hp, hn⟩ := h.published n (mem_of_snoc hn nofun)
    exact ⟨p, mem_snoc.mpr (.inl hp), hn⟩
  · intro n hn
    rcases mem_snoc.mp hn with hn | hn
    · exact mem_snoc.mpr (.inl (h.cancelled n hn))
    · cases hn
      exact mem_snoc.mpr (.inl hpub)
  · intro p hp
    exact mem_snoc.mpr (.inl (h.completed p (mem_of_snoc hp nofun)))
  · intro call' p hg'
    rw [hin] at hg'
    split at hg'
    · cases hg'
    · rename_i hne
      obtain ⟨hn, hc⟩ := h.notified call' p hg'
      refine ⟨mem_snoc.mpr (.inl hn), fun n hn' => ?_⟩
      rcases mem_snoc.mp hn' with hn' | hn'
      · exact hc n hn'
      · cases hn'
        exact fun hid => hne (h.call_eq hg hg' hid).symm
  · intro call' incoming hg' hopen hc
    rw [hin] at hg'
    split at hg'
    · cases hg'
      cases hopen
    · exact h.opened call' incoming hg' hopen (mem_of_snoc hc nofun)
  · refine h.matching.snoc ⟨hpub, hnever, fun p hp hid => ?_⟩
    -- a completed push with this identity is the open one
    obtain rfl := h.unique p push (h.completed p hp) hreq hid
    exact h.opened call _ hg rfl hp

/-- A push that is open is completed. -/
theorem complete (h : PushesKnown w) {incoming : IncomingCall}
    (hg : w.incomingCalls.get call = some incoming) :
    PushesKnown (((Change.incomingCall call (.received incoming.push)).apply w).noted
      (.pushCompleted incoming.push)) := by
  have hclosed := h.close (.received incoming.push) hg rfl rfl
  refine ⟨fun p hp => ?_, fun p p' hp hp' => ?_, fun call' i hg' => ?_, fun n hn => ?_,
    fun n hn => ?_, fun p hp => ?_, fun call' p hg' => ?_, fun call' i hg' ho hc => ?_,
    hclosed.matching.snoc trivial⟩
  · exact h.bounded p (mem_of_snoc hp nofun)
  · exact h.unique p p' (mem_of_snoc hp nofun) (mem_of_snoc hp' nofun)
  · obtain ⟨ho, hp⟩ := hclosed.entries call' i hg'
    exact ⟨ho, mem_snoc.mpr (.inl hp)⟩
  · obtain ⟨p, hp, hn⟩ := h.published n (mem_of_snoc hn nofun)
    exact ⟨p, mem_snoc.mpr (.inl hp), hn⟩
  · exact mem_snoc.mpr (.inl (h.cancelled n (mem_of_snoc hn nofun)))
  · rcases mem_snoc.mp hp with hp | hp
    · exact mem_snoc.mpr (.inl (h.completed p hp))
    · cases hp
      exact mem_snoc.mpr (.inl (h.entries call incoming hg).2)
  · obtain ⟨hn, hc⟩ := hclosed.notified call' p hg'
    exact ⟨mem_snoc.mpr (.inl hn), fun n hn' => hc n (mem_of_snoc hn' nofun)⟩
  · rcases mem_snoc.mp hc with hc | hc
    · exact hclosed.opened call' i hg' ho hc
    · -- the entry of this push is closed, and it has no other one
      have hget : ((w.incomingCalls.set call (.received incoming.push)).get call') = some i := hg'
      rw [Effect.Dict.get_set] at hget
      split at hget
      · cases hget
        cases ho
      · rename_i hne
        refine hne (h.call_eq hg hget ?_).symm
        rw [Event.pushCompleted.inj hc]

/-- `cancel_push_mobile`. -/
theorem cancelPush (h : PushesKnown w) (env : Env) (call : CallId) :
    PushesKnown (cancelPushMobile call env w).2 := by
  rcases cancelPushMobile_cases env (w := w) call with
    ⟨hw, -⟩ | ⟨_, _, _, _, hw⟩ | ⟨push, hg, _, hw⟩ | ⟨push, hg, hw⟩ <;> rw [hw]
  · exact h
  · exact h
  · exact h.cancel hg
  · exact h.close _ hg rfl rfl

/-- `complete_pending_push_mobile`. -/
theorem completePush (h : PushesKnown w) (env : Env) (call : CallId) :
    PushesKnown (completePendingPushMobile call env w).2 := by
  rcases completePendingPushMobile_cases env (w := w) call with
    ⟨hw, -⟩ | ⟨push, hg | hg, hw⟩ <;> rw [hw]
  · exact h
  · exact h.complete hg
  · exact h.complete hg

end PushesKnown

/-! ## Sections and runs -/

section Sections

variable {w : World} {env : Env} {t : Task} {push : Push}

/-- What is known of the pushes after a section. -/
theorem PushesKnown.code (h : PushesKnown w)
    (ht : ∀ push, t = .publishPush push → Unpublished push w)
    (hc : ∀ push pending, t = .publishPush push →
      w.incomingCalls.get push.originCallId = some (.pending pending) →
      .pushCompleted push ∉ w.trace) : PushesKnown (t.code env w).2 := by
  by_cases hp : t.Pushes
  case neg => exact h.aside (Task.aside hp env w)
  case pos =>
    cases t with
    | sendPush r => exact h.requested r
    | publishPush push =>
      show PushesKnown (publishPush push env w).2
      rcases publishPush_cases env (w := w) push with
        hw | ⟨⟨pending, hpending⟩, hw | hw⟩ <;> rw [hw]
      · exact h
      · exact h.publish (ht push rfl) (hc push pending rfl hpending)
      · have hpublished := h.publish (ht push rfl) (hc push pending rfl hpending)
        exact ((hpublished.aside (Change.aside (k := .object) id _)).aside
          (Change.aside (k := .fallback push.originCallId (.pending w.objects)) id _)).aside
          ((Change.aside (k := .timerStarted w.objects push.originCallId) id _).trans
            (Change.aside (k := .event (.fallbackArmed w.objects push.originCallId)) nofun _))
    | joinCancel b call =>
      have hcode : (joinCancel b call env w).2 = (cancelPushMobile call env w).2 :=
        joinCancel_world b call
      show PushesKnown (joinCancel b call env w).2
      rw [hcode]
      exact h.cancelPush env call
    | gonePush b call bs =>
      show PushesKnown (gonePush b call bs env w).2
      rw [show (gonePush b call bs env w).2 = _ from after_pure_world _ _]
      exact h.cancelPush env call
    | cancelPush call =>
      show PushesKnown ((do cancelPushMobile call; pure [] : Code (List Task)) env w).2
      rw [after_pure_world]
      exact h.cancelPush env call
    | completePush call =>
      show PushesKnown ((do completePendingPushMobile call; pure [] : Code (List Task)) env w).2
      rw [after_pure_world]
      exact h.completePush env call
    | fallbackCommit timer call =>
      show PushesKnown (fallbackCommit timer call env w).2
      rcases fallbackCommit_cases env (w := w) timer call with hw | ⟨c, -, -, hw⟩
      · rw [hw]
        exact h
      · rw [hw]
        have horiginated : PushesKnown (w.originated timer call c) :=
          (h.aside (Change.aside (k := .leg c) id _)).aside
            (Change.aside (k := .event (.pstnOriginated timer call c)) nofun _)
        rcases legOriginated_cases env (w := w) timer call c with
          ⟨e, -, hw⟩ | ⟨w', hcancel, hw⟩ <;> rw [hw]
        · exact horiginated
        · have hw' : w' = (cancelPushMobile call env (w.originated timer call c)).2 := by
            rw [hcancel]
          rw [hw']
          exact (horiginated.cancelPush env call).aside
            (Change.aside (k := .fallback call (.dialing c)) id _)
    | _ => exact hp.elim

/-- Only the section that publishes a push publishes it. -/
theorem Unpublished.code (h : Unpublished push w)
    (ht : ∀ push', t = .publishPush push' → push'.id ≠ push.id) :
    Unpublished push (t.code env w).2 := by
  have hgrow : ∀ (w : World) (e : Event), Unpublished push w →
      (∀ n, e = .pushNotification n → n.push ≠ push.id) → Unpublished push (w.noted e) := by
    intro w e hw he
    refine ⟨mem_snoc.mpr (.inl hw.1), fun n hn => ?_⟩
    rcases mem_snoc.mp hn with hn | hn
    · exact hw.2 n hn
    · exact he n hn.symm
  by_cases hpub : ∃ push', t = .publishPush push'
  · obtain ⟨push', rfl⟩ := hpub
    show Unpublished push (publishPush push' env w).2
    rcases publishPush_cases env (w := w) push' with hw | ⟨-, hw | hw⟩ <;> rw [hw]
    · exact h
    all_goals
      have hpublished : Unpublished push (w.published push') :=
        hgrow w _ h fun n hn => by
          cases hn
          exact ht push' rfl
    · exact hpublished
    · exact hgrow _ _ hpublished nofun
  · refine Changes.invariant (I := Unpublished push) (fun w' k hk hw' => ?_)
      (t.madeOf_may env w).1 h
    cases k with
    | event e =>
      refine hgrow w' e hw' fun n hn => ?_
      subst hn
      cases t <;> first | exact hk.elim | exact absurd ⟨_, rfl⟩ hpub
    | _ => exact hw'

end Sections

namespace PushesTracked

variable {s s' : Sys} {a : Label}

theorem initial : PushesTracked Sys.start :=
  ⟨.initial, fun _ => nofun, fun _ => Nat.zero_le _⟩

/-- What arrives is not a section that publishes. -/
theorem arrive {t : Task} (h : PushesTracked s) (ht : ∀ push, t ≠ .publishPush push) {w : World}
    (hw : PushAside s.world w) : PushesTracked ⟨w, t :: s.tasks⟩ := by
  refine ⟨h.known.aside hw, fun push hp => ?_, fun push => ?_⟩
  · rcases List.mem_cons.mp hp with hp | hp
    · exact absurd hp.symm (ht push)
    · obtain ⟨hr, hn⟩ := h.unpublished push hp
      exact ⟨(hw.mem_trace rfl).mpr hr, fun n hn' => hn n ((hw.mem_trace rfl).mp hn')⟩
  · rw [List.count_cons_of_ne (ht push)]
    exact h.once push

theorem run {t : Task} {env : Env} (h : PushesTracked s) (ht : t ∈ s.tasks)
    (hc : ¬ Overtaken s (.run t env)) : PushesTracked (s.after t env) := by
  have hknown : PushesKnown (t.code env s.world).2 := by
    refine h.known.code (fun push hp => h.unpublished push (hp ▸ ht)) ?_
    rintro push pending rfl hpending hcompleted
    exact hc ⟨by rw [hpending]; rfl, hcompleted⟩
  have hold : ∀ push, .publishPush push ∈ s.tasks.erase t →
      Unpublished push (t.code env s.world).2 := by
    intro push hp
    have hmem := List.mem_of_mem_erase hp
    refine (h.unpublished push hmem).code ?_
    rintro push' rfl hid
    have heq := h.known.unique push' push (h.unpublished push' ht).1 (h.unpublished push hmem).1 hid
    subst heq
    have hcount := List.count_pos_iff.mpr hp
    rw [List.count_erase_self] at hcount
    have := h.once push'
    omega
  by_cases hsend : ∃ r, t = .sendPush r
  · obtain ⟨r, rfl⟩ := hsend
    have htasks : (s.after (.sendPush r) env).tasks =
        s.tasks.erase (.sendPush r) ++ [.publishPush (r.push s.world.objects)] := rfl
    have hnew : .publishPush (r.push s.world.objects) ∉ s.tasks.erase (.sendPush r) := fun hp =>
      absurd (h.known.bounded _ (h.unpublished _ (List.mem_of_mem_erase hp)).1)
        (Nat.lt_irrefl s.world.objects)
    refine ⟨hknown, fun push hp => ?_, fun push => ?_⟩
    · rw [htasks, List.mem_append, List.mem_singleton] at hp
      rcases hp with hp | hp
      · exact hold push hp
      · cases hp
        refine ⟨mem_snoc.mpr (.inr rfl), fun n hn hid => ?_⟩
        obtain ⟨p, hp, rfl⟩ := h.known.published n (mem_of_snoc hn nofun)
        have hlt := h.known.bounded p hp
        rw [show p.id = s.world.objects from hid] at hlt
        exact Nat.lt_irrefl _ hlt
    · rw [htasks, List.count_append]
      have hle : (s.tasks.erase (.sendPush r)).count (.publishPush push) ≤ 1 :=
        (List.erase_sublist.count_le _).trans (h.once push)
      by_cases hp : push = r.push s.world.objects
      · subst hp
        rw [List.count_eq_zero_of_not_mem hnew, List.count_singleton_self]
      · rw [List.count_eq_zero_of_not_mem (l := [_]) (by simpa using hp)]
        omega
  · have hnone : ∀ push, .publishPush push ∉ following (t.code env s.world).1 := by
      intro push hp
      cases Task.leads_of_mem hp with
      | publishPush r push h => exact hsend ⟨r, rfl⟩
    refine ⟨hknown, fun push hp => ?_, fun push => ?_⟩
    · exact hold push ((List.mem_append.mp hp).resolve_right (hnone push))
    · show List.count _ (s.tasks.erase t ++ _) ≤ 1
      rw [List.count_append, List.count_eq_zero_of_not_mem (hnone push)]
      exact (List.erase_sublist.count_le _).trans (h.once push)

/-- A step in which no completed push is overtaken. -/
theorem step (h : PushesTracked s) (hc : ¬ Overtaken s a) (hs : machine.step a s = some s') :
    PushesTracked s' := by
  obtain ⟨t, rfl, ht, rfl⟩ | ⟨timer, call, rfl, -, rfl⟩ | ⟨t, env, rfl, ht, -, rfl⟩ :=
    step_cases hs
  · refine h.arrive ?_ (.refl _)
    rintro push rfl
    exact ht
  · exact h.arrive (t := .pstnFallback timer call) (fun _ => nofun)
      (.of_shrinks rfl (Nat.le_refl _) (.refl _))
  · exact h.run ht hc

end PushesTracked

/-- **Push cancellations match pushes**, as long as no completed push is published because a
newer one is pending. -/
theorem cancels_match {s : Sys} (h : machine.Reaches (fun s a => ¬ Overtaken s a) s) :
    Always CancelsMatch s.world.trace := by
  have tracked : PushesTracked s := by
    refine h.invariant (fun s hs => ?_) fun s a s' hI hc hs => hI.step hc hs
    rw [show s = Sys.start from hs]
    exact .initial
  exact tracked.known.matching

/-- A push is requested and published, then the dial ends without an answer. -/
def pushedThenCancelled : List Label :=
  called (.sendPush (pushRequest "user")) calm ++
    [.run (.publishPush ((pushRequest "user").push 0)) calm] ++ called (.cancelPush callerId) calm

theorem cancels_match_cancelled :
    ((served pushedThenCancelled).world.trace.any fun e => e =
      .cancelPushNotification (((pushRequest "user").push 0).notification callerId)) = true ∧
    Always CancelsMatch (served pushedThenCancelled).world.trace := by
  have run : machine.run pushedThenCancelled Sys.start = some (served pushedThenCancelled) := rfl
  have meets : machine.Meets (fun s a => ¬ Overtaken s a) pushedThenCancelled Sys.start := by
    decide
  exact ⟨by decide, cancels_match (Machine.Reaches.run (.init rfl) meets run)⟩

/-- The mobile answers before its push is sent, and a second push is requested for the call. -/
def completedThenPublished : List Label :=
  called (.sendPush (pushRequest "user")) calm ++ called (.bridgeEnter callerId "user") calm ++
    [.run (.completePush callerId) calm] ++ called (.sendPush (pushRequest "other user")) calm ++
    [.run (.publishPush ((pushRequest "user").push 0)) calm] ++ called (.cancelPush callerId) calm

/-- A cancellation is published for a push that has been completed. -/
theorem completed_push_is_cancelled :
    machine.Reachable (served completedThenPublished) ∧
      ¬ Always CancelsMatch (served completedThenPublished).world.trace := by
  refine ⟨served_reachable _, fun h => ?_⟩
  let push := (pushRequest "user").push 0
  have htr : (served completedThenPublished).world.trace =
      [.pushRequested push, .pushCompleted push,
        .pushRequested ((pushRequest "other user").push 2),
        .pushNotification (push.notification callerId), .fallbackArmed 4 callerId] ++
      .cancelPushNotification (push.notification callerId) :: [] := by decide
  exact (h _ _ _ htr).2.2 push (by simp) rfl

end Calld.DialMobile
