/-
# What the sections of the relocates plugin do

A section moves the world by a few changes, and each of them only when the relocate is in a
state that allows it: an operation moves or ends a relocate that is live, neither ready nor
ended, and when it ends one its recipient has been disposed of, unless bridging has failed.
Every invariant of the plugin is read off these guards.
-/
import Calld.Effect.Moves
import Calld.Relocates.Service

namespace Calld.Relocates

open Effect Effect.Program Effect.Moves

/-! ## Changes -/

/-- What the sections do to the world. -/
inductive Change where
  | created (u : RelocateUuid) (userUuid : UserUuid) (vars : Dict String)
  | met (relocatedChannel initiatorChannel : ChannelId)
  | inserted (u : RelocateUuid) (r : RelocateRequest) (relocatedChannel : ChannelId)
  | originated (u : RelocateUuid) (c : ChannelId)
  | assigned (u : RelocateUuid) (c : ChannelId)
  | moved (u : RelocateUuid) (state : StateName)
  | ended (u : RelocateUuid)
  | told (topic : Topic) (u : RelocateUuid)
  | hungUp (c : Option ChannelId)
  | unlocked (u : RelocateUuid)

/-- The notifier is told, after the collection. -/
def World.told (w : World) (topic : Topic) (u : RelocateUuid) : World :=
  { w with
    collection := if topic = .ended then w.collection.erase u else w.collection
    trace := w.trace ++ [.notified topic u] }

/-- Make a change. -/
def Change.apply : Change → World → World
  | .created u userUuid vars, w => { w with
      uuids := insert u w.uuids
      relocates := Function.update w.relocates u
        { Relocate.new with initiator := some userUuid, recipientVariables := vars } }
  | .met relocatedChannel initiatorChannel, w => { w with
      channels := insert relocatedChannel (insert initiatorChannel w.channels) }
  | .inserted u r relocatedChannel, w => { w.update u fun relocate => { relocate with
        relocatedChannel := some relocatedChannel
        initiatorChannel := some r.initiatorCall
        completions := r.completions
        timeout := r.timeout } with
      collection := w.collection ++ [u]
      trace := w.trace ++ [.added u] }
  | .originated u c, w => { w with
      locked := insert u w.locked
      channels := insert c w.channels
      trace := w.trace ++ [.originated u c] }
  | .assigned u c, w => w.update u fun r => { r with recipientChannel := some c }
  | .moved u state, w => w.update u fun r => { r with state := state }
  | .ended u, w => (w.update u fun r => { r with state := .ended }).told .ended u
  | .told topic u, w => w.told topic u
  | .hungUp c, w => { w with trace := w.trace ++ [.hungUp c] }
  | .unlocked u, w => { w with locked := w.locked.erase u }

/-! ## The small sections, evaluated -/

/-- What the publisher makes of the notifier's answer. -/
def Env.told (env : Env) (topic : Topic) (u : RelocateUuid) (r : Relocate) : Except Exn Unit :=
  match r.recipientVariables.get? "WAZO_TENANT_UUID" with
  | none => env.pubsub .keyError
  | some tenantUuid =>
    match env.busPublish topic (r.dump u) tenantUuid r.initiator with
    | .ok () => .ok ()
    | .error o => env.pubsub (.outside o)

section Evaluation

variable {α : Type} {answer : Env → Except Outage α}

theorem outside_ok {env : Env} {w w' : World} {a : α}
    (h : outside answer env w = (.ok a, w')) : answer env = .ok a ∧ w' = w := by
  unfold outside at h
  rcases hr : answer env with o | b <;> rw [hr] at h <;> cases h
  exact ⟨rfl, rfl⟩

theorem outside_error {env : Env} {w w' : World} {e : Exn}
    (h : outside answer env w = (.error e, w')) :
    (∃ o, answer env = .error o ∧ e = .outside o) ∧ w' = w := by
  unfold outside at h
  rcases hr : answer env with o | b <;> rw [hr] at h <;> cases h
  exact ⟨⟨o, rfl, rfl⟩, rfl⟩

variable (env : Env) (w : World) (u : RelocateUuid)

@[simp] theorem subscriberRaised_apply (e : Exn) :
    subscriberRaised e env w = (env.pubsub e, w) := rfl

theorem publishOne_notify (topic : Topic) :
    publishOne (notify topic u) env w = (env.told topic u (w.relocates u),
      { w with trace := w.trace ++ [.notified topic u] }) := by
  unfold publishOne notify Env.told
  rw [tryCatch_apply]
  simp only [bind_apply, note, change_apply, look_apply]
  cases htenant : (w.relocates u).recipientVariables.get? "WAZO_TENANT_UUID" with
  | none => rfl
  | some tenantUuid =>
    cases hbus : env.busPublish topic ((w.relocates u).dump u) tenantUuid
        (w.relocates u).initiator with
    | ok _ => simp [outside, hbus, Except.mapError]
    | error o => simp [outside, hbus, Except.mapError]

theorem publish_apply (topic : Topic) :
    publish topic u env w = (env.told topic u (w.relocates u), w.told topic u) := by
  unfold publish remove
  rw [bind_apply]
  exact publishOne_notify env _ u topic

@[simp] theorem update_relocates (f : Relocate → Relocate) :
    (w.update u f).relocates u = f (w.relocates u) :=
  Function.update_self ..

theorem update_relocates_apply (f : Relocate → Relocate) (u' : RelocateUuid) :
    (w.update u f).relocates u' = if u' = u then f (w.relocates u) else w.relocates u' :=
  Function.update_apply ..

@[simp] theorem told_relocates (topic : Topic) : (w.told topic u).relocates = w.relocates := rfl

@[simp] theorem created_relocates (userUuid : UserUuid) (vars : Dict String) :
    ((Change.created u userUuid vars).apply w).relocates u =
      { Relocate.new with initiator := some userUuid, recipientVariables := vars } :=
  Function.update_self ..

@[simp] theorem inserted_relocates (r : RelocateRequest) (relocatedChannel : ChannelId) :
    ((Change.inserted u r relocatedChannel).apply w).relocates u =
      { w.relocates u with
        relocatedChannel := some relocatedChannel
        initiatorChannel := some r.initiatorCall
        completions := r.completions
        timeout := r.timeout } := by
  show (w.update u fun relocate => { relocate with
    relocatedChannel := some relocatedChannel
    initiatorChannel := some r.initiatorCall
    completions := r.completions
    timeout := r.timeout }).relocates u = _
  rw [update_relocates]

@[simp] theorem assigned_relocates (c : ChannelId) :
    ((Change.assigned u c).apply w).relocates u =
      { w.relocates u with recipientChannel := some c } := by
  show (w.update u fun r => { r with recipientChannel := some c }).relocates u = _
  rw [update_relocates]

@[simp] theorem moved_relocates (state : StateName) :
    ((Change.moved u state).apply w).relocates u = { w.relocates u with state := state } := by
  show (w.update u fun r => { r with state := state }).relocates u = _
  rw [update_relocates]

@[simp] theorem ended_relocates :
    ((Change.ended u).apply w).relocates u = { w.relocates u with state := .ended } := by
  show (w.update u fun r => { r with state := .ended }).relocates u = _
  rw [update_relocates]

theorem setState_ended_apply :
    setState u .ended env w =
      (env.told .ended u (w.relocates u), (Change.ended u).apply w) := by
  unfold setState
  rw [bind_apply]
  simp only [change_apply, if_pos]
  rw [publish_apply, update_relocates]
  rfl

theorem setState_apply {state : StateName} (h : state ≠ .ended) :
    setState u state env w = (.ok (), (Change.moved u state).apply w) := by
  unfold setState
  rw [bind_apply]
  simp only [change_apply, if_neg h]
  rfl

end Evaluation

/-! ## What allows a change -/

/-- Neither ready nor ended. -/
def StateName.isLive : StateName → Bool
  | .ready | .ended => false
  | .recipientRing | .waitingForCompletion | .waitingForRelocated => true

/-- An operation bridges the recipient with the relocated channel. -/
def Relocate.bridges (r : Relocate) (env : Env) : Operation → Bool
  | .recipientAnswered => r.state = .recipientRing && .answer ∈ r.completions &&
      isOk (env.isInStasis r.relocatedChannel) true
  | .complete => r.state = .waitingForCompletion && isOk (env.isInStasis r.relocatedChannel) true
  | .relocatedAnswered => r.state = .waitingForRelocated
  | .initiatorHangup | .recipientHangup | .relocatedHangup | .cancel => false
where
  /-- The answer is `b`. -/
  isOk (answer : Except Outage Bool) (b : Bool) : Bool := match answer with
    | .ok b' => b' = b
    | .error _ => false

/-- Bridging raises an exception that is logged only. -/
def Env.failsToBridge (env : Env) (u : RelocateUuid) (r : Relocate) : Bool :=
  match env.bridging u r with
  | .ok _ => false
  | .error o => isARIException (.outside o)

/-- What is done with the recipient of a relocate `r` when an operation ends it. -/
def Disposed (env : Env) (u : RelocateUuid) (r : Relocate) (op : Operation) (w : World) : Prop :=
  .notified .completed u ∈ w.trace ∨ .hungUp r.recipientChannel ∈ w.trace ∨
    op = .recipientHangup ∨ r.bridges env op ∧ env.failsToBridge u r

/-- What an operation may do to a relocate that was `r` before it. -/
def MayOperate (env : Env) (u : RelocateUuid) (r : Relocate) (op : Operation) (w : World) :
    Change → Prop
  | .hungUp _ => True
  | .told topic u' => u' = u ∧ (topic = .answered ∨ topic = .completed) ∧
      (w.relocates u).state.isLive
  | .moved u' state => u' = u ∧ state.isLive ∧ (w.relocates u).state.isLive
  | .ended u' => u' = u ∧ w.relocates u = r ∧ r.state.isLive ∧ Disposed env u r op w
  | .created .. | .met .. | .inserted .. | .originated .. | .assigned .. | .unlocked _ => False

/-- The relocate that a section operates on, and the operation. -/
def Task.operation (w : World) : Task → Option (RelocateUuid × Operation)
  | .stasisStarted u role =>
    if role = "recipient" then some (u, .recipientAnswered)
    else if role = "relocated" then some (u, .relocatedAnswered)
    else none
  | .hangupOf u c => ((w.relocates u).role c).map fun role => (u, role.hangup)
  | .complete u => some (u, .complete)
  | .cancel u => some (u, .cancel)
  | .createFromUser _ | .insert .. | .initiate .. | .started .. | .onStasisStart _
  | .onHangup .. | .completeFromUser .. | .cancelFromUser .. => none

/-- Asterisk refuses to originate the recipient of a relocate. -/
def Env.refuses (env : Env) (u : RelocateUuid) (r : Relocate) (endpoint : String) : Bool :=
  match env.originate (r.originateRequest u endpoint) with
  | .ok _ => false
  | .error o => isHTTPError (.outside o)

/-- What a section that was started in `w₀` may do. -/
def Task.May (env : Env) (w₀ : World) : Task → World → Change → Prop
  | .createFromUser _, w, k => match k with
    | .created u _ _ => u = env.uuid4 ∧ u ∉ w.uuids
    | .met .. => True
    | _ => False
  | .insert u r relocatedChannel _, w, k =>
    k = .inserted u r relocatedChannel ∧ w = w₀ ∧ w.findByChannel r.initiatorCall = none
  | .initiate u endpoint, w, k => match k with
    | .originated u' c => u' = u ∧ w = w₀ ∧ c ∉ w.channels ∧ (w.relocates u).state = .ready
    | .ended u' => u' = u ∧ w = w₀ ∧ (w.relocates u).state = .ready ∧
        env.refuses u (w.relocates u) endpoint
    | .told topic u' => topic = .ended ∧ u' = u ∧ (w.relocates u).state = .ended ∧
        env.refuses u (w₀.relocates u) endpoint ∧ env.told .ended u (w₀.relocates u) = .ok ()
    | _ => False
  | .started u c, w, k => match k with
    | .assigned u' c' => u' = u ∧ c' = c ∧ w = w₀
    | .moved u' state => u' = u ∧ state = .recipientRing ∧ w.trace = w₀.trace ∧
        (w.relocates u).state = (w₀.relocates u).state ∧ (w.relocates u).recipientChannel = some c
    | .told topic u' => topic = .initiated ∧ u' = u ∧ (w.relocates u).state = .recipientRing
    | .unlocked u' => u' = u
    | _ => False
  | t, w, k => ∃ u op, t.operation w₀ = some (u, op) ∧
      MayOperate env u (w₀.relocates u) op w k

/-! ## Operations -/

section Operations

variable {env : Env} {u : RelocateUuid} {r : Relocate} {op : Operation} {w₀ : World}

/-- The world on its way through an operation. -/
abbrev Going (env : Env) (u : RelocateUuid) (r : Relocate) (op : Operation) (w₀ : World) :
    (World → Prop) → World → Prop :=
  Path Change.apply (MayOperate env u r op) w₀

/-- An operation that takes the world from `φ` to `ψ`, unless it raises. -/
abbrev Operates (env : Env) (u : RelocateUuid) (r : Relocate) (op : Operation) (w₀ : World)
    {α : Type} (φ : World → Prop) (p : Code α) (ψ : α → World → Prop) : Prop :=
  Triple env (Going env u r op w₀ φ) p (fun a => Going env u r op w₀ (ψ a))
    fun _ => Going env u r op w₀ fun _ => True

/-- The relocate is the one that the operation was called on. -/
def Steady (u : RelocateUuid) (r : Relocate) (φ : World → Prop) (w : World) : Prop :=
  w.relocates u = r ∧ φ w

theorem operates_end (hlive : r.state.isLive) {φ : World → Prop}
    (hφ : ∀ w, φ w → Disposed env u r op w) :
    Operates env u r op w₀ (Steady u r φ) (setState u .ended) fun _ _ => True := by
  intro w ⟨hpath, hr, hw⟩
  rw [setState_ended_apply]
  have hmove := snoc hpath (k := Change.ended u) ⟨rfl, hr, hlive, hφ w hw⟩
  cases env.told .ended u (w.relocates u) <;> exact ⟨hmove, trivial⟩

theorem operates_move (hlive : r.state.isLive) (state : StateName) (hs : state.isLive)
    {φ : World → Prop} :
    Operates env u r op w₀ (Steady u r φ) (setState u state) fun _ _ => True := by
  intro w ⟨hpath, hr, _⟩
  have hne : state ≠ .ended := by
    rintro rfl
    cases hs
  rw [setState_apply _ _ _ hne]
  exact ⟨snoc hpath (k := Change.moved u state) ⟨rfl, hs, by rwa [hr]⟩, trivial⟩

theorem operates_publish (hlive : r.state.isLive) {topic : Topic}
    (ht : topic = .answered ∨ topic = .completed) {φ : World → Prop} :
    Operates env u r op w₀ (Steady u r φ) (publish topic u)
      fun _ => Steady u r fun w => .notified topic u ∈ w.trace := by
  intro w ⟨hpath, hr, _⟩
  rw [publish_apply]
  have hmove := snoc hpath (k := Change.told topic u) ⟨rfl, ht, by rwa [hr]⟩
  cases env.told topic u (w.relocates u)
  · exact ⟨hmove, trivial⟩
  · exact ⟨hmove, hr, List.mem_append_right _ (List.mem_singleton_self _)⟩

/-- The outside does not change the world. -/
theorem operates_outside {α : Type} (answer : Env → Except Outage α) {φ : World → Prop} :
    Triple env (Going env u r op w₀ φ) (outside answer)
      (fun a => Going env u r op w₀ fun w => answer env = .ok a ∧ φ w)
      fun e => Going env u r op w₀ fun w => (∃ o, answer env = .error o ∧ e = .outside o) ∧ φ w := by
  refine Triple.intro ?_ ?_
  · intro w a w' ⟨hpath, hw⟩ hp
    obtain ⟨ha, rfl⟩ := outside_ok hp
    exact ⟨hpath, ha, hw⟩
  · intro w e w' ⟨hpath, hw⟩ hp
    obtain ⟨he, rfl⟩ := outside_error hp
    exact ⟨hpath, he, hw⟩

theorem operates_hangup (c : Option ChannelId) {φ : World → Prop}
    (hφ : ∀ w e, φ w → φ { w with trace := w.trace ++ [e] }) :
    Operates env u r op w₀ (Steady u r φ) (hangup c)
      fun _ => Steady u r fun w => φ w ∧ .hungUp c ∈ w.trace := by
  refine Triple.bind (Q := fun _ => Going env u r op w₀ (Steady u r fun w =>
    φ w ∧ .hungUp c ∈ w.trace)) ?_ fun _ => ?_
  · refine Moves.change (.hungUp c) rfl fun w ⟨hr, hw⟩ => ⟨trivial, hr, hφ w _ hw, ?_⟩
    exact List.mem_append_right _ (List.mem_singleton_self _)
  · refine Triple.bind (Q := fun _ => Going env u r op w₀ (Steady u r fun w =>
      φ w ∧ .hungUp c ∈ w.trace)) (.catching ?_) fun _ => .pure fun _ h => h
    refine (operates_outside _).weaken (fun _ h => h) (fun _ _ h => ⟨h.1, h.2.2⟩) fun e w h => ?_
    split
    · exact ⟨h.1, h.2.2⟩
    · exact ⟨h.1, trivial⟩

/-- Bridging tells that the relocate is completed, or fails. -/
theorem operates_bridge (hlive : r.state.isLive) {φ : World → Prop} :
    Operates env u r op w₀ (Steady u r φ) (bridge u)
      fun _ => Steady u r fun w => .notified .completed u ∈ w.trace ∨ env.failsToBridge u r := by
  refine Triple.bind (Q := fun r' => Going env u r op w₀ fun w => r' = r ∧ w.relocates u = r)
    (.look fun w h => ⟨h.1, h.2.1, h.2.1⟩) fun r' => ?_
  refine Triple.bind (Q := fun o => Going env u r op w₀ fun w =>
    w.relocates u = r ∧ (o = none → env.failsToBridge u r)) (.catching ?_) fun o => ?_
  · refine (operates_outside _).weaken (fun _ h => h) (fun _ _ h => ⟨h.1, h.2.2.2, nofun⟩)
      fun e w h => ?_
    obtain ⟨hpath, ⟨o, ho, rfl⟩, rfl, hr⟩ := h
    split
    · rename_i he
      refine ⟨hpath, hr, fun _ => ?_⟩
      unfold Env.failsToBridge
      rw [ho]
      exact he
    · exact ⟨hpath, trivial⟩
  · cases o with
    | none =>
      exact .pure fun w h => ⟨h.1, h.2.1, .inr (h.2.2 rfl)⟩
    | some _ =>
      refine (operates_publish hlive (.inr rfl) (φ := fun _ => True)).weaken
        (fun w h => ⟨h.1, h.2.1, trivial⟩) (fun _ w h => ⟨h.1, h.2.1, .inl h.2.2⟩) fun _ _ h => h

theorem operates_moveToStasis {φ : World → Prop} :
    Operates env u r op w₀ (Steady u r φ) (moveToStasis u) fun _ => Steady u r fun _ => True := by
  refine Triple.bind (Q := fun _ => Going env u r op w₀ (Steady u r fun _ => True))
    (.look fun w h => ⟨h.1, h.2.1, trivial⟩) fun r' => ?_
  have hask {α : Type} (C : Exn → Bool) (answer : Env → Except Outage α) :
      Operates env u r op w₀ (Steady u r fun _ => True) (catching C (outside answer))
        fun _ => Steady u r fun _ => True := by
    refine .catching ((operates_outside _).weaken (fun _ h => h) (fun _ _ h => ⟨h.1, h.2.2⟩)
      fun e w h => ?_)
    split
    · exact ⟨h.1, h.2.2⟩
    · exact ⟨h.1, trivial⟩
  refine (hask _ _).bind fun o => ?_
  cases o with
  | none => exact .pure fun w h => h
  | some _ => exact (hask _ _).bind fun _ => .pure fun w h => h

/-- A relocate is completed, when the operation is one that bridges. -/
theorem operates_complete (hlive : r.state.isLive)
    (hop : env.isInStasis r.relocatedChannel = .ok true → r.bridges env op) {φ : World → Prop} :
    Operates env u r op w₀ (Steady u r φ) (completeRelocate u) fun _ _ => True := by
  refine Triple.bind (Q := fun r' => Going env u r op w₀ fun w => r' = r ∧ w.relocates u = r)
    (.look fun w h => ⟨h.1, h.2.1, h.2.1⟩) fun r' => ?_
  refine Triple.bind ((operates_outside _).weaken (fun _ h => h) (fun _ _ h => h)
    fun _ _ h => ⟨h.1, trivial⟩) fun inStasis => ?_
  cases inStasis with
  | false =>
    refine (operates_moveToStasis (φ := fun _ => True)).pre (fun w h => ⟨h.1, h.2.2.2, trivial⟩)
      |>.bind fun _ => operates_move hlive _ rfl
  | true =>
    refine Triple.bind (Q := fun _ => Going env u r op w₀ (Steady u r fun w =>
        .notified .completed u ∈ w.trace ∨ r.bridges env op ∧ env.failsToBridge u r)) ?_ fun _ => ?_
    · intro w ⟨hpath, hstasis, heq, hr⟩
      have hin : r.bridges env op := hop (heq ▸ hstasis)
      refine ((operates_bridge hlive (φ := fun _ => True)).weaken (fun w h => h)
        (fun _ w h => ?_) fun _ _ h => h) w ⟨hpath, hr, trivial⟩
      exact ⟨h.1, h.2.1, h.2.2.imp_right fun hf => ⟨hin, hf⟩⟩
    · refine (operates_hangup r'.initiatorChannel fun w e h => ?_).bind fun _ =>
        operates_end hlive fun w h => ?_
      · exact h.imp_left (List.mem_append_left _)
      · rcases h.1 with h | h
        · exact .inl h
        · exact .inr (.inr (.inr h))

theorem operates_cancel (hlive : r.state.isLive) {φ : World → Prop} :
    Operates env u r op w₀ (Steady u r φ) (cancelRelocate u) fun _ _ => True := by
  refine Triple.bind (Q := fun r' => Going env u r op w₀ fun w => r' = r ∧ w.relocates u = r)
    (.look fun w h => ⟨h.1, h.2.1, h.2.1⟩) fun r' => ?_
  intro w ⟨hpath, hr', hr⟩
  subst hr'
  refine ((operates_hangup r'.recipientChannel (φ := fun _ => True) fun _ _ h => h).bind fun _ =>
    operates_end hlive fun w h => ?_) w ⟨hpath, hr, trivial⟩
  exact .inr (.inl h.2)

/-- The recipient has left; the relocated channel is hung up. -/
theorem operates_hangupRelocated (hlive : r.state.isLive) (hop : op = .recipientHangup)
    {φ : World → Prop} :
    Operates env u r op w₀ (Steady u r φ) (hangupRelocated u) fun _ _ => True := by
  refine Triple.bind (Q := fun _ => Going env u r op w₀ (Steady u r fun _ => True))
    (.look fun w h => ⟨h.1, h.2.1, trivial⟩) fun r' => ?_
  exact (operates_hangup r'.relocatedChannel fun _ _ h => h).bind fun _ =>
    operates_end hlive fun w _ => .inr (.inr (.inl hop))

theorem operates_recipientAnswered (hstate : r.state = .recipientRing)
    (hop : op = .recipientAnswered) {φ : World → Prop} :
    Operates env u r op w₀ (Steady u r φ) (recipientAnswered u) fun _ _ => True := by
  have hlive : r.state.isLive := by rw [hstate]; rfl
  refine (operates_publish hlive (.inl rfl)).bind fun _ => ?_
  refine Triple.bind (Q := fun r' => Going env u r op w₀ fun w => w.relocates u = r ∧ r' = r)
    (.look fun w h => ⟨h.1, h.2.1, h.2.1⟩) fun r' => ?_
  intro w ⟨hpath, hr, hr'⟩
  subst hr'
  have hw : Going env u r' op w₀ (Steady u r' fun _ => True) w := ⟨hpath, hr, trivial⟩
  dsimp only
  by_cases hanswer : Completion.answer ∈ r'.completions
  · rw [if_pos hanswer]
    refine operates_complete hlive (fun hin => ?_) w hw
    subst hop
    simp [Relocate.bridges, Relocate.bridges.isOk, hstate, hanswer, hin]
  · rw [if_neg hanswer]
    by_cases hapi : Completion.api ∈ r'.completions
    · rw [if_pos hapi]
      exact operates_move hlive .waitingForCompletion rfl w hw
    · rw [if_neg hapi]
      exact ⟨hpath, trivial⟩

theorem operates_relocatedAnswered (hstate : r.state = .waitingForRelocated)
    (hop : op = .relocatedAnswered) {φ : World → Prop} :
    Operates env u r op w₀ (Steady u r φ) (relocatedAnswered u) fun _ _ => True := by
  have hlive : r.state.isLive := by rw [hstate]; rfl
  refine (operates_bridge hlive).bind fun _ => operates_end hlive fun w h => ?_
  rcases h with h | h
  · exact .inl h
  · refine .inr (.inr (.inr ⟨?_, h⟩))
    subst hop
    simp [Relocate.bridges, hstate]

/-- Every method of every state stays within what its operation may do. -/
theorem operates_method (env : Env) (u : RelocateUuid) (w₀ : World) {φ : World → Prop}
    {method : RelocateUuid → Code Unit} (hm : r.state.method op = some method) :
    Operates env u r op w₀ (Steady u r φ) (method u) fun _ _ => True := by
  have hnothing : Operates env u r op w₀ (Steady u r φ) (pure ()) fun _ _ => True :=
    .pure fun w h => ⟨h.1, trivial⟩
  have hthrow (e : Exn) : Operates env u r op w₀ (Steady u r φ) (throw e : Code Unit)
      fun _ _ => True := .throw fun w h => ⟨h.1, trivial⟩
  have hlive (hr : r.state ≠ .ready) (he : r.state ≠ .ended) : r.state.isLive := by
    cases h : r.state <;> simp_all [StateName.isLive]
  cases hs : r.state with
  | ready =>
    rw [hs] at hm
    cases op <;> cases hm
  | recipientRing =>
    have hl : r.state.isLive := hlive (by simp [hs]) (by simp [hs])
    rw [hs] at hm
    cases op with
    | relocatedHangup | initiatorHangup | cancel =>
      cases hm
      exact operates_cancel hl
    | recipientHangup =>
      cases hm
      exact operates_end hl fun _ _ => .inr (.inr (.inl rfl))
    | recipientAnswered =>
      cases hm
      exact operates_recipientAnswered hs rfl
    | complete =>
      cases hm
      exact hthrow _
    | relocatedAnswered => cases hm
  | waitingForCompletion =>
    have hl : r.state.isLive := hlive (by simp [hs]) (by simp [hs])
    rw [hs] at hm
    cases op with
    | relocatedHangup | initiatorHangup | cancel =>
      cases hm
      exact operates_cancel hl
    | recipientHangup =>
      cases hm
      exact operates_end hl fun _ _ => .inr (.inr (.inl rfl))
    | complete =>
      cases hm
      refine operates_complete hl fun hin => ?_
      simp [Relocate.bridges, Relocate.bridges.isOk, hs, hin]
    | recipientAnswered | relocatedAnswered => cases hm
  | waitingForRelocated =>
    have hl : r.state.isLive := hlive (by simp [hs]) (by simp [hs])
    rw [hs] at hm
    cases op with
    | relocatedAnswered =>
      cases hm
      exact operates_relocatedAnswered hs rfl
    | relocatedHangup =>
      cases hm
      exact operates_cancel hl
    | recipientHangup =>
      cases hm
      exact operates_hangupRelocated hl rfl
    | initiatorHangup | complete =>
      cases hm
      exact hnothing
    | cancel =>
      cases hm
      exact hthrow _
    | recipientAnswered => cases hm
  | ended =>
    rw [hs] at hm
    cases op <;> cases hm <;> exact hnothing

end Operations

/-- What an operation does. -/
theorem invoke_moves (env : Env) (u : RelocateUuid) (op : Operation) (w : World) :
    (Moves Change.apply (MayOperate env u (w.relocates u) op)).rel w (invoke op u env w).2 := by
  unfold invoke
  rw [bind_apply]
  simp only [look_apply]
  cases hm : (w.relocates u).state.method op with
  | none => exact Frame.refl _ w
  | some method =>
    have h := operates_method (φ := fun _ => True) env u w hm
    have hfinal := Triple.final (R := Going env u (w.relocates u) op w fun _ => True)
      (h.weaken (fun _ h => h) (fun _ _ h => h) fun _ _ h => h) (.start ⟨rfl, trivial⟩)
    exact hfinal.1

/-! ## Sections -/

/-- The frame of the programs that only ask. -/
def still : Frame World where
  rel w w' := w' = w
  refl _ := rfl
  trans h h' := h'.trans h

section Sections

variable {env : Env} {w : World} {u : RelocateUuid}

/-- A program that only asks. -/
abbrev Still (env : Env) {α : Type} (p : Code α) : Prop := Within env still (fun _ => True) p

theorem still_outside {α : Type} (answer : Env → Except Outage α) : Still env (outside answer) :=
  fun _ => ⟨rfl, fun _ _ => trivial⟩

theorem still_catching {α : Type} {C : Exn → Bool} {p : Code α} (h : Still env p) :
    Still env (catching C p) :=
  h.catching fun _ _ => .inr trivial

theorem still_checkUser (r : RelocateRequest) : Still env (checkUser r) := by
  refine (still_outside _).bind fun userUuid => ?_
  split
  · exact .pure ()
  · exact .throw trivial

theorem still_checkLocation (r : RelocateRequest) : Still env (checkLocation r) := by
  refine (still_catching ?_).bind fun found => ?_
  · cases r.location with
    | line lineId => exact (still_outside _).bind fun _ => .pure ()
    | mobile => exact (still_outside _).bind fun _ => (still_outside _).bind fun _ => .pure ()
  · cases found with
    | none => exact .throw trivial
    | some _ => exact .pure ()

theorem still_peerOf (c : ChannelId) : Still env (peerOf c) := by
  refine (still_outside _).tryCatch fun e _ => ?_
  split
  · exact .throw trivial
  · split <;> exact .throw trivial

theorem still_checkExists (c : ChannelId) : Still env (checkExists c) := by
  refine (still_outside _).bind fun found => ?_
  split
  · exact .pure ()
  · exact .throw trivial

theorem still_endpointOf : Still env endpointOf := by
  refine (still_outside _).tryCatch fun e _ => ?_
  split <;> exact .throw trivial

/-- Asking keeps what is known of the world. -/
theorem still_keeps {α : Type} {p : Code α} (h : Still env p) {P : World → Prop} :
    Triple env P p (fun _ => P) fun _ => P :=
  (h.triple fun _ _ hP hs => hs ▸ hP).weaken (fun _ h => h) (fun _ _ h => h) fun _ _ h => h.1

/-- A creation makes the relocate, then meets its channels. -/
theorem createFromUser_moves (r : RelocateRequest) (hp : env.uuid4 ∉ w.uuids) :
    (Moves Change.apply (Task.May env w (.createFromUser r))).rel w
      (createFromUser r env w).2 := by
  let K := Task.May env w (.createFromUser r)
  have hpath : Triple env (Path Change.apply K w (· = w)) (createFromUser r)
      (fun _ => Path Change.apply K w fun _ => True)
      fun _ => Path Change.apply K w fun _ => True := by
    have hend : ∀ (_ : Exn) s, Path Change.apply K w (· = w) s →
        Path Change.apply K w (fun _ => True) s := fun _ s h => h.forget fun _ _ => trivial
    have hask {α : Type} {p : Code α} (h : Still env p) :
        Triple env (Path Change.apply K w (· = w)) p (fun _ => Path Change.apply K w (· = w))
          fun _ => Path Change.apply K w fun _ => True :=
      (still_keeps h).weaken (fun _ h => h) (fun _ _ h => h) hend
    refine (hask (still_checkUser r)).bind fun _ => (hask (still_outside _)).bind fun tenantUuid =>
      (hask (still_checkLocation r)).bind fun _ => Triple.bind (Q := fun _ =>
        Path Change.apply K w fun _ => True) ?_ fun u => ?_
    · refine Triple.bind (Q := fun u s => Path Change.apply K w (· = w) s ∧ u = env.uuid4)
        (.ask fun s h => ⟨h, rfl⟩) fun u => .of_fact fun hu => ?_
      subst hu
      refine Triple.bind (Moves.change (.created env.uuid4 r.userUuid (r.variables_ tenantUuid))
        rfl fun s hs => ⟨⟨rfl, ?_⟩, trivial⟩) fun _ => .pure fun s h => h
      exact hs ▸ hp
    · refine (still_keeps (still_peerOf _)).bind fun relocatedChannel =>
        (still_keeps (still_checkExists _)).bind fun _ => (still_keeps still_endpointOf).bind
        fun endpoint => Triple.bind (Moves.change (.met relocatedChannel r.initiatorCall) rfl
          fun s hs => ⟨trivial, trivial⟩) fun _ => .pure fun s h => h
  exact (Triple.final hpath (.start rfl)).1

theorem insertRelocate_moves (r : RelocateRequest) (relocatedChannel : ChannelId)
    (endpoint : String) :
    (Moves Change.apply (Task.May env w (.insert u r relocatedChannel endpoint))).rel w
      (insertRelocate u r relocatedChannel endpoint env w).2 := by
  unfold insertRelocate
  rw [bind_apply]
  simp only [look_apply]
  cases hfind : w.findByChannel r.initiatorCall with
  | none => exact Moves.single (k := Change.inserted u r relocatedChannel) ⟨rfl, rfl, hfind⟩
  | some _ => exact Frame.refl _ w

/-- The initiation of a ready relocate: the recipient is originated, Asterisk refuses and
the relocate ends, twice unless the first publication raises, or originate raises something
else and nothing happens. -/
theorem initiate_cases (env : Env) (endpoint : String) (hready : (w.relocates u).state = .ready) :
    (∃ c, env.originate ((w.relocates u).originateRequest u endpoint) = .ok c ∧
      initiate u endpoint env w = (.ok [.started u c], (Change.originated u c).apply w)) ∨
    (env.refuses u (w.relocates u) endpoint ∧ ∃ e, env.told .ended u (w.relocates u) = .error e ∧
      initiate u endpoint env w = (.error e, (Change.ended u).apply w)) ∨
    (env.refuses u (w.relocates u) endpoint ∧ env.told .ended u (w.relocates u) = .ok () ∧
      initiate u endpoint env w =
        (.error .relocateCreationError, ((Change.ended u).apply w).told .ended u)) ∨
    ∃ o, env.originate ((w.relocates u).originateRequest u endpoint) = .error o ∧
      isHTTPError (.outside o) = false ∧ initiate u endpoint env w = (.error (.outside o), w) := by
  unfold initiate
  rw [bind_apply]
  simp only [look_apply, hready]
  rw [bind_apply]
  cases ho : env.originate ((w.relocates u).originateRequest u endpoint) with
  | ok c =>
    refine .inl ⟨c, rfl, ?_⟩
    simp only [catching, outside, ho, Except.mapError]
    rfl
  | error o =>
    cases hhttp : isHTTPError (.outside o) with
    | false =>
      refine .inr (.inr (.inr ⟨o, rfl, hhttp, ?_⟩))
      simp only [catching, outside, ho, Except.mapError, hhttp]
      rfl
    | true =>
      have hrefuses : env.refuses u (w.relocates u) endpoint = true := by
        unfold Env.refuses
        rw [ho]
        exact hhttp
      have htold : env.told .ended u (((Change.ended u).apply w).relocates u) =
          env.told .ended u (w.relocates u) := by
        rw [ended_relocates]
        rfl
      cases hend : env.told .ended u (w.relocates u) with
      | error e =>
        refine .inr (.inl ⟨hrefuses, e, rfl, ?_⟩)
        simp only [catching, outside, ho, Except.mapError, hhttp, if_true]
        rw [bind_apply, setState_ended_apply, hend]
      | ok _ =>
        refine .inr (.inr (.inl ⟨hrefuses, rfl, ?_⟩))
        simp only [catching, outside, ho, Except.mapError, hhttp, if_true]
        rw [bind_apply, setState_ended_apply, hend]
        dsimp only
        rw [bind_apply, publish_apply, htold, hend]
        rfl

/-- Only a ready relocate can be initiated. -/
theorem initiate_of_not_ready (endpoint : String) (h : (w.relocates u).state ≠ .ready) :
    initiate u endpoint env w = (.error .attributeError, w) := by
  unfold initiate
  rw [bind_apply]
  cases hs : (w.relocates u).state
  · exact absurd hs h
  all_goals
    simp only [look_apply, hs]
    rfl

theorem initiate_moves (endpoint : String) (hp : env.Possible w (.initiate u endpoint)) :
    (Moves Change.apply (Task.May env w (.initiate u endpoint))).rel w
      (initiate u endpoint env w).2 := by
  by_cases hready : (w.relocates u).state = .ready
  · have hended (h : env.refuses u (w.relocates u) endpoint = true) :
        (Moves Change.apply (Task.May env w (.initiate u endpoint))).rel w
          ((Change.ended u).apply w) := Moves.single (k := Change.ended u) ⟨rfl, rfl, hready, h⟩
    obtain ⟨c, hc, hrun⟩ | ⟨href, e, _, hrun⟩ | ⟨href, htold, hrun⟩ | ⟨o, _, _, hrun⟩ :=
      initiate_cases env endpoint hready
    · rw [hrun]
      refine Moves.single (k := Change.originated u c) ⟨rfl, rfl, ?_, hready⟩
      have hnew := hp.2 _ rfl
      rw [hc] at hnew
      simpa [isNewChannel] using hnew
    · rw [hrun]
      exact hended href
    · rw [hrun]
      refine snoc (k := Change.told .ended u) (hended href) ⟨rfl, rfl, ?_, href, htold⟩
      rw [ended_relocates]
    · rw [hrun]
      exact Frame.refl _ w
  · rw [initiate_of_not_ready endpoint hready]
    exact Frame.refl _ w

/-- The world once the recipient is known, the relocate has moved on and this is published. -/
def World.rings (w : World) (u : RelocateUuid) (c : ChannelId) : World :=
  ((Change.moved u .recipientRing).apply ((Change.assigned u c).apply w)).told .initiated u

theorem started_apply (env : Env) (w : World) (u : RelocateUuid) (c : ChannelId) :
    started u c env w = ((env.told .initiated u ((w.rings u c).relocates u)).map fun _ => [],
      (Change.unlocked u).apply (w.rings u c)) := by
  unfold started World.rings
  rw [ensuring_apply, bind_apply]
  simp only [change_apply]
  rw [bind_apply, setState_apply _ _ _ (by simp)]
  dsimp only
  rw [bind_apply, publish_apply]
  dsimp only [Change.apply, told_relocates]
  cases env.told .initiated u
    (((w.update u fun r => { r with recipientChannel := some c }).update u fun r =>
      { r with state := .recipientRing }).relocates u) <;> rfl

theorem started_moves (c : ChannelId) :
    (Moves Change.apply (Task.May env w (.started u c))).rel w (started u c env w).2 := by
  rw [started_apply]
  have h₁ : (Moves Change.apply (Task.May env w (.started u c))).rel w
      ((Change.assigned u c).apply w) := Moves.single (k := Change.assigned u c) ⟨rfl, rfl, rfl⟩
  have h₂ := snoc h₁ (k := Change.moved u .recipientRing) ⟨rfl, rfl, rfl, by simp, by simp⟩
  have h₃ := snoc h₂ (k := Change.told .initiated u) ⟨rfl, rfl, by simp⟩
  exact snoc h₃ (k := Change.unlocked u) rfl

theorem still_onStasisStart (args : List String) : Still env (onStasisStart args) := by
  unfold onStasisStart
  split
  · refine .bind (.look _) fun found => ?_
    cases found with
    | none => exact .throw trivial
    | some u => exact .pure _
  · exact .pure _

theorem still_onHangup (c : ChannelId) : Still env (onHangup c) := by
  refine .bind (.look _) fun found => ?_
  cases found <;> exact .pure _

theorem still_fromUser (userUuid : UserUuid) (next : RelocateUuid → Task) :
    Still env (fromUser u userUuid next) := by
  refine .bind (.look _) fun found => ?_
  cases found with
  | none => exact .throw trivial
  | some u => exact .pure _

/-- After an operation nothing is left to do. -/
theorem invoke_bind (op : Operation) :
    ((do invoke op u; pure [] : Code (List Task)) env w).2 = (invoke op u env w).2 := by
  rw [bind_apply]
  rcases invoke op u env w with ⟨_ | _, _⟩ <;> rfl

/-- Every section moves the world as its guards allow. -/
theorem Task.moves (t : Task) {env : Env} (hp : env.Possible w t) :
    (Moves Change.apply (t.May env w)).rel w (t.code env w).2 := by
  have hstill {p : Code (List Task)} (h : Still env p) :
      (Moves Change.apply (t.May env w)).rel w (p env w).2 := by
    rw [show (p env w).2 = w from (h w).1]
    exact Frame.refl _ w
  cases t with
  | createFromUser r => exact createFromUser_moves r hp.1
  | insert u r relocatedChannel endpoint => exact insertRelocate_moves r relocatedChannel endpoint
  | initiate u endpoint => exact initiate_moves endpoint hp
  | started u c => exact started_moves c
  | onStasisStart args => exact hstill (still_onStasisStart args)
  | onHangup event c => exact hstill (still_onHangup c)
  | completeFromUser u userUuid => exact hstill (still_fromUser userUuid _)
  | cancelFromUser u userUuid => exact hstill (still_fromUser userUuid _)
  | stasisStarted u role =>
    show (Moves Change.apply _).rel w (Relocates.stasisStarted u role env w).2
    unfold Relocates.stasisStarted
    by_cases hrecipient : role = "recipient"
    · rw [if_pos hrecipient, invoke_bind]
      exact Moves.mono (fun w' k hk => ⟨u, _, if_pos hrecipient, hk⟩) (invoke_moves env u _ w)
    · rw [if_neg hrecipient]
      by_cases hrelocated : role = "relocated"
      · rw [if_pos hrelocated, invoke_bind]
        refine Moves.mono (fun w' k hk => ⟨u, _, ?_, hk⟩) (invoke_moves env u _ w)
        exact (if_neg hrecipient).trans (if_pos hrelocated)
      · rw [if_neg hrelocated]
        exact Frame.refl _ w
  | hangupOf u c =>
    show (Moves Change.apply _).rel w (Relocates.hangupOf u c env w).2
    unfold Relocates.hangupOf
    rw [bind_apply]
    simp only [look_apply]
    cases hrole : (w.relocates u).role c with
    | none => exact Frame.refl _ w
    | some role =>
      rw [invoke_bind]
      refine Moves.mono (fun w' k hk => ⟨u, _, ?_, hk⟩) (invoke_moves env u _ w)
      simp [Task.operation, hrole]
  | complete u =>
    show (Moves Change.apply _).rel w ((do invoke .complete u; pure [] : Code (List Task)) env w).2
    rw [invoke_bind]
    exact Moves.mono (fun w' k hk => ⟨u, _, rfl, hk⟩) (invoke_moves env u _ w)
  | cancel u =>
    show (Moves Change.apply _).rel w ((do invoke .cancel u; pure [] : Code (List Task)) env w).2
    rw [invoke_bind]
    exact Moves.mono (fun w' k hk => ⟨u, _, rfl, hk⟩) (invoke_moves env u _ w)

/-! ## What follows a section -/

/-- One task follows another, in the world that the section has left. -/
inductive Follows (env : Env) (w : World) : Task → Task → World → Prop where
  | insert (r : RelocateRequest) (relocatedChannel : ChannelId) (endpoint : String) {w' : World}
      (hu : env.uuid4 ∈ w'.uuids) (hrelocated : relocatedChannel ∈ w'.channels)
      (hinitiator : r.initiatorCall ∈ w'.channels) :
    Follows env w (.createFromUser r) (.insert env.uuid4 r relocatedChannel endpoint) w'
  | initiate {u : RelocateUuid} {r : RelocateRequest} {relocatedChannel : ChannelId}
      {endpoint : String} (h : w.findByChannel r.initiatorCall = none) :
    Follows env w (.insert u r relocatedChannel endpoint) (.initiate u endpoint)
      ((Change.inserted u r relocatedChannel).apply w)
  | started {u : RelocateUuid} {endpoint : String} {c : ChannelId}
      (hready : (w.relocates u).state = .ready)
      (hc : env.originate ((w.relocates u).originateRequest u endpoint) = .ok c) :
    Follows env w (.initiate u endpoint) (.started u c) ((Change.originated u c).apply w)
  | stasisStarted {u : RelocateUuid} (role : String) (h : u ∈ w.collection) :
    Follows env w (.onStasisStart ["relocate", u, role]) (.stasisStarted u role) w
  | hangupOf {u : RelocateUuid} {c : ChannelId} (event : HangupEvent)
      (h : w.findByChannel c = some u) : Follows env w (.onHangup event c) (.hangupOf u c) w
  | complete {u : RelocateUuid} (userUuid : UserUuid) (h : u ∈ w.collection) :
    Follows env w (.completeFromUser u userUuid) (.complete u) w
  | cancel {u : RelocateUuid} (userUuid : UserUuid) (h : u ∈ w.collection) :
    Follows env w (.cancelFromUser u userUuid) (.cancel u) w

/-- What is found in the collection is in it. -/
theorem get_some {userUuid : Option UserUuid} {u' : RelocateUuid}
    (h : w.get u userUuid = some u') : u' = u ∧ u ∈ w.collection := by
  unfold World.get at h
  split at h
  · rename_i hmem
    cases userUuid with
    | none => exact ⟨(Option.some.inj h).symm, hmem⟩
    | some userUuid =>
      dsimp only at h
      split at h
      · cases h
      · exact ⟨(Option.some.inj h).symm, hmem⟩
  · cases h

theorem invoke_follows (op : Operation) :
    following ((do invoke op u; pure [] : Code (List Task)) env w).1 = [] := by
  rw [bind_apply]
  rcases invoke op u env w with ⟨_ | _, _⟩ <;> rfl

/-- A creation goes on with the uuid it has got and the channels it has met. -/
theorem createFromUser_follows (r : RelocateRequest) :
    Triple env (fun _ => True) (createFromUser r)
      (fun ts w' => ∃ relocatedChannel endpoint,
        ts = [.insert env.uuid4 r relocatedChannel endpoint] ∧ env.uuid4 ∈ w'.uuids ∧
          relocatedChannel ∈ w'.channels ∧ r.initiatorCall ∈ w'.channels)
      fun _ _ => True := by
  have hask {α : Type} {P : World → Prop} {p : Code α} (h : Still env p) :
      Triple env P p (fun _ => P) fun _ _ => True :=
    (still_keeps h).weaken (fun _ h => h) (fun _ _ h => h) fun _ _ _ => trivial
  refine (hask (still_checkUser r)).bind fun _ => (hask (still_outside _)).bind fun tenantUuid =>
    (hask (still_checkLocation r)).bind fun _ =>
    Triple.bind (Q := fun u w' => u = env.uuid4 ∧ u ∈ w'.uuids) ?_ fun u => ?_
  · refine Triple.bind (Q := fun u _ => u = env.uuid4) (.ask fun _ _ => rfl) fun u => ?_
    exact Triple.bind (Q := fun _ w' => u = env.uuid4 ∧ u ∈ w'.uuids)
      (.change fun w' h => ⟨h, Finset.mem_insert_self ..⟩) fun _ => .pure fun _ h => h
  · refine (hask (still_peerOf _)).bind fun relocatedChannel => (hask (still_checkExists _)).bind
      fun _ => (hask still_endpointOf).bind fun endpoint => ?_
    refine Triple.bind (Q := fun _ w' => (u = env.uuid4 ∧ u ∈ w'.uuids) ∧
      relocatedChannel ∈ w'.channels ∧ r.initiatorCall ∈ w'.channels)
      (.change fun w' h => ⟨h, ?_, ?_⟩) fun _ => .pure fun w' h => ?_
    · exact Finset.mem_insert_self ..
    · exact Finset.mem_insert_of_mem (Finset.mem_insert_self ..)
    · obtain ⟨⟨rfl, hu⟩, hc⟩ := h
      exact ⟨relocatedChannel, endpoint, rfl, hu, hc⟩

/-- A section is followed by one task at most. -/
theorem Task.follows (t : Task) (env : Env) (w : World) :
    following (t.code env w).1 = [] ∨
      ∃ next, following (t.code env w).1 = [next] ∧ Follows env w t next (t.code env w).2 := by
  cases t with
  | createFromUser r =>
    rcases hrun : (Task.createFromUser r).code env w with ⟨e | ts, w'⟩
    · exact .inl rfl
    · obtain ⟨relocatedChannel, endpoint, rfl, hu, hrel, hini⟩ :=
        (createFromUser_follows r).ok trivial hrun
      exact .inr ⟨_, rfl, .insert r relocatedChannel endpoint hu hrel hini⟩
  | insert u r relocatedChannel endpoint =>
    have hrun : (Task.insert u r relocatedChannel endpoint).code env w =
      insertRelocate u r relocatedChannel endpoint env w := rfl
    rw [hrun]
    unfold insertRelocate
    rw [bind_apply]
    simp only [look_apply]
    cases hfind : w.findByChannel r.initiatorCall with
    | none => exact .inr ⟨_, rfl, .initiate hfind⟩
    | some _ => exact .inl rfl
  | initiate u endpoint =>
    have hcode : (Task.initiate u endpoint).code env w = Relocates.initiate u endpoint env w := rfl
    rw [hcode]
    by_cases hready : (w.relocates u).state = .ready
    · obtain ⟨c, hc, hrun⟩ | ⟨_, e, _, hrun⟩ | ⟨_, _, hrun⟩ | ⟨o, _, _, hrun⟩ :=
        initiate_cases env endpoint hready
      · rw [hrun]
        exact .inr ⟨_, rfl, .started hready hc⟩
      all_goals
        rw [hrun]
        exact .inl rfl
    · rw [initiate_of_not_ready endpoint hready]
      exact .inl rfl
  | started u c =>
    refine .inl ?_
    show following (Relocates.started u c env w).1 = []
    rw [started_apply]
    cases env.told .initiated u ((w.rings u c).relocates u) <;> rfl
  | onStasisStart args =>
    have hcode : (Task.onStasisStart args).code env w = Relocates.onStasisStart args env w := rfl
    rw [hcode]
    unfold Relocates.onStasisStart
    split
    · rw [bind_apply]
      simp only [look_apply]
      rename_i u role
      cases hget : w.get u none with
      | none => exact .inl rfl
      | some u' =>
        obtain ⟨rfl, hmem⟩ := get_some hget
        exact .inr ⟨_, rfl, .stasisStarted role hmem⟩
    · exact .inl rfl
  | stasisStarted u role =>
    refine .inl ?_
    show following (Relocates.stasisStarted u role env w).1 = []
    unfold Relocates.stasisStarted
    split
    · exact invoke_follows _
    · split
      · exact invoke_follows _
      · rfl
  | onHangup event c =>
    have hcode : (Task.onHangup event c).code env w = Relocates.onHangup c env w := rfl
    rw [hcode]
    unfold Relocates.onHangup
    rw [bind_apply]
    simp only [look_apply]
    cases hfind : w.findByChannel c with
    | none => exact .inl rfl
    | some u => exact .inr ⟨_, rfl, .hangupOf event hfind⟩
  | hangupOf u c =>
    refine .inl ?_
    show following (Relocates.hangupOf u c env w).1 = []
    unfold Relocates.hangupOf
    rw [bind_apply]
    simp only [look_apply]
    cases (w.relocates u).role c with
    | none => rfl
    | some role => exact invoke_follows _
  | completeFromUser u userUuid =>
    have hcode : (Task.completeFromUser u userUuid).code env w =
      fromUser u userUuid .complete env w := rfl
    rw [hcode]
    unfold fromUser
    rw [bind_apply]
    simp only [look_apply]
    cases hget : w.get u (some userUuid) with
    | none => exact .inl rfl
    | some u' =>
      obtain ⟨rfl, hmem⟩ := get_some hget
      exact .inr ⟨_, rfl, .complete userUuid hmem⟩
  | cancelFromUser u userUuid =>
    have hcode : (Task.cancelFromUser u userUuid).code env w =
      fromUser u userUuid .cancel env w := rfl
    rw [hcode]
    unfold fromUser
    rw [bind_apply]
    simp only [look_apply]
    cases hget : w.get u (some userUuid) with
    | none => exact .inl rfl
    | some u' =>
      obtain ⟨rfl, hmem⟩ := get_some hget
      exact .inr ⟨_, rfl, .cancel userUuid hmem⟩
  | complete u => exact .inl (invoke_follows _)
  | cancel u => exact .inl (invoke_follows _)

end Sections

end Calld.Relocates
