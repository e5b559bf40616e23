/-
# The operations that a relocate knows

A handler waits for the lock of its relocate after it has looked it up, and the relocate may
have moved on to a state that does not know the operation any more: there is no method for
it, and `AttributeError` is raised.  This is all that goes wrong by itself, together with a
stasis event for a relocate that has left the collection and a recipient that answers when
no completion has been asked for.
-/
import Calld.Relocates.Sound

namespace Calld.Relocates

open Effect Effect.Program Effect.Moves

/-! ## What goes well -/

/-- `NoSuchRelocate`, `RelocateCompletionError` and `RelocateCancellationError`. -/
def isRelocateError : Exn → Bool
  | .noSuchRelocate | .relocateCompletionError | .relocateCancellationError => true
  | .attributeError | .keyError | .notImplementedError | .relocateAlreadyStarted
  | .relocateCreationError | .tooManyChannelCandidates | .userPermissionDenied | .outside _ => false

/-- A section returns, or raises an error of the API. -/
def Acceptable {α : Type} : Except Exn α → Prop
  | .ok _ => True
  | .error e => isRelocateError e

/-- The operations that the class of a state implements. -/
def StateName.implements : StateName → Operation → Bool
  | .ready, _ => false
  | .recipientRing, op => op ≠ .relocatedAnswered
  | .waitingForCompletion, op => op ≠ .recipientAnswered && op ≠ .relocatedAnswered
  | .waitingForRelocated, op => op ≠ .recipientAnswered
  | .ended, op => op ≠ .recipientAnswered && op ≠ .relocatedAnswered && op ≠ .cancel

/-- A recipient that answers finds a completion that has been asked for. -/
def Relocate.completable (r : Relocate) (op : Operation) : Bool :=
  op ≠ .recipientAnswered || .answer ∈ r.completions || .api ∈ r.completions

/-- What a section rests on: a relocate that is still in the collection, a state that
implements the operation, and a completion. -/
def Task.Implemented (w : World) : Task → Prop
  | .onStasisStart ["relocate", u, _] => u ∈ w.collection
  | t => ∀ u op, t.operation w = some (u, op) →
      (w.relocates u).state.implements op ∧ (w.relocates u).completable op

/-- The outside raises nothing but what the operations handle, and publishing does not
raise. -/
structure Env.Handled (env : Env) : Prop where
  hangup : ∀ c o, env.hangup c = .error o → isARIException (.outside o)
  bridging : ∀ u r o, env.bridging u r = .error o → isARIException (.outside o)
  isInStasis : ∀ c, ∃ b, env.isInStasis c = .ok b
  setChannelVar : ∀ c name value o, env.setChannelVar c name value = .error o →
    isARIException (.outside o)
  redirect : ∀ c context exten o, env.redirect c context exten = .error o →
    isWazoAmidError (.outside o)
  publish : ∀ topic u r, env.told topic u r = .ok ()

/-- An event or a request about a relocate that has been created. -/
def Task.isOperation : Task → Bool
  | .onStasisStart _ | .stasisStarted .. | .onHangup .. | .hangupOf .. | .completeFromUser ..
  | .complete _ | .cancelFromUser .. | .cancel _ => true
  | .createFromUser _ | .insert .. | .initiate .. | .started .. => false

/-! ## Requests that are handled -/

section Handled

variable {env : Env} {w : World} {u : RelocateUuid} {op : Operation}

/-- A program that raises nothing. -/
abbrev Returns (env : Env) {α : Type} (p : Code α) : Prop :=
  Gives env (fun _ => False) p fun _ => True

theorem returns_change (f : World → World) : Returns env (change f : Code Unit) :=
  Triple.change fun _ _ => trivial

theorem returns_look {α : Type} (f : World → α) : Returns env (look f : Code α) :=
  Triple.look fun _ _ => trivial

theorem returns_catching {α : Type} {C : Exn → Bool} {answer : Env → Except Outage α}
    (h : ∀ o, answer env = .error o → C (.outside o)) :
    Returns env (catching C (outside answer)) := by
  have houtside : Gives env (fun e => C e = true) (outside answer) fun _ => True := by
    refine Triple.intro (fun _ _ _ _ _ => trivial) fun w e w' _ hp => ?_
    obtain ⟨⟨o, ho, rfl⟩, -⟩ := outside_error hp
    exact h o ho
  exact (Gives.catching houtside fun _ he => .inl he).weaken (fun _ _ => trivial) fun _ he => he

theorem returns_ignoring {C : Exn → Bool} {answer : Env → Except Outage Unit}
    (h : ∀ o, answer env = .error o → C (.outside o)) :
    Returns env (ignoring C (outside answer)) :=
  (returns_catching h).bind fun _ _ => .pure trivial

theorem returns_publish (h : env.Handled) (topic : Topic) : Returns env (publish topic u) := by
  intro w _
  rw [publish_apply, h.publish]
  trivial

theorem returns_setState (h : env.Handled) (state : StateName) :
    Returns env (setState u state) := by
  refine (returns_change _).bind fun _ _ => ?_
  split
  · exact returns_publish h .ended
  · exact .pure trivial

theorem returns_hangup (h : env.Handled) (c : Option ChannelId) : Returns env (hangup c) :=
  (returns_change _).bind fun _ _ => returns_ignoring (h.hangup c)

theorem returns_bridge (h : env.Handled) : Returns env (bridge u) := by
  refine (returns_look _).bind fun r _ => (returns_catching (h.bridging u r)).bind fun done _ => ?_
  cases done with
  | none => exact .pure trivial
  | some _ => exact returns_publish h .completed

theorem returns_moveToStasis (h : env.Handled) : Returns env (moveToStasis u) := by
  refine (returns_look _).bind fun r _ =>
    (returns_catching (h.setChannelVar _ _ _)).bind fun done _ => ?_
  cases done with
  | none => exact .pure trivial
  | some _ => exact returns_ignoring (h.redirect _ _ _)

theorem returns_completeRelocate (h : env.Handled) : Returns env (completeRelocate u) := by
  refine (returns_look _).bind fun r _ => Gives.bind (Φ := fun _ => True) ?_ fun inStasis _ => ?_
  · refine Triple.intro (fun _ _ _ _ _ => trivial) fun w e w' _ hp => ?_
    obtain ⟨⟨o, ho, -⟩, -⟩ := outside_error hp
    obtain ⟨b, hb⟩ := h.isInStasis r.relocatedChannel
    rw [hb] at ho
    cases ho
  · cases inStasis with
    | true =>
      exact (returns_bridge h).bind fun _ _ => (returns_hangup h _).bind fun _ _ =>
        returns_setState h _
    | false => exact (returns_moveToStasis h).bind fun _ _ => returns_setState h _

theorem returns_cancelRelocate (h : env.Handled) : Returns env (cancelRelocate u) :=
  (returns_look _).bind fun _ _ => (returns_hangup h _).bind fun _ _ => returns_setState h _

theorem returns_hangupRelocated (h : env.Handled) : Returns env (hangupRelocated u) :=
  (returns_look _).bind fun _ _ => (returns_hangup h _).bind fun _ _ => returns_setState h _

/-- A recipient that answers finds its completion, or `NotImplementedError` is raised. -/
theorem recipientAnswered_iff (h : env.Handled) :
    Acceptable (recipientAnswered u env w).1 ↔
      (w.relocates u).completable .recipientAnswered := by
  unfold recipientAnswered
  rw [bind_apply, publish_apply, h.publish]
  dsimp only
  rw [bind_apply]
  simp only [look_apply, told_relocates, Relocate.completable, ne_eq, not_true_eq_false,
    decide_false, Bool.false_or, Bool.or_eq_true, decide_eq_true_eq]
  have hreturns {p : Code Unit} (hp : Returns env p) (w : World) : Acceptable (p env w).1 := by
    rcases hrun : p env w with ⟨e | a, w'⟩
    · exact (hp.error trivial hrun).elim
    · trivial
  by_cases hanswer : Completion.answer ∈ (w.relocates u).completions
  · rw [if_pos hanswer]
    exact iff_of_true (hreturns (returns_completeRelocate h) _) (.inl hanswer)
  · rw [if_neg hanswer]
    by_cases hapi : Completion.api ∈ (w.relocates u).completions
    · rw [if_pos hapi]
      exact iff_of_true (hreturns (returns_setState h _) _) (.inr hapi)
    · rw [if_neg hapi]
      refine iff_of_false (fun hok => ?_) (by simp [hanswer, hapi])
      cases hok

/-- The methods that raise nothing by themselves. -/
theorem method_acceptable (h : env.Handled) {state : StateName} {method : RelocateUuid → Code Unit}
    (hm : state.method op = some method) (hop : op ≠ .recipientAnswered) :
    Acceptable (method u env w).1 := by
  have hreturns {p : Code Unit} (hp : Returns env p) : Acceptable (p env w).1 := by
    rcases hrun : p env w with ⟨e | a, w'⟩
    · exact (hp.error trivial hrun).elim
    · trivial
  cases state with
  | ready => cases op <;> cases hm
  | recipientRing | waitingForCompletion =>
    cases op with
    | recipientAnswered => exact absurd rfl hop
    | relocatedAnswered => cases hm
    | relocatedHangup | initiatorHangup | cancel =>
      cases hm
      exact hreturns (returns_cancelRelocate h)
    | recipientHangup =>
      cases hm
      exact hreturns (returns_setState h _)
    | complete =>
      cases hm
      first
        | exact hreturns (returns_completeRelocate h)
        | rfl
  | waitingForRelocated =>
    cases op with
    | recipientAnswered => exact absurd rfl hop
    | relocatedAnswered =>
      cases hm
      exact hreturns ((returns_bridge h).bind fun _ _ => returns_setState h _)
    | relocatedHangup =>
      cases hm
      exact hreturns (returns_cancelRelocate h)
    | recipientHangup =>
      cases hm
      exact hreturns (returns_hangupRelocated h)
    | initiatorHangup | complete =>
      cases hm
      trivial
    | cancel =>
      cases hm
      rfl
  | ended =>
    cases op with
    | recipientAnswered | relocatedAnswered | cancel => cases hm
    | _ =>
      cases hm
      trivial

/-- A state implements the operations that it has a method for. -/
theorem implements_iff (state : StateName) (op : Operation) :
    state.implements op ↔ (state.method op).isSome := by
  cases state <;> cases op <;> simp [StateName.implements, StateName.method]

/-- An operation goes well when the state implements it and a completion is found. -/
theorem invoke_iff (h : env.Handled) :
    Acceptable (invoke op u env w).1 ↔
      (w.relocates u).state.implements op ∧ (w.relocates u).completable op := by
  unfold invoke
  rw [bind_apply]
  simp only [look_apply, implements_iff]
  cases hm : (w.relocates u).state.method op with
  | none =>
    refine iff_of_false (fun hok => ?_) (by simp)
    cases hok
  | some method =>
    by_cases hop : op = .recipientAnswered
    · subst hop
      have hmethod : method = recipientAnswered := by
        cases hs : (w.relocates u).state <;> rw [hs] at hm <;> cases hm
        rfl
      subst hmethod
      simpa using recipientAnswered_iff (w := w) (u := u) h
    · refine iff_of_true (method_acceptable h hm hop) ⟨rfl, ?_⟩
      simp [Relocate.completable, hop]

end Handled

/-! ## Sections -/

section Sections

variable {env : Env} {w : World} {t : Task} {u : RelocateUuid} {op : Operation}

/-- After the operation nothing is left to do. -/
theorem acceptable_invoke :
    Acceptable ((do invoke op u; pure [] : Code (List Task)) env w).1 ↔
      Acceptable (invoke op u env w).1 := by
  rw [bind_apply]
  rcases invoke op u env w with ⟨_ | _, _⟩ <;> rfl

/-- A section that operates goes well when its operation is implemented. -/
theorem acceptable_of_operation (h : env.Handled) {u : RelocateUuid} (op : Operation)
    (hrun : Acceptable (t.code env w).1 ↔ Acceptable (invoke op u env w).1)
    (hop : t.operation w = some (u, op)) (ht : t.Implemented w ↔ ∀ u op,
      t.operation w = some (u, op) →
        (w.relocates u).state.implements op ∧ (w.relocates u).completable op) :
    Acceptable (t.code env w).1 ↔ t.Implemented w := by
  rw [hrun, invoke_iff h, ht]
  constructor
  · intro hok u' op' hop'
    rw [hop] at hop'
    cases hop'
    exact hok
  · intro hall
    exact hall u op hop

/-- A sound channel of a relocate has a role. -/
theorem role_of_has {r : Relocate} {c : ChannelId} (h : r.has c) : ∃ role, r.role c = some role := by
  unfold Relocate.has at h
  unfold Relocate.role
  simp only [Bool.or_eq_true, decide_eq_true_eq] at h
  by_cases hrelocated : r.relocatedChannel = some c
  · exact ⟨_, if_pos hrelocated⟩
  · by_cases hinitiator : r.initiatorChannel = some c
    · exact ⟨_, (if_neg hrelocated).trans (if_pos hinitiator)⟩
    · rcases h with (h | h) | h
      · exact absurd h hrelocated
      · exact absurd h hinitiator
      · exact ⟨_, (if_neg hrelocated).trans ((if_neg hinitiator).trans (if_pos h))⟩

/-- A section of an event or of a request goes well exactly when what it rests on is there. -/
theorem Task.acceptable_iff (h : env.Handled) (hsound : t.Sound w) (ht : t.isOperation) :
    Acceptable (t.code env w).1 ↔ t.Implemented w := by
  cases t with
  | createFromUser | insert | initiate | started => cases ht
  | onStasisStart args =>
    have hcode : (Task.onStasisStart args).code env w = Relocates.onStasisStart args env w := rfl
    rw [hcode]
    unfold Relocates.onStasisStart
    split
    · rename_i u role
      rw [bind_apply]
      simp only [look_apply, World.get]
      show _ ↔ u ∈ w.collection
      by_cases hmem : u ∈ w.collection
      · rw [if_pos hmem]
        exact iff_of_true trivial hmem
      · rw [if_neg hmem]
        refine iff_of_false (fun hok => ?_) hmem
        cases hok
    · rename_i hargs
      refine iff_of_true trivial ?_
      unfold Task.Implemented
      split
      · rename_i u role heq
        cases heq
        exact absurd rfl (hargs u role)
      · intro u op hop
        cases hop
  | stasisStarted u role =>
    by_cases hrecipient : role = "recipient"
    · refine acceptable_of_operation h (u := u) .recipientAnswered ?_
        (if_pos hrecipient) Iff.rfl
      show Acceptable (Relocates.stasisStarted u role env w).1 ↔ _
      unfold Relocates.stasisStarted
      rw [if_pos hrecipient]
      exact acceptable_invoke
    · by_cases hrelocated : role = "relocated"
      · refine acceptable_of_operation h (u := u) .relocatedAnswered ?_
          ((if_neg hrecipient).trans (if_pos hrelocated)) Iff.rfl
        show Acceptable (Relocates.stasisStarted u role env w).1 ↔ _
        unfold Relocates.stasisStarted
        rw [if_neg hrecipient, if_pos hrelocated]
        exact acceptable_invoke
      · have hnone : (Task.stasisStarted u role).operation w = none :=
          (if_neg hrecipient).trans (if_neg hrelocated)
        refine iff_of_true ?_ fun u' op' hop => ?_
        · show Acceptable (Relocates.stasisStarted u role env w).1
          unfold Relocates.stasisStarted
          rw [if_neg hrecipient, if_neg hrelocated]
          trivial
        · rw [hnone] at hop
          cases hop
  | onHangup event c =>
    refine iff_of_true ?_ fun _ _ hop => by cases hop
    show Acceptable (Relocates.onHangup c env w).1
    unfold Relocates.onHangup
    rw [bind_apply]
    simp only [look_apply]
    cases w.findByChannel c <;> trivial
  | hangupOf u c =>
    obtain ⟨role, hrole⟩ := role_of_has hsound.2
    refine acceptable_of_operation h (u := u) role.hangup ?_ ?_ Iff.rfl
    · show Acceptable (Relocates.hangupOf u c env w).1 ↔ _
      unfold Relocates.hangupOf
      rw [bind_apply]
      simp only [look_apply, hrole]
      exact acceptable_invoke
    · simp [Task.operation, hrole]
  | completeFromUser u userUuid =>
    refine iff_of_true ?_ fun _ _ hop => by cases hop
    show Acceptable (fromUser u userUuid .complete env w).1
    unfold fromUser
    rw [bind_apply]
    simp only [look_apply]
    cases w.get u (some userUuid) <;> trivial
  | cancelFromUser u userUuid =>
    refine iff_of_true ?_ fun _ _ hop => by cases hop
    show Acceptable (fromUser u userUuid .cancel env w).1
    unfold fromUser
    rw [bind_apply]
    simp only [look_apply]
    cases w.get u (some userUuid) <;> trivial
  | complete u =>
    exact acceptable_of_operation h .complete acceptable_invoke rfl Iff.rfl
  | cancel u =>
    exact acceptable_of_operation h .cancel acceptable_invoke rfl Iff.rfl

end Sections

/-- When nothing goes wrong, everything is handled. -/
theorem calm_handled : calm.Handled where
  hangup c o h := by cases h
  bridging u r o h := by cases h
  isInStasis c := ⟨true, rfl⟩
  setChannelVar c name value o h := by cases h
  redirect c context exten o h := by cases h
  publish topic u r := by
    unfold Env.told
    cases r.recipientVariables.get? "WAZO_TENANT_UUID" <;> rfl

/-- A user looks a relocate up twice, to cancel it. -/
def cancelsTwice : List Label :=
  rings "relocate-1" ++ called (.cancelFromUser "relocate-1" "user") calm ++
    called (.cancelFromUser "relocate-1" "user") calm

/-- The relocate has been cancelled once. -/
def cancelled : List Label := cancelsTwice ++ [.run (.cancel "relocate-1") calm]

end Calld.Relocates
