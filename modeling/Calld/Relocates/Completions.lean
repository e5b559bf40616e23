/-
# Completions that fail

A relocate is completed when its recipient answers or when the user asks for it.  What fails on the
way is logged by `RelocateCompleter`, which returns nothing: the state changes as if all had gone
well.  When the relocated channel cannot be marked or redirected, the relocate waits for a channel
that will not come, refuses to be cancelled and does not hear of the hangup of its initiator.

What else fails ends the relocate, or leaves it where it was.
-/
import Calld.Relocates.Methods

namespace Calld.Relocates

open Effect Effect.Program

variable {env : Env} {w : World} {u : RelocateUuid} {op : Operation}

/-- The hangups that Asterisk refuses are `ARIException`s. -/
def Env.HangsUp (env : Env) : Prop :=
  ∀ c o, env.hangup c = .error o → isARIException (.outside o)

/-- The state of a relocate after an operation. -/
def stateAfter (op : Operation) (u : RelocateUuid) (env : Env) (w : World) : StateName :=
  ((invoke op u env w).2.relocates u).state

/-- The relocate accepts a cancellation, and ends on the hangup of its initiator. -/
def CallsOff (u : RelocateUuid) (w : World) : Prop :=
  ∀ env : Env, env.HangsUp →
    stateAfter .cancel u env w = .ended ∧ stateAfter .initiatorHangup u env w = .ended

/-- The relocated channel is marked and redirected. -/
def Env.redirects (env : Env) (u : RelocateUuid) (r : Relocate) : Prop :=
  env.setChannelVar r.relocatedChannel "WAZO_RELOCATE_UUID" u = .ok () ∧
    env.redirect r.relocatedChannel "convert_to_stasis" "relocate" = .ok ()

/-- The relocated channel is not marked or not redirected, and that is logged only. -/
def Env.losesRelocated (env : Env) (u : RelocateUuid) (r : Relocate) : Prop :=
  (∃ o, env.setChannelVar r.relocatedChannel "WAZO_RELOCATE_UUID" u = .error o ∧
    isARIException (.outside o)) ∨
  (env.setChannelVar r.relocatedChannel "WAZO_RELOCATE_UUID" u = .ok () ∧
    ∃ o, env.redirect r.relocatedChannel "convert_to_stasis" "relocate" = .error o ∧
      isWazoAmidError (.outside o))

/-- After the operation on a relocate that was `r`, it has ended, or can still be called off, or
waits for a channel that has been redirected. -/
def Untrapped (env : Env) (u : RelocateUuid) (r : Relocate) (w' : World) : Prop :=
  (w'.relocates u).state = .ended ∨ CallsOff u w' ∨
    (w'.relocates u).state = .waitingForRelocated ∧ env.redirects u r

/-- The recipient may answer, or the user may ask for the completion. -/
def Relocate.CanComplete (r : Relocate) (op : Operation) : Prop :=
  r.state = .recipientRing ∧ (op = .recipientAnswered ∨ op = .complete) ∨
    r.state = .waitingForCompletion ∧ op = .complete

/-- The operation completes the relocate. -/
def Relocate.Completes (r : Relocate) (env : Env) (u : RelocateUuid) : Operation → Prop
  | .recipientAnswered => r.state = .recipientRing ∧ .answer ∈ r.completions ∧
      env.told .answered u r = .ok ()
  | .complete => r.state = .waitingForCompletion
  | _ => False

/-- The operation completes the relocate, whose relocated channel is not in stasis and does not
get there. -/
def Env.Traps (env : Env) (u : RelocateUuid) (r : Relocate) (op : Operation) : Prop :=
  r.Completes env u op ∧ env.isInStasis r.relocatedChannel = .ok false ∧ env.losesRelocated u r

/-! ## Requests whose exceptions are logged -/

section Requests

variable {α : Type} {C : Exn → Bool} {answer : Env → Except Outage α} {o : Outage}

theorem outside_of_ok {a : α} (h : answer env = .ok a) : outside answer env w = (.ok a, w) := by
  unfold outside
  rw [h]
  rfl

theorem outside_of_error (h : answer env = .error o) :
    outside answer env w = (.error (.outside o), w) := by
  unfold outside
  rw [h]
  rfl

theorem catching_ok {a : α} (h : answer env = .ok a) :
    catching C (outside answer) env w = (.ok (some a), w) := by
  unfold catching outside
  rw [h]
  rfl

theorem catching_error (h : answer env = .error o) :
    catching C (outside answer) env w =
      if C (.outside o) then (.ok none, w) else (.error (.outside o), w) := by
  unfold catching outside
  rw [h]
  rfl

theorem ignoring_ok {answer : Env → Except Outage Unit} (h : answer env = .ok ()) :
    ignoring C (outside answer) env w = (.ok (), w) := by
  unfold ignoring
  rw [bind_of_ok (catching_ok h)]
  rfl

theorem ignoring_error {answer : Env → Except Outage Unit} (h : answer env = .error o) :
    ignoring C (outside answer) env w =
      (if C (.outside o) then .ok () else .error (.outside o), w) := by
  unfold ignoring
  rw [bind_apply, catching_error h]
  cases C (.outside o) <;> rfl

end Requests

/-! ## Calling a relocate off -/

theorem hangup_relocates (c : Option ChannelId) : (hangup c env w).2.relocates = w.relocates := by
  unfold hangup
  rw [bind_apply]
  simp only [note, change_apply, ignoring_snd]
  rfl

theorem returns_hangup_of (h : env.HangsUp) (c : Option ChannelId) : Returns env (hangup c) :=
  (returns_change _).bind fun _ _ => returns_ignoring (h c)

theorem cancelRelocate_state (h : env.HangsUp) :
    ((cancelRelocate u env w).2.relocates u).state = .ended := by
  unfold cancelRelocate
  rw [bind_apply]
  simp only [look_apply]
  rcases hrun : hangup (w.relocates u).recipientChannel env w with ⟨e | a, w'⟩
  · exact ((returns_hangup_of h _).error trivial hrun).elim
  · rw [bind_of_ok hrun, setState_ended_apply, ended_relocates]

/-- Before the completion the relocate can be called off. -/
theorem callsOff_of_state
    (h : (w.relocates u).state = .recipientRing ∨ (w.relocates u).state = .waitingForCompletion) :
    CallsOff u w := by
  intro env henv
  unfold stateAfter invoke
  simp only [bind_apply, look_apply]
  obtain hstate | hstate := h
  · rw [hstate]
    exact ⟨cancelRelocate_state henv, cancelRelocate_state henv⟩
  · rw [hstate]
    exact ⟨cancelRelocate_state henv, cancelRelocate_state henv⟩

/-- A relocate that waits for the relocated channel cannot be called off. -/
theorem not_callsOff (h : (w.relocates u).state = .waitingForRelocated) : ¬ CallsOff u w := by
  intro hoff
  have hcancel := (hoff calm fun _ _ he => nomatch he).1
  unfold stateAfter invoke at hcancel
  simp only [bind_apply, look_apply, h] at hcancel
  change (w.relocates u).state = .ended at hcancel
  rw [h] at hcancel
  cases hcancel

/-! ## Completing a relocate -/

theorem bridge_relocates : (bridge u env w).2.relocates = w.relocates := by
  unfold bridge
  rw [bind_apply]
  simp only [look_apply]
  rcases hrun : catching isARIException (outside (·.bridging u (w.relocates u))) env w with
    ⟨e | done, w'⟩
  · have hw := congrArg Prod.snd hrun
    rw [catching_snd] at hw
    rw [bind_of_error hrun, ← hw]
    rfl
  · have hw := congrArg Prod.snd hrun
    rw [catching_snd] at hw
    obtain rfl : w = w' := hw
    rw [bind_of_ok hrun]
    cases done with
    | none => rfl
    | some _ =>
      show (publish .completed u env w).2.relocates = w.relocates
      rw [publish_apply, told_relocates]

/-- Marking and redirecting the relocated channel: what is logged counts as done. -/
theorem moveToStasis_apply : ∃ result, moveToStasis u env w = (result, w) ∧
    (result = .ok () ↔
      env.redirects u (w.relocates u) ∨ env.losesRelocated u (w.relocates u)) := by
  unfold moveToStasis Env.redirects Env.losesRelocated
  rw [bind_apply]
  simp only [look_apply]
  cases hvar : env.setChannelVar (w.relocates u).relocatedChannel "WAZO_RELOCATE_UUID" u with
  | error o =>
    rw [bind_apply, catching_error hvar]
    cases ho : isARIException (.outside o) with
    | true => exact ⟨.ok (), rfl, by simp [ho]⟩
    | false => exact ⟨.error (.outside o), rfl, by simp [ho]⟩
  | ok done =>
    rw [bind_of_ok (catching_ok hvar)]
    cases hredirect : env.redirect (w.relocates u).relocatedChannel "convert_to_stasis"
        "relocate" with
    | ok _ => exact ⟨.ok (), ignoring_ok hredirect, by simp⟩
    | error o =>
      refine ⟨_, ignoring_error hredirect, ?_⟩
      cases ho : isWazoAmidError (.outside o) <;> simp [ho]

/-- The recipient is bridged: the relocate has ended, or nothing has changed. -/
theorem bridged_state :
    let w' := ((do
      bridge u
      hangup (w.relocates u).initiatorChannel
      setState u .ended : Code Unit) env w).2
    (w'.relocates u).state = .ended ∨ w'.relocates = w.relocates := by
  dsimp only
  have hbridged : (bridge u env w).2.relocates = w.relocates := bridge_relocates
  rcases hbridge : bridge u env w with ⟨e | a, w₁⟩
  · rw [bind_of_error hbridge]
    rw [hbridge] at hbridged
    exact .inr hbridged
  · rw [bind_of_ok hbridge]
    rw [hbridge] at hbridged
    have hhung : (hangup (w.relocates u).initiatorChannel env w₁).2.relocates = w₁.relocates :=
      hangup_relocates _
    rcases hhangup : hangup (w.relocates u).initiatorChannel env w₁ with ⟨e | a, w₂⟩
    · rw [bind_of_error hhangup]
      rw [hhangup] at hhung
      exact .inr (hhung.trans hbridged)
    · rw [bind_of_ok hhangup, setState_ended_apply, ended_relocates]
      exact .inl rfl

/-- What completing a relocate leaves: it ends, stays where it was, or waits for the relocated
channel, once what can be logged is past. -/
theorem completeRelocate_cases :
    let w' := (completeRelocate u env w).2
    let r := w.relocates u
    ((w'.relocates u).state = .ended ∧ env.isInStasis r.relocatedChannel ≠ .ok false) ∨
    (w'.relocates = w.relocates ∧ ¬ (env.isInStasis r.relocatedChannel = .ok false ∧
      (env.redirects u r ∨ env.losesRelocated u r))) ∨
    ((w'.relocates u).state = .waitingForRelocated ∧
      env.isInStasis r.relocatedChannel = .ok false ∧
      (env.redirects u r ∨ env.losesRelocated u r)) := by
  dsimp only
  unfold completeRelocate
  rw [bind_apply]
  simp only [look_apply]
  cases hstasis : env.isInStasis (w.relocates u).relocatedChannel with
  | error o =>
    refine .inr (.inl ⟨?_, fun h => nomatch h.1⟩)
    rw [bind_of_error (outside_of_error hstasis)]
  | ok inStasis =>
    rw [bind_of_ok (outside_of_ok hstasis)]
    cases inStasis with
    | true =>
      obtain hended | hsame := @bridged_state env w u
      · exact .inl ⟨hended, nofun⟩
      · exact .inr (.inl ⟨hsame, fun h => nomatch h.1⟩)
    | false =>
      obtain ⟨result, hmove, hok⟩ := @moveToStasis_apply env w u
      cases result with
      | error e =>
        refine .inr (.inl ⟨?_, fun h => nomatch hok.mpr h.2⟩)
        show ((moveToStasis u >>= fun _ => setState u .waitingForRelocated) env w).2.relocates = _
        rw [bind_of_error hmove]
      | ok _ =>
        refine .inr (.inr ⟨?_, rfl, hok.mp rfl⟩)
        show (((moveToStasis u >>= fun _ => setState u .waitingForRelocated) env w).2.relocates
          u).state = _
        rw [bind_of_ok hmove,
          setState_apply _ _ _ (nofun : StateName.waitingForRelocated ≠ .ended), moved_relocates]

/-- Who completes a relocate is trapped when the relocated channel is lost, and not else. -/
theorem completeRelocate_untrapped
    (hstate : (w.relocates u).state = .recipientRing ∨
      (w.relocates u).state = .waitingForCompletion) :
    Untrapped env u (w.relocates u) (completeRelocate u env w).2 ↔
      ¬ (env.isInStasis (w.relocates u).relocatedChannel = .ok false ∧
        env.losesRelocated u (w.relocates u)) := by
  obtain ⟨hended, hstasis⟩ | ⟨hsame, hmoved⟩ | ⟨hwaiting, hstasis, hmoved⟩ :=
    @completeRelocate_cases env w u
  · exact iff_of_true (.inl hended) fun h => hstasis h.1
  · refine iff_of_true (.inr (.inl (callsOff_of_state ?_))) fun h => hmoved ⟨h.1, .inr h.2⟩
    rwa [hsame]
  · have huntrapped : Untrapped env u (w.relocates u) (completeRelocate u env w).2 ↔
        env.redirects u (w.relocates u) := by
      constructor
      · rintro (hended | hoff | ⟨-, hredirects⟩)
        · rw [hwaiting] at hended
          cases hended
        · exact absurd hoff (not_callsOff hwaiting)
        · exact hredirects
      · intro hredirects
        exact .inr (.inr ⟨hwaiting, hredirects⟩)
    rw [huntrapped]
    constructor
    · rintro ⟨hvar, hredirect⟩ ⟨-, ⟨o, hvar', -⟩ | ⟨-, o, hredirect', -⟩⟩
      · rw [hvar] at hvar'
        cases hvar'
      · rw [hredirect] at hredirect'
        cases hredirect'
    · intro hlost
      exact hmoved.resolve_right fun h => hlost ⟨hstasis, h⟩

/-! ## The operations that complete -/

/-- **A completion that fails**: after the recipient has answered or the user has asked for the
completion, and whatever has failed, the relocate has ended or can be called off or waits for a
channel that has been redirected, exactly when it has not completed by a move to stasis in which
marking or redirecting the relocated channel fails. -/
theorem completion_untrapped_iff (h : (w.relocates u).CanComplete op) :
    Untrapped env u (w.relocates u) (invoke op u env w).2 ↔
      ¬ env.Traps u (w.relocates u) op := by
  have hunchanged {w' : World} (hw : w'.relocates = w.relocates)
      (hstate : (w.relocates u).state = .recipientRing ∨
        (w.relocates u).state = .waitingForCompletion) :
      Untrapped env u (w.relocates u) w' :=
    .inr (.inl (callsOff_of_state (by rwa [hw])))
  unfold Env.Traps
  obtain ⟨hring, rfl | rfl⟩ | ⟨hwaiting, rfl⟩ := h
  · -- the recipient answers
    have hinvoke : invoke .recipientAnswered u env w = recipientAnswered u env w := by
      unfold invoke
      rw [bind_apply]
      simp only [look_apply, hring]
      rfl
    rw [hinvoke]
    unfold recipientAnswered
    rw [bind_apply, publish_apply]
    cases htold : env.told .answered u (w.relocates u) with
    | error e =>
      refine iff_of_true (hunchanged rfl (.inl hring)) fun h => ?_
      have hok : env.told .answered u (w.relocates u) = .ok () := h.1.2.2
      rw [htold] at hok
      cases hok
    | ok _ =>
      dsimp only
      rw [bind_apply]
      simp only [look_apply, told_relocates]
      by_cases hanswer : Completion.answer ∈ (w.relocates u).completions
      · rw [if_pos hanswer]
        have hcompletes : (w.relocates u).Completes env u .recipientAnswered :=
          ⟨hring, hanswer, htold⟩
        have := @completeRelocate_untrapped env (w.told .answered u) u (.inl hring)
        simpa [hcompletes] using this
      · rw [if_neg hanswer]
        refine iff_of_true ?_ fun h => hanswer h.1.2.1
        by_cases hapi : Completion.api ∈ (w.relocates u).completions
        · rw [if_pos hapi,
            setState_apply _ _ _ (nofun : StateName.waitingForCompletion ≠ .ended)]
          exact .inr (.inl (callsOff_of_state (.inr (by rw [moved_relocates]))))
        · rw [if_neg hapi]
          exact hunchanged rfl (.inl hring)
  · -- the completion is asked for too early
    have hinvoke : invoke .complete u env w = (.error .relocateCompletionError, w) := by
      unfold invoke
      rw [bind_apply]
      simp only [look_apply, hring]
      rfl
    rw [hinvoke]
    refine iff_of_true (hunchanged rfl (.inl hring)) fun h => ?_
    have hwaiting : (w.relocates u).state = .waitingForCompletion := h.1
    rw [hring] at hwaiting
    cases hwaiting
  · -- the completion is asked for
    have hinvoke : invoke .complete u env w = completeRelocate u env w := by
      unfold invoke
      rw [bind_apply]
      simp only [look_apply, hwaiting]
      rfl
    have hcompletes : (w.relocates u).Completes env u .complete := hwaiting
    rw [hinvoke, completeRelocate_untrapped (.inr hwaiting)]
    simp [hcompletes]


/-- Asterisk does not create the bridge. -/
def bridgeless : Env := { calm with createBridge := fun _ => .error .ariException }

/-- A relocate whose bridge cannot be created is not trapped. -/
theorem completion_untrapped_bridgeless :
    Untrapped bridgeless "relocate-1" ((served (rings "relocate-1")).world.relocates "relocate-1")
      (invoke .recipientAnswered "relocate-1" bridgeless
        (served (rings "relocate-1")).world).2 :=
  (completion_untrapped_iff (.inl ⟨by decide, .inl rfl⟩)).mpr fun h => nomatch h.2.1

/-- The relocated channel is not in stasis, and wazo-amid does not redirect it. -/
def unredirected : Env :=
  { calm with
    isInStasis := fun _ => .ok false
    redirect := fun _ _ _ => .error .wazoAmidError }

/-- **The relocate waits for a channel that does not come.** -/
theorem unredirected_is_trapped :
    ¬ ∀ s, machine.Reachable s → ∀ u op env, (s.world.relocates u).CanComplete op →
      Untrapped env u (s.world.relocates u) (invoke op u env s.world).2 := by
  intro h
  have hwaiting : ((invoke .recipientAnswered "relocate-1" unredirected
      (served (rings "relocate-1")).world).2.relocates "relocate-1").state =
        .waitingForRelocated := by decide
  obtain hended | hoff | ⟨-, -, hredirect⟩ := h _ (served_reachable (rings "relocate-1"))
    "relocate-1" .recipientAnswered unredirected (.inl ⟨by decide, .inl rfl⟩)
  · rw [hwaiting] at hended
    cases hended
  · exact not_callsOff hwaiting hoff
  · cases hredirect

end Calld.Relocates
