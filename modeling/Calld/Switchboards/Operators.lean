/-
# The operator of a call that is answered

To answer a queued or a held call, an operator is originated and then the call is taken out
of its bridge.  Both requests expect that the bridge is gone by then; only the request for a
queued call expects that the call has been moved to another bridge.

A request that raises has originated nobody exactly when taking the call out has raised
nothing that the request does not expect.
-/
import Calld.Effect.Dialogues
import Calld.Switchboards.Phases

namespace Calld.Switchboards

open Effect Effect.Interactive

/-! ## The requests -/

/-- A request to answer a call that is queued, or held. -/
inductive AnswerJob where
  | queued (tenantUuid switchboardUuid callId userUuid : String) (lineId : Option ℤ)
  | held (tenantUuid switchboardUuid callId userUuid : String) (lineId : Option ℤ)
  deriving DecidableEq, Repr

namespace AnswerJob

def code : AnswerJob → Code String
  | .queued tenant sb call user line => answerQueuedCall tenant sb call user line
  | .held tenant sb call user line => answerHeldCall tenant sb call user line

/-- What the channel of an operator for the call is told. -/
def appArgs : AnswerJob → List String
  | .queued tenant sb call _ _ => ["switchboard", "switchboard_answer", tenant, sb, call]
  | .held tenant sb call _ _ => ["switchboard", "switchboard_unhold", tenant, sb, call]

/-- What is expected of taking the call out of its bridge. -/
def expects : AnswerJob → Exn → Bool
  | .queued .. => fun e => e.isARINotFound || e.isARIUnprocessable
  | .held .. => Exn.isARINotFound

end AnswerJob

/-! ## Dialogues -/

/-- The operators that were originated, and what was raised when the call was to be taken
out. -/
structure Ringing where
  operators : List (Originate × String)
  refused : Option Exn
  deriving DecidableEq

def Ringing.silent : Ringing := ⟨[], none⟩

/-- What an answer adds. -/
def Ringing.note (k : Ringing) : (r : Request) → Except Exn r.Reply → Ringing
  | .originate o, .ok id => { k with operators := (o, id) :: k.operators }
  | .bridgesGet _, .error e | .removeChannel .., .error e =>
    if k.operators = [] then k else { k with refused := some e }
  | _, _ => k

abbrev Dialogue : Type := List (Exchange Request Request.Reply Exn)

/-- What a dialogue has come to. -/
def ringing (l : Dialogue) : Ringing := heard Ringing.note .silent l

/-- The lock is given, and given back, without an exception. -/
def Granted (r : Request) (x : Except Exn r.Reply) : Prop :=
  r = .acquire ∨ r = .release → ∃ a, x = .ok a

/-- Nobody rings for a request that raises, and one operator for a request that returns: the
channel that it returns, which is told of the call. -/
def Answers (job : AnswerJob) (l : Dialogue) : Except Exn String → Prop
  | .ok channelId => ∃ o, (ringing l).operators = [(o, channelId)] ∧ o.appArgs = job.appArgs
  | .error _ => (ringing l).operators = []

/-- Taking the call out has raised nothing unexpected. -/
def TakenOut (job : AnswerJob) (l : Dialogue) : Prop :=
  ∀ e, (ringing l).refused = some e → job.expects e = true

/-! ## Contracts -/

section Contracts

variable {α : Type} {job : AnswerJob} {tenant sb call user bridgeId endpoint action : String}
  {line : Option ℤ} {k : Ringing}

/-- The end of a request that returns. -/
def Rung (job : AnswerJob) (k : Ringing) (channelId : String) : Prop :=
  (∃ o, k.operators = [(o, channelId)] ∧ o.appArgs = job.appArgs) ∧
    ∀ e, k.refused = some e → job.expects e = true

/-- The end of a request that raises: nobody was originated yet, or the call could not be
taken out. -/
def Failed (job : AnswerJob) (k : Ringing) (_ : Exn) : Prop :=
  k = .silent ∨ k.operators ≠ [] ∧ ∃ e, k.refused = some e ∧ job.expects e = false

/-- Requests that say nothing while nobody rings. -/
def Request.Unheard : Request → Prop
  | .originate _ => False
  | _ => True

theorem note_silent {r : Request} (h : r.Unheard) (x : Except Exn r.Reply) :
    Ringing.silent.note r x = .silent := by
  cases r <;> first | exact absurd h id | (rcases x with e | a <;> rfl)

/-- A part before anybody rings. -/
theorem ends_silent {p : Code α} (hp : p.Asks Request.Unheard) :
    Ends Granted Ringing.note (fun k _ => k = .silent) (Failed job) .silent p :=
  (Ends.of_asks hp fun _ h x => note_silent h x).mono (fun _ _ h => h) fun _ _ h => .inl h

theorem hasCall_unheard : (hasCall bridgeId call).Asks Request.Unheard := by
  unfold hasCall bridgeCallIds
  refine .bind (.bind (.catching (.request trivial)) fun found => ?_) fun _ => .pure _
  cases found with
  | none => exact .pure _
  | some bridge => exact .pure _

/-- The call is taken out, from the bridge that it is in. -/
theorem ends_takeOut {channelId : String} (hk : Rung job k channelId) :
    Ends Granted Ringing.note (fun k _ => Rung job k channelId) (Failed job) k
      (ignoring job.expects do
        let bridge ← send (.bridgesGet bridgeId)
        send (.removeChannel bridge.id call)) := by
  obtain ⟨⟨o, ho, hargs⟩, hrefused⟩ := hk
  have hrings : k.operators ≠ [] := by simp [ho]
  have hraise (e : Exn) : if job.expects e = true
      then Rung job { k with refused := some e } channelId
      else Failed job { k with refused := some e } e := by
    split
    · next he => exact ⟨⟨o, ho, hargs⟩, fun e' h => Option.some.inj h ▸ he⟩
    · next he => exact .inr ⟨hrings, e, rfl, by simpa using he⟩
  refine Ends.ignoring (Ends.bind (Ends.request (fun bridge _ => ?_) fun e _ => ?_))
  · refine Ends.request (fun _ _ => ?_) fun e _ => ?_
    · exact ⟨⟨o, ho, hargs⟩, hrefused⟩
    · simpa [Ringing.note, hrings] using hraise e
  · simpa [Ringing.note, hrings] using hraise e

/-- The operator of a call is originated. -/
theorem ends_originate {caller : Ari.CallerId} {originator : Option String}
    (hargs : job.appArgs = ["switchboard", action, tenant, sb, call]) :
    Ends Granted Ringing.note (Rung job) (Failed job) .silent
      (originateOperator action tenant sb call endpoint caller originator) := by
  refine Ends.request (fun id _ => ?_) fun e _ => .inl rfl
  exact ⟨⟨_, rfl, hargs.symm⟩, fun e he => by cases he⟩

/-- What is done with the lock: the tests, and then the answer. -/
theorem ends_locked {answer : Code String}
    (hanswer : Ends Granted Ringing.note (Rung job) (Failed job) .silent answer) :
    Ends Granted Ringing.note (Rung job) (Failed job) .silent (locked do
      if ← confdSwitchboardExists tenant sb then
        if ← hasCall bridgeId call then answer
        else throw (.noSuchCall call)
      else throw (.noSuchSwitchboard sb)) := by
  have hrelease {Q : Ringing → Prop} {k : Ringing} (hk : Q k) :
      Ends Granted Ringing.note (fun k (_ : Unit) => Q k) (Failed job) k (send .release) := by
    refine Ends.request (fun _ _ => hk) fun e he => ?_
    obtain ⟨a, ha⟩ := he (.inr rfl)
    cases ha
  refine Ends.bind (Ends.request (fun _ _ => ?_) fun e he => ?_)
  swap
  · obtain ⟨a, ha⟩ := he (.inl rfl)
    cases ha
  refine Ends.ensuring (Ends.mono (Q := Rung job) (E := Failed job) ?_
    (fun k channelId hk => hrelease (Q := fun k => Rung job k channelId) hk)
    fun k e hk => ?_)
  · refine (ends_silent (confdSwitchboardExists_asks trivial)).after ?_ fun _ _ h => h
    rintro k found rfl
    cases found with
    | false => exact Ends.throw (.inl rfl)
    | true =>
      refine (ends_silent hasCall_unheard).after ?_ fun _ _ h => h
      rintro k found rfl
      cases found with
      | false => exact Ends.throw (.inl rfl)
      | true => exact hanswer
  · refine Ends.request (fun _ _ => hk) fun e he => ?_
    obtain ⟨a, ha⟩ := he (.inr rfl)
    cases ha

theorem ends_job (job : AnswerJob) :
    Ends Granted Ringing.note (Rung job) (Failed job) .silent job.code := by
  have hchannel {call : String} : (callChannel call).Asks Request.Unheard :=
    callChannel_asks trivial
  have hoperator {tenant user : String} {line : Option ℤ} :
      (operatorEndpoint tenant user line).Asks Request.Unheard :=
    operatorEndpoint_asks (fun _ => trivial) fun _ _ => trivial
  cases job with
  | queued tenant sb call user line =>
    have hoffer : Ends Granted Ringing.note (Rung (.queued tenant sb call user line))
        (Failed (.queued tenant sb call user line)) .silent
        (offerQueuedCall tenant sb call user line) := by
      refine (ends_silent hchannel).after ?_ fun _ _ h => h
      rintro k channel rfl
      refine (ends_silent hoperator).after ?_ fun _ _ h => h
      rintro k endpoint rfl
      exact ends_originate rfl
    refine ends_locked (hoffer.after (fun k channelId hk => ?_) fun _ _ h => h)
    exact (ends_takeOut hk).after (fun _ _ h => Ends.pure h) fun _ _ h => h
  | held tenant sb call user line =>
    refine ends_locked ((ends_silent hchannel).after ?_ fun _ _ h => h)
    rintro k channel rfl
    refine (ends_silent hoperator).after ?_ fun _ _ h => h
    rintro k endpoint rfl
    have hargs : (AnswerJob.held tenant sb call user line).appArgs = [_, _, tenant, sb, call] := rfl
    refine (ends_originate hargs).after ?_ fun _ _ h => h
    intro k channelId hk
    exact (ends_takeOut hk).after (fun _ _ h => Ends.pure h) fun _ _ h => h

end Contracts

/-! ## The exact condition -/

/-- **A request to answer a call fails before anybody rings or not at all, exactly when taking
the call out raises nothing unexpected**, whatever else it is answered. -/
theorem answer_rings_iff (job : AnswerJob) (l : Dialogue) (y : Except Exn String)
    (granted : ∀ x ∈ l, Granted x.request x.answer) (run : job.code.Comes l y) :
    Answers job l y ↔ TakenOut job l := by
  have hends := (ends_job job).comes run granted
  cases y with
  | ok channelId => exact iff_of_true hends.1 hends.2
  | error e =>
    obtain hsilent | ⟨hrings, e', hrefused, hunexpected⟩ := hends
    · refine iff_of_true ?_ fun e he => ?_
      · show (ringing l).operators = []
        unfold ringing
        rw [hsilent]
        rfl
      · unfold ringing at he
        rw [hsilent] at he
        cases he
    · refine iff_of_false hrings fun h => ?_
      exact absurd (h e' hrefused) (by simp [hunexpected])

/-! ## A held call that is moved -/

/-- Asterisk and confd, for a call that is in both bridges until it is to be taken out: it is,
or somebody has moved it before. -/
def moving (moved : Bool) (u : Unit) : (r : Request) → Except Exn r.Reply × Unit
  | .bridgesGet id => (.ok ⟨id, "holding", ["1.1"]⟩, u)
  | .removeChannel .. => (if moved then .error (.raised .ariUnprocessable) else .ok (), u)
  | .channelsGet id => (.ok ⟨id, ⟨"caller", "1000"⟩⟩, u)
  | .confdSwitchboard .. => (.ok ⟨none, none⟩, u)
  | .confdUser .. => (.ok ⟨"tenant", [1]⟩, u)
  | .confdLine .. => (.ok ⟨"sip", "abcdef"⟩, u)
  | .originate _ => (.ok "2.1", u)
  | .bridgesList => (.ok [], u)
  | .bridgesCreate type => (.ok ⟨"bridge", type, []⟩, u)
  | .bridgesCreateWithId type id => (.ok ⟨id, type, []⟩, u)
  | .getChannelVar .. => (.ok "", u)
  | .acquire | .release | .startMoh .. | .addChannel .. | .setChannelVar .. | .answer _
  | .hangup _ | .continueInDialplan .. | .publish _ | .callLater .. => (.ok (), u)

theorem granted_moving (moved : Bool) (u : Unit) (r : Request) :
    Granted r (moving moved u r).1 := by
  rintro (rfl | rfl)
  · exact ⟨(), rfl⟩
  · exact ⟨(), rfl⟩

def answerHeld : AnswerJob := .held "tenant" "red" "1.1" "alice" none

/-- **The operator rings for a request that raises** when the held call has been moved to
another bridge. -/
theorem held_call_moved :
    let l := dialogue (moving true) answerHeld.code ()
    let y := (exec (moving true) answerHeld.code ()).1
    (∀ x ∈ l, Granted x.request x.answer) ∧ answerHeld.code.Comes l y ∧
      y = .error (.raised .ariUnprocessable) ∧ ¬ Answers answerHeld l y := by
  intro l y
  have hy : y = .error (.raised .ariUnprocessable) := by decide
  refine ⟨forall_mem_dialogue (granted_moving true) _ _, comes_dialogue _ _ _, hy, ?_⟩
  rw [hy]
  show ¬ (ringing l).operators = []
  decide

/-- When it is still held, the operator is returned. -/
theorem answer_rings_iff_held :
    let l := dialogue (moving false) answerHeld.code ()
    let y := (exec (moving false) answerHeld.code ()).1
    y = .ok "2.1" ∧ (Answers answerHeld l y ↔ TakenOut answerHeld l) :=
  ⟨by decide, answer_rings_iff answerHeld _ _
    (forall_mem_dialogue (granted_moving false) _ _) (comes_dialogue _ _ _)⟩

end Calld.Switchboards
