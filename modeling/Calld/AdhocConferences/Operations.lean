/-
# The errors of the operations on a conference

To delete a conference, and to add or to remove a participant, the service reads in turn that
the bridge exists, who the host is, and who the members are.  A bridge that is not there is
expected by the first read only: its host variable is unset until the host has entered, and
again when the bridge is destroyed, and the members are read from a bridge that may be gone.

What the operation raises is an error of the API exactly when no read has failed where nothing
expects it, and the manager has not refused a redirection.
-/
import Calld.AdhocConferences.Reports

namespace Calld.AdhocConferences

open Effect Effect.Interactive

/-! ## The operations -/

/-- An operation on a conference that exists, or not. -/
inductive Job where
  | delete (adhocConferenceId userUuid : String)
  | add (adhocConferenceId participantCallId userUuid : String)
  | remove (adhocConferenceId participantCallId userUuid : String)
  deriving DecidableEq, Repr

namespace Job

def code : Job → Code Unit
  | .delete id userUuid => deleteFromUser id userUuid
  | .add id callId userUuid => addParticipantFromUser id callId userUuid
  | .remove id callId userUuid => removeParticipantFromUser id callId userUuid

def operation : Job → Operation
  | .delete .. => .deleteFromUser
  | .add .. => .addParticipantFromUser
  | .remove .. => .removeParticipantFromUser

def conferenceId : Job → String
  | .delete id _ | .add id .. | .remove id .. => id

end Job

/-- The operation succeeds, or raises an error of the API. -/
def Documented : Except Exn Unit → Prop
  | .ok _ => True
  | .error e => ∃ a, e = .api a

/-- No error escapes, and the manager does not refuse. -/
def Guarded (job : Job) (l : List (Exchange Request Request.Reply Exn)) : Prop :=
  let k := report job.operation job.conferenceId l
  k.escaped = false ∧ k.late = false

/-! ## Contracts -/

section Contracts

variable {op : Operation} {id c userUuid : String} {k : Report}

/-- How an operation ends when it raises. -/
def Raises (k : Report) (e : Exn) : Prop :=
  Escapes k e ∨ (∃ a, e = .api a) ∧ k.escaped = false ∧ k.late = false ∨
    e = .raised .wazoAmidError ∧ k.escaped = false ∧ k.late = true

/-- An error of the API when all is well. -/
theorem raises_api (hk : k.Calm) {a : ApiError} : Raises k (.api a) :=
  .inr (.inl ⟨⟨a, rfl⟩, hk.escaped, hk.late⟩)

theorem raises_of_breaks {e : Exn} (h : Breaks false k e) : Raises k e := by
  rcases h with h | ⟨ha, hescaped, -, hlate, -⟩ | ⟨he, hescaped, -, hlate, -⟩
  · exact .inl h
  · exact .inr (.inl ⟨ha, hescaped, hlate rfl⟩)
  · exact .inr (.inr ⟨he, hescaped, hlate⟩)

/-- A request of which only "not found" is dealt with. -/
theorem tells_catchNotFound {r : Request} {α : Type} {f : Option r.Reply → Code α}
    {Q : Report → α → Prop} {E : Report → Exn → Prop}
    (hr : ∀ f, Raisable r f → f ≠ .wazoAmidError)
    (hh : ∀ f, op.handles k r f = (f = .ariNotFound : Bool))
    (hfails : (k.asking id r).fails r .ariNotFound = k)
    (hok : ∀ a, Tells op id Q E ((k.asking id r).hears id r a) (f (some a)))
    (hnone : Tells op id Q E k (f none)) (hE : ∀ k e, Escapes k e → E k e) :
    Tells op id Q E k (catching Exn.isARINotFound (send r) >>= f) := by
  refine Ends.bind (Ends.catching (tells_send hok ?_ ?_))
  · intro g _ hg
    obtain rfl : g = .ariNotFound := by simpa [hh] using hg
    rw [hfails]
    exact hnone
  · intro g hg hnot
    have hfound : (Exn.raised g).isARINotFound = false := by
      cases g <;> first | rfl | simp [hh] at hnot
    rw [if_neg (by simp [hfound])]
    refine hE _ _ ⟨rfl, ?_⟩
    have hne := hr g hg
    cases g <;> first | rfl | exact absurd rfl hne

/-- The host of the conference has been read. -/
def Report.knows (k : Report) : Report := { k with known := true }

theorem Report.Calm.knows (hk : k.Calm) : k.knows.Calm := ⟨hk.escaped, hk.early, hk.late⟩

theorem tells_bridgeExists (hknown : k.known = false) :
    Tells op id (fun k' _ => k' = k) Escapes k (bridgeExists c) := by
  refine tells_catchNotFound (fun _ h => h) (fun f => ?_) rfl (fun _ => Ends.pure rfl)
    (Ends.pure rfl) fun _ _ he => he
  cases op <;> simp [Operation.handles, hknown]

theorem tells_checkConference (hk : k.Calm) (hknown : k.known = false) :
    Tells op id (fun k' _ => k' = k) Raises k (checkConference c) := by
  refine (tells_bridgeExists hknown).after (fun k' found hk' => ?_) fun _ _ he => .inl he
  subst hk'
  cases found with
  | true => exact Ends.pure rfl
  | false => exact Ends.throw (raises_api hk)

/-- The host variable is read without a guard. -/
theorem tells_bridgeVariable {variable_ : String} :
    Tells op id (fun k' _ => k' = k.knows) Escapes k (bridgeVariable c variable_) := by
  refine Ends.bind (Ends.catching (tells_send (fun _ => Ends.pure rfl) ?_ ?_))
  · intro f _ hh
    cases hh
  · intro f hf _
    by_cases hfound : (Exn.raised f).isARINotFound = true
    · rw [if_pos hfound]
      exact Ends.throw ⟨rfl, rfl⟩
    · rw [if_neg hfound]
      refine ⟨rfl, ?_⟩
      cases f <;> first | rfl | exact absurd rfl hf

theorem tells_checkHost (hk : k.Calm) :
    Tells op id (fun k' _ => k' = k.knows) Raises k (checkHost c userUuid) := by
  refine tells_bridgeVariable.after (fun k' hostUserUuid hk' => ?_) fun _ _ he => .inl he
  subst hk'
  show Tells _ _ _ _ _ (if hostUserUuid = userUuid then _ else _)
  by_cases hu : hostUserUuid = userUuid
  · rw [if_pos hu]
    exact Ends.pure rfl
  · rw [if_neg hu]
    exact Ends.throw (raises_api hk.knows)

theorem tells_checkCall (hk : k.Calm) (hc : k.created = false) :
    Tells op id (fun k' _ => k' = k) Raises k (checkCall c) := by
  refine (tells_exists hc).after (fun k' found hk' => ?_) fun _ _ he => .inl he
  subst hk'
  cases found with
  | true => exact Ends.pure rfl
  | false => exact Ends.throw (raises_api hk)

/-- The members of a conference whose host is known are read without a guard. -/
theorem tells_members (hop : op = .addParticipantFromUser ∨ op = .removeParticipantFromUser)
    (hknown : k.known = true) :
    Tells op id (fun k' _ => k' = k) Escapes k (send (.bridgesGet c)) := by
  refine tells_send (fun _ => rfl) (fun f _ hh => ?_) fun f hf _ => ⟨rfl, ?_⟩
  · rcases hop with rfl | rfl <;> simp [Operation.handles, hknown] at hh
  · cases f <;> first | rfl | exact absurd rfl hf

theorem tells_hangUp (hop : op = .deleteFromUser ∨ op = .removeParticipantFromUser) :
    Tells op id (fun k' _ => k' = k) Raises k (hangUp c) := by
  refine tells_catchNotFound (fun _ h => h) (fun f => ?_) rfl (fun _ => ?_) ?_ fun _ _ he => .inl he
  · rcases hop with rfl | rfl <;> simp [Operation.handles]
  · exact Ends.pure rfl
  · exact Ends.pure rfl

theorem tells_hangupAll :
    Tells .deleteFromUser id (fun k' _ => k' = k) Raises k (hangupAll c) := by
  refine tells_catchNotFound (fun _ h => h) (fun f => by simp [Operation.handles]) rfl
    (fun channels => ?_) (Ends.pure rfl) fun _ _ he => .inl he
  exact tells_forM (I := fun _ _ k' => k' = k) (fun _ c _ k' hk' => by
    subst hk'
    exact tells_hangUp (.inl rfl)) rfl

/-! ## The three operations -/

theorem tells_deleteFromUser :
    Tells .deleteFromUser id (fun k' _ => k'.Calm) Raises .blank (deleteFromUser c userUuid) := by
  have hcalm : Report.blank.Calm := ⟨rfl, rfl, rfl⟩
  refine (tells_checkConference hcalm rfl).after (fun k₁ _ hk₁ => ?_) fun _ _ he => he
  subst hk₁
  refine (tells_checkHost hcalm).after (fun k₂ _ hk₂ => ?_) fun _ _ he => he
  subst hk₂
  exact tells_hangupAll.mono (fun k' _ hk' => hk' ▸ hcalm.knows) fun _ _ he => he

theorem tells_removeParticipantFromUser {callId : String} :
    Tells .removeParticipantFromUser id (fun k' _ => k'.Calm) Raises .blank
      (removeParticipantFromUser c callId userUuid) := by
  have hcalm : Report.blank.Calm := ⟨rfl, rfl, rfl⟩
  refine (tells_checkConference hcalm rfl).after (fun k₁ _ hk₁ => ?_) fun _ _ he => he
  subst hk₁
  refine (tells_checkHost hcalm).after (fun k₂ _ hk₂ => ?_) fun _ _ he => he
  subst hk₂
  refine (tells_checkCall hcalm.knows rfl).after (fun k₃ _ hk₃ => ?_) fun _ _ he => he
  subst hk₃
  refine (tells_members (.inr rfl) rfl).after (fun k₄ participants hk₄ => ?_) fun _ _ he => .inl he
  subst hk₄
  show Tells _ _ _ _ _ (if callId ∈ participants then _ else _)
  by_cases hmember : callId ∈ participants
  · rw [if_pos hmember]
    exact (tells_hangUp (.inr rfl)).mono (fun k' _ hk' => hk' ▸ hcalm.knows) fun _ _ he => he
  · rw [if_neg hmember]
    exact Ends.throw (raises_api hcalm.knows)

theorem tells_addParticipantFromUser {callId : String} :
    Tells .addParticipantFromUser id (fun k' _ => k'.Calm) Raises .blank
      (addParticipantFromUser id callId userUuid) := by
  have hcalm : Report.blank.Calm := ⟨rfl, rfl, rfl⟩
  refine (tells_checkConference hcalm rfl).after (fun k₁ _ hk₁ => ?_) fun _ _ he => he
  subst hk₁
  refine (tells_checkCall hcalm rfl).after (fun k₂ _ hk₂ => ?_) fun _ _ he => he
  subst hk₂
  refine (tells_checkHost hcalm).after (fun k₃ _ hk₃ => ?_) fun _ _ he => he
  subst hk₃
  refine (tells_members (.inl rfl) rfl).after (fun k₄ members hk₄ => ?_) fun _ _ he => .inl he
  subst hk₄
  show Tells _ _ _ _ _ (if callId ∈ members then _ else _)
  by_cases hmember : callId ∈ members
  · rw [if_pos hmember]
    exact Ends.throw (raises_api hcalm.knows)
  · rw [if_neg hmember]
    refine (tells_findPeerOr rfl).after (fun k₅ discarded hk₅ => ?_) fun k' e he => ?_
    · obtain ⟨rfl, -⟩ := hk₅
      have hfound : (Report.blank.knows.found discarded).Calm := ⟨rfl, rfl, rfl⟩
      refine (tells_user rfl).after (fun k₆ user hk₆ => ?_) fun _ _ he => .inl he
      subst hk₆
      show Tells _ _ _ _ _ (if user = some userUuid then _ else _)
      by_cases hu : user = some userUuid
      · rw [if_pos hu]
        refine (tells_redirectParticipant (.inr rfl) hfound).mono (fun k' _ h' => ?_)
          fun _ _ he => raises_of_breaks he
        exact ⟨h'.escaped, h'.early, h'.late⟩
      · rw [if_neg hu]
        exact Ends.throw (raises_api hfound)
    · rcases he with he | ⟨⟨a, rfl⟩, rfl⟩
      · exact .inl he
      · exact raises_api hcalm.knows

end Contracts

theorem tells_job (job : Job) :
    Tells job.operation job.conferenceId (fun k _ => k.Calm) Raises .blank job.code := by
  cases job with
  | delete id userUuid => exact tells_deleteFromUser
  | add id callId userUuid => exact tells_addParticipantFromUser
  | remove id callId userUuid => exact tells_removeParticipantFromUser

/-! ## The exact condition -/

/-- **An operation fails with its documented errors only, exactly when its dialogue is guarded**,
whatever is answered to any of its requests. -/
theorem operation_documented_iff (job : Job) (l : List (Exchange Request Request.Reply Exn))
    (y : Except Exn Unit) (possible : ∀ x ∈ l, Possible x.request x.answer)
    (run : job.code.Comes l y) : Documented y ↔ Guarded job l := by
  have hends := (tells_job job).comes run possible
  cases y with
  | ok u => exact iff_of_true trivial ⟨hends.escaped, hends.late⟩
  | error e =>
    rcases hends with ⟨hescaped, he⟩ | ⟨he, hescaped, hlate⟩ | ⟨rfl, hescaped, hlate⟩
    · refine iff_of_false (fun ⟨a, ha⟩ => ?_) fun hg => ?_
      · rw [ha] at he
        cases he
      · exact absurd (hescaped.symm.trans hg.1) (by simp)
    · exact iff_of_true he ⟨hescaped, hlate⟩
    · refine iff_of_false (fun ⟨a, ha⟩ => by cases ha) fun hg => ?_
      exact absurd (hlate.symm.trans hg.2) (by simp)

/-! ## Before the host has entered -/

/-- A conference whose bridge is there; its variables are set when the host has entered. -/
def conference (entered : Bool) (u : Unit) : (r : Request) → Except Exn r.Reply × Unit
  | .getGlobalVar _ => (if entered then .ok "user" else .error (.raised .ariNotFound), u)
  | .bridgesGet _ => (.ok ["host", "peer"], u)
  | .bridgesList _ => (.ok [⟨"conf", ["host", "peer"]⟩], u)
  | .channelsGet c => (.ok ("PJSIP/" ++ c), u)
  | .getChannelVar .. => (.ok "user", u)
  | .created .. | .setChannelVar .. | .move .. | .hangup _ | .bridgesDestroy _ | .redirect _ =>
    (.ok (), u)

theorem possible_conference (entered : Bool) (u : Unit) (r : Request) :
    Possible r (conference entered u r).1 := by
  cases r with
  | getGlobalVar v =>
    cases entered with
    | true => trivial
    | false => exact ⟨.ariNotFound, rfl, by simp [Raisable]⟩
  | _ => trivial

/-- The user deletes the conference. -/
def deletion : Job := .delete "conf" "user"

/-- **A conference whose host has not entered cannot be deleted**: a `KeyError` escapes. -/
theorem deletion_before_host :
    let l := dialogue (conference false) deletion.code ()
    let y := (exec (conference false) deletion.code ()).1
    (∀ x ∈ l, Possible x.request x.answer) ∧ deletion.code.Comes l y ∧
      y = .error (.keyError "WAZO_BRIDGE_conf_VARIABLE_WAZO_HOST_USER_UUID") ∧
      ¬ Documented y := by
  intro l y
  have hy : y = .error (.keyError "WAZO_BRIDGE_conf_VARIABLE_WAZO_HOST_USER_UUID") := by
    decide
  refine ⟨forall_mem_dialogue (possible_conference false) _ _, comes_dialogue _ _ _, hy, ?_⟩
  rw [hy]
  rintro ⟨a, ha⟩
  cases ha

/-- When the host has entered, the conference is deleted. -/
theorem operation_documented_iff_deletion :
    let l := dialogue (conference true) deletion.code ()
    let y := (exec (conference true) deletion.code ()).1
    y = .ok () ∧ (Documented y ↔ Guarded deletion l) :=
  ⟨by decide, operation_documented_iff deletion _ _
    (forall_mem_dialogue (possible_conference true) _ _) (comes_dialogue _ _ _)⟩

end Calld.AdhocConferences
