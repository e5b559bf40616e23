/-
# Requests on a transfer that ends meanwhile

`complete`, `complete_from_user`, `cancel` and `cancel_from_user` look the transfer up once
or twice: the two of a user check the initiator first, and all four read the transfer again
under the lock of the state machine.  Between the two reads the transfer may end.

Here a request takes one step for each read, for the lock and for the transition, and the
steps of any number of threads interleave.  The other requests and the events run as a whole
while they hold the lock, as in `Run.lean`.
-/
import Calld.Effect.Machine
import Calld.Transfers.Run
import Calld.Transfers.StateLock
import Calld.Transfers.Calls

namespace Calld.Transfers

open Effect Effect.Program

/-! ## Requests -/

/-- The four requests. -/
inductive Request where
  | complete (id : TransferId)
  | completeFromUser (id : TransferId) (userUuid : UserUuid)
  | cancel (id : TransferId)
  | cancelFromUser (id : TransferId) (userUuid : UserUuid)
  deriving DecidableEq, Repr

namespace Request

def id : Request → TransferId
  | complete id | completeFromUser id _ | cancel id | cancelFromUser id _ => id

/-- The user on whose behalf the request is made. -/
def user? : Request → Option UserUuid
  | complete _ | cancel _ => none
  | completeFromUser _ userUuid | cancelFromUser _ userUuid => some userUuid

def transition : Request → Transition
  | complete _ | completeFromUser _ _ => .complete
  | cancel _ | cancelFromUser _ _ => .cancel

/-- What calld runs. -/
def code : Request → Code Unit
  | complete id => TransfersService.complete id
  | completeFromUser id userUuid => TransfersService.completeFromUser id userUuid
  | cancel id => TransfersService.cancel id
  | cancelFromUser id userUuid => TransfersService.cancelFromUser id userUuid

/-- What comes before the `with` block: nothing, or the look-up that checks the initiator. -/
def check (r : Request) : Code Unit :=
  match r.user? with
  | some userUuid => TransfersService.getOwned r.id userUuid
  | none => pure ()

/-- The body of the `with` block. -/
def act (r : Request) (state : Transfer) : Code Unit := do
  let _ ← call r.transition state

/-- `except KeyError: raise NoSuchTransfer(transfer_id)`, which `complete_from_user` has not. -/
def report (r : Request) (a : Except Exn Unit) : Except Exn Unit :=
  match r, a with
  | completeFromUser _ _, a => a
  | r, .error .keyError => .error (.noSuchTransfer r.id)
  | _, a => a

end Request

/-- The object that `make` yields to the body of its `with` block. -/
def StateFactory.state (id : TransferId) : Code Transfer := do
  let t ← StatePersistor.get id
  if !t.status.hasConstructor then
    throw .keyError
  return t

/-- `make` is its block around the look-up and the body. -/
theorem StateFactory.make_eq {α : Type} (id : TransferId) (body : Transfer → Code α) :
    StateFactory.make id body = locked (state id >>= body) := by
  unfold make state
  congr 1
  funext env s
  simp only [bind_apply]
  rcases StatePersistor.get id env s with ⟨e | t, u⟩
  · rfl
  · cases h : t.status.hasConstructor <;> simp only [h] <;> rfl

/-- `complete_from_user` alone lets a `KeyError` out. -/
theorem Request.report_of_ne {r : Request} (h : ∀ id uuid, r ≠ .completeFromUser id uuid)
    (a : Except Exn Unit) :
    r.report a = match a with
      | .error .keyError => .error (.noSuchTransfer r.id)
      | a => a := by
  cases r with
  | completeFromUser id uuid => exact absurd rfl (h id uuid)
  | complete _ => rcases a with e | _ <;> first | rfl | (cases e <;> rfl)
  | cancel _ => rcases a with e | _ <;> first | rfl | (cases e <;> rfl)
  | cancelFromUser _ _ => rcases a with e | _ <;> first | rfl | (cases e <;> rfl)

theorem orNoSuchTransfer_report {r : Request} (h : ∀ id uuid, r ≠ .completeFromUser id uuid)
    (p : Code Unit) (env : Env) (u : System) :
    orNoSuchTransfer r.id p env u = (r.report (p env u).1, (p env u).2) := by
  simp only [orNoSuchTransfer, bind_apply, Program.catching, r.report_of_ne h]
  rcases p env u with ⟨e | _, v⟩
  · cases e <;> rfl
  · rfl

/-- A request is its check, and then its block with what is made of the exceptions. -/
theorem Request.code_apply (r : Request) (env : Env) (s : System) :
    r.code env s =
      match r.check env s with
      | (.ok _, u) =>
        (r.report (StateFactory.make r.id r.act env u).1, (StateFactory.make r.id r.act env u).2)
      | (.error e, u) => (.error e, u) := by
  cases r with
  | complete id => exact orNoSuchTransfer_report (r := .complete id) (by simp) _ env s
  | cancel id => exact orNoSuchTransfer_report (r := .cancel id) (by simp) _ env s
  | completeFromUser id userUuid =>
    have checked : (completeFromUser id userUuid).check env s =
      TransfersService.getOwned id userUuid env s := rfl
    simp only [checked, code, TransfersService.completeFromUser, bind_apply]
    rcases TransfersService.getOwned id userUuid env s with ⟨e | _, u⟩ <;> rfl
  | cancelFromUser id userUuid =>
    have checked : (cancelFromUser id userUuid).check env s =
      TransfersService.getOwned id userUuid env s := rfl
    simp only [checked, code, TransfersService.cancelFromUser, bind_apply]
    rcases TransfersService.getOwned id userUuid env s with ⟨e | _, u⟩
    · rfl
    · exact orNoSuchTransfer_report (r := .cancelFromUser id userUuid) (by simp) _ env u

/-! ## Threads -/

/-- What a thread of calld works on: one of the requests, or another operation. -/
inductive Task where
  | request (r : Request)
  | handler (op : Op)

/-- What a request has seen under the id of its transfer: nothing, a transfer that it has
left alone, or one on which it has called its transition. -/
inductive Sight where
  | missing
  | kept (t : Transfer)
  | called (t : Transfer)

/-- What a look at a stored transfer sees. -/
def Sight.of (s : System) (id : TransferId) : Sight :=
  match s.asterisk.records id with
  | none => .missing
  | some t => .kept t

/-- Where a thread stands. -/
inductive Stage where
  | idle
  /-- before the look-up that checks the initiator -/
  | checking (r : Request)
  /-- before `state_machine_lock.acquire(timeout=10)` -/
  | waiting (k : Task)
  /-- in the `with` block, before the look-up -/
  | reading (r : Request)
  /-- in the `with` block, before the transition -/
  | applying (r : Request) (t : Transfer)
  /-- in the `with` block of another operation -/
  | handling (op : Op)
  /-- before the end of the `with` block -/
  | leaving (r : Request) (seen : Sight) (a : Except Exn Unit)
  | handled
  /-- `none` is the RuntimeError of a thread that releases a lock it does not hold. -/
  | answered (r : Request) (seen : Sight) (a : Option (Except Exn Unit))

namespace Stage

/-- The thread is in a `with` block. -/
def inside : Stage → Bool
  | reading _ | applying _ _ | handling _ | leaving _ _ _ | handled => true
  | idle | checking _ | waiting _ | answered _ _ _ => false

/-- The thread can take a task. -/
def free : Stage → Bool
  | idle | answered _ _ _ => true
  | _ => false

end Stage

/-- Where a thread goes that has the lock, or goes on without it. -/
def Task.enter : Task → Stage
  | request r => .reading r
  | handler op => .handling op

/-- Calld, the lock of the state machine, and its threads. -/
structure Threads (τ : Type) where
  system : System
  lock : RLock τ
  stage : τ → Stage

namespace Threads

variable {τ : Type} [DecidableEq τ]

def goto (s : Threads τ) (i : τ) (st : Stage) : Threads τ :=
  { s with stage := Function.update s.stage i st }

/-- The flag `state_machine_locked` is set, or taken down. -/
def mark (s : Threads τ) (b : Bool) : Threads τ :=
  { s with system := { s.system with stateMachineLocked := b } }

end Threads

/-- ARI finds the variables that are set; that of the index is set once and for all. -/
structure Env.Finds (env : Env) : Prop where
  record : ∀ n a id, env.ari n a (.getGlobalVar (.transfer id)) = .error .notFound →
    a.records id = none
  index : ∀ n a, env.ari n a (.getGlobalVar .index) ≠ .error .notFound

/-- An environment for one step. -/
abbrev FindingEnv := {env : Env // env.Finds}

/-- What a thread does next. -/
inductive ThreadAction where
  | start (k : Task)
  | check (env : FindingEnv)
  | acquire
  | expire
  | read (env : FindingEnv)
  | act (env : FindingEnv)
  | release

/-- The operation is not the end of the process. -/
def Op.continues : Op → Bool
  | restart => false
  | _ => true

/-- One step of a thread.  A thread that waits for the lock takes no step. -/
def threadStep {τ : Type} [DecidableEq τ] (i : τ) (a : ThreadAction) (s : Threads τ) :
    Option (Threads τ) :=
  match a, s.stage i with
  | .start (.request r), st =>
    if st.free then
      some (s.goto i (if r.user?.isSome then .checking r else .waiting (.request r)))
    else none
  | .start (.handler op), st =>
    if st.free && op.continues then some (s.goto i (.waiting (.handler op))) else none
  | .check env, .checking r =>
    match r.check env.1 s.system with
    | (.ok _, u) => some ({ s with system := u }.goto i (.waiting (.request r)))
    | (.error e, u) =>
      some ({ s with system := u }.goto i (.answered r (.of s.system r.id) (some (.error e))))
  | .acquire, .waiting k =>
    (s.lock.acquire i).map fun l => { (s.mark true).goto i k.enter with lock := l }
  | .expire, .waiting k =>
    -- `acquire` has returned False: the block goes on all the same
    if s.lock.acquire i = none then some ((s.mark true).goto i k.enter) else none
  | .read env, .reading r =>
    match StateFactory.state r.id env.1 s.system with
    | (.ok t, u) => some ({ s with system := u }.goto i (.applying r t))
    | (.error e, u) =>
      some ({ s with system := u }.goto i (.leaving r (.of s.system r.id) (.error e)))
  | .act env, .applying r t =>
    some ({ s with system := (r.act t env.1 s.system).2 }.goto i
      (.leaving r (.called t) (r.act t env.1 s.system).1))
  | .act env, .handling op =>
    if env.1.FreshIn s.system then
      some ({ s with system := (op.code env.1 s.system).2 }.goto i .handled)
    else none
  | .release, .leaving r seen a =>
    match s.lock.release i with
    | some l => some { (s.mark false).goto i (.answered r seen (some (r.report a))) with lock := l }
    | none => some ((s.mark false).goto i (.answered r seen none))
  | .release, .handled =>
    match s.lock.release i with
    | some l => some { (s.mark false).goto i .idle with lock := l }
    | none => some ((s.mark false).goto i .idle)
  | _, _ => none

/-- The threads of calld, from before anything has happened. -/
def threadMachine (τ : Type) [DecidableEq τ] : Machine (Threads τ) (τ × ThreadAction) where
  init s := s.system.Initial ∧ s.lock = none ∧ ∀ i, s.stage i = .idle
  step a s := threadStep a.1 a.2 s

/-! ## What the requests report -/

/-- `KeyError` and `NoSuchTransfer`. -/
def Exn.saysGone : Exn → Bool
  | .keyError | .noSuchTransfer _ => true
  | _ => false

/-- What a request answers, by what it has seen: NoSuchTransfer when there was nothing,
UserPermissionDenied to a user who has not initiated the transfer, and otherwise what its
transition has come to.  ARI may also fail to answer a look-up. -/
def Request.Reported (r : Request) : Sight → Except Exn Unit → Prop
  | .missing, a => a = .error (.noSuchTransfer r.id) ∨ ∃ e, a = .error (.ari e)
  | .kept t, a =>
    (∃ uuid, r.user? = some uuid ∧ t.initiatorUuid ≠ uuid ∧
      a = .error (.userPermissionDenied uuid)) ∨ ∃ e, a = .error (.ari e)
  | .called _, a => ∀ e, a = .error e → e.saysGone = false

/-- A transition is called on a transfer that is still stored, and every request answers as
it should. -/
def Threads.Reported {τ : Type} (s : Threads τ) : Prop :=
  ∀ i, match s.stage i with
    | .applying r t => s.system.asterisk.records r.id = some t
    | .answered r seen a => ∃ a', a = some a' ∧ r.Reported seen a'
    | _ => True

/-- A wait for the lock expires. -/
def ThreadAction.expires : ThreadAction → Bool
  | .expire => true
  | _ => false

/-- When `complete_from_user` looks its transfer up again, the transfer is still stored. -/
def Threads.findsAgain {τ : Type} (s : Threads τ) (a : τ × ThreadAction) : Bool :=
  match a.2, s.stage a.1 with
  | .read _, .reading (.completeFromUser id _) => (s.system.asterisk.records id).isSome
  | _, _ => true

/-- No wait for the lock expires. -/
def Threads.Waits {τ : Type} (_ : Threads τ) (a : τ × ThreadAction) : Prop :=
  a.2.expires = false

/-- No wait for the lock expires, and `complete_from_user` finds its transfer again. -/
def Threads.Finds {τ : Type} (s : Threads τ) (a : τ × ThreadAction) : Prop :=
  s.Waits a ∧ s.findsAgain a = true

instance {τ : Type} (s : Threads τ) (a : τ × ThreadAction) : Decidable (s.Waits a) :=
  inferInstanceAs (Decidable (_ = _))

instance {τ : Type} (s : Threads τ) (a : τ × ThreadAction) : Decidable (s.Finds a) :=
  inferInstanceAs (Decidable (_ ∧ _))

/-! ## The look-ups -/

section LookUps

variable {env : Env} {s : System} {r : Request}

/-- `get` finds what is stored, unless ARI fails. -/
theorem get_found (h : env.Finds) (id : TransferId) (s : System) :
    Quiet s (StatePersistor.get id env s).2 ∧
      match (StatePersistor.get id env s).1, s.asterisk.records id with
      | .ok t, found => found = some t
      | .error e, none => e = .keyError ∨ ∃ e', e = .ari e'
      | .error e, some _ => ∃ e', e = .ari e' := by
  refine ⟨(get_within id s).1, ?_⟩
  simp only [StatePersistor.get, StatePersistor.readGlobal, Program.catching, ari, bind_apply]
  cases ha : env.ari s.tick s.asterisk (.getGlobalVar (.transfer id)) with
  | ok u =>
    simp only [pure_apply, look_apply, Asterisk.apply]
    cases s.asterisk.records id with
    | none => exact .inl rfl
    | some t => rfl
  | error e =>
    cases e with
    | notFound =>
      rw [h.record _ _ _ ha]
      exact .inl rfl
    | notInStasis =>
      cases s.asterisk.records id with
      | none => exact .inr ⟨_, rfl⟩
      | some t => exact ⟨_, rfl⟩
    | other =>
      cases s.asterisk.records id with
      | none => exact .inr ⟨_, rfl⟩
      | some t => exact ⟨_, rfl⟩

/-- The check of the initiator. -/
theorem check_reported (h : env.Finds) (r : Request) (s : System) :
    Quiet s (r.check env s).2 ∧
      ∀ e, (r.check env s).1 = .error e → r.Reported (.of s r.id) (.error e) := by
  unfold Request.check
  cases huser : r.user? with
  | none => exact ⟨quiet.refl s, fun e he => by cases he⟩
  | some userUuid =>
    obtain ⟨hquiet, hfound⟩ := get_found h r.id s
    simp only [TransfersService.getOwned, TransfersService.get, orNoSuchTransfer, bind_apply,
      Program.catching, Sight.of]
    rcases hget : StatePersistor.get r.id env s with ⟨e | t, u⟩
    · simp only [hget] at hquiet hfound
      cases hrec : s.asterisk.records r.id with
      | none =>
        simp only [hrec] at hfound
        rcases hfound with rfl | ⟨e', rfl⟩
        · refine ⟨hquiet, fun e he => .inl ?_⟩
          exact he.symm
        · refine ⟨hquiet, fun e he => .inr ⟨e', ?_⟩⟩
          exact he.symm
      | some t =>
        simp only [hrec] at hfound
        obtain ⟨e', rfl⟩ := hfound
        refine ⟨hquiet, fun e he => .inr ⟨e', ?_⟩⟩
        exact he.symm
    · simp only [hget] at hquiet hfound
      simp only [pure_apply]
      by_cases howner : t.initiatorUuid = userUuid
      · simp only [howner, ne_eq, not_true_eq_false, if_false, pure_apply]
        exact ⟨hquiet, fun e he => by cases he⟩
      · simp only [howner, ne_eq, not_false_eq_true, if_true, throw_apply]
        refine ⟨hquiet, fun e he => ?_⟩
        rw [hfound]
        exact .inl ⟨userUuid, huser, howner, he.symm⟩

/-- The look-up of the factory, of transfers that are all well-formed. -/
theorem state_found (h : env.Finds) (hw : WellStored s.memory) (r : Request)
    (hstill : ∀ id uuid, r = .completeFromUser id uuid → (s.asterisk.records id).isSome) :
    Quiet s (StateFactory.state r.id env s).2 ∧
      match (StateFactory.state r.id env s).1 with
      | .ok t => s.asterisk.records r.id = some t
      | .error e => r.Reported (.of s r.id) (r.report (.error e)) := by
  obtain ⟨hquiet, hfound⟩ := get_found h r.id s
  simp only [StateFactory.state, bind_apply, Sight.of]
  rcases hget : StatePersistor.get r.id env s with ⟨e | t, u⟩
  · simp only [hget] at hquiet hfound
    refine ⟨hquiet, ?_⟩
    -- what ARI raises is reported as it is
    have hari (e' : AriError) : r.report (.error (.ari e')) = .error (.ari e') := by
      cases r <;> rfl
    cases hrec : s.asterisk.records r.id with
    | none =>
      simp only [hrec] at hfound
      rcases hfound with rfl | ⟨e', rfl⟩
      · left
        cases r with
        | completeFromUser id uuid =>
          have hsome := hstill id uuid rfl
          rw [show s.asterisk.records id = none from hrec] at hsome
          cases hsome
        | complete _ => rfl
        | cancel _ => rfl
        | cancelFromUser _ _ => rfl
      · exact .inr ⟨e', hari e'⟩
    | some t =>
      simp only [hrec] at hfound
      obtain ⟨e', rfl⟩ := hfound
      exact .inr ⟨e', hari e'⟩
  · simp only [hget] at hquiet hfound
    have hclass : t.status.hasConstructor = true := (hw.stands hfound).hasConstructor
    simp only [hclass, Bool.not_true, Bool.false_eq_true, if_false, pure_apply]
    exact ⟨hquiet, hfound⟩

/-- The transition of a stored transfer never says that the transfer is gone. -/
theorem act_reported (h : env.Finds) (hw : WellStored s.memory)
    (hflag : s.stateMachineLocked = true) {t : Transfer}
    (hst : s.asterisk.records r.id = some t) :
    WellStored (r.act t env s).2.memory ∧
      r.Reported (.called t) (r.report (r.act t env s).1) := by
  have own : t.id = r.id := (hw.stands hst).id
  have linked : Linked env {t.id} s t s :=
    ⟨⟨.refl, hw⟩, hflag, rfl, .stored (by rw [own]; exact hst)⟩
  have faults : env.Faults fun e => e.saysGone = false :=
    ⟨fun _ => rfl, fun _ => rfl, fun _ => rfl⟩
  have reads : env.Reads .index fun e => e.saysGone = false := by
    intro n a e he
    cases e with
    | notFound => exact absurd he (h.index n a)
    | notInStasis => rfl
    | other => rfl
  have writes : env.Writes fun e => e.saysGone = false := fun _ _ _ _ _ => rfl
  have run : Triple env (Linked env {t.id} s t) (call r.transition t)
      (fun _ u => WellStored u.memory) fun e u => WellStored u.memory ∧ e.saysGone = false := by
    cases hg : t.status.target r.transition with
    | none =>
      refine (call_unimplemented hg).weaken (fun _ h => h) (fun _ _ h => h.elim) fun e u hu => ?_
      refine ⟨hu.1.after.wellStored, ?_⟩
      cases e <;> first | rfl | cases hu.2
    | some g =>
      refine (call_spec faults reads writes hg fun e he => ?_).weaken (fun _ h => h)
        (fun _ _ hu => hu.1.linked.after.wellStored) fun e u hu => ⟨hu.1.after.wellStored, hu.2⟩
      rcases Status.raises_failing he with he | he
      · exact he
      · cases e <;> first | rfl | cases he
  have run := run s linked
  simp only [Request.act, bind_apply]
  rcases hcall : call r.transition t env s with ⟨e | t', u⟩ <;> rw [hcall] at run
  · refine ⟨run.1, fun e' he' => ?_⟩
    have hsame : r.report (.error e) = .error e := by
      cases r <;> cases e <;> first | rfl | cases run.2
    rw [hsame] at he'
    exact Except.error.inj he' ▸ run.2
  · refine ⟨run, fun e' he' => ?_⟩
    have hsame : r.report (.ok ()) = .ok () := by cases r <;> rfl
    simp only [pure_apply, hsame] at he'
    cases he'

end LookUps

/-! ## The invariant -/

namespace Threads

variable {τ : Type} {s s' : Threads τ} {i j : τ}

/-- What holds of a thread where it stands. -/
def Fits (s : Threads τ) (i : τ) : Prop :=
  match s.stage i with
  | .reading _ | .handling _ => s.system.stateMachineLocked = true
  | .applying r t => s.system.stateMachineLocked = true ∧
    s.system.asterisk.records r.id = some t
  | .leaving r seen a => r.Reported seen (r.report a)
  | .answered r seen a => ∃ a', a = some a' ∧ r.Reported seen a'
  | _ => True

/-- The stored transfers are well-formed, a thread holds the lock while it is in a `with`
block, once, and every thread fits. -/
structure Sound (s : Threads τ) : Prop where
  wellStored : WellStored s.system.memory
  owner : ∀ i, (s.stage i).inside = true → s.lock = some (i, 0)
  outside : ∀ i n, (s.stage i).inside = false → s.lock ≠ some (i, n)
  fits : ∀ i, s.Fits i

/-- A thread fits as before where neither the flag nor the stored transfers have changed. -/
theorem Fits.congr (h : s.Fits i) (hstage : s'.stage i = s.stage i)
    (hflag : s'.system.stateMachineLocked = s.system.stateMachineLocked)
    (hrec : s'.system.asterisk.records = s.system.asterisk.records) : s'.Fits i := by
  unfold Fits at h ⊢
  rw [hstage, hflag, hrec]
  exact h

/-- A thread outside of the `with` blocks fits whatever is stored. -/
theorem Fits.of_outside (h : s.Fits i) (hstage : s'.stage i = s.stage i)
    (hout : (s.stage i).inside = false) : s'.Fits i := by
  unfold Fits at h ⊢
  rw [hstage]
  cases hst : s.stage i <;> rw [hst] at h hout <;> first | exact h | cases hout

/-- The lock is free or held once by the thread. -/
def FreeFor (s : Threads τ) (i : τ) : Prop := s.lock = none ∨ s.lock = some (i, 0)

/-- While the lock is free or held by a thread, the others are in no block. -/
theorem Sound.others_outside (h : s.Sound) (hfree : s.FreeFor i) (hji : j ≠ i) :
    (s.stage j).inside = false := by
  by_contra hin
  have hj : s.lock = some (j, 0) := h.owner j (by simpa using hin)
  rcases hfree with hfree | hfree <;> rw [hfree] at hj <;> cases hj
  exact hji rfl

/-- A thread moves: it changes nothing that is stored and leaves the lock alone, or nobody
else holds the lock before or after. -/
theorem Sound.moved (h : s.Sound) (hstage : ∀ j, j ≠ i → s'.stage j = s.stage j)
    (hrest : Quiet s.system s'.system ∧ s'.lock = s.lock ∨ s.FreeFor i ∧ s'.FreeFor i)
    (hw : WellStored s'.system.memory) (hin : (s'.stage i).inside = true → s'.lock = some (i, 0))
    (hout : (s'.stage i).inside = false → ∀ n, s'.lock ≠ some (i, n)) (hfits : s'.Fits i) :
    s'.Sound := by
  have hother (j : τ) (hji : j ≠ i) : s'.Fits j ∧ ((s.stage j).inside = true →
      s'.lock = some (j, 0)) ∧ ((s.stage j).inside = false → ∀ n, s'.lock ≠ some (j, n)) := by
    rcases hrest with ⟨hquiet, hlock⟩ | ⟨hfree, hfree'⟩
    · rw [hlock]
      exact ⟨(h.fits j).congr (hstage j hji) hquiet.stateMachineLocked hquiet.records,
        h.owner j, fun ho n => h.outside j n ho⟩
    · have hj := h.others_outside hfree hji
      refine ⟨(h.fits j).of_outside (hstage j hji) hj, fun hjin => ?_, fun _ n he => ?_⟩
      · rw [hj] at hjin
        cases hjin
      · rcases hfree' with hfree' | hfree' <;> rw [hfree'] at he <;> cases he
        exact hji rfl
  refine ⟨hw, fun j hj => ?_, fun j n hj => ?_, fun j => ?_⟩
  · by_cases hji : j = i
    · rw [hji] at hj ⊢
      exact hin hj
    · rw [hstage j hji] at hj
      exact (hother j hji).2.1 hj
  · by_cases hji : j = i
    · rw [hji] at hj ⊢
      exact hout hj n
    · rw [hstage j hji] at hj
      exact (hother j hji).2.2 hj n
  · by_cases hji : j = i
    · rw [hji]
      exact hfits
    · exact (hother j hji).1

variable [DecidableEq τ]

@[simp] theorem goto_self (st : Stage) : (s.goto i st).stage i = st := Function.update_self ..

theorem goto_of_ne (st : Stage) (hji : j ≠ i) : (s.goto i st).stage j = s.stage j :=
  Function.update_of_ne hji ..

/-- A thread outside of the `with` blocks moves, and nothing that is stored changes. -/
theorem Sound.outside_step (h : s.Sound) {u : System} {st : Stage}
    (hfrom : (s.stage i).inside = false) (hto : st.inside = false) (hquiet : Quiet s.system u)
    (hfits : ({ s with system := u }.goto i st).Fits i) :
    ({ s with system := u }.goto i st).Sound := by
  have hw : WellStored u.memory := hquiet.memory ▸ h.wellStored
  refine h.moved (fun j hji => goto_of_ne st hji) (.inl ⟨hquiet, rfl⟩) hw (fun hin => ?_)
    (fun _ n => h.outside i n hfrom) hfits
  rw [goto_self, hto] at hin
  cases hin

/-- The thread in the `with` block moves, and the others are outside. -/
theorem Sound.inside_step (h : s.Sound) {u : System} {st : Stage}
    (hfrom : (s.stage i).inside = true) (hto : st.inside = true) (hw : WellStored u.memory)
    (hfits : ({ s with system := u }.goto i st).Fits i) :
    ({ s with system := u }.goto i st).Sound := by
  have hlock := h.owner i hfrom
  refine h.moved (fun j hji => goto_of_ne st hji) (.inr ⟨.inr hlock, .inr hlock⟩) hw
    (fun _ => hlock) (fun hout => ?_) hfits
  rw [goto_self, hto] at hout
  cases hout

/-- A thread takes the lock that is free. -/
theorem Sound.acquired (h : s.Sound) {k : Task} {l : RLock τ} (hfrom : s.stage i = .waiting k)
    (hl : s.lock.acquire i = some l) :
    Sound { (s.mark true).goto i k.enter with lock := l } := by
  obtain ⟨hfree, rfl⟩ : s.lock = none ∧ l = some (i, 0) :=
    LockState.acquire_of_not_held hl fun n => h.outside i n (by rw [hfrom]; rfl)
  have hstage : ((s.mark true).goto i k.enter).stage i = k.enter := goto_self _
  refine h.moved (fun j hji => goto_of_ne _ hji) (.inr ⟨.inl hfree, .inr rfl⟩) h.wellStored
    (fun _ => rfl) (fun hout => ?_) ?_
  · change (((s.mark true).goto i k.enter).stage i).inside = false at hout
    rw [hstage] at hout
    cases k <;> cases hout
  · unfold Fits
    rw [show ({ (s.mark true).goto i k.enter with lock := some (i, 0) } : Threads τ).stage i =
      k.enter from hstage]
    cases k <;> rfl

/-- The thread in the `with` block gives the lock back. -/
theorem Sound.released (h : s.Sound) {st : Stage} (hfrom : (s.stage i).inside = true)
    (hto : st.inside = false)
    (hfits : Fits { (s.mark false).goto i st with lock := (none : RLock τ) } i) :
    Sound { (s.mark false).goto i st with lock := (none : RLock τ) } := by
  refine h.moved (fun j hji => goto_of_ne st hji) (.inr ⟨.inr (h.owner i hfrom), .inl rfl⟩)
    h.wellStored (fun hin => ?_) (fun _ n => nofun) hfits
  change (((s.mark false).goto i st).stage i).inside = true at hin
  rw [goto_self, hto] at hin
  cases hin

/-! ## One step, every run -/

/-- Where a thread goes that takes a step outside of the `with` blocks. -/
theorem Sound.start (h : s.Sound) {st : Stage} (hfree : (s.stage i).free = true)
    (hto : (∃ r, st = .checking r) ∨ ∃ k, st = .waiting k) : (s.goto i st).Sound := by
  refine h.outside_step ?_ ?_ (quiet.refl s.system) ?_
  · cases hst : s.stage i <;> rw [hst] at hfree <;> first | rfl | cases hfree
  · rcases hto with ⟨r, rfl⟩ | ⟨k, rfl⟩ <;> rfl
  · unfold Fits goto
    simp only [Function.update_self]
    rcases hto with ⟨r, rfl⟩ | ⟨k, rfl⟩ <;> trivial

/-- **Every step keeps the invariant.** -/
theorem Sound.step (h : s.Sound) {a : τ × ThreadAction} (hc : s.Finds a)
    (hs : (threadMachine τ).step a s = some s') : s'.Sound := by
  obtain ⟨i, a⟩ := a
  obtain ⟨hwaits, hfinds⟩ := hc
  replace hs : threadStep i a s = some s' := hs
  unfold threadStep at hs
  split at hs
  case h_1 r =>
    split at hs <;> cases hs
    next hfree =>
      refine h.start hfree ?_
      split
      · exact .inl ⟨r, rfl⟩
      · exact .inr ⟨_, rfl⟩
  case h_2 op =>
    split at hs <;> cases hs
    next hfree => exact h.start (Bool.and_eq_true_iff.mp hfree).1 (.inr ⟨_, rfl⟩)
  case h_3 env r hst =>
    have hfrom : (s.stage i).inside = false := by rw [hst]; rfl
    obtain ⟨hquiet, hreported⟩ := check_reported env.2 r s.system
    split at hs <;> cases hs
    next u hcheck =>
      rw [hcheck] at hquiet
      exact h.outside_step hfrom rfl hquiet (by simp [Fits, goto])
    next e u hcheck =>
      rw [hcheck] at hquiet hreported
      refine h.outside_step hfrom rfl hquiet ?_
      simp only [Fits, goto, Function.update_self]
      exact ⟨_, rfl, hreported e rfl⟩
  case h_4 k hst =>
    obtain ⟨l, hl, rfl⟩ := Option.map_eq_some_iff.mp hs
    exact h.acquired hst hl
  case h_5 => cases hwaits
  case h_6 env r hst =>
    have hfrom : (s.stage i).inside = true := by rw [hst]; rfl
    have hflag : s.system.stateMachineLocked = true := by
      have := h.fits i
      unfold Fits at this
      rwa [hst] at this
    obtain ⟨hquiet, hfound⟩ := state_found env.2 h.wellStored r fun id uuid hr => by
      simpa [findsAgain, hst, hr] using hfinds
    split at hs <;> cases hs
    next t u hstate =>
      rw [hstate] at hquiet hfound
      refine h.inside_step hfrom rfl (hquiet.memory ▸ h.wellStored) ?_
      simp only [Fits, goto, Function.update_self]
      exact ⟨hquiet.stateMachineLocked.trans hflag, hquiet.records ▸ hfound⟩
    next e u hstate =>
      rw [hstate] at hquiet hfound
      refine h.inside_step hfrom rfl (hquiet.memory ▸ h.wellStored) ?_
      simp only [Fits, goto, Function.update_self]
      exact hfound
  case h_7 env r t hst =>
    have hfrom : (s.stage i).inside = true := by rw [hst]; rfl
    obtain ⟨hflag, hrec⟩ : s.system.stateMachineLocked = true ∧
        s.system.asterisk.records r.id = some t := by
      have := h.fits i
      unfold Fits at this
      rwa [hst] at this
    obtain ⟨hw, hreported⟩ := act_reported env.2 h.wellStored hflag hrec
    cases hs
    refine h.inside_step hfrom rfl hw ?_
    simp only [Fits, goto, Function.update_self]
    exact hreported
  case h_8 env op hst =>
    have hfrom : (s.stage i).inside = true := by rw [hst]; rfl
    split at hs <;> cases hs
    next fresh =>
      have hw : WellStored (op.code env.1 s.system).2.memory :=
        (op.moves h.wellStored fresh).wellStored h.wellStored
      refine h.inside_step hfrom rfl hw ?_
      simp [Fits, goto]
  case h_9 r seen a hst =>
    have hfrom : (s.stage i).inside = true := by rw [hst]; rfl
    have hreported : r.Reported seen (r.report a) := by
      have := h.fits i
      unfold Fits at this
      rwa [hst] at this
    rw [h.owner i hfrom, LockState.release_held] at hs
    cases hs
    refine h.released hfrom rfl ?_
    simp only [Fits, goto, mark, Function.update_self]
    exact ⟨_, rfl, hreported⟩
  case h_10 hst =>
    have hfrom : (s.stage i).inside = true := by rw [hst]; rfl
    rw [h.owner i hfrom, LockState.release_held] at hs
    cases hs
    exact h.released hfrom rfl (by simp [Fits, goto, mark])
  case h_11 => cases hs

theorem sound_of_reaches (h : (threadMachine τ).Reaches Threads.Finds s) : s.Sound := by
  refine h.invariant ?_ fun s a s' hs hc hstep => hs.step hc hstep
  rintro s ⟨hinit, hlock, hidle⟩
  refine ⟨hinit.wellStored, fun i hi => ?_, fun i n _ he => ?_, fun i => ?_⟩
  · rw [hidle] at hi
    cases hi
  · rw [hlock] at he
    cases he
  · unfold Fits
    rw [hidle]
    trivial

/-- **Every request reports that its transfer has ended**: in the runs in which no wait for
the lock expires and `complete_from_user` still finds its transfer, a transition is called
on a transfer that is stored, NoSuchTransfer answers the requests that find nothing and no
other, and no `KeyError` escapes. -/
theorem requests_reported (h : (threadMachine τ).Reaches Threads.Finds s) : s.Reported := by
  intro i
  have hfits := (sound_of_reaches h).fits i
  unfold Fits at hfits
  cases hst : s.stage i <;> rw [hst] at hfits <;> first | trivial | exact hfits | exact hfits.2

end Threads

/-! ## A request alone -/

namespace Threads

variable {τ : Type} [DecidableEq τ] {s : Threads τ} {i : τ} {r : Request}

/-- The steps that take a thread through its `with` block, from the end. -/
theorem step_release {seen : Sight} {a : Except Exn Unit} (hst : s.stage i = .leaving r seen a)
    (hlock : s.lock = some (i, 0)) :
    (threadMachine τ).step (i, .release) s =
      some { (s.mark false).goto i (.answered r seen (some (r.report a))) with lock := none } := by
  change threadStep i .release s = _
  simp only [threadStep, hst, hlock, LockState.release_held]

theorem step_act (env : FindingEnv) {t : Transfer} (hst : s.stage i = .applying r t) :
    (threadMachine τ).step (i, .act env) s =
      some ({ s with system := (r.act t env.1 s.system).2 }.goto i
        (.leaving r (.called t) (r.act t env.1 s.system).1)) := by
  change threadStep i (.act env) s = _
  simp only [threadStep, hst]

theorem step_read (env : FindingEnv) (hst : s.stage i = .reading r) :
    (threadMachine τ).step (i, .read env) s =
      some ({ s with system := (StateFactory.state r.id env.1 s.system).2 }.goto i
        (match (StateFactory.state r.id env.1 s.system).1 with
          | .ok t => .applying r t
          | .error e => .leaving r (.of s.system r.id) (.error e))) := by
  change threadStep i (.read env) s = _
  simp only [threadStep, hst]
  rcases StateFactory.state r.id env.1 s.system with ⟨e | t, u⟩ <;> rfl

theorem step_check (env : FindingEnv) (hst : s.stage i = .checking r) :
    (threadMachine τ).step (i, .check env) s =
      some ({ s with system := (r.check env.1 s.system).2 }.goto i
        (match (r.check env.1 s.system).1 with
          | .ok _ => .waiting (.request r)
          | .error e => .answered r (.of s.system r.id) (some (.error e)))) := by
  change threadStep i (.check env) s = _
  simp only [threadStep, hst]
  rcases r.check env.1 s.system with ⟨e | _, u⟩ <;> rfl

theorem step_acquire {k : Task} (hst : s.stage i = .waiting k) (hlock : s.lock = none) :
    (threadMachine τ).step (i, .acquire) s =
      some { (s.mark true).goto i k.enter with lock := some (i, 0) } := by
  change threadStep i .acquire s = _
  simp only [threadStep, hst, hlock]
  rfl

/-- One thread takes steps, and no other does. -/
def Alone (i : τ) : Threads τ → Threads τ → Prop :=
  Relation.ReflTransGen fun s s' => ∃ a, (threadMachine τ).step (i, a) s = some s'

/-- The `with` block of a request that nobody disturbs is that of `make`. -/
theorem block_alone (env : FindingEnv) (hst : s.stage i = .waiting (.request r))
    (hlock : s.lock = none) :
    ∃ s' seen, Alone i s s' ∧
      s'.system = (StateFactory.make r.id r.act env.1 s.system).2 ∧
      s'.stage i =
        .answered r seen (some (r.report (StateFactory.make r.id r.act env.1 s.system).1)) := by
  have hmake : StateFactory.make r.id r.act env.1 s.system =
      (((StateFactory.state r.id >>= r.act) env.1 (s.mark true).system).1,
        { ((StateFactory.state r.id >>= r.act) env.1 (s.mark true).system).2 with
          stateMachineLocked := false }) := by
    rw [StateFactory.make_eq]
    rfl
  rw [hmake, bind_apply]
  let s₁ : Threads τ := { (s.mark true).goto i (.reading r) with lock := some (i, 0) }
  have hacquire : (threadMachine τ).step (i, .acquire) s = some s₁ := step_acquire hst hlock
  have hread := step_read env (s := s₁) (goto_self _)
  rcases hstate : StateFactory.state r.id env.1 (s.mark true).system with ⟨e | t, u⟩ <;>
    rw [show StateFactory.state r.id env.1 s₁.system = _ from hstate] at hread
  · -- the look-up raises
    have hrelease := step_release (s := { s₁ with system := u }.goto i
      (.leaving r (.of s₁.system r.id) (.error e))) (goto_self _) rfl
    exact ⟨_, _, .head ⟨_, hacquire⟩ (.head ⟨_, hread⟩ (.single ⟨_, hrelease⟩)), rfl, goto_self _⟩
  · -- the transition is called
    let s₂ : Threads τ := { s₁ with system := u }.goto i (.applying r t)
    have hact := step_act env (s := s₂) (goto_self _)
    have hrelease := step_release (s := { s₂ with system := (r.act t env.1 u).2 }.goto i
      (.leaving r (.called t) (r.act t env.1 u).1)) (goto_self _) rfl
    exact ⟨_, _, .head ⟨_, hacquire⟩ (.head ⟨_, hread⟩ (.head ⟨_, hact⟩ (.single ⟨_, hrelease⟩))),
      rfl, goto_self _⟩

/-- **A request alone does what its code does.** -/
theorem request_alone (env : FindingEnv) (hfree : (s.stage i).free = true) (hlock : s.lock = none) :
    ∃ s' seen, Alone i s s' ∧ s'.system = (r.code env.1 s.system).2 ∧
      s'.stage i = .answered r seen (some (r.code env.1 s.system).1) := by
  rw [r.code_apply]
  have hstart : (threadMachine τ).step (i, .start (.request r)) s =
      some (s.goto i (if r.user?.isSome then .checking r else .waiting (.request r))) := by
    change threadStep i (.start (.request r)) s = _
    simp only [threadStep, hfree, if_true]
  cases huser : r.user? with
  | none =>
    have hcheck : r.check env.1 s.system = (.ok (), s.system) := by simp [Request.check, huser]
    obtain ⟨s', seen, hsteps, hsys, hstage⟩ := block_alone (r := r)
      (s := s.goto i (.waiting (.request r))) env (goto_self _) hlock
    rw [huser] at hstart
    refine ⟨s', seen, .head ⟨_, hstart⟩ hsteps, ?_, ?_⟩
    · rw [hcheck]
      exact hsys
    · rw [hcheck]
      exact hstage
  | some userUuid =>
    rw [huser] at hstart
    have hcheck := step_check env (s := s.goto i (.checking r)) (goto_self _)
    rcases hres : r.check env.1 s.system with ⟨e | _, u⟩ <;>
      rw [show r.check env.1 (s.goto i (.checking r)).system = _ from hres] at hcheck
    · exact ⟨_, _, .head ⟨_, hstart⟩ (.single ⟨_, hcheck⟩), rfl, goto_self _⟩
    · obtain ⟨s', seen, hsteps, hsys, hstage⟩ := block_alone (r := r)
        (s := { s.goto i (.checking r) with system := u }.goto i (.waiting (.request r))) env
        (goto_self _) hlock
      exact ⟨s', seen, .head ⟨_, hstart⟩ (.head ⟨_, hcheck⟩ hsteps), hsys, hstage⟩

end Threads

/-! ## Runs on fixed inputs -/

namespace Scene

/-- Everything succeeds. -/
def finding (id : TransferId) : FindingEnv := ⟨Env.calm id carol, nofun, nofun⟩

/-- A transfer is created; a user makes a request about it, and somebody else cancels it
before the lock is taken. -/
def overtaken (r : Request) : List (Bool × ThreadAction) :=
  [(true, .start (.handler (.create (request alice bob .attended)))), (true, .acquire),
    (true, .act (finding "t1")), (true, .release), (false, .start (.request r)),
    (false, .check (finding "t2")), (true, .start (.handler (.cancel "t1"))), (true, .acquire),
    (true, .act (finding "t2")), (true, .release), (false, .acquire),
    (false, .read (finding "t3")), (false, .release)]

def quietThreads : Threads Bool := ⟨.start, none, fun _ => .idle⟩

/-- Where the request has come to. -/
def afterOvertaken (r : Request) : Threads Bool :=
  ((threadMachine Bool).run (overtaken r) quietThreads).getD quietThreads

end Scene

open Scene

theorem afterOvertaken_reaches {C : Threads Bool → Bool × ThreadAction → Prop} {r : Request}
    (h : (threadMachine Bool).Meets C (overtaken r) quietThreads) :
    (threadMachine Bool).Reaches C (afterOvertaken r) := by
  have hinit : (threadMachine Bool).init quietThreads := ⟨⟨rfl, rfl⟩, rfl, fun _ => rfl⟩
  unfold afterOvertaken
  cases hrun : (threadMachine Bool).run (overtaken r) quietThreads with
  | none => exact .init hinit
  | some s => exact Machine.Reaches.run (.init hinit) h hrun

/-- `cancel_from_user` is told that its transfer has ended. -/
theorem requests_reported_overtaken :
    (afterOvertaken (.cancelFromUser "t1" "user")).stage false =
        .answered (.cancelFromUser "t1" "user") .missing (some (.error (.noSuchTransfer "t1"))) ∧
      (afterOvertaken (.cancelFromUser "t1" "user")).Reported :=
  ⟨rfl, Threads.requests_reported (afterOvertaken_reaches (by decide))⟩

/-- In the same run, a `KeyError` escapes from `complete_from_user`. -/
theorem keyError_escapes :
    ∃ s, (threadMachine Bool).Reaches Threads.Waits s ∧ ¬ s.Reported := by
  refine ⟨afterOvertaken (.completeFromUser "t1" "user"), afterOvertaken_reaches (by decide), ?_⟩
  intro h
  have hanswered : (afterOvertaken (.completeFromUser "t1" "user")).stage false =
      .answered (.completeFromUser "t1" "user") .missing (some (.error .keyError)) := rfl
  have hfalse := h false
  rw [hanswered] at hfalse
  obtain ⟨a, ha, hreported⟩ := hfalse
  cases ha
  rcases hreported with h | ⟨e, h⟩ <;> cases h

end Calld.Transfers
