/-
# Completions asked for early

A transfer that starts outside stasis may be asked to complete before its channels have joined:
the flow becomes blind, and the transfer is completed when the recipient has been called.  The
two joins and the requests lead to the same end in every order (`completed_once`).
-/
import Calld.Transfers.AllOrNothing
import Calld.Transfers.Hangups
import Calld.Transfers.Moving

namespace Calld.Transfers

open Effect Effect.Program TransferState TransfersStasis TransfersService
open AriHelpers (StartArgs)

variable {reprFloat : String → String} {B : Prop} {env : Env} {id : TransferId}
  {s s' s₁ u : System} {t t' t₁ : Transfer} {tr : Transition} {i j : Bool} {fl : Flow}
  {role : Role}

/-! ## Where the transfer stands -/

/-- The status of a transfer of which the initiator, or the transferred channel, has joined. -/
def movedStatus (initiator transferred : Bool) : Status :=
  if initiator then .initiatorMovedToStasis
  else if transferred then .transferredMovedToStasis
  else .noneMovedToStasis

/-- What the joins and the requests have come to: which channels have joined, and the flow. -/
inductive Position (reprFloat : String → String) (t : Transfer) : Bool → Bool → Flow → System → Prop
  /-- The transfer waits for a channel. -/
  | moving {i j : Bool} {fl : Flow} {s : System} (waits : (i && j) = false)
      (stored : s.asterisk.records t.id = some { t with status := movedStatus i j, flow := fl })
      (originations : s.originations t.id = 0) (completions : s.completions t.id = 0)
      (carries : Carries reprFloat t.initiatorCall s) : Position reprFloat t i j fl s
  /-- The recipient has been called. -/
  | called {s : System} (c : ChannelId)
      (stored : s.asterisk.records t.id =
        some { t with status := .ringback, flow := .attended, recipientCall := some c })
      (originations : s.originations t.id = 1) (completions : s.completions t.id = 0) :
      Position reprFloat t true true .attended s
  /-- The transfer has been completed. -/
  | completed {s : System} (c : ChannelId)
      (stored : s.asterisk.records t.id =
        some { t with status := .blindTransferred, flow := .blind, recipientCall := some c })
      (originations : s.originations t.id = 1) (completions : s.completions t.id = 1) :
      Position reprFloat t true true .blind s

/-- A state in which nothing has happened to the transfer since. -/
theorem Position.of_eq (h : Position reprFloat t i j fl s)
    (ho' : s'.originations t.id = s.originations t.id)
    (hc' : s'.completions t.id = s.completions t.id)
    (hv : s'.asterisk.channelVariables = s.asterisk.channelVariables)
    (hr : s'.asterisk.records t.id = s.asterisk.records t.id) : Position reprFloat t i j fl s' := by
  cases h with
  | moving waits stored ho hc carries =>
    exact .moving waits (hr.trans stored) (ho'.trans ho) (hc'.trans hc) (carries.of_eq hv)
  | called c stored ho hc => exact .called c (hr.trans stored) (ho'.trans ho) (hc'.trans hc)
  | completed c stored ho hc => exact .completed c (hr.trans stored) (ho'.trans ho) (hc'.trans hc)

/-! ## The factory -/

/-- The state in which the body of the factory begins. -/
def System.entered (s : System) : System := { s with stateMachineLocked := true }

/-- The state once the body of the factory has been left. -/
def System.left (s : System) : System := { s with stateMachineLocked := false }

theorem get_served (h : env.FailsOnlyIf False) (hst : s.asterisk.records id = some t) :
    Triple env (fun u => u = s) (StatePersistor.get id)
      (fun t' u => t' = t ∧ Steady id s u ∧ u.asterisk.records = s.asterisk.records)
      fun _ _ => False := by
  have reads : env.Reads (.transfer id) (fun _ => False) := fun n a e he =>
    h.ari (fun h => by cases h) he
  have got : Triple env (Quiet s) (StatePersistor.get id) _ _ := get_spec reads
  have kept : Within env (steady id) (fun _ => True) (StatePersistor.get id) := by
    unfold StatePersistor.get
    refine ((readGlobal_steady h _).weaken fun _ _ => trivial).bind fun _ =>
      (Within.look _).bind fun r => ?_
    cases r with
    | none => exact .throw trivial
    | some t => exact .pure t
  refine (got.and (within_lasts kept (lasts_steady s))).run_state
    ⟨quiet.refl s, (steady id).refl s⟩ ?_ ?_
  · rintro t' u ⟨⟨hq, hr⟩, hs⟩
    exact ⟨Option.some.inj (hr.symm.trans hst), hs, hq.records⟩
  · rintro e u ⟨⟨-, hf | ⟨hn, -⟩⟩, -⟩
    · exact hf
    · rw [hst] at hn
      cases hn

/-- The factory runs its body on the stored transfer. -/
theorem make_served {α : Type} (h : env.FailsOnlyIf False)
    (hst : s.asterisk.records id = some t) (hc : t.status.hasConstructor = true)
    {body : Transfer → Code α} {R : System → Prop}
    (hbody : Triple env (fun u => Steady id s.entered u ∧ u.stateMachineLocked = true ∧
        u.asterisk.records = s.asterisk.records) (body t)
      (fun _ u => R u.left) fun _ u => R u.left) :
    R (StateFactory.make id body env s).2 := by
  have made : Triple env (fun u => u = s) (StateFactory.make id body) (fun _ => R) fun _ => R := by
    unfold StateFactory.make StateFactory.locked
    refine Triple.bind (Q := fun _ u => u = s.entered) (Triple.change fun u hu => by
      rw [hu]
      rfl) fun _ => Triple.ensuring ?_
    have hst' : s.entered.asterisk.records id = some t := hst
    refine ((get_served h hst').weaken (fun _ h => h) (fun _ _ h => h) fun _ _ => False.elim).bind
      fun t' => ?_
    rintro u ⟨rfl, hs, hr⟩
    simp only [hc, Bool.not_true, Bool.false_eq_true, if_false]
    exact hbody u ⟨hs, hs.announces.stateMachineLocked, hr⟩
  exact made.final rfl

/-! ## Calls -/

/-- The state in which a transition is called: nothing has happened since the factory was
entered. -/
def Entered (id : TransferId) (s u : System) : Prop :=
  Steady id s.entered u ∧ u.stateMachineLocked = true

theorem Entered.of_steady {v : System} (h : Entered id s u) (hs : Steady id u v) :
    Entered id s v :=
  ⟨h.1.trans hs, hs.announces.stateMachineLocked.trans h.2⟩

/-- A transition that only changes the transfer. -/
theorem call_moves (h : env.FailsOnlyIf B) {body : Transfer → Code Transfer}
    (hm : t.status.method ⟨"", "", .object [], none⟩ tr = .decorated body)
    (hb : body t = pure t') {p : Phase} (hp : t'.status.phase = some p) :
    Triple env (Entered id s) (call tr t)
      (fun t₁ u => t₁ = t' ∧ Entered id s u ∧ u.asterisk.records t'.id = some t')
      fun _ _ => B := by
  have moved : Triple env (Entered id s) (body t) (fun t₁ u => Entered id s u ∧ t₁ = t')
      fun _ _ => B := by
    rw [hb]
    exact Triple.pure fun _ h => ⟨h, rfl⟩
  refine (callWith_settles id (P := Entered id s)
    (Q := fun t₁ u => Entered id s u ∧ t₁ = t') h hm (fun _ _ h hs => h.of_steady hs)
    (fun _ _ _ h hs => ⟨h.1.of_steady hs, h.2⟩) (fun t₁ u h => ⟨p, h.2 ▸ hp⟩) moved).weaken
    (fun _ h => ⟨h, h.2⟩) ?_ fun _ _ h => h
  rintro t₁ u ⟨⟨hu, rfl⟩, hr⟩
  exact ⟨rfl, hu, hr⟩

/-- A completion that is asked for while the transfer waits. -/
theorem call_remembers (h : env.FailsOnlyIf B) (hst : t.status = movedStatus i j) :
    Triple env (Entered id s) (call .complete t)
      (fun t₁ u => t₁ = { t with flow := .blind } ∧ Entered id s u ∧
        u.asterisk.records t.id = some { t with flow := .blind }) fun _ _ => B := by
  have hm : t.status.method ⟨"", "", .object [], none⟩ .complete =
      .decorated TransferState.rememberBlind := by
    rw [hst]
    cases i <;> cases j <;> rfl
  have hp : t.status.phase = some .moving := by
    rw [hst]
    cases i <;> cases j <;> rfl
  exact call_moves h hm rfl hp

/-- A completion of a transfer whose recipient has been called. -/
theorem call_completes {o c : ℕ} (h : env.FailsOnlyIf False) (hst : t.status = .ringback) :
    Triple env (fun u => Announces t.id o c s.entered u ∧ u.stateMachineLocked = true)
      (call .complete t)
      (fun _ u => Announces t.id o (c + 1) s.entered u ∧ u.asterisk.records t.id =
        some { t with status := .blindTransferred, flow := .blind }) fun _ _ => False := by
  have hm : t.status.method ⟨"", "", .object [], none⟩ .complete =
      .decorated TransferStateRingback.complete := by
    rw [hst]
    rfl
  refine (callWith_settles t.id h hm (lasts_announces _ s.entered o c)
    (fun t' u v hu hs => ⟨hu.1, hu.2.steady hs⟩) (fun t' u hu => ⟨.calling, by rw [hu.1]; rfl⟩)
    (ringbackComplete_announces h t)).weaken (fun _ h => h) ?_ fun _ _ h => h
  rintro t' u ⟨⟨rfl, hu⟩, hr⟩
  exact ⟨hu, hr⟩

/-- The second channel joins. -/
theorem call_joins (h : env.Serves reprFloat) (hc : Carries reprFloat t.initiatorCall s)
    (hm : t.status.method ⟨"", "", .object [], none⟩ tr = .decorated joinedStasis) :
    Triple env (Entered t.id s) (call tr t)
      (fun t' u => (∃ c, t' = fromState .ringback { t with recipientCall := some c }) ∧
        Announces t.id 1 0 s.entered u ∧ u.stateMachineLocked = true ∧
          u.asterisk.records t.id = some t') fun _ _ => False := by
  have hc' : Carries reprFloat t.initiatorCall s.entered := hc.of_eq rfl
  refine (callWith_settles t.id h.succeeds hm (lasts_steady s.entered)
    (fun t' u v hu hs => ⟨hu.1, hu.2.steady hs⟩) ?_ (joinedStasis_announces h hc')).weaken
    (fun _ h => h) ?_ fun _ _ h => h
  · rintro t' u ⟨⟨c, rfl⟩, -⟩
    exact ⟨.calling, rfl⟩
  · rintro t' u ⟨⟨⟨c, rfl⟩, hu⟩, hr⟩
    exact ⟨⟨c, rfl⟩, hu, hu.stateMachineLocked, hr⟩

/-- A completion of a transfer that has been completed is refused. -/
theorem call_refused (hm : t.status.method ⟨"", "", .object [], none⟩ tr =
      .decorated notImplemented) {x : Option Transfer} :
    Triple env (fun u => Entered id s u ∧ u.asterisk.records id = x) (call tr t)
      (fun _ _ => False) fun _ u => Steady id s.entered u ∧ u.asterisk.records id = x := by
  rintro u ⟨⟨hs, hflag⟩, rfl⟩
  unfold call callWith transition
  rw [hm]
  simp only [bind_apply, look_apply, hflag, Bool.not_true, Bool.false_eq_true, if_false, record,
    change_apply, onRaise, tryCatch_apply, notImplemented, throw_apply, abort, TransferLock.release]
  refine ⟨hs.trans (Steady.of_trace [.called t.id t.status tr, .aborted t.id t.status]
    ?_ ?_ hflag.symm rfl), trivial⟩
  · simp
  · intro e he
    simp only [List.mem_cons, List.not_mem_nil, or_false] at he
    rcases he with rfl | rfl <;> exact ⟨rfl, rfl⟩

/-! ## What the requests and the joins do -/

theorem Position.waiting (h : Position reprFloat t i j fl s) (hw : (i && j) = false) :
    s.asterisk.records t.id = some { t with status := movedStatus i j, flow := fl } ∧
      s.originations t.id = 0 ∧ s.completions t.id = 0 ∧
        Carries reprFloat t.initiatorCall s := by
  cases h with
  | moving waits stored ho hc carries => exact ⟨stored, ho, hc, carries⟩
  | called | completed => cases hw

/-- The transfer still waits. -/
theorem Position.entered (h : Position reprFloat t i j fl s) (hw : (i && j) = false) {i' j' : Bool}
    {fl' : Flow} (hw' : (i' && j') = false) (hu : Entered t.id s u)
    (hr : u.asterisk.records t.id =
      some { t with status := movedStatus i' j', flow := fl' }) :
    Position reprFloat t i' j' fl' u.left := by
  obtain ⟨-, ho, hc, carries⟩ := h.waiting hw
  exact .moving hw' hr (hu.1.announces.originations.trans ho)
    (hu.1.announces.completions.trans hc) (carries.of_eq hu.1.channelVariables)

/-- **A request to complete the transfer.** -/
theorem complete_position (h : env.FailsOnlyIf False) (hs : Position reprFloat t i j fl s) :
    Position reprFloat t i j .blind (StateFactory.make t.id (fun state => do
      let _ ← call .complete state) env s).2 := by
  cases hs with
  | @moving i j fl s waits stored ho hc carries =>
    refine make_served h stored (by cases i <;> cases j <;> rfl) ?_
    have remembered : Triple env (Entered t.id s)
        (call .complete { t with status := movedStatus i j, flow := fl }) _ _ :=
      call_remembers h rfl
    refine Triple.bind (Q := fun _ u => Position reprFloat t i j .blind u.left)
      (remembered.weaken (fun _ h => ⟨h.1, h.2.1⟩) ?_ fun _ _ => False.elim) fun _ =>
      Triple.pure fun _ h => h
    rintro t' u ⟨-, hu, hr⟩
    exact (Position.moving waits stored ho hc carries).entered waits waits hu hr
  | @called s c stored ho hc =>
    refine make_served h stored rfl ?_
    have completed := call_completes (s := s) (o := 0) (c := 0) h
      (t := { t with status := .ringback, flow := .attended, recipientCall := some c }) rfl
    refine Triple.bind (Q := fun _ u => Position reprFloat t true true .blind u.left)
      (completed.weaken (fun _ h => ⟨h.1.announces, h.2.1⟩) ?_ fun _ _ => False.elim) fun _ =>
      Triple.pure fun _ h => h
    rintro t' u ⟨hu, hr⟩
    have originations : u.originations t.id = s.originations t.id + 0 := hu.originations
    have completions : u.completions t.id = s.completions t.id + (0 + 1) := hu.completions
    exact .completed c hr (by rw [← ho]; exact originations) (by rw [hc] at completions; exact completions)
  | @completed s c stored ho hc =>
    refine make_served h stored rfl ?_
    have refused : Triple env (fun u => Entered t.id s u ∧ _) (call .complete
        { t with status := .blindTransferred, flow := .blind, recipientCall := some c }) _ _ :=
      call_refused (x := s.asterisk.records t.id) rfl
    refine Triple.bind (Q := fun _ _ => False) (refused.weaken (fun u h => ⟨⟨h.1, h.2.1⟩, ?_⟩)
      (fun _ _ h => h) ?_) fun _ _ => False.elim
    · rw [h.2.2]
    · rintro e u ⟨hu, hr⟩
      exact (Position.completed c stored ho hc).of_eq hu.announces.originations
        hu.announces.completions hu.channelVariables hr

/-- The first channel joins. -/
theorem firstJoin_position (h : env.FailsOnlyIf False)
    (hs : Position reprFloat t false false fl s) {i' j' : Bool} (hw : (i' && j') = false)
    (htr : joinTransition role = some tr)
    (hm : Status.noneMovedToStasis.method ⟨"", "", .object [], none⟩ tr =
      .decorated fun t => pure (fromState (movedStatus i' j') t)) :
    Position reprFloat t i' j' fl (StateFactory.make t.id (joined role) env s).2 := by
  obtain ⟨stored, -⟩ := hs.waiting rfl
  refine make_served h stored rfl ?_
  have phase : (movedStatus i' j').phase = some .moving := by cases i' <;> cases j' <;> rfl
  have joins : Triple env (Entered t.id s)
      (call tr { t with status := movedStatus false false, flow := fl }) _ _ :=
    call_moves h hm rfl phase
  have position {u : System} (hu : Entered t.id s u) (hr : u.asterisk.records t.id =
      some { t with status := movedStatus i' j', flow := fl }) :
      Position reprFloat t i' j' fl u.left := hs.entered rfl hw hu hr
  simp only [joined, htr]
  refine Triple.bind (joins.weaken (fun _ h => ⟨h.1, h.2.1⟩) (fun _ _ h => h)
    fun _ _ => False.elim) fun t₁ => ?_
  rintro u ⟨rfl, hu, hr⟩
  cases fl with
  | attended => exact position hu hr
  | blind =>
    have completes : Triple env (Entered t.id s)
        (call .complete { t with status := movedStatus i' j', flow := .blind }) _ _ :=
      call_remembers h rfl
    refine Triple.bind (Q := fun _ u => Position reprFloat t i' j' .blind u.left)
      (completes.weaken (fun _ h => h) ?_ fun _ _ => False.elim)
      (fun _ => Triple.pure fun _ h => h) u hu
    rintro t₂ v ⟨-, hv, hr⟩
    exact position hv hr

/-- The second channel joins, and the recipient is called. -/
theorem secondJoin_position (h : env.Serves reprFloat) (hs : Position reprFloat t i j fl s)
    (hw : (i && j) = false) (htr : joinTransition role = some tr)
    (hm : (movedStatus i j).method ⟨"", "", .object [], none⟩ tr = .decorated joinedStasis) :
    Position reprFloat t true true fl (StateFactory.make t.id (joined role) env s).2 := by
  obtain ⟨stored, ho, hc, carries⟩ := hs.waiting hw
  refine make_served h.succeeds stored (by cases i <;> cases j <;> rfl) ?_
  have joins := call_joins (s := s) (t := { t with status := movedStatus i j, flow := fl }) h
    carries hm
  simp only [joined, htr]
  refine Triple.bind (joins.weaken (fun _ h => ⟨h.1, h.2.1⟩) (fun _ _ h => h)
    fun _ _ => False.elim) fun t₁ => ?_
  rintro u ⟨⟨c, rfl⟩, hu, hflag, hr⟩
  cases fl with
  | attended =>
    have originations : u.originations t.id = s.originations t.id + 1 := hu.originations
    have completions : u.completions t.id = s.completions t.id + 0 := hu.completions
    rw [ho] at originations
    rw [hc] at completions
    exact .called c hr originations completions
  | blind =>
    have completes := call_completes (s := s) (o := 1) (c := 0) h.succeeds
      (t := fromState .ringback
        { t with status := movedStatus i j, flow := .blind, recipientCall := some c }) rfl
    refine Triple.bind (Q := fun _ u => Position reprFloat t true true .blind u.left)
      (completes.weaken (fun _ h => h) ?_ fun _ _ => False.elim)
      (fun _ => Triple.pure fun _ h => h) u ⟨hu, hflag⟩
    rintro t₂ v ⟨hv, hr⟩
    have originations : v.originations t.id = s.originations t.id + 1 := hv.originations
    have completions : v.completions t.id = s.completions t.id + (0 + 1) := hv.completions
    rw [ho] at originations
    rw [hc] at completions
    exact .completed c hr originations completions

/-! ## The events and the requests -/

/-- The events that move a transfer on, and the requests of its initiator. -/
inductive Early where
  | initiatorJoins
  | transferredJoins
  | completes
  | completesFromUser
  deriving DecidableEq, Repr

namespace Early

/-- The event of the channel that enters the stasis application, or the request. -/
def op (t : Transfer) : Early → Op
  | initiatorJoins => .stasisStart t.initiatorCall ["transfer", "create_transfer", t.id]
  | transferredJoins => .stasisStart t.transferredCall ["transfer", "create_transfer", t.id]
  | completes => .complete t.id
  | completesFromUser => .completeFromUser t.id t.initiatorUuid

/-- A request to complete the transfer. -/
def asks : Early → Bool
  | completes | completesFromUser => true
  | _ => false

end Early

/-- The event of a channel that joins is dispatched to its transfer. -/
theorem stasisStart_joins (h : env.FailsOnlyIf False) {c : ChannelId}
    (hst : s.asterisk.records id = some t) (hid : t.id = id) (hrole : t.role c = some role) :
    ∃ s', Steady id s s' ∧ s'.asterisk.records = s.asterisk.records ∧
      ((Op.stasisStart c ["transfer", "create_transfer", id]).code env s).2 =
        (StateFactory.make id (joined role) env s').2 := by
  obtain ⟨s', hget, hs, hr⟩ : ∃ s', StatePersistor.get id env s = (.ok t, s') ∧
      Steady id s s' ∧ s'.asterisk.records = s.asterisk.records := by
    have got := get_served h hst s rfl
    rcases hget : StatePersistor.get id env s with ⟨e | t', s'⟩
    · rw [hget] at got
      exact got.elim
    · rw [hget] at got
      obtain ⟨rfl, hs, hr⟩ := got
      exact ⟨s', rfl, hs, hr⟩
  refine ⟨s', hs, hr, ?_⟩
  have created : createTransfer c ["transfer", "create_transfer", id] env s =
      StateFactory.make id (joined role) env s' := by
    simp only [createTransfer, transferIdOf, bind_apply, List.getElem?_cons_succ,
      List.getElem?_cons_zero, pure_apply, catching, hget, roleOf, hrole, hid]
  show (publish (createTransfer c ["transfer", "create_transfer", id]) env s).2 = _
  rw [publish, ignoring_snd, created]

theorem orNoSuchTransfer_snd {α : Type} (id : TransferId) (p : Code α) (env : Env) (s : System) :
    (orNoSuchTransfer id p env s).2 = (p env s).2 := by
  unfold orNoSuchTransfer
  rw [bind_apply, ← catching_snd Exn.isKeyError p]
  rcases catching Exn.isKeyError p env s with ⟨e | (- | a), u⟩ <;> rfl

/-- The user who initiated the transfer is let in. -/
theorem getOwned_served (h : env.FailsOnlyIf False) (hst : s.asterisk.records id = some t) :
    ∃ s', getOwned id t.initiatorUuid env s = (.ok (), s') ∧ Steady id s s' ∧
      s'.asterisk.records = s.asterisk.records := by
  have got := get_served h hst s rfl
  rcases hget : StatePersistor.get id env s with ⟨e | t', s'⟩
  · rw [hget] at got
    exact got.elim
  · rw [hget] at got
    obtain ⟨rfl, hs, hr⟩ := got
    refine ⟨s', ?_, hs, hr⟩
    simp [getOwned, TransfersService.get, orNoSuchTransfer, bind_apply, catching, hget]

/-- The record of the transfer at every position. -/
theorem Position.stored (h : Position reprFloat t i j fl s) : ∃ st c, s.asterisk.records t.id =
    some { t with status := st, flow := fl, recipientCall := c } := by
  cases h with
  | moving _ stored => exact ⟨_, t.recipientCall, stored⟩
  | called c stored => exact ⟨_, some c, stored⟩
  | completed c stored => exact ⟨_, some c, stored⟩

theorem Position.of_steady (h : Position reprFloat t i j fl s) (hs : Steady t.id s s')
    (hr : s'.asterisk.records = s.asterisk.records) : Position reprFloat t i j fl s' :=
  h.of_eq hs.announces.originations hs.announces.completions hs.channelVariables
    (congrFun hr t.id)

/-- The flow after an event or a request. -/
def Early.flow (x : Early) (fl : Flow) : Flow := if x.asks then .blind else fl

/-- **One event or request.**  Each channel joins at most once. -/
theorem early_position (h : env.Serves reprFloat) (apart : t.initiatorCall ≠ t.transferredCall)
    (hs : Position reprFloat t i j fl s) (x : Early) (hi : x = .initiatorJoins → i = false)
    (hj : x = .transferredJoins → j = false) :
    Position reprFloat t (i || x = .initiatorJoins) (j || x = .transferredJoins) (x.flow fl)
      ((x.op t).code env s).2 := by
  have hf := h.succeeds
  cases x with
  | initiatorJoins =>
    obtain rfl := hi rfl
    obtain ⟨stored, -⟩ := hs.waiting rfl
    have role : ({ t with status := movedStatus false j, flow := fl } : Transfer).role
        t.initiatorCall = some .initiator := Transfer.role_initiator apart
    obtain ⟨s', hs', hr, hmake⟩ := stasisStart_joins hf stored rfl role
    have position := hs.of_steady hs' hr
    simp only [Early.op, hmake, Early.flow, Early.asks]
    cases j with
    | false => exact firstJoin_position hf position rfl rfl rfl
    | true => exact secondJoin_position h position rfl rfl rfl
  | transferredJoins =>
    obtain rfl := hj rfl
    obtain ⟨stored, -⟩ := hs.waiting (Bool.and_false i)
    have role : ({ t with status := movedStatus i false, flow := fl } : Transfer).role
        t.transferredCall = some .transferred := Transfer.role_transferred _
    obtain ⟨s', hs', hr, hmake⟩ := stasisStart_joins hf stored rfl role
    have position := hs.of_steady hs' hr
    simp only [Early.op, hmake, Early.flow, Early.asks]
    cases i with
    | false => exact firstJoin_position hf position rfl rfl rfl
    | true => exact secondJoin_position h position rfl rfl rfl
  | completes =>
    have position := complete_position hf hs
    have code : ((Early.completes.op t).code env s).2 = (StateFactory.make t.id (fun state => do
        let _ ← call .complete state) env s).2 := orNoSuchTransfer_snd t.id _ env s
    rw [code]
    simpa [Early.flow, Early.asks] using position
  | completesFromUser =>
    obtain ⟨st, c, stored⟩ := hs.stored
    obtain ⟨s', howned, hs', hr⟩ := getOwned_served hf stored
    have position := complete_position hf (hs.of_steady hs' hr)
    have code : ((Early.completesFromUser.op t).code env s).2 =
        (StateFactory.make t.id (fun state => do
          let _ ← call .complete state) env s').2 := by
      show (completeFromUser t.id t.initiatorUuid env s).2 = _
      rw [completeFromUser, bind_apply, howned]
    rw [code]
    simpa [Early.flow, Early.asks] using position

/-! ## Runs -/

/-- The events and the requests, one after the other. -/
def afterEarly (t : Transfer) (xs : List (Env × Early)) (s : System) : System :=
  run (xs.map fun x => (x.1, x.2.op t)) s

/-- **Every order.**  When no channel joins twice, the transfer comes to the position of the channels
that have joined, with a blind flow if it was to be or if a completion has been asked for. -/
theorem afterEarly_position (apart : t.initiatorCall ≠ t.transferredCall) {xs : List (Env × Early)}
    (serves : ∀ x ∈ xs, x.1.Serves reprFloat) (hs : Position reprFloat t i j fl s)
    (hi : (xs.map Prod.snd).count .initiatorJoins + i.toNat ≤ 1)
    (hj : (xs.map Prod.snd).count .transferredJoins + j.toNat ≤ 1) :
    Position reprFloat t (i || xs.any (·.2 = .initiatorJoins)) (j || xs.any (·.2 = .transferredJoins))
      (if xs.any (·.2.asks) then .blind else fl) (afterEarly t xs s) := by
  induction xs generalizing i j fl s with
  | nil => simpa [afterEarly, run] using hs
  | cons x xs ih =>
    obtain ⟨env, x⟩ := x
    simp only [List.map_cons, List.count_cons, beq_iff_eq] at hi hj
    have step := early_position (serves _ List.mem_cons_self) apart hs x
      (fun hx => by
        rw [if_pos hx] at hi
        cases i with
        | false => rfl
        | true => simp at hi)
      (fun hx => by
        rw [if_pos hx] at hj
        cases j with
        | false => rfl
        | true => simp at hj)
    have joined (b : Bool) (n : ℕ) (φ : Prop) [Decidable φ]
        (hn : n + (if φ then 1 else 0) + b.toNat ≤ 1) : n + (b || decide φ).toNat ≤ 1 := by
      by_cases hφ : φ
      · simp only [hφ, if_true, decide_true, Bool.or_true, Bool.toNat_true] at hn ⊢
        omega
      · simpa [hφ] using hn
    have rest := ih (fun y hy => serves y (List.mem_cons_of_mem _ hy)) step
      (joined i _ _ hi) (joined j _ _ hj)
    have flow : (if xs.any (·.2.asks) then Flow.blind else x.flow fl) =
        if ((env, x) :: xs).any (·.2.asks) then .blind else fl := by
      rw [List.any_cons, Early.flow]
      cases hx : x.asks with
      | false => rw [Bool.false_or, if_neg Bool.false_ne_true]
      | true => rw [Bool.true_or, if_pos rfl, ite_self]
    rw [flow, Bool.or_assoc, Bool.or_assoc] at rest
    exact rest

/-! ## The start of the transfer -/

variable {r : CreateRequest} {args : StartArgs} {m m' : Memory} {refusal crash : Prop}

/-- The event counts for the transfer. -/
def Event.counts (id : TransferId) (e : Event) : Prop :=
  e.isOriginate id = true ∨ e.isNotification .completed id = true

/-- What counts for a transfer comes after the transfer has been stored. -/
def CountsKnown (m : Memory) : Prop :=
  ∀ id, ∀ e ∈ m.trace, e.counts id → .stored id ∈ m.trace

theorem CountsKnown.append (h : CountsKnown m) {evs : List Event} (ht : m'.trace = m.trace ++ evs)
    (hevs : ∀ id, ∀ e ∈ evs, e.counts id → .stored id ∈ m.trace) : CountsKnown m' := by
  intro id e he hc
  rw [ht] at he ⊢
  refine List.mem_append_left _ ?_
  rcases List.mem_append.mp he with he | he
  · exact h id e he hc
  · exact hevs id e he hc

theorem Event.counts_subject {e : Event} (h : e.counts id) : e.subject = id := by
  cases e with
  | originated i c =>
    simpa [Event.counts, Event.isOriginate, Event.isNotification, Event.subject] using h
  | notified n =>
    have both : n.kind = .completed ∧ n.transfer.id = id := by
      simpa [Event.counts, Event.isOriginate, Event.isNotification] using h
    exact both.2
  | called | aborted | stored | removed =>
    simp [Event.counts, Event.isOriginate, Event.isNotification] at h

theorem Act.countsKnown (h : Act refusal id m m') (hw : WellStored m) (hk : CountsKnown m) :
    CountsKnown m' := by
  have spoken {p : Phase} {evs : List Event} {t : Transfer} (hst : m.records id = some t)
      (ha : ∀ e ∈ evs, Says p id e) :
      ∀ id', ∀ e ∈ evs, e.counts id' → .stored id' ∈ m.trace := by
    intro id' e he hc
    obtain rfl : id = id' := (ha e he).subject.symm.trans (Event.counts_subject hc)
    exact hw.known hst
  have ends {n : Notification} (hn : n.kind = .ended) (id' : TransferId) :
      ¬ (Event.notified n).counts id' := by
    simp [Event.counts, Event.isOriginate, Event.isNotification, hn]
  cases h with
  | indexed => exact hk
  | called | aborted | lateAborted | updated =>
    exact hk.append rfl (by simp [Event.counts, Event.isOriginate, Event.isNotification])
  | announced hst _ ha => exact hk.append rfl (spoken hst ha)
  | @finished t p evs n hst _ _ ha hn =>
    refine hk.append rfl fun id' e he hc => ?_
    rcases List.mem_append.mp he with he | he
    · exact spoken hst ha id' e he hc
    · rcases List.mem_pair.mp he with rfl | rfl
      · exact absurd hc (ends hn id')
      · simp [Event.counts, Event.isOriginate, Event.isNotification] at hc
  | @kept t p evs n _ hst _ _ ha hn =>
    refine hk.append rfl fun id' e he hc => ?_
    rcases List.mem_append.mp he with he | he
    · exact spoken hst ha id' e he hc
    · obtain rfl := List.mem_singleton.mp he
      exact absurd hc (ends hn id')

theorem Moves.countsKnown (h : Moves refusal crash m m') (hw : WellStored m)
    (hk : CountsKnown m) : CountsKnown m' := by
  induction h with
  | refl => exact hk
  | tail hms hm ih =>
    cases hm with
    | act ha => exact ha.countsKnown (Moves.wellStored hms hw) ih
    | acquired | restarted => exact ih
    | born =>
      exact ih.append rfl (by simp [Event.counts, Event.isOriginate, Event.isNotification])

/-- Nothing has been originated or completed for a transfer with a fresh id. -/
theorem Reachable.uncounted {A : Allowed} (h : Reachable A s) (fresh : .stored id ∉ s.trace) :
    s.originations id = 0 ∧ s.completions id = 0 := by
  obtain ⟨s₀, h₀, hr⟩ := h
  have moves : Moves True True s₀.memory s.memory :=
    hr.moves (fun _ _ _ _ _ => trivial) (fun _ _ _ => trivial) h₀.wellStored
  have known : CountsKnown s.memory := by
    refine moves.countsKnown h₀.wellStored fun id e he => ?_
    rw [h₀.1] at he
    cases he
  refine ⟨List.countP_eq_zero.mpr fun e he hc => ?_, List.countP_eq_zero.mpr fun e he hc => ?_⟩
  · exact fresh (known id e he (.inl hc))
  · exact fresh (known id e he (.inr hc))

/-- Nothing has been originated or completed for the transfer, and the state machine is locked. -/
structure Silent (id : TransferId) (s : System) : Prop where
  originations : s.originations id = 0
  completions : s.completions id = 0
  flag : s.stateMachineLocked = true

theorem lasts_silent : Lasts id (Silent id) := fun _ _ h hs =>
  ⟨hs.announces.originations.trans h.originations, hs.announces.completions.trans h.completions,
    hs.announces.stateMachineLocked.trans h.flag⟩

/-- The transfer waits for its channels, or its recipient has been called. -/
def Started (reprFloat : String → String) (t t' : Transfer) (s : System) : Prop :=
  t'.status = .ringback ∨
    t' = fromState .noneMovedToStasis t ∧ Silent t.id s ∧ Carries reprFloat t.initiatorCall s

theorem lasts_started (t' : Transfer) : Lasts t.id (Started reprFloat t t') := by
  rintro u v (hu | ⟨rfl, hu, hc⟩) hs
  · exact .inl hu
  · exact .inr ⟨rfl, lasts_silent u v hu hs, hc.of_eq hs.channelVariables⟩

/-- The parameters are left on the initiator. -/
theorem nonStasisStart_leaves (hjson : env.SpeaksJson reprFloat) {vars : Variables}
    (hargs : args.vars = .object vars) (hvalid : (Json.obj vars).Valid reprFloat) :
    Triple env (Silent t.id) (TransferStateNonStasis.start args t) (Started reprFloat t)
      fun _ _ => True := by
  have converted : Triple env (Silent t.id)
      (AriHelpers.convertTransferToStasis t.transferredCall t.initiatorCall args.context args.exten
        t.id args.vars args.timeout)
      (fun _ u => Silent t.id u ∧ Carries reprFloat t.initiatorCall u) fun _ _ => True := by
    refine Triple.intro (fun u a v hu hp => ?_) fun _ _ _ _ _ => trivial
    have quiet : Within env quiet (fun _ => True) (AriHelpers.convertTransferToStasis
        t.transferredCall t.initiatorCall args.context args.exten t.id args.vars args.timeout) :=
      convertTransferToStasis_within env.faults_any _ _ _ _ _ _ _
    have hq : Quiet u v := quiet.rel hp
    have silent : Silent t.id v := by
      refine ⟨?_, ?_, hq.stateMachineLocked.trans hu.flag⟩
      · rw [System.originations, hq.trace]
        exact hu.originations
      · rw [System.completions, hq.trace]
        exact hu.completions
    obtain ⟨hcontext, hexten, hvars, htimeout⟩ := setAll_transferVariables u.asterisk
      t.transferredCall t.initiatorCall args.context args.exten (AriHelpers.dumpVariables env args.vars)
      (AriHelpers.timeoutStr args.timeout) t.id
    rw [← convertTransferToStasis_writes hp] at hcontext hexten hvars htimeout
    refine ⟨silent, ⟨_, hcontext⟩, ⟨_, hexten⟩, ⟨vars, hvalid, ?_⟩, ⟨_, htimeout⟩⟩
    rw [hvars, hargs]
    cases vars with
    | nil => rfl
    | cons x vars => exact congrArg some (hjson.dumps _)
  unfold TransferStateNonStasis.start orRaise
  refine Triple.bind (Q := fun _ u => Silent t.id u ∧ Carries reprFloat t.initiatorCall u) ?_
    fun _ => Triple.pure fun u hu => .inr ⟨rfl, hu⟩
  refine Triple.bind (Q := fun r u => r.isSome = true →
    Silent t.id u ∧ Carries reprFloat t.initiatorCall u) ?_ fun r => ?_
  · refine Triple.catching (converted.weaken (fun _ h => h) (fun _ _ h _ => h) fun e u _ => ?_)
    split
    · intro h
      cases h
    · trivial
  · cases r with
    | none => exact Triple.throw fun _ _ => trivial
    | some a => exact Triple.pure fun u hu => hu rfl

/-- A transfer that starts with its channels in stasis calls the recipient. -/
theorem readyStart_rings :
    Triple env (fun _ => True) (TransferStateReady.start args t) (fun t' _ => t'.status = .ringback)
      fun _ _ => True := by
  unfold TransferStateReady.start
  refine Triple.bind (Triple.any _) fun user => ?_
  split
  · exact Triple.throw fun _ _ => trivial
  · exact (Triple.any _).bind fun _ => (Triple.any _).bind fun _ => (Triple.any _).bind fun _ =>
      Triple.pure fun _ _ => rfl

/-- What a new transfer that waits for its channels is: it is stored, and has not been completed. -/
def Departed (reprFloat : String → String) (r : CreateRequest) (t : Transfer) (s : System) : Prop :=
  t.status = .noneMovedToStasis →
    Position reprFloat t false false t.flow s ∧ (r.flow = .blind → t.flow = .blind) ∧
      t.initiatorCall = r.initiatorCall ∧ t.transferredCall = r.transferredCall

/-- A transfer whose recipient is called does not wait after its completion. -/
theorem call_complete_leaves (hst : t.status = .ringback) :
    Triple env (fun _ => True) (call .complete t) (fun t' _ => t'.status ≠ .noneMovedToStasis)
      fun _ _ => True := by
  have hm : t.status.method ⟨"", "", .object [], none⟩ .complete =
      .decorated TransferStateRingback.complete := by
    rw [hst]
    rfl
  have given : Gives env (fun _ => True) (TransferStateRingback.complete t)
      (Target.blind.Results t) :=
    (ringbackComplete_gives env.faults_any t).weaken (fun _ h => h) fun _ _ => trivial
  have left : Triple env (fun _ => True) (TransferStateRingback.complete t)
      (fun t' _ => t'.status ≠ .noneMovedToStasis) fun _ _ => True := by
    refine Triple.weaken given (fun _ h => h) ?_ fun _ _ h => h
    rintro t' - (rfl | rfl) h
    · cases h
    · cases h
  unfold call callWith transition
  rw [hm]
  refine (Triple.any _).bind fun flag => ?_
  cases flag with
  | false => exact Triple.throw fun _ _ => trivial
  | true =>
    refine Triple.bind (Triple.any _) fun _ => Triple.bind (left.onRaise fun _ => Triple.any _)
      fun t' => ?_
    refine Triple.bind (Q := fun _ _ => t'.status ≠ .noneMovedToStasis) ?_ fun _ =>
      Triple.pure fun _ h => h
    exact Triple.intro (fun _ _ _ h _ => h) fun _ _ _ _ _ => trivial

/-- The completion of a transfer that is blind from the start. -/
theorem createStart_rest {t₁ : Transfer} (hi : t.initiatorCall = r.initiatorCall)
    (ht : t.transferredCall = r.transferredCall) :
    Triple env (fun v => Started reprFloat t t₁ v ∧ v.asterisk.records t₁.id = some t₁)
      (if r.flow = .blind then call .complete t₁ else return t₁) (Departed reprFloat r)
      fun _ _ => True := by
  rintro v ⟨hring | ⟨rfl, hs, hc⟩, hr⟩
  · have leaves : Triple env (fun _ => True)
        (if r.flow = .blind then call .complete t₁ else return t₁)
        (fun t' _ => t'.status ≠ .noneMovedToStasis) fun _ _ => True := by
      split
      · exact call_complete_leaves hring
      · refine Triple.pure fun _ _ h => ?_
        rw [hring] at h
        cases h
    exact (leaves.weaken (fun _ h => h) (fun t' w h hw => absurd hw h) fun _ _ h => h) v trivial
  · have entered : Entered t.id v v := ⟨⟨⟨rfl, rfl, hs.flag⟩, rfl⟩, hs.flag⟩
    by_cases hb : r.flow = .blind
    · rw [if_pos hb]
      have remembered : Triple env (Entered t.id v)
          (call .complete (fromState .noneMovedToStasis t)) _ _ :=
        call_remembers env.failsOnlyIf_true (i := false) (j := false) rfl
      refine (remembered.weaken (fun _ h => h) ?_ fun _ _ h => h : Triple env _ _
        (Departed reprFloat r) _) v entered
      rintro t₂ w ⟨rfl, hw, hr'⟩ -
      exact ⟨.moving rfl hr' (hw.1.announces.originations.trans hs.originations)
        (hw.1.announces.completions.trans hs.completions) (hc.of_eq hw.1.channelVariables),
        fun _ => rfl, hi, ht⟩
    · rw [if_neg hb]
      exact fun _ => ⟨.moving rfl hr hs.originations hs.completions hc, fun h => absurd h hb, hi, ht⟩

theorem createStart_departs (hjson : env.SpeaksJson reprFloat) {vars : Variables}
    (hvars : r.vars = .object vars) (hvalid : (Json.obj vars).Valid reprFloat)
    (hst : t.status = .ready ∨ t.status = .nonStasis)
    (hi : t.initiatorCall = r.initiatorCall) (ht : t.transferredCall = r.transferredCall) :
    Triple env (Silent t.id) (createStart r t) (Departed reprFloat r) fun _ _ => True := by
  have hf := env.failsOnlyIf_true
  have start : Triple env (Silent t.id) (callWith ⟨r.context, r.exten, r.vars, r.timeout⟩ .start t)
      (fun t' u => Started reprFloat t t' u ∧ u.asterisk.records t'.id = some t')
      fun _ _ => True := by
    have phase (t' : Transfer) (u : System) (h : Started reprFloat t t' u) :
        ∃ p, t'.status.phase = some p := by
      rcases h with h | ⟨rfl, -⟩
      · exact ⟨.calling, by rw [h]; rfl⟩
      · exact ⟨.moving, rfl⟩
    rcases hst with hst | hst
    · refine (callWith_settles t.id (P := Silent t.id) hf (by rw [hst]; rfl) lasts_silent
        lasts_started phase (readyStart_rings.weaken (fun _ _ => trivial) (fun _ _ h => .inl h)
          fun _ _ h => h)).pre fun u hu => ⟨hu, hu.flag⟩
    · exact (callWith_settles t.id (P := Silent t.id) hf (by rw [hst]; rfl) lasts_silent
        lasts_started phase (nonStasisStart_leaves hjson hvars hvalid)).pre
          fun u hu => ⟨hu, hu.flag⟩
  have announced (t₁ : Transfer) : Triple env
      (fun v => Started reprFloat t t₁ v ∧ v.asterisk.records t₁.id = some t₁)
      (notify .created t₁)
      (fun _ v => Started reprFloat t t₁ v ∧ v.asterisk.records t₁.id = some t₁)
      fun _ _ => True := by
    have notified : Within env (steady t.id) (fun _ => True) (notify .created t₁) :=
      notify_steady hf (fun h => by cases h) t₁
    refine Triple.intro (fun v a w hv hp => ⟨lasts_started t₁ v w hv.1 (notified.rel hp), ?_⟩)
      fun _ _ _ _ _ => trivial
    have quiet : w.asterisk.records = v.asterisk.records := by
      unfold notify at hp
      split at hp <;> cases hp
      rfl
    rw [quiet]
    exact hv.2
  unfold createStart
  exact Triple.bind (start.onRaise fun _ => Triple.any _) fun t₁ =>
    (announced t₁).bind fun _ => createStart_rest hi ht

/-- **A creation that returns a waiting transfer has stored it**, and the parameters are on the
initiator. -/
theorem create_departs {A : Allowed} (h : Reachable A s) (fresh : env.FreshIn s)
    (hjson : env.SpeaksJson reprFloat) {vars : Variables} (hvars : r.vars = .object vars)
    (hvalid : (Json.obj vars).Valid reprFloat) {s₀ : System} (hs₀ : s₀.memory = s.memory) :
    Triple env (fun u => u = s₀) (create r) (Departed reprFloat r) fun _ _ => True := by
  have any {α : Type} {q : Code α} {P : System → Prop} {Q : α → System → Prop}
      {E : Exn → System → Prop} (h : Triple env P q Q E) : Triple env P q Q fun _ _ => True :=
    h.weaken (fun _ h => h) (fun _ _ h => h) fun _ _ _ => trivial
  obtain ⟨ho, hc⟩ := h.uncounted fresh
  -- until the transfer is stored, the memory is that of the locked initiator
  have made (st : Status) (hst : st = .ready ∨ st = .nonStasis) (uuid : UserUuid)
      (tenant : Option TenantUuid) :
      Triple env (fun u => u.memory = s.memory.lock r.initiatorCall)
        (StateFactory.makeFromClass st
          (.init env.uuid4 uuid tenant r.initiatorCall r.transferredCall r.flow) (createStart r))
        (Departed reprFloat r) fun _ _ => True := by
    set t := fromState st
      (.init env.uuid4 uuid tenant r.initiatorCall r.transferredCall r.flow) with ht
    have phase : t.status.phase = some .initial := by rcases hst with rfl | rfl <;> rfl
    have stored : Triple env (Silent env.uuid4) (updateCache t) (fun _ => Silent env.uuid4)
        fun _ _ => True := by
      rw [updateCache_of_phase phase]
      exact (upsert_settles env.failsOnlyIf_true lasts_silent t).weaken (fun _ h => h)
        (fun _ _ h => h.1) fun _ _ h => h
    unfold StateFactory.makeFromClass StateFactory.locked
    refine Triple.bind (Q := fun _ u => Silent env.uuid4 u) (Triple.change fun u hu => ?_)
      fun _ => Triple.ensuring ?_
    · have trace : u.trace = s.trace := congrArg Memory.trace hu
      refine ⟨?_, ?_, rfl⟩
      · rw [System.originations, trace]
        exact ho
      · rw [System.completions, trace]
        exact hc
    · have started : Triple env (Silent t.id) (createStart r t) (Departed reprFloat r)
          fun _ _ => True := createStart_departs hjson hvars hvalid hst rfl rfl
      refine (stored.bind fun _ => started).weaken (fun _ h => h) (fun t' u hd hw => ?_)
        fun _ _ h => h
      obtain ⟨position, rest⟩ := hd hw
      exact ⟨position.of_eq rfl rfl rfl rfl, rest⟩
  unfold create createLocked
  refine Triple.bind (Q := fun _ u => u.memory = s.memory.lock r.initiatorCall) ?_ fun _ => ?_
  · have checked : Triple env (fun u => u.memory = s.memory) (createChecks r) _ _ :=
      createChecks_triple
    exact any (checked.weaken (fun u hu => hu ▸ hs₀) (fun _ _ h => h.2) fun _ _ h => h)
  refine (any (quiet_memory (user_within env.faults_any _))).bind fun user => ?_
  cases user with
  | none => exact Triple.throw fun _ _ => trivial
  | some uuid =>
    unfold newTransfer initialState
    refine Triple.bind (Q := fun t u => u.memory = s.memory.lock r.initiatorCall ∧
      ∃ tenant, t = .init env.uuid4 uuid tenant r.initiatorCall r.transferredCall r.flow) ?_
      fun t => Triple.of_fact ?_
    · refine (any (quiet_memory (tenantUuid_within env.faults_any _))).bind fun tenant => ?_
      refine (Triple.ask (Q := fun id (u : System) => u.memory = s.memory.lock r.initiatorCall ∧
        id = env.uuid4) fun _ h => ⟨h, rfl⟩).bind fun id => Triple.pure fun u hu => ?_
      exact ⟨hu.1, tenant, by rw [hu.2]⟩
    · rintro ⟨tenant, rfl⟩
      refine Triple.bind (Q := fun st u => u.memory = s.memory.lock r.initiatorCall ∧
        (st = .ready ∨ st = .nonStasis)) ?_ fun st => Triple.of_fact fun hst =>
          made st hst uuid tenant
      refine (any (isInStasis_memory _)).bind fun b => ?_
      cases b with
      | false => exact Triple.pure fun u hu => ⟨hu, .inr rfl⟩
      | true =>
        refine (any (isInStasis_memory _)).bind fun b => ?_
        cases b with
        | false => exact Triple.pure fun u hu => ⟨hu, .inr rfl⟩
        | true => exact Triple.pure fun u hu => ⟨hu, .inl rfl⟩

/-! ## Every order of joins and requests -/

/-- The requests that create a transfer. -/
inductive Creation where
  | api (r : CreateRequest)
  | user (initiatorCall : ChannelId) (exten : String) (flow : Flow) (timeout : Option ℤ)
      (userUuid : UserUuid)

namespace Creation

/-- What calld runs. -/
def code : Creation → Code Transfer
  | api r => create r
  | user c exten flow timeout uuid => createFromUser c exten flow timeout uuid

/-- The flow that has been asked for. -/
def flow : Creation → Flow
  | api r => r.flow
  | user _ _ flow _ _ => flow

/-- The variables for the recipient are a dictionary of JSON values. -/
def Valid (reprFloat : String → String) : Creation → Prop
  | api r => ∃ vars, r.vars = .object vars ∧ (Json.obj vars).Valid reprFloat
  | user .. => True

end Creation

theorem creation_departs {A : Allowed} (h : Reachable A s) (fresh : env.FreshIn s)
    (hjson : env.SpeaksJson reprFloat) {cr : Creation} (hcr : cr.Valid reprFloat) :
    Triple env (fun u => u = s) cr.code
      (fun t u => t.status = .noneMovedToStasis →
        Position reprFloat t false false t.flow u ∧ (cr.flow = .blind → t.flow = .blind))
      fun _ _ => True := by
  have any {α : Type} {q : Code α} {P : System → Prop} {Q : α → System → Prop}
      {E : Exn → System → Prop} (h : Triple env P q Q E) : Triple env P q Q fun _ _ => True :=
    h.weaken (fun _ h => h) (fun _ _ h => h) fun _ _ _ => trivial
  cases cr with
  | api r =>
    obtain ⟨vars, hvars, hvalid⟩ := hcr
    exact (create_departs h fresh hjson hvars hvalid rfl).weaken (fun _ h => h)
      (fun t u hd hw => ⟨(hd hw).1, (hd hw).2.1⟩) fun _ _ h => h
  | user c exten flow timeout uuid =>
    have quiet {α : Type} {q : Code α} (hq : Within env quiet (fun _ => True) q) :
        Triple env (fun u => u.memory = s.memory) q (fun _ u => u.memory = s.memory)
          fun _ _ => True := any (quiet_memory hq)
    have created (transferred : ChannelId) (context : String) :
        Triple env (fun u => u.memory = s.memory)
          (create ⟨transferred, c, context, exten, flow, .object [], timeout⟩)
          (fun t u => t.status = .noneMovedToStasis →
            Position reprFloat t false false t.flow u ∧ (flow = .blind → t.flow = .blind))
          fun _ _ => True := by
      intro u hu
      have empty : (Json.obj []).Valid reprFloat := by
        simp [Json.Valid, Json.ValidFields]
      have departs := create_departs h fresh hjson
        (r := ⟨transferred, c, context, exten, flow, .object [], timeout⟩) rfl empty hu
      exact (departs.weaken (fun _ h => h) (fun t u hd hw => ⟨(hd hw).1, (hd hw).2.1⟩)
        fun _ _ h => h) u rfl
    unfold Creation.code createFromUser
    refine Triple.bind ((quiet ((exists_within env.faults_any _).weaken fun _ _ => trivial)).pre
      fun u hu => by rw [hu]) fun b => ?_
    cases b with
    | false => exact Triple.throw fun _ _ => trivial
    | true =>
      refine (quiet ((user_within env.faults_any _).weaken fun _ _ => trivial)).bind fun user => ?_
      dsimp only
      split
      · exact Triple.throw fun _ _ => trivial
      · exact (quiet (transferredCandidate_within c)).bind fun transferred =>
          (quiet (mainLineContext_within uuid)).bind fun context => created transferred context

/-- **A completion asked for early is neither lost nor doubled.**  A transfer has been created
while its channels were not in stasis; then each of them joins once, and completions are asked for
in between, in any order.  When the transfer was to be blind or a completion has been asked for,
it ends up completed: one recipient has been originated, and one completion published. -/
theorem completed_once {A : Allowed} (h : Reachable A s) (fresh : env.FreshIn s)
    (hjson : env.SpeaksJson reprFloat) {cr : Creation} (hcr : cr.Valid reprFloat)
    (created : cr.code env s = (.ok t, s₁)) (outside : t.status = .noneMovedToStasis)
    (apart : t.initiatorCall ≠ t.transferredCall) {xs : List (Env × Early)}
    (serves : ∀ x ∈ xs, x.1.Serves reprFloat)
    (hi : (xs.map Prod.snd).count .initiatorJoins = 1)
    (ht : (xs.map Prod.snd).count .transferredJoins = 1)
    (asked : cr.flow = .blind ∨ ∃ x ∈ xs, x.2.asks = true) :
    (∃ c, (afterEarly t xs s₁).asterisk.records t.id =
        some { t with status := .blindTransferred, flow := .blind, recipientCall := some c }) ∧
      (afterEarly t xs s₁).originations t.id = 1 ∧ (afterEarly t xs s₁).completions t.id = 1 := by
  have departed := (creation_departs h fresh hjson hcr).ok rfl created
  obtain ⟨position, hflow⟩ := departed outside
  have final := afterEarly_position apart serves position (by simp [hi]) (by simp [ht])
  have joins (x : Early) (hx : (xs.map Prod.snd).count x = 1) : xs.any (·.2 = x) = true := by
    have mem : x ∈ xs.map Prod.snd := List.count_pos_iff.mp (by omega)
    obtain ⟨y, hy, rfl⟩ := List.mem_map.mp mem
    exact List.any_eq_true.mpr ⟨y, hy, by simp⟩
  have blind : (if xs.any (·.2.asks) then Flow.blind else t.flow) = .blind := by
    rcases asked with hb | ⟨x, hx, hask⟩
    · rw [hflow hb, ite_self]
    · rw [if_pos (List.any_eq_true.mpr ⟨x, hx, hask⟩)]
  rw [joins _ hi, joins _ ht, blind, Bool.or_true] at final
  cases final with
  | moving waits => cases waits
  | completed c stored ho hc => exact ⟨⟨c, stored⟩, ho, hc⟩

/-! ## A completion between the two joins -/

open Scene

theorem Env.speaking_serves (id : TransferId) (recipient : ChannelId) :
    (Env.speaking id recipient).Serves fun lexeme => lexeme where
  succeeds := by
    refine ⟨fun {n a r e} hr he => ?_, fun hb => by cases hb⟩
    cases r with
    | channelsGet c =>
      cases c with
      | none => exact hr rfl
      | some c => cases he
    | _ => cases he
  reads := Env.speaking_readsWrites id recipient
  json := Env.speaking_speaksJson id recipient

/-- The transfer that is created while its channels are outside stasis. -/
def outsideTransfer : Transfer :=
  fromState .noneMovedToStasis (.init "first" "user" (some "user") alice bob .attended)

/-- The initiator asks for the completion before and after it joins, and the transferred channel
joins last. -/
def hastyRun : List (Env × Early) :=
  [.completes, .initiatorJoins, .completesFromUser, .transferredJoins].map
    (Env.speaking "first" carol, ·)

theorem outsideTransfer_created : ∃ s₁, (Creation.api (request bob alice .attended)).code
    (Env.speaking "first" carol).outside .start = (.ok outsideTransfer, s₁) := by
  have created : ((Creation.api (request bob alice .attended)).code
      (Env.speaking "first" carol).outside .start).1 = .ok outsideTransfer := by decide +kernel
  exact ⟨_, by rw [← created]⟩

/-- Two completions asked for early complete the transfer once. -/
theorem completed_once_hasty :
    ∃ s₁, (Creation.api (request bob alice .attended)).code
        (Env.speaking "first" carol).outside .start = (.ok outsideTransfer, s₁) ∧
      (∃ c, (afterEarly outsideTransfer hastyRun s₁).asterisk.records outsideTransfer.id =
        some { outsideTransfer with
          status := .blindTransferred, flow := .blind, recipientCall := some c }) ∧
      (afterEarly outsideTransfer hastyRun s₁).originations outsideTransfer.id = 1 ∧
      (afterEarly outsideTransfer hastyRun s₁).completions outsideTransfer.id = 1 := by
  have json : ((Env.speaking "first" carol).outside).SpeaksJson fun lexeme => lexeme :=
    ⟨fun _ => rfl, fun _ => rfl⟩
  have valid : (Creation.api (request bob alice .attended)).Valid fun lexeme => lexeme :=
    ⟨[], rfl, by simp [Json.Valid, Json.ValidFields]⟩
  have serves : ∀ x ∈ hastyRun, x.1.Serves fun lexeme => lexeme := by
    intro x hx
    obtain ⟨y, -, rfl⟩ := List.mem_map.mp hx
    exact Env.speaking_serves "first" carol
  have fresh : ((Env.speaking "first" carol).outside).FreshIn .start := by decide
  obtain ⟨s₁, h₁⟩ := outsideTransfer_created
  have asked : ∃ x ∈ hastyRun, x.2.asks = true := ⟨_, List.mem_cons_self, rfl⟩
  have apart : outsideTransfer.initiatorCall ≠ outsideTransfer.transferredCall := by decide
  have outside : outsideTransfer.status = .noneMovedToStasis := rfl
  have initiator : (hastyRun.map Prod.snd).count .initiatorJoins = 1 := rfl
  have transferred : (hastyRun.map Prod.snd).count .transferredJoins = 1 := rfl
  exact ⟨s₁, h₁, completed_once (start_reachable (A := GlobalsWritten)) fresh json valid h₁ outside
    apart serves initiator transferred (.inr asked)⟩

end Calld.Transfers
