/-
# Losing the initiator while a transfer starts

The transitions that start a transfer send ARI up to eighteen requests, and only some of them
are protected from a channel that is gone.  The losses that each transition bears are found from
the numbers of its requests.
-/
import Calld.Transfers.Losses

namespace Calld.Transfers

open Effect Effect.Program TransferState
open AriHelpers (StartArgs)

variable {env : Env} {k n : ℕ} {α β : Type} {p : Code α} {f : α → Code β}

/-! ## What a start should come to -/

/-- The statuses that a target stands for. -/
def Target.statuses (st : Status) : Target → List Status
  | stay | remember => [st]
  | goto st' => [st']
  | call => [.ringback]
  | blind => [.blindTransferred, .ended]

/-- The transitions, one after the other, end a transfer of the status. -/
def Status.endsBy (st : Status) : List Transition → Bool
  | [] => st = .ended
  | tr :: trs =>
    match st.target tr with
    | none => false
    | some g => (g.statuses st).all (·.endsBy trs)

/-- A transfer of the status ends when the initiator and the transferred channel hang up, in
whatever order. -/
def Status.HangupsEnd (st : Status) : Prop :=
  st.endsBy [.initiatorHangup, .transferredHangup] = true ∧
    st.endsBy [.transferredHangup, .initiatorHangup] = true

instance (st : Status) : Decidable st.HangupsEnd := inferInstanceAs (Decidable (_ ∧ _))

/-- The outcomes of a transition that starts a transfer: a transfer that is stored and that
hangups will end, or a `TransferCreationError`. -/
def Handled (outcome : Except Exn Transfer × System) : Prop :=
  match outcome with
  | (.ok t, s) => s.asterisk.records t.id = some t ∧ t.status.HangupsEnd
  | (.error e, _) => e.isTransferCreationError = true

/-- The transitions of a transfer that starts: the two starts, and the moves of the channels
into stasis. -/
def Status.starts : Status → Transition → Bool
  | .ready, .start | .nonStasis, .start => true
  | .noneMovedToStasis, .initiatorJoinedStasis => true
  | .noneMovedToStasis, .transferredJoinedStasis => true
  | .initiatorMovedToStasis, .transferredJoinedStasis => true
  | .transferredMovedToStasis, .initiatorJoinedStasis => true
  | _, _ => false

/-- Hangups end what these transitions lead to, but not the transfers that wait for `start`. -/
example : Status.ringback.HangupsEnd ∧ Status.noneMovedToStasis.HangupsEnd ∧
    ¬ Status.ready.HangupsEnd ∧ ¬ Status.nonStasis.HangupsEnd := by decide

section Transitions

variable {c : ChannelId} {s : System} {t : Transfer} {args : StartArgs} {tr : Transition}
  {body : Transfer → Code Transfer}

/-- The state in which the body of a transition begins. -/
def System.calling (s : System) (t : Transfer) (tr : Transition) : System :=
  { s with trace := s.trace ++ [.called t.id t.status tr] }

/-- An exception that strays out of a piece of code strays out of the whole. -/
theorem stray_bind (h : Stray (p env s).1) : Stray ((p >>= f) env s).1 := by
  rcases hp : p env s with ⟨r, u⟩
  rw [hp] at h
  obtain ⟨e, rfl, he⟩ := h
  exact ⟨e, by rw [bind_apply, hp], he⟩

/-- A decorated transition raises what its body raises. -/
theorem callWith_error (hm : t.status.method args tr = .decorated body)
    (hflag : s.stateMachineLocked = true) {e : Exn} {u : System}
    (hbody : body t env (s.calling t tr) = (.error e, u)) :
    (callWith args tr t env s).1 = .error e := by
  have hraise : onRaise (body t) (abort t t.initiatorCall) env (s.calling t tr) =
      (.error e, (abort t t.initiatorCall env u).2) := by
    unfold onRaise
    rw [tryCatch_apply, hbody]
    rfl
  simp only [callWith, hm, transition, bind_apply, look_apply, hflag, Bool.not_true,
    Bool.false_eq_true, if_false, pure_apply]
  simp only [record, change_apply]
  rw [show ({ s with trace := s.trace ++ [.called t.id t.status tr] } : System) =
    s.calling t tr from rfl, hraise]

/-- The writes of a stored transfer succeed. -/
theorem updateCache_stored (hl : env.LosesAt c k) (hst : t.status ≠ .ended) (s : System) :
    ∃ s', updateCache t env s = (.ok (), s') ∧ s'.asterisk.records t.id = some t := by
  have hupsert : updateCache t = StatePersistor.upsert t := by
    unfold updateCache
    split
    · exact absurd ‹_› hst
    · rfl
  rw [hupsert]
  simp only [StatePersistor.upsert, StatePersistor.set, StatePersistor.getIndex,
    StatePersistor.readGlobal, StatePersistor.setIndex, ari, record, Program.catching, bind_apply,
    ask_apply, hl.writes _ _ _, hl.reads _ _ _, change_apply, look_apply, pure_apply]
  exact ⟨_, rfl, by simp [Asterisk.apply, Asterisk.write]⟩

/-- A decorated transition stores what its body returns. -/
theorem callWith_ok (hl : env.LosesAt c k) (hm : t.status.method args tr = .decorated body)
    (hflag : s.stateMachineLocked = true) {r : Transfer} {u : System}
    (hbody : body t env (s.calling t tr) = (.ok r, u)) (hst : r.status ≠ .ended) :
    ∃ s', callWith args tr t env s = (.ok r, s') ∧ s'.asterisk.records r.id = some r := by
  have hraise : onRaise (body t) (abort t t.initiatorCall) env (s.calling t tr) = (.ok r, u) := by
    unfold onRaise
    rw [tryCatch_apply, hbody]
  obtain ⟨s', hcache, hrec⟩ := updateCache_stored hl hst u
  refine ⟨s', ?_, hrec⟩
  simp only [callWith, hm, transition, bind_apply, look_apply, hflag, Bool.not_true,
    Bool.false_eq_true, if_false, pure_apply]
  simp only [record, change_apply]
  rw [show ({ s with trace := s.trace ++ [.called t.id t.status tr] } : System) =
    s.calling t tr from rfl, hraise]
  simp only [hcache]

/-- What returns a transfer that hangups will end is handled. -/
theorem handled_of_ok (hl : env.LosesAt c k) (hm : t.status.method args tr = .decorated body)
    (hflag : s.stateMachineLocked = true) (r : Transfer) {u : System}
    (hbody : body t env (s.calling t tr) = (.ok r, u)) (hst : r.status ≠ .ended)
    (hend : r.status.HangupsEnd) : Handled (callWith args tr t env s) := by
  obtain ⟨s', hcall, hrec⟩ := callWith_ok hl hm hflag hbody hst
  rw [hcall]
  exact ⟨hrec, hend⟩

theorem Handled.error_iff {outcome : Except Exn Transfer × System} {e : Exn}
    (h : outcome.1 = .error e) : Handled outcome ↔ e.isTransferCreationError = true := by
  rcases outcome with ⟨r, s'⟩
  obtain rfl : r = .error e := h
  exact Iff.rfl

/-- What raises is handled when it raises a `TransferCreationError`. -/
theorem handled_error_iff (hm : t.status.method args tr = .decorated body)
    (hflag : s.stateMachineLocked = true) {e : Exn} {u : System}
    (hbody : body t env (s.calling t tr) = (.error e, u)) :
    Handled (callWith args tr t env s) ↔ e.isTransferCreationError = true :=
  Handled.error_iff (callWith_error hm hflag hbody)

/-- What raises another exception is not handled. -/
theorem not_handled_of_stray (hm : t.status.method args tr = .decorated body)
    (hflag : s.stateMachineLocked = true) (h : Stray (body t env (s.calling t tr)).1) :
    ¬ Handled (callWith args tr t env s) := by
  rcases hbody : body t env (s.calling t tr) with ⟨r, u⟩
  rw [hbody] at h
  obtain ⟨e, rfl, he⟩ := h
  rw [handled_error_iff hm hflag hbody, he]
  exact Bool.false_ne_true

end Transitions

/-! ## The bodies -/

section Bodies

variable {c : ChannelId} {s : System} {t : Transfer} {args : StartArgs} {vars : Variables}
  {tr : Transition}

/-- `notify` succeeds. -/
theorem notify_ok (hl : env.LosesAt c k) (kind : NotificationKind) (t : Transfer) (s : System) :
    ∃ s', notify kind t env s = (.ok (), s') := by
  simp [notify, hl.bus]

/-- `_start_attended` is its requests and then its notification. -/
theorem startAttended_eq (t : Transfer) (args : StartArgs) :
    startAttended t args = ((do
      holdTransferredCall t
      Program.ignoring Exn.isARINotFound (channelsDo .ring t.initiatorCall)
      Program.catching Exn.isTransferCreationError
        (originateRecipient t.initiatorCall args t.id)) >>= fun recipientCall => do
      notify .updated (recipientCall.elim t fun c => { t with recipientCall := some c })
      return recipientCall.elim t fun c => { t with recipientCall := some c }) := by
  simp only [startAttended, bind_assoc]

/-- With the initiator until the recipient is originated, `_start_attended` returns. -/
theorem startAttended_kept (hl : env.LosesAt t.initiatorCall k) (hargs : args.vars = .object vars)
    (hs : s.tick + 10 ≤ k) :
    ∃ t' u, startAttended t args env s = (.ok t', u) ∧ t'.id = t.id := by
  obtain ⟨r, u, hsent, -, -⟩ := (startAttended_sends hl rfl hargs).kept s hs
  obtain ⟨v, hnotify⟩ :=
    notify_ok hl .updated (r.elim t fun c => { t with recipientCall := some c }) u
  refine ⟨r.elim t fun c => { t with recipientCall := some c }, v, ?_, by cases r <;> rfl⟩
  rw [startAttended_eq, bind_apply, hsent]
  simp only [bind_apply, hnotify, pure_apply]

/-- When the initiator is lost before that, an exception strays out of `_start_attended`. -/
theorem startAttended_lost (hl : env.LosesAt t.initiatorCall k) (hargs : args.vars = .object vars)
    (hs : k < s.tick + 10) : Stray (startAttended t args env s).1 := by
  obtain ⟨r, u, hsent, -, e, rfl, he⟩ := (startAttended_sends hl rfl hargs).lost s hs
  rw [startAttended_eq, bind_apply, hsent]
  exact ⟨e, rfl, he⟩

/-- The variables that the start of the transfer has left on the initiator can be read back:
a dictionary, and a number of seconds or `None`. -/
structure Env.Readable (env : Env) (c : ChannelId) : Prop where
  vars : ∀ n a x, env.ari n a (.channelsGetVar c "XIVO_TRANSFER_VARIABLES") = .ok x →
    env.loads x ≠ some .other
  timeout : ∀ n a x, env.ari n a (.channelsGetVar c "XIVO_TRANSFER_TIMEOUT") = .ok x →
    x = "None" ∨ x.toInt?.isSome = true

/-- The variables of the initiator are read with the initiator only: the source goes on to a
local variable that is not bound. -/
theorem getInitialTransferVariables_sends (hl : env.LosesAt c k) (hr : env.Readable c) :
    Sends env k 4 (AriHelpers.getInitialTransferVariables c)
      (fun args => ∃ vars, args.vars = .object vars) Stray := by
  have var (name : String) : Sends env k 1 (Channel.getVar c name)
      (fun x => ∃ n a, env.ari n a (.channelsGetVar c name) = .ok x) Missing :=
    ari_missing hl rfl
  have read : Sends env k 4 (do
      let context ← Channel.getVar c "XIVO_TRANSFER_RECIPIENT_CONTEXT"
      let exten ← Channel.getVar c "XIVO_TRANSFER_RECIPIENT_EXTEN"
      let variablesStr ← Channel.getVar c "XIVO_TRANSFER_VARIABLES"
      let timeoutStr ← Channel.getVar c "XIVO_TRANSFER_TIMEOUT"
      return (context, exten, variablesStr, timeoutStr))
      (fun x => env.loads x.2.2.1 ≠ some .other ∧
        (x.2.2.2 = "None" ∨ x.2.2.2.toInt?.isSome = true)) Missing := by
    have missing {γ δ : Type} (e : Exn) (he : Missing (.error e : Except Exn γ)) :
        Missing (.error e : Except Exn δ) := congrArg Except.error (Except.error.inj he)
    refine ((var _).raising (fun _ => nofun) missing fun context _ => ?_).count (m := 1 + 3) rfl
    refine ((var _).raising (fun _ => nofun) missing fun exten _ => ?_).count (m := 1 + 2) rfl
    refine ((var _).raising (fun _ => nofun) missing fun variablesStr hv => ?_).count
      (m := 1 + 1) rfl
    refine (var _).silent (fun timeoutStr s => ?_) missing
    refine ⟨_, s, rfl, rfl, fun ht => ⟨_, rfl, ?_, ?_⟩, nofun⟩
    · obtain ⟨n, a, hx⟩ := hv
      exact hr.vars n a variablesStr hx
    · obtain ⟨n, a, hx⟩ := ht
      exact hr.timeout n a timeoutStr hx
  unfold AriHelpers.getInitialTransferVariables
  refine read.missed.silent (fun r s => ?_) fun e he => nomatch he
  cases r with
  | none =>
    refine ⟨_, s, rfl, rfl, fun h => ?_, fun _ => ⟨_, rfl, rfl⟩⟩
    obtain ⟨a, ha, -⟩ := h
    cases ha
  | some x =>
    obtain ⟨context, exten, variablesStr, timeoutStr⟩ := x
    have hobject (h : env.loads variablesStr ≠ some .other) :
        ∃ vars, (env.loads variablesStr).getD (.object []) = .object vars := by
      cases hloads : env.loads variablesStr with
      | none => exact ⟨[], rfl⟩
      | some decoded =>
        cases decoded with
        | object vars => exact ⟨vars, rfl⟩
        | other => exact absurd hloads h
    by_cases hnone : timeoutStr = "None"
    · refine ⟨.ok ⟨context, exten, (env.loads variablesStr).getD (.object []), none⟩, s,
        by simp [bind_apply, hnone], rfl, fun h => ⟨_, rfl, ?_⟩, nofun⟩
      obtain ⟨a, ha, hvars, -⟩ := h
      cases ha
      exact hobject hvars
    · cases htimeout : timeoutStr.toInt? with
      | none =>
        refine ⟨.error .valueError, s, by simp [bind_apply, hnone, htimeout], rfl, fun h => ?_,
          nofun⟩
        obtain ⟨a, ha, -, hread⟩ := h
        cases ha
        simp [hnone, htimeout] at hread
      | some timeout =>
        refine ⟨.ok ⟨context, exten, (env.loads variablesStr).getD (.object []), some timeout⟩, s,
          by simp [bind_apply, hnone, htimeout], rfl, fun h => ⟨_, rfl, ?_⟩, nofun⟩
        obtain ⟨a, ha, hvars, -⟩ := h
        cases ha
        exact hobject hvars

/-- The move of the second channel into stasis needs the initiator until the recipient is
originated. -/
theorem joinedStasis_handled_iff (hl : env.LosesAt t.initiatorCall k)
    (hr : env.Readable t.initiatorCall) (hm : t.status.method args tr = .decorated joinedStasis)
    (hflag : s.stateMachineLocked = true) :
    Handled (callWith args tr t env s) ↔ s.tick + 14 ≤ k := by
  have hread := getInitialTransferVariables_sends hl hr
  constructor
  · intro h
    by_contra hk
    refine not_handled_of_stray hm hflag ?_ h
    by_cases hread₁ : s.tick + 4 ≤ k
    · obtain ⟨args, u, hargs, htick, vars, hvars⟩ := hread.kept (s.calling t tr) hread₁
      have hlost : Stray (startAttended t args env u).1 :=
        startAttended_lost hl hvars (by change u.tick = s.tick + 4 at htick; omega)
      rw [joinedStasis, bind_apply, hargs]
      rcases hstart : startAttended t args env u with ⟨r, v⟩
      rw [hstart] at hlost
      obtain ⟨e, rfl, he⟩ := hlost
      exact ⟨e, by simp only [bind_apply, hstart], he⟩
    · obtain ⟨r, u, hargs, -, e, rfl, he⟩ := hread.lost (s.calling t tr) (by
        change k < s.tick + 4
        omega)
      exact ⟨e, by rw [joinedStasis, bind_apply, hargs], he⟩
  · intro hk
    obtain ⟨args', u, hargs, htick, vars, hvars⟩ := hread.kept (s.calling t tr) (by
      change s.tick + 4 ≤ k
      omega)
    obtain ⟨t', v, hstart, -⟩ := startAttended_kept hl hvars (s := u) (by
      change u.tick = s.tick + 4 at htick
      omega)
    refine handled_of_ok hl hm hflag (fromState .ringback t') (u := v) ?_ nofun
      (show Status.ringback.HangupsEnd by decide)
    rw [joinedStasis, bind_apply, hargs]
    simp only [bind_apply, hstart, pure_apply]

end Bodies

/-! ## The start of a transfer whose channels are in stasis -/

/-- What the start writes on the two channels. -/
def Transfer.marked (t : Transfer) (a : Asterisk) : Asterisk :=
  let a := a.apply (.channelsSetVar t.transferredCall "XIVO_TRANSFER_ROLE" "transferred")
  let a := a.apply (.channelsSetVar t.transferredCall "XIVO_TRANSFER_ID" t.id)
  let a := a.apply (.channelsSetVar t.initiatorCall "XIVO_TRANSFER_ROLE" "initiator")
  a.apply (.channelsSetVar t.initiatorCall "XIVO_TRANSFER_ID" t.id)

/-- The number of requests with which the bridge of the two channels is destroyed: one when
ARI lists it, and none otherwise. -/
def Env.destroyed (env : Env) (t : Transfer) (s : System) : ℕ :=
  match env.ari (s.tick + 6) (t.marked s.asterisk) .bridgesList with
  | .ok bridges =>
    match bridges.find? (t.initiatorCall ∈ ·.channels) with
    | some bridge =>
      if bridge.hasOnlyChannelIds [t.transferredCall, t.initiatorCall] then 1 else 0
    | none => 0
  | .error _ => 0

section Ready

variable {c : ChannelId} {s : System} {t : Transfer} {args : StartArgs} {vars : Variables}

theorem ari_kept (hl : env.LosesAt c k) {r : AriRequest} (hr : r ≠ .channelsGet none)
    (hs : s.tick < k) :
    ∃ x, ari r env s =
      (.ok x, { s with asterisk := s.asterisk.apply r, tick := s.tick + 1 }) := by
  obtain ⟨x, hx⟩ := hl.before s.asterisk hs hr
  exact ⟨x, by simp only [ari, hx]⟩

theorem user_kept (hl : env.LosesAt c k) (c' : ChannelId) (hs : s.tick + 2 ≤ k) :
    ∃ x, Channel.user c' env s = (.ok (some x), { s with tick := s.tick + 2 }) := by
  obtain ⟨channel, hchannel⟩ := ari_kept hl (r := .channelsGet (some c')) (by simp) (s := s)
    (by omega)
  obtain ⟨b, hlocal⟩ : ∃ b, Channel.isLocal c' env s = (.ok b, { s with tick := s.tick + 1 }) := by
    refine ⟨"Local/".toList.isPrefixOf channel.name.toList, ?_⟩
    simp only [Channel.isLocal, bind_apply, Program.catching, hchannel]
    rfl
  have hvar (name : String) : ∃ x, Program.catching Exn.isARINotFound (Channel.getVar c' name) env
      { s with tick := s.tick + 1 } = (.ok (some x), { s with tick := s.tick + 2 }) := by
    obtain ⟨x, hx⟩ := ari_kept hl (r := .channelsGetVar c' name) (by simp)
      (s := { s with tick := s.tick + 1 }) (by change s.tick + 1 < k; omega)
    refine ⟨x, ?_⟩
    simp only [Program.catching, Channel.getVar, hx]
    rfl
  rw [Channel.user, bind_apply, hlocal]
  cases b
  · exact hvar "WAZO_USERUUID"
  · exact hvar "WAZO_DEREFERENCED_USERUUID"

theorem user_sends (hl : env.LosesAt c k) :
    Sends env k 2 (Channel.user c) (fun _ => True) (· = .ok none) := by
  have get : Sends env k 1 (ari (.channelsGet (some c))) (fun _ => True)
      fun a => Returned a ∨ Missing a := ari_sends hl rfl
  have isLocal : Sends env k 1 (Channel.isLocal c) (fun _ => True) Returned := by
    refine get.found.silent (fun r s => ?_) fun e he => ?_
    · cases r with
      | none => exact ⟨_, s, rfl, rfl, fun _ => ⟨_, rfl, trivial⟩, fun _ => ⟨_, rfl⟩⟩
      | some channel => exact ⟨_, s, rfl, rfl, fun _ => ⟨_, rfl, trivial⟩, fun _ => ⟨_, rfl⟩⟩
    · obtain ⟨a, ha⟩ := he
      cases ha
  have var (name : String) : Sends env k 1
      (Program.catching Exn.isARINotFound (Channel.getVar c name)) (fun _ => True) (· = .ok none) :=
    have read : Sends env k 1 (Channel.getVar c name) _ Missing := ari_missing hl rfl
    read.missed.weaken (fun _ _ => trivial) fun _ h => h
  refine (isLocal.after fun b => ?_).count (m := 1 + 1) rfl
  cases b
  · exact var _
  · exact var _

theorem setVariables_kept (hl : env.LosesAt c k) (t : Transfer) (c' : ChannelId) (role : String)
    (hs : s.tick + 2 ≤ k) :
    setVariables t c' role env s = (.ok (), { s with
      asterisk := (s.asterisk.apply (.channelsSetVar c' "XIVO_TRANSFER_ROLE" role)).apply
        (.channelsSetVar c' "XIVO_TRANSFER_ID" t.id)
      tick := s.tick + 2 }) := by
  obtain ⟨x, hrole⟩ := ari_kept hl (r := .channelsSetVar c' "XIVO_TRANSFER_ROLE" role) nofun
    (s := s) (by omega)
  obtain ⟨y, hid⟩ := ari_kept hl (r := .channelsSetVar c' "XIVO_TRANSFER_ID" t.id) nofun
    (s := { s with
      asterisk := s.asterisk.apply (.channelsSetVar c' "XIVO_TRANSFER_ROLE" role)
      tick := s.tick + 1 }) (by change s.tick + 1 < k; omega)
  simp only [setVariables, bind_apply, hrole, hid]

/-- The variables of the two channels are set, or the caller is told. -/
theorem mark_lost (hl : env.LosesAt t.initiatorCall k) (hs : k < s.tick + 4) (e : Exn) :
    (orRaise (do setTransferredVariables t; setInitiatorVariables t) e env s).1 = .error e := by
  have set (c' : ChannelId) (role : String) : Sends env k 2 (setVariables t c' role) (fun _ => True)
      fun a => Returned a ∨ Missing a :=
    have one (name value : String) : Sends env k 1 (ari (.channelsSetVar c' name value))
        (fun _ => True) fun a => Returned a ∨ Missing a := ari_sends hl rfl
    ((one _ _).both fun _ => one _ _).count rfl
  have setInitiator : Sends env k 2 (setInitiatorVariables t) (fun _ => True) Missing := by
    have one (name value : String) : Sends env k 1
        (ari (.channelsSetVar t.initiatorCall name value)) _ Missing := ari_missing hl rfl
    refine ((one _ _).raising (fun _ => nofun) (fun e he => he) fun _ _ => ?_).count
      (m := 1 + 1) rfl
    exact (one _ _).weaken (fun _ _ => trivial) fun _ h => h
  have block : Sends env k 4 (do setTransferredVariables t; setInitiatorVariables t)
      (fun _ => True) Missing := by
    refine ((set t.transferredCall "transferred").bind (fun _ _ => setInitiator)
      (fun _ _ => setInitiator.lost) fun e he => ?_).count (m := 2 + 2) rfl
    rcases he with ⟨a, ha⟩ | he
    · cases ha
    · exact he
  obtain ⟨r, u, hcaught, -, rfl⟩ := block.missed.lost s hs
  simp only [orRaise, bind_apply, hcaught]
  rfl

/-- The state when the variables of the two channels have been set. -/
def System.marked (s : System) (t : Transfer) : System :=
  { s.calling t .start with asterisk := t.marked s.asterisk, tick := s.tick + 6 }

theorem mark_kept (hl : env.LosesAt c k) (hs : s.tick + 6 ≤ k) (e : Exn) :
    orRaise (do setTransferredVariables t; setInitiatorVariables t) e env
      { s.calling t .start with tick := s.tick + 2 } = (.ok (), s.marked t) := by
  have htransferred := setVariables_kept hl t t.transferredCall "transferred"
    (s := { s.calling t .start with tick := s.tick + 2 }) (by change s.tick + 2 + 2 ≤ k; omega)
  have hinitiator (a : Asterisk) := setVariables_kept hl t t.initiatorCall "initiator"
    (s := { s.calling t .start with asterisk := a, tick := s.tick + 4 })
    (by change s.tick + 4 + 2 ≤ k; omega)
  simp only [orRaise, Program.catching, bind_apply, setTransferredVariables, htransferred,
    setInitiatorVariables, hinitiator]
  rfl

/-- The bridge of the two channels is destroyed, if it is there. -/
theorem destroyBridge_cases (hl : env.LosesAt t.initiatorCall k) {u : System}
    (hu : u.tick = s.tick + 6) (ha : u.asterisk = t.marked s.asterisk) :
    (∃ v, TransferStateReady.destroyBridge t env u = (.ok (), v) ∧
        v.tick = s.tick + 7 + env.destroyed t s) ∨
      k ≤ s.tick + 7 ∧ Stray (TransferStateReady.destroyBridge t env u).1 := by
  obtain ⟨bridges, hbridges⟩ := hl.bridges (s.tick + 6) (t.marked s.asterisk)
  have hlist : ari .bridgesList env u = (.ok bridges, { u with tick := u.tick + 1 }) := by
    simp only [ari, hu, ha, hbridges]
    rfl
  simp only [TransferStateReady.destroyBridge, Channel.bridge, Program.catching, bind_apply, hlist,
    Env.destroyed, hbridges]
  cases hfound : bridges.find? (t.initiatorCall ∈ ·.channels) with
  | none => exact .inl ⟨_, rfl, by simp [hu]⟩
  | some bridge =>
    simp only [pure_apply]
    by_cases honly : bridge.hasOnlyChannelIds [t.transferredCall, t.initiatorCall] = true
    · simp only [honly, if_true]
      cases hdestroy : env.ari (u.tick + 1) u.asterisk (.bridgesDestroy bridge.id) with
      | ok x => exact .inl ⟨_, by simp only [ari, hdestroy]; rfl, by simp [hu]⟩
      | error e =>
        refine .inr ⟨?_, ⟨.ari e, by simp only [ari, hdestroy], rfl⟩⟩
        by_contra hk
        obtain ⟨x, hx⟩ := hl.before u.asterisk (r := .bridgesDestroy bridge.id)
          (n := u.tick + 1) (by omega) (by simp)
        rw [hx] at hdestroy
        cases hdestroy
    · simp only [honly, Bool.false_eq_true, if_false, pure_apply]
      exact .inl ⟨_, rfl, by simp [hu]⟩

/-- **The start of a transfer whose channels are in stasis** bears the loss of the initiator
before the variables of the initiator are set, and after the recipient is originated. -/
theorem readyStart_handled_iff (hl : env.LosesAt t.initiatorCall k)
    (hargs : args.vars = .object vars) (hst : t.status = .ready)
    (hflag : s.stateMachineLocked = true) :
    Handled (callWith args .start t env s) ↔
      k ≤ s.tick + 5 ∨ s.tick + 17 + env.destroyed t s ≤ k := by
  have hm : t.status.method args .start = .decorated (TransferStateReady.start args) := by
    rw [hst]
    rfl
  by_cases huser : k < s.tick + 2
  · -- the user of the initiator is not found
    refine iff_of_true ?_ (.inl (by omega))
    obtain ⟨r, u, hr, -, rfl⟩ := (user_sends hl).lost (s.calling t .start) huser
    refine (handled_error_iff (e := .transferCreationError "initiator has no user UUID") (u := u)
      hm hflag ?_).mpr rfl
    rw [TransferStateReady.start, bind_apply, hr]
    rfl
  obtain ⟨x, hx⟩ := user_kept hl t.initiatorCall (s := s.calling t .start) (by
    change s.tick + 2 ≤ k
    omega)
  have hstart (q : Code Transfer) : (do
      if (← Channel.user t.initiatorCall).isNone then
        throw (.transferCreationError "initiator has no user UUID")
      q : Code Transfer) env (s.calling t .start) =
        q env { s.calling t .start with tick := s.tick + 2 } := by
    rw [bind_apply, hx]
    rfl
  by_cases hmark : k < s.tick + 6
  · -- the initiator is lost before it has its variables
    refine iff_of_true ?_ (.inl (by omega))
    have hlost := mark_lost hl (s := { s.calling t .start with tick := s.tick + 2 })
      (by change k < s.tick + 2 + 4; omega) (.transferCreationError "some channel got hung up")
    rcases hraised : orRaise (do setTransferredVariables t; setInitiatorVariables t)
      (.transferCreationError "some channel got hung up") env
      { s.calling t .start with tick := s.tick + 2 } with ⟨r, u⟩
    rw [hraised] at hlost
    obtain rfl : r = .error (.transferCreationError "some channel got hung up") := hlost
    refine (handled_error_iff (e := .transferCreationError "some channel got hung up") (u := u)
      hm hflag ?_).mpr rfl
    rw [TransferStateReady.start, hstart, bind_apply, hraised]
  · -- the bridge and the call of the recipient are not protected
    have hrest : TransferStateReady.start args t env (s.calling t .start) = (do
        TransferStateReady.destroyBridge t
        let t ← startAttended t args
        return fromState .ringback t : Code Transfer) env (s.marked t) := by
      rw [TransferStateReady.start, hstart, bind_apply, mark_kept hl (by omega)]
    rcases destroyBridge_cases (s := s) hl (u := s.marked t) rfl rfl with
      ⟨v, hdestroy, htick⟩ | ⟨hk, hstray⟩
    · have hattended : TransferStateReady.start args t env (s.calling t .start) = (do
          let t ← startAttended t args
          return fromState .ringback t : Code Transfer) env v := by
        rw [hrest, bind_apply, hdestroy]
      by_cases hcalled : v.tick + 10 ≤ k
      · refine iff_of_true ?_ (.inr (by omega))
        obtain ⟨t', u, hstarted, -⟩ := startAttended_kept hl hargs hcalled
        refine handled_of_ok hl hm hflag (fromState .ringback t') (u := u) ?_ nofun
          (show Status.ringback.HangupsEnd by decide)
        rw [hattended, bind_apply, hstarted]
        rfl
      · refine iff_of_false (not_handled_of_stray hm hflag ?_) (by omega)
        rw [hattended]
        exact stray_bind (startAttended_lost hl hargs (by omega))
    · refine iff_of_false (not_handled_of_stray hm hflag ?_) (by omega)
      rw [hrest]
      exact stray_bind hstray

end Ready

/-! ## The start of a transfer whose channels are not in stasis -/

section NonStasis

variable {c : ChannelId} {s : System} {t : Transfer} {args : StartArgs} {vars : Variables}

/-- Variables are set on channels, and the last one on the channel that is lost. -/
theorem setAll_sends (hl : env.LosesAt c k) (xs : List (ChannelId × String × String))
    (name value : String) :
    Sends env k (xs.length + 1) ((xs ++ [(c, name, value)]).forM fun (c', name, value) =>
      ari (.channelsSetVar c' name value)) (fun _ => True) Missing := by
  induction xs with
  | nil =>
    have one : Sends env k 1 (ari (.channelsSetVar c name value)) _ Missing := ari_missing hl rfl
    exact one.silent (fun x s => ⟨_, s, rfl, rfl, fun _ => ⟨_, rfl, trivial⟩, nofun⟩)
      fun e he => he
  | cons x xs ih =>
    have one : Sends env k 1 (ari (.channelsSetVar x.1 x.2.1 x.2.2)) (fun _ => True)
        fun a => Returned a ∨ Missing a := ari_sends hl rfl
    refine (one.bind (fun _ _ => ih) (fun _ _ => ih.lost) fun e he => ?_).count (by
      rw [List.length_cons]
      omega)
    rcases he with ⟨a, ha⟩ | he
    · cases ha
    · exact he

/-- The variables of the two channels are set, and the last one on the initiator. -/
theorem transferVariables_sends (hl : env.LosesAt t.initiatorCall k) (context exten : String)
    (channelVariables timeout : String) :
    Sends env k 10 ((AriHelpers.transferVariables t.transferredCall t.initiatorCall context exten
      t.id channelVariables timeout).forM fun (c, name, value) =>
        ari (.channelsSetVar c name value)) (fun _ => True) Missing :=
  setAll_sends hl (AriHelpers.transferVariables t.transferredCall t.initiatorCall context exten
    t.id channelVariables timeout).dropLast "XIVO_TRANSFER_TIMEOUT" timeout

/-- wazo-amid accepts to redirect the two channels into stasis: the request is the eleventh one
of the start. -/
def Env.Redirects (env : Env) (t : Transfer) (s : System) : Prop :=
  ∃ y, env.ami (s.tick + 10) (.redirect t.transferredCall "convert_to_stasis" "transfer"
    t.initiatorCall) = .ok y

/-- **The start of a transfer whose channels are not in stasis** bears the loss of the initiator
before the variables of the initiator are set, and whenever its redirection is accepted. -/
theorem nonStasisStart_handled_iff (hl : env.LosesAt t.initiatorCall k)
    (hst : t.status = .nonStasis) (hflag : s.stateMachineLocked = true) :
    Handled (callWith args .start t env s) ↔ k ≤ s.tick + 9 ∨ env.Redirects t s := by
  have hm : t.status.method args .start = .decorated (TransferStateNonStasis.start args) := by
    rw [hst]
    rfl
  have hset := transferVariables_sends hl args.context args.exten
    (AriHelpers.dumpVariables env args.vars) (AriHelpers.timeoutStr args.timeout)
  by_cases hk : k < s.tick + 10
  · refine iff_of_true ?_ (.inl (by omega))
    obtain ⟨r, u, hsent, -, rfl⟩ := hset.lost (s.calling t .start) hk
    refine (handled_error_iff (e := .transferCreationError "channel not found") (u := u)
      hm hflag ?_).mpr rfl
    simp only [TransferStateNonStasis.start, orRaise, Program.catching,
      AriHelpers.convertTransferToStasis, bind_apply, ask_apply, hsent]
    rfl
  · obtain ⟨⟨⟩, u, hsent, htick, -⟩ := hset.kept (s.calling t .start) (by
      change s.tick + 10 ≤ k
      omega)
    change u.tick = s.tick + 10 at htick
    cases hredirect : env.ami (s.tick + 10) (.redirect t.transferredCall "convert_to_stasis"
      "transfer" t.initiatorCall) with
    | ok y =>
      refine iff_of_true ?_ (.inr ⟨y, hredirect⟩)
      refine handled_of_ok hl hm hflag (fromState .noneMovedToStasis t)
        (u := { u with tick := u.tick + 1 }) ?_ (fun hended => by cases hended)
        (show Status.noneMovedToStasis.HangupsEnd by decide)
      simp only [TransferStateNonStasis.start, orRaise, Program.catching, Ami.redirect, Ami.request,
        AriHelpers.convertTransferToStasis, ami, bind_apply, ask_apply, hsent, htick, hredirect]
      rfl
    | error e =>
      refine iff_of_false ?_ ?_
      · refine not_handled_of_stray hm hflag ⟨.wazoAmidError, ?_, rfl⟩
        simp only [TransferStateNonStasis.start, orRaise, Program.catching, Ami.redirect,
          Ami.request, AriHelpers.convertTransferToStasis, ami, bind_apply, ask_apply, hsent, htick,
          hredirect]
        rfl
      · rintro (hk' | ⟨y, hy⟩)
        · omega
        · rw [hredirect] at hy
          cases hy

end NonStasis

/-! ## The transitions that start a transfer -/

/-- The losses that a transition bears: the initiator is lost from the request number `k` on.
The start of channels in stasis sends seventeen requests, and one more when there is a bridge to
destroy; the move of the second channel into stasis sends fourteen. -/
def Env.Bears (env : Env) (tr : Transition) (t : Transfer) (s : System) (k : ℕ) : Prop :=
  match t.status, tr with
  | .ready, .start => k ≤ s.tick + 5 ∨ s.tick + 17 + env.destroyed t s ≤ k
  | .nonStasis, .start => k ≤ s.tick + 9 ∨ env.Redirects t s
  | .initiatorMovedToStasis, .transferredJoinedStasis => s.tick + 14 ≤ k
  | .transferredMovedToStasis, .initiatorJoinedStasis => s.tick + 14 ≤ k
  | _, _ => True

section Starts

variable {s : System} {t : Transfer} {args : StartArgs} {vars : Variables} {tr : Transition}

/-- The move of the first channel into stasis sends nothing. -/
theorem movedToStasis_handled (hl : env.LosesAt t.initiatorCall k) (st : Status)
    (hm : t.status.method args tr = .decorated fun t => pure (fromState st t))
    (hflag : s.stateMachineLocked = true) (hst : st ≠ .ended) (hend : st.HangupsEnd) :
    Handled (callWith args tr t env s) :=
  handled_of_ok hl hm hflag (fromState st t) (u := s.calling t tr) rfl hst hend

/-- **Losing the initiator while a transfer starts**: whichever request finds that the
initiator is gone, the transition comes to a domain outcome exactly when it bears the loss. -/
theorem initiatorLost_handled_iff (hl : env.LosesAt t.initiatorCall k)
    (hr : env.Readable t.initiatorCall) (hargs : args.vars = .object vars)
    (hst : t.status.starts tr = true) (hflag : s.stateMachineLocked = true) :
    Handled (callWith args tr t env s) ↔ env.Bears tr t s k := by
  unfold Env.Bears
  cases hstatus : t.status <;> cases tr <;> (rw [hstatus] at hst; try cases hst)
  case ready.start => exact readyStart_handled_iff hl hargs hstatus hflag
  case nonStasis.start => exact nonStasisStart_handled_iff hl hstatus hflag
  case noneMovedToStasis.initiatorJoinedStasis =>
    refine iff_of_true (movedToStasis_handled hl .initiatorMovedToStasis ?_ hflag nofun
      (by decide)) trivial
    rw [hstatus]
    rfl
  case noneMovedToStasis.transferredJoinedStasis =>
    refine iff_of_true (movedToStasis_handled hl .transferredMovedToStasis ?_ hflag nofun
      (by decide)) trivial
    rw [hstatus]
    rfl
  case initiatorMovedToStasis.transferredJoinedStasis =>
    refine joinedStasis_handled_iff hl hr ?_ hflag
    rw [hstatus]
    rfl
  case transferredMovedToStasis.initiatorJoinedStasis =>
    refine joinedStasis_handled_iff hl hr ?_ hflag
    rw [hstatus]
    rfl

end Starts

/-! ## Losses on fixed inputs -/

/-- Asterisk loses the channel at the request number `k`; no transfer has a timeout. -/
def Env.losingAt (env : Env) (c : ChannelId) (k : ℕ) : Env :=
  { env with
    ari := fun n a r =>
      if k ≤ n ∧ r.about? = some c then .error .notFound
      else match r with
        | .channelsOriginate args =>
          if k ≤ n ∧ args.originator = c then .error .other
          else env.ari n a (.channelsOriginate args)
        | .channelsGetVar c' name =>
          if name = "XIVO_TRANSFER_TIMEOUT" then .ok "None"
          else env.ari n a (.channelsGetVar c' name)
        | r => env.ari n a r }

theorem Env.calm_losesAt (id : TransferId) (recipient c : ChannelId) (k : ℕ) :
    ((Env.calm id recipient).losingAt c k).LosesAt c k where
  before a r hn hr := by
    have hk : ¬ k ≤ _ := Nat.not_le.mpr hn
    cases r with
    | channelsGet c' =>
      cases c' with
      | none => exact absurd rfl hr
      | some c' => simp [Env.losingAt, Env.calm, hk]
    | channelsGetVar c' name =>
      by_cases hname : name = "XIVO_TRANSFER_TIMEOUT" <;>
        simp [Env.losingAt, Env.calm, hk, hname]
    | _ => simp [Env.losingAt, Env.calm, hk]
  gone a r hn hr := by simp [Env.losingAt, hn, hr]
  originator a args hn hc := ⟨.other, by simp [Env.losingAt, hn, hc, AriRequest.about?]⟩
  others a r hr hc := by
    cases r with
    | channelsGet c' =>
      cases hr
      simp [Env.losingAt, Env.calm, AriRequest.about?, hc]
    | channelsGetVar c' name =>
      cases hr
      by_cases hname : name = "XIVO_TRANSFER_TIMEOUT" <;>
        simp [Env.losingAt, Env.calm, AriRequest.about?, hc, hname]
    | channelsDo action c' =>
      cases hr
      simp [Env.losingAt, Env.calm, AriRequest.about?, hc]
    | channelsSetVar c' name value =>
      cases hr
      simp [Env.losingAt, Env.calm, AriRequest.about?, hc]
    | _ => cases hr
  bridges n a := ⟨[], by simp [Env.losingAt, Env.calm, AriRequest.about?]⟩
  reads n a x := by simp [Env.losingAt, Env.calm, AriRequest.about?]
  writes n a w := by simp [Env.losingAt, Env.calm, AriRequest.about?]
  ami n r _ := by cases r <;> exact ⟨_, rfl⟩
  bus _ := rfl

theorem Env.calm_readable (id : TransferId) (recipient c : ChannelId) (k : ℕ) :
    ((Env.calm id recipient).losingAt c k).Readable c where
  vars _ _ _ _ := nofun
  timeout n a x hx := by
    refine .inl ?_
    by_cases hk : k ≤ n
    · simp [Env.losingAt, AriRequest.about?, hk] at hx
    · simpa [Env.losingAt, AriRequest.about?, hk] using hx.symm

namespace Scene

/-- A transfer that waits for its start or for a channel. -/
def waiting (st : Status) : Transfer :=
  ⟨"t1", "user", none, bob, alice, none, "bridge", st, .attended⟩

/-- Asterisk stores the transfer, and it is being operated on. -/
def storing (t : Transfer) : System :=
  { System.start with
    asterisk := System.start.asterisk.write (.setTransfer t), stateMachineLocked := true }

def startArgs : StartArgs := ⟨"default", "1000", .object [], none⟩

/-- The transition of the transfer, which loses its initiator at the request `k`. -/
def lossOf (st : Status) (tr : Transition) (k : ℕ) : Except Exn Transfer × System :=
  callWith startArgs tr (waiting st) ((Env.calm "t1" carol).losingAt alice k) (storing (waiting st))

end Scene

open Scene

/-- The start that loses the initiator at its eighth request is not handled. -/
theorem initiatorLost_handled_iff_ready : ¬ Handled (lossOf .ready .start 8) := by
  have hloses := Env.calm_losesAt "t1" carol alice 8
  have hread := Env.calm_readable "t1" carol alice 8
  have hiff : Handled (lossOf .ready .start 8) ↔ _ :=
    initiatorLost_handled_iff hloses hread rfl rfl rfl
  refine hiff.not.mpr ?_
  rintro (h | h)
  · exact absurd h (by decide)
  · exact absurd (Nat.le_trans (Nat.le_add_right _ _) h) (by decide)

/-- An `ARINotFound` escapes from a start and leaves the record as it is, in a status which
ignores hangups; an `UnboundLocalError` escapes from the move of a channel into stasis. -/
theorem initiatorLost_escapes :
    ((lossOf .ready .start 8).1 = .error (.ari .notFound) ∧
      (lossOf .ready .start 8).2.asterisk.records "t1" = some (waiting .ready) ∧
      ¬ Status.ready.HangupsEnd ∧ ¬ Handled (lossOf .ready .start 8)) ∧
    (lossOf .initiatorMovedToStasis .transferredJoinedStasis 2).1 = .error .unboundLocalError ∧
      ¬ Handled (lossOf .initiatorMovedToStasis .transferredJoinedStasis 2) := by
  refine ⟨⟨rfl, rfl, by decide, ?_⟩, rfl, ?_⟩
  · rw [Handled.error_iff (e := .ari .notFound) rfl]
    exact Bool.false_ne_true
  · rw [Handled.error_iff (e := .unboundLocalError) rfl]
    exact Bool.false_ne_true

end Calld.Transfers
