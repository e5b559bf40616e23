/-
# While the channels are moved into stasis

A transfer that starts outside stasis waits for its two channels to join, and calls the
recipient when the second one has joined.  `Announces` counts what a piece of code originates
and completes; `steady` is the frame of the code that does neither and leaves the variables of
the channels.
-/
import Calld.Transfers.Calls
import Calld.Transfers.Dialplan

namespace Calld.Transfers

open Effect Effect.Program TransferState
open AriHelpers (StartArgs)

variable {B : Prop} {env : Env} {id : TransferId} {s s' s'' : System} {t t' : Transfer}
  {tr : Transition} {args : StartArgs}

/-! ## What is counted -/

/-- The recipients that have been originated for a transfer. -/
def System.originations (s : System) (id : TransferId) : ℕ := s.trace.countP (·.isOriginate id)

/-- The completions of a transfer that have been published. -/
def System.completions (s : System) (id : TransferId) : ℕ :=
  s.trace.countP (·.isNotification .completed id)

/-- Between the two states, so many recipients have been originated and so many completions
published. -/
structure Announces (id : TransferId) (originations completions : ℕ) (s s' : System) : Prop where
  originations : s'.originations id = s.originations id + originations
  completions : s'.completions id = s.completions id + completions
  stateMachineLocked : s'.stateMachineLocked = s.stateMachineLocked

theorem Announces.trans {o c o' c' : ℕ} (h : Announces id o c s s') (h' : Announces id o' c' s' s'') :
    Announces id (o + o') (c + c') s s'' where
  originations := by rw [h'.originations, h.originations, Nat.add_assoc]
  completions := by rw [h'.completions, h.completions, Nat.add_assoc]
  stateMachineLocked := h'.stateMachineLocked.trans h.stateMachineLocked

/-- Nothing of this has happened, and the variables of the channels are the same. -/
structure Steady (id : TransferId) (s s' : System) : Prop where
  announces : Announces id 0 0 s s'
  channelVariables : s'.asterisk.channelVariables = s.asterisk.channelVariables

/-- The frame of the code that originates and completes nothing. -/
def steady (id : TransferId) : Frame System where
  rel := Steady id
  refl _ := ⟨⟨rfl, rfl, rfl⟩, rfl⟩
  trans h h' := ⟨h.announces.trans h'.announces, h'.channelVariables.trans h.channelVariables⟩

theorem Steady.trans (h : Steady id s s') (h' : Steady id s' s'') : Steady id s s'' :=
  (steady id).trans h h'

theorem Announces.steady {o c : ℕ} (h : Announces id o c s s') (h' : Steady id s' s'') :
    Announces id o c s s'' := h.trans h'.announces

/-- One more event. -/
theorem Announces.log {o c o' c' : ℕ} (h : Announces id o c s s') {e : Event}
    (htrace : s''.trace = s'.trace ++ [e])
    (hflag : s''.stateMachineLocked = s'.stateMachineLocked)
    (ho : o + (e.isOriginate id).toNat = o')
    (hc : c + (e.isNotification .completed id).toNat = c') : Announces id o' c' s s'' := by
  subst ho hc
  have count (p : Event → Bool) :
      (s'.trace ++ [e]).countP p = s'.trace.countP p + (p e).toNat := by
    rw [List.countP_append, List.countP_singleton]
    cases p e <;> rfl
  refine ⟨?_, ?_, hflag.trans h.stateMachineLocked⟩
  · rw [System.originations, htrace, count, ← System.originations, h.originations, Nat.add_assoc]
  · rw [System.completions, htrace, count, ← System.completions, h.completions, Nat.add_assoc]

/-- Events that originate and complete nothing. -/
theorem Steady.of_trace (evs : List Event) (htrace : s'.trace = s.trace ++ evs)
    (hevs : ∀ e ∈ evs, e.isOriginate id = false ∧ e.isNotification .completed id = false)
    (hflag : s'.stateMachineLocked = s.stateMachineLocked)
    (hvars : s'.asterisk.channelVariables = s.asterisk.channelVariables) : Steady id s s' := by
  have none (p : Event → Bool) (hp : ∀ e ∈ evs, p e = false) : evs.countP p = 0 :=
    List.countP_eq_zero.mpr fun e he => by simp [hp e he]
  refine ⟨⟨?_, ?_, hflag⟩, hvars⟩
  · rw [System.originations, htrace, List.countP_append, none _ fun e he => (hevs e he).1]
    rfl
  · rw [System.completions, htrace, List.countP_append, none _ fun e he => (hevs e he).2]
    rfl

/-! ## Environments in which nothing fails -/

/-- ARI and the bus fail only when `B` holds. -/
structure Env.FailsOnlyIf (env : Env) (B : Prop) : Prop where
  ari : ∀ {n a r e}, r ≠ .channelsGet none → env.ari n a r = .error e → B
  bus : ∀ {n}, env.bus n = false → B

theorem Env.failsOnlyIf_true (env : Env) : env.FailsOnlyIf True :=
  ⟨fun _ _ => trivial, fun _ => trivial⟩

/-! ### Requests -/

theorem apply_channelVariables {a : Asterisk} {r : AriRequest}
    (hset : ∀ c x v, r ≠ .channelsSetVar c x v) :
    (a.apply r).channelVariables = a.channelVariables := by
  cases r with
  | channelsSetVar c x v => exact absurd rfl (hset c x v)
  | setGlobalVar w => cases w <;> rfl
  | _ => rfl

theorem ari_steady (h : env.FailsOnlyIf B) {r : AriRequest} (hget : r ≠ .channelsGet none)
    (hset : ∀ c x v, r ≠ .channelsSetVar c x v) :
    Within env (steady id) (fun _ => B) (ari r) := by
  intro s
  unfold ari
  cases ha : env.ari s.tick s.asterisk r with
  | ok a =>
    refine ⟨⟨⟨rfl, rfl, rfl⟩, apply_channelVariables hset⟩, fun e he => ?_⟩
    cases he
  | error e => exact ⟨⟨⟨rfl, rfl, rfl⟩, rfl⟩, fun _ _ => h.ari hget ha⟩

theorem channelsDo_steady (h : env.FailsOnlyIf B) (a : ChannelAction) (c : ChannelId) :
    Within env (steady id) (fun _ => B) (channelsDo a c) :=
  ari_steady h (fun h => by cases h) fun _ _ _ h => by cases h

theorem getVar_steady (h : env.FailsOnlyIf B) (c : ChannelId) (name : String) :
    Within env (steady id) (fun _ => B) (Channel.getVar c name) :=
  ari_steady h (fun h => by cases h) fun _ _ _ h => by cases h

/-- A failure of wazo-amid is caught. -/
theorem mohClassExists_steady (mohClass : String) :
    Within env (steady id) (fun _ => B)
      (catching Exn.isWazoAmidError (Ami.mohClassExists mohClass)) := by
  have request : Within env (steady id) (fun e => e = .wazoAmidError)
      (Ami.request .mohShowClasses) := by
    intro s
    unfold Ami.request ami
    cases env.ami s.tick .mohShowClasses with
    | ok a =>
      refine ⟨⟨⟨rfl, rfl, rfl⟩, rfl⟩, fun e he => ?_⟩
      cases he
    | error e =>
      refine ⟨⟨⟨rfl, rfl, rfl⟩, rfl⟩, fun e he => ?_⟩
      cases he
      rfl
  have asked : Within env (steady id) (fun e => e = .wazoAmidError)
      (Ami.mohClassExists mohClass) := request.bind fun _ => .pure _
  refine asked.catching fun e he => .inl ?_
  rw [he]
  rfl

theorem holdTransferredCall_steady (h : env.FailsOnlyIf B) (t : Transfer) :
    Within env (steady id) (fun _ => B) (holdTransferredCall t) := by
  unfold holdTransferredCall AriHelpers.holdTransferredCall
  refine Within.ignoring ?_ fun _ => .inr
  refine (channelsDo_steady h _ _).bind fun _ => (channelsDo_steady h _ _).bind fun _ =>
    (mohClassExists_steady _).bind fun moh => ?_
  split <;> exact channelsDo_steady h _ _

theorem unhold_steady (h : env.FailsOnlyIf B) (t : Transfer) :
    Within env (steady id) (fun _ => B) (unholdTransferredCall t) :=
  (channelsDo_steady h _ _).bind fun _ => (channelsDo_steady h _ _).bind fun _ =>
    (channelsDo_steady h _ _).bind fun _ => channelsDo_steady h _ _

theorem record_steady {E : Exn → Prop} {e : Event} (ho : e.isOriginate id = false)
    (hc : e.isNotification .completed id = false) :
    Within env (steady id) E (record e) := by
  unfold record
  refine Within.change fun s => Steady.of_trace _ rfl (fun e' he' => ?_) rfl rfl
  obtain rfl := List.mem_singleton.mp he'
  exact ⟨ho, hc⟩

theorem notify_steady (h : env.FailsOnlyIf B) {kind : NotificationKind} (hk : kind ≠ .completed)
    (t : Transfer) : Within env (steady id) (fun _ => B) (notify kind t) := by
  intro s
  unfold notify
  cases hb : env.bus s.tick with
  | false => exact ⟨⟨⟨rfl, rfl, rfl⟩, rfl⟩, fun _ _ => h.bus hb⟩
  | true =>
    refine ⟨Steady.of_trace _ rfl (fun e he => ?_) rfl rfl, fun e he => by cases he⟩
    obtain rfl := List.mem_singleton.mp he
    exact ⟨rfl, by simp [Event.isNotification, hk]⟩

theorem readGlobal_steady (h : env.FailsOnlyIf B) (x : GlobalVariable) :
    Within env (steady id) (fun _ => B) (StatePersistor.readGlobal x) := by
  have read : Within env (steady id) (fun _ => B) (ari (.getGlobalVar x)) :=
    ari_steady h (fun h => by cases h) fun _ _ _ h => by cases h
  intro s
  rcases hr : ari (.getGlobalVar x) env s with ⟨e | a, u⟩
  · have hb : B := read.raises hr
    have hrel : Steady id s u := read.rel hr
    simp only [StatePersistor.readGlobal, bind_apply, catching, hr]
    by_cases hc : e.isARINotFound = true
    · simp only [hc, if_true, throw_apply]
      exact ⟨hrel, fun _ _ => hb⟩
    · simp only [hc]
      exact ⟨hrel, fun _ _ => hb⟩
  · have hrel : Steady id s u := read.rel hr
    simp only [StatePersistor.readGlobal, bind_apply, catching, hr]
    refine ⟨hrel, fun e he => ?_⟩
    cases he

theorem setGlobal_steady (h : env.FailsOnlyIf B) (w : GlobalWrite) :
    Within env (steady id) (fun _ => B) (ari (.setGlobalVar w)) :=
  ari_steady h (fun h => by cases h) fun _ _ _ h => by cases h

theorem upsert_steady (h : env.FailsOnlyIf B) (t : Transfer) :
    Within env (steady id) (fun _ => B) (StatePersistor.upsert t) := by
  have set : Within env (steady id) (fun _ => B) (StatePersistor.set t) :=
    (setGlobal_steady h _).bind fun _ => record_steady rfl rfl
  have index : Within env (steady id) (fun _ => B) StatePersistor.getIndex :=
    (readGlobal_steady h _).bind fun _ => .look _
  exact set.bind fun _ => index.bind fun _ => (Within.ask _).bind fun _ => setGlobal_steady h _

/-! ## Calls -/

/-- What is known of a state stays known when nothing of it has happened since. -/
def Lasts (id : TransferId) (P : System → Prop) : Prop := ∀ u v, P u → Steady id u v → P v

theorem lasts_steady (s : System) : Lasts id (Steady id s) := fun _ _ h h' => h.trans h'

theorem lasts_announces (id : TransferId) (s : System) (o c : ℕ) : Lasts id (Announces id o c s) :=
  fun _ _ h h' => h.steady h'

theorem within_lasts {α : Type} {q : Code α} {P : System → Prop} {E : Exn → Prop}
    (h : Within env (steady id) E q) (hP : Lasts id P) :
    Triple env P q (fun _ => P) fun e _ => E e :=
  (h.triple fun u v hu hr => hP u v hu hr).weaken (fun _ h => h) (fun _ _ h => h) fun _ _ h => h.2

/-- The transfer is stored again. -/
theorem upsert_settles (h : env.FailsOnlyIf B) {P : System → Prop} (hP : Lasts id P)
    (t : Transfer) :
    Triple env P (StatePersistor.upsert t)
      (fun _ u => P u ∧ u.asterisk.records t.id = some t) fun _ _ => B := by
  intro s hs
  have kept : Triple env P (StatePersistor.upsert t) (fun _ => P) fun _ _ => B :=
    within_lasts (upsert_steady h t) hP
  have stored : Triple env (fun u => u.memory = s.memory) (StatePersistor.upsert t)
      (fun _ u => u.asterisk.records t.id = some t) fun _ _ => True := by
    refine (upsert_memory t).weaken (fun _ h => h) (fun _ u hu => ?_) fun _ _ _ => trivial
    have records : u.memory.records t.id = some t := by
      rw [hu.1.records]
      simp
    exact records
  exact ((kept.and stored).weaken (fun _ h => h) (fun _ _ h => h) fun _ _ h => h.1) s ⟨hs, rfl⟩

/-- **The call of a transition**, from what the body does: the transfer that it returns is
stored. -/
theorem callWith_settles (id : TransferId) (h : env.FailsOnlyIf B) {body : Transfer → Code Transfer}
    (hm : t.status.method args tr = .decorated body) {P : System → Prop} (hP : Lasts id P)
    {Q : Transfer → System → Prop} (hQ : ∀ t', Lasts id (Q t'))
    (hphase : ∀ t' u, Q t' u → ∃ p, t'.status.phase = some p)
    (hbody : Triple env P (body t) Q fun _ _ => B) :
    Triple env (fun u => P u ∧ u.stateMachineLocked = true) (callWith args tr t)
      (fun t' u => Q t' u ∧ u.asterisk.records t'.id = some t') fun _ _ => B := by
  have settled (t' : Transfer) : Triple env (Q t') (do
      updateCache t'
      return t') (fun t' u => Q t' u ∧ u.asterisk.records t'.id = some t') fun _ _ => B := by
    intro u hu
    obtain ⟨p, hp⟩ := hphase t' u hu
    rw [updateCache_of_phase hp]
    exact ((upsert_settles h (hQ t') t').bind fun _ => Triple.pure fun _ h => h) u hu
  have called : Triple env P (record (.called t.id t.status tr)) (fun _ => P) fun _ _ => B :=
    within_lasts (record_steady rfl rfl) hP
  unfold callWith transition
  rw [hm]
  refine (Triple.look (Q := fun flag u => P u ∧ flag = true) fun u hu => ⟨hu.1, hu.2⟩).bind
    fun flag => Triple.of_fact ?_
  rintro rfl
  refine called.bind fun _ => Triple.bind (Q := Q) ?_ settled
  exact hbody.onRaise fun _ => Triple.intro (fun _ _ _ h _ => h) fun _ _ _ h _ => h

/-! ## Calling the recipient -/

variable {reprFloat : String → String}

/-- The initiator has the variables that the start of the transfer leaves on it. -/
structure Carries (reprFloat : String → String) (c : ChannelId) (s : System) : Prop where
  context : ∃ x, s.asterisk.channelVariables c "XIVO_TRANSFER_RECIPIENT_CONTEXT" = some x
  exten : ∃ x, s.asterisk.channelVariables c "XIVO_TRANSFER_RECIPIENT_EXTEN" = some x
  vars : ∃ vars, (Json.obj vars).Valid reprFloat ∧
    s.asterisk.channelVariables c "XIVO_TRANSFER_VARIABLES" = some (Json.obj vars).dumps
  timeout : ∃ timeout,
    s.asterisk.channelVariables c "XIVO_TRANSFER_TIMEOUT" = some (AriHelpers.timeoutStr timeout)

theorem Carries.of_eq {c : ChannelId} (h : Carries reprFloat c s)
    (hvars : s'.asterisk.channelVariables = s.asterisk.channelVariables) :
    Carries reprFloat c s' := by
  obtain ⟨hcontext, hexten, hv, htimeout⟩ := h
  rw [← hvars] at hcontext hexten hv htimeout
  exact ⟨hcontext, hexten, hv, htimeout⟩

/-- Every request to ARI succeeds, the channels have the variables that they have been given, the
bus takes what is published, and `json` is Python's. -/
structure Env.Serves (reprFloat : String → String) (env : Env) : Prop where
  succeeds : env.FailsOnlyIf False
  reads : env.ReadsWrites
  json : env.SpeaksJson reprFloat

theorem getInitialTransferVariables_steady (h : env.FailsOnlyIf B) (c : ChannelId) :
    Within env (steady id) (fun _ => True) (AriHelpers.getInitialTransferVariables c) := by
  unfold AriHelpers.getInitialTransferVariables
  have read : Within env (steady id) (fun _ => B) (do
      let context ← Channel.getVar c "XIVO_TRANSFER_RECIPIENT_CONTEXT"
      let exten ← Channel.getVar c "XIVO_TRANSFER_RECIPIENT_EXTEN"
      let variablesStr ← Channel.getVar c "XIVO_TRANSFER_VARIABLES"
      let timeoutStr ← Channel.getVar c "XIVO_TRANSFER_TIMEOUT"
      return (context, exten, variablesStr, timeoutStr)) :=
    (getVar_steady h _ _).bind fun _ => (getVar_steady h _ _).bind fun _ =>
      (getVar_steady h _ _).bind fun _ => (getVar_steady h _ _).bind fun _ => .pure _
  refine (read.catching fun _ _ => .inr trivial).bind fun r => ?_
  cases r with
  | none => exact .throw trivial
  | some x =>
    obtain ⟨context, exten, variablesStr, timeoutStr⟩ := x
    refine (Within.ask _).bind fun loaded => ?_
    dsimp only
    split
    · exact .pure _
    · split
      · exact .pure _
      · exact .throw trivial

/-- The parameters of the transfer are read back. -/
theorem getInitialTransferVariables_carried (h : env.Serves reprFloat) {c : ChannelId}
    (hc : Carries reprFloat c s) :
    Triple env (Steady id s) (AriHelpers.getInitialTransferVariables c)
      (fun args u => (∃ vars, args.vars = .object vars) ∧ Steady id s u) fun _ _ => False := by
  intro u hu
  obtain ⟨⟨context, hcontext⟩, ⟨exten, hexten⟩, ⟨vars, hvalid, hvars⟩, ⟨timeout, htimeout⟩⟩ :=
    hc.of_eq hu.channelVariables
  have loads : env.loads (Json.obj vars).dumps = some (.object vars) := by
    rw [h.json.loads, Json.loads_dumps hvalid]
    rfl
  obtain ⟨v, hv⟩ :=
    getInitialTransferVariables_written h.reads hcontext hexten hvars htimeout loads
  have kept : Within env (steady id) (fun _ => True)
      (AriHelpers.getInitialTransferVariables c) := getInitialTransferVariables_steady h.succeeds c
  rw [hv]
  exact ⟨⟨vars, rfl⟩, hu.trans (kept.rel hv)⟩

/-- The recipient is originated once. -/
theorem originateRecipient_announces (h : env.FailsOnlyIf B) {vars : Variables} (c : ChannelId)
    (hargs : args.vars = .object vars) :
    Triple env (Steady id s) (originateRecipient c args id) (fun _ => Announces id 1 0 s)
      fun _ _ => B := by
  have request {α : Type} {q : Code α} (hq : Within env (steady id) (fun _ => B) q) :
      Triple env (Steady id s) q (fun _ => Steady id s) fun _ _ => B :=
    within_lasts hq (lasts_steady s)
  have var (name : String) : Within env (steady id) (fun _ => B)
      (catching Exn.isARINotFound (Channel.getVar c name)) :=
    (getVar_steady h c name).catching fun _ => .inr
  unfold originateRecipient
  rw [hargs]
  refine (request (ari_steady h (fun h => by cases h) fun _ _ _ h => by cases h)).bind
    fun channel => ?_
  refine (Triple.pure (Q := fun _ => Steady id s) fun _ h => h).bind fun vars => ?_
  refine (request (getVar_steady h c _)).bind fun language => ?_
  refine (request (var _)).bind fun userId => (request (var _)).bind fun userUuid => ?_
  refine (request (ari_steady h (fun h => by cases h) fun _ _ _ h => by cases h)).bind
    fun recipient => ?_
  refine Triple.bind (Q := fun _ => Announces id 1 0 s) (Triple.change fun u hu => ?_) fun _ =>
    Triple.pure fun _ h => h
  exact hu.announces.log rfl rfl (by simp [Event.isOriginate]) rfl

theorem startAttended_announces (h : env.FailsOnlyIf False) {vars : Variables}
    (hargs : args.vars = .object vars) (t : Transfer) :
    Triple env (Steady t.id s) (startAttended t args)
      (fun t' u => (∃ c, t' = { t with recipientCall := some c }) ∧ Announces t.id 1 0 s u)
      fun _ _ => False := by
  unfold startAttended
  refine (within_lasts (holdTransferredCall_steady h t) (lasts_steady s)).bind fun _ => ?_
  refine (within_lasts ((channelsDo_steady h _ _).ignoring fun _ => .inr) (lasts_steady s)).bind
    fun _ => ?_
  have originated : Triple env (Steady t.id s)
      (catching Exn.isTransferCreationError (originateRecipient t.initiatorCall args t.id))
      (fun r u => Announces t.id 1 0 s u ∧ ∃ c, r = some c) fun _ _ => False := by
    refine Triple.catching ((originateRecipient_announces h _ hargs).weaken (fun _ h => h)
      (fun c _ h => ⟨h, c, rfl⟩) fun _ _ => False.elim)
  refine originated.bind fun r => Triple.of_fact ?_
  rintro ⟨c, rfl⟩
  refine (within_lasts (notify_steady h (fun h => by cases h) _)
    (lasts_announces t.id s 1 0)).bind fun _ => Triple.pure fun u hu => ⟨⟨c, rfl⟩, hu⟩

/-- **The second channel has joined**: the recipient is called. -/
theorem joinedStasis_announces (h : env.Serves reprFloat) (hc : Carries reprFloat t.initiatorCall s) :
    Triple env (Steady t.id s) (joinedStasis t)
      (fun t' u => (∃ c, t' = fromState .ringback { t with recipientCall := some c }) ∧
        Announces t.id 1 0 s u) fun _ _ => False := by
  unfold joinedStasis
  refine (getInitialTransferVariables_carried h hc).bind fun args => ?_
  rintro u ⟨⟨vars, hargs⟩, hu⟩
  refine ((startAttended_announces h.succeeds hargs t).bind fun t' => ?_) u hu
  refine Triple.pure ?_
  rintro v ⟨⟨c, rfl⟩, hv⟩
  exact ⟨⟨c, rfl⟩, hv⟩

/-! ## Completing -/

/-- The completion of a transfer whose recipient has been called. -/
theorem ringbackComplete_announces {o c : ℕ} (h : env.FailsOnlyIf False) (t : Transfer) :
    Triple env (Announces t.id o c s) (TransferStateRingback.complete t)
      (fun t' u => t' = fromState .blindTransferred { t with flow := .blind } ∧
        Announces t.id o (c + 1) s u) fun _ _ => False := by
  have given : Within env (steady t.id) (fun _ => False) (do
      unholdTransferredCall t
      channelsDo .ring t.transferredCall) :=
    (unhold_steady h t).bind fun _ => channelsDo_steady h _ _
  have caught : Triple env (Announces t.id o c s)
      (catching Exn.isARINotFound (do
        unholdTransferredCall t
        channelsDo .ring t.transferredCall))
      (fun r u => Announces t.id o c s u ∧ ∃ a, r = some a) fun _ _ => False :=
    Triple.catching ((within_lasts given (lasts_announces _ s o c)).weaken (fun _ h => h)
      (fun a _ h => ⟨h, a, rfl⟩) fun _ _ => False.elim)
  unfold TransferStateRingback.complete TransferStateRingback.transferBlind
  refine (within_lasts ((channelsDo_steady h _ _).ignoring fun _ => .inr)
    (lasts_announces _ s o c)).bind fun _ => ?_
  refine caught.bind fun r => Triple.of_fact ?_
  rintro ⟨a, rfl⟩
  refine Triple.bind (Q := fun _ => Announces t.id o (c + 1) s) ?_ fun _ =>
    Triple.pure fun _ h => ⟨rfl, h⟩
  intro u hu
  unfold notify
  cases hb : env.bus u.tick with
  | false => exact h.bus hb
  | true =>
    exact hu.log rfl rfl rfl (by simp [Event.isNotification, Transfer.toPublicDict])

end Calld.Transfers
