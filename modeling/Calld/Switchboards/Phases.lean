/-
# The programs keep to their phases

Every program of the switchboards asks, in every phase, only what is asked in it: an answer
request originates an operator only while it has the lock and has found the call in the
queue, and gives the lock back once it has taken the call out of the queue; whatever
happens, the lock is given back.
-/
import Calld.Switchboards.Machine

namespace Calld.Switchboards

open Effect Effect.Interactive

variable {α : Type} {k : Phase} {r : Request} {Q : Phase → α → Prop} {E : Phase → Exn → Prop}

/-! ## Single requests -/

/-- The contract of a request, from its possible answers. -/
theorem send_keeps {Q : Phase → r.Reply → Prop} (ht : k.role.takes k.inLock r)
    (h : ∀ w x a, r.reply w x = some a → match a with
      | .ok a => Q (k.next w r x) a
      | .error e => E (k.next w r x) e) : switchboardService.Keeps Q E k (send r) := by
  refine Service.Keeps.request ht fun x i w y hy => ?_
  obtain ⟨a, ha, rfl⟩ := Option.map_eq_some_iff.mp hy
  have := h w x a ha
  rcases a with e | a <;> exact this

/-- Requests that are asked in a phase and leave it as it is. -/
structure Quiet (k : Phase) (T : Request → Prop) : Prop where
  takes : ∀ r, T r → k.role.takes k.inLock r
  next : ∀ r, T r → ∀ w x, k.next w r x = k

/-- A part that asks quiet requests only. -/
theorem Quiet.keeps {T : Request → Prop} {p : Code α} (hT : Quiet k T) (hp : p.Asks T) :
    switchboardService.Keeps (fun k' _ => k' = k) (fun k' _ => k' = k) k p := by
  refine hp.keeps hT.takes fun r hr x i w y hy => ?_
  obtain ⟨a, ha, rfl⟩ := Option.map_eq_some_iff.mp hy
  exact hT.next r hr w x

/-- First a part that asks quiet requests only. -/
theorem Quiet.bind {β : Type} {T : Request → Prop} {p : Code β} {f : β → Code α}
    (hT : Quiet k T) (hp : p.Asks T) (hf : ∀ b, switchboardService.Keeps Q E k (f b))
    (hE : ∀ e, E k e) : switchboardService.Keeps Q E k (p >>= f) := by
  refine (hT.keeps hp).after ?_ ?_
  · rintro k' b rfl
    exact hf b
  · rintro k' e rfl
    exact hE e

/-! ## Parts that only ask -/

section Asks

variable {T : Request → Prop} {tenant sb call user bridgeId : String}

theorem confdSwitchboardGet_asks (h : T (.confdSwitchboard tenant sb)) :
    (confdSwitchboardGet tenant sb).Asks T :=
  .tryCatch (.request h) fun _ => .throw _

theorem confdSwitchboardExists_asks (h : T (.confdSwitchboard tenant sb)) :
    (confdSwitchboardExists tenant sb).Asks T :=
  .bind (.catching (confdSwitchboardGet_asks h)) fun _ => .pure _

theorem userGet_asks {tenant : Option String} (h : T (.confdUser user tenant)) :
    (userGet user tenant).Asks T :=
  .tryCatch (.request h) fun _ => .throw _

theorem userLine_asks {line : Option ℤ} (h : ∀ tenant, T (.confdUser user tenant)) :
    (userLine user tenant line).Asks T := by
  unfold userLine
  refine .bind ?_ fun _ => .bind (userGet_asks (h _)) fun json => ?_
  · unfold userTenantUuid
    split
    · exact .pure _
    · exact .bind (userGet_asks (h _)) fun _ => .pure _
  · cases line with
    | some id =>
      dsimp only
      split
      · exact .pure _
      · exact .throw _
    | none =>
      dsimp only
      split
      · exact .pure _
      · exact .throw _

theorem lineInterfaceAutoanswer_asks {id : ℤ} (h : T (.confdLine id tenant)) :
    (lineInterfaceAutoanswer id tenant).Asks T := by
  unfold lineInterfaceAutoanswer
  refine .bind (.tryCatch (.request h) fun _ => .throw _) fun line => ?_
  split
  · exact .pure _
  · exact .pure _

theorem operatorEndpoint_asks {line : Option ℤ} (hu : ∀ tenant, T (.confdUser user tenant))
    (hl : ∀ id tenant, T (.confdLine id tenant)) :
    (operatorEndpoint tenant user line).Asks T := by
  unfold operatorEndpoint
  refine .tryCatch (.bind (userLine_asks hu) fun _ => lineInterfaceAutoanswer_asks (hl _ _)) ?_
  intro e
  split
  · exact .throw _
  · exact .throw _

theorem callChannel_asks (h : T (.channelsGet call)) : (callChannel call).Asks T := by
  unfold callChannel
  refine .bind (.catching (.request h)) fun found => ?_
  cases found with
  | none => exact .throw _
  | some channel => exact .pure _

end Asks

/-- Requests that no program but a few special ones has a role in: neither the lock, nor the
event loop, nor a channel that enters a bridge. -/
def Request.Mild : Request → Prop
  | .acquire | .release | .callLater .. | .addChannel .. => False
  | _ => True

section Mild

variable {tenant sb call user bridgeId : String}

theorem Request.Mild.plain (h : r.Mild) : r.Plain := by
  cases r <;> trivial

theorem bridgeCallIds_asks : (bridgeCallIds bridgeId).Asks Request.Mild := by
  unfold bridgeCallIds
  refine .bind (.catching (.request trivial)) fun found => ?_
  cases found with
  | none => exact .pure _
  | some bridge => exact .pure _

theorem hasCall_asks : (hasCall bridgeId call).Asks Request.Mild :=
  .bind bridgeCallIds_asks fun _ => .pure _

theorem readCalls_asks {idOf : String → ChannelJson → String} {callIds : List String} :
    (readCalls idOf callIds).Asks Request.Mild := by
  induction callIds with
  | nil => exact .pure _
  | cons callId rest ih =>
    refine .bind (.catching (.request trivial)) fun found => ?_
    cases found with
    | none => exact ih
    | some channel => exact .bind ih fun _ => .pure _

theorem callsOf_asks {idOf : String → ChannelJson → String} :
    (callsOf idOf bridgeId tenant sb).Asks Request.Mild := by
  unfold callsOf
  refine .bind (confdSwitchboardExists_asks trivial) fun found => ?_
  split
  · exact .bind bridgeCallIds_asks fun _ => readCalls_asks
  · exact .throw _

theorem notifyQueuedCalls_asks : (notifyQueuedCalls tenant sb).Asks Request.Mild :=
  .bind callsOf_asks fun _ => .request trivial

theorem notifyHeldCalls_asks : (notifyHeldCalls tenant sb).Asks Request.Mild :=
  .bind callsOf_asks fun _ => .request trivial

theorem holdingBridge_asks : (holdingBridge bridgeId).Asks Request.Mild := by
  unfold holdingBridge
  refine .bind (.catching (.request trivial)) fun found => ?_
  cases found with
  | none => exact .request trivial
  | some bridge => exact .pure _

theorem startMohWhenEmpty_asks {bridge : BridgeJson} {mohClass : Code (Option String)}
    (h : mohClass.Asks Request.Mild) : (startMohWhenEmpty bridge mohClass).Asks Request.Mild := by
  unfold startMohWhenEmpty
  split
  · exact .bind h fun _ => .request trivial
  · exact .pure _

theorem channelVar_asks {name : String} : (channelVar call name).Asks Request.Mild :=
  .catching (.request trivial)

theorem switchboardTimeout_asks : (switchboardTimeout call).Asks Request.Mild :=
  .bind channelVar_asks fun _ => .pure _

theorem emptyBridges_asks {bridges : List BridgeJson} :
    (emptyBridges bridges).Asks Request.Mild := by
  induction bridges with
  | nil => exact .pure _
  | cons previousBridge rest ih =>
    refine .bind (.catching (.request trivial)) fun found => ?_
    cases found with
    | none => exact ih
    | some bridge =>
      dsimp only
      split
      · exact .bind (.forM fun _ _ => .ignoring (.request trivial)) fun _ => ih
      · exact ih

theorem holdChannel_asks {channel : ChannelJson} {bridges : List BridgeJson} :
    (holdChannel tenant sb channel bridges).Asks Request.Plain := by
  unfold holdChannel
  refine .bind (holdingBridge_asks.mono fun _ => Request.Mild.plain) fun bridge => .bind ?_ fun _ => ?_
  · exact (startMohWhenEmpty_asks (.bind (confdSwitchboardGet_asks trivial) fun json =>
      Asks.pure _)).mono fun _ => Request.Mild.plain
  · refine .bind (.request trivial) fun _ => .bind (.request trivial) fun _ =>
      .bind (.request trivial) fun _ => ?_
    exact (Asks.bind notifyHeldCalls_asks fun _ => emptyBridges_asks).mono
      fun _ => Request.Mild.plain

theorem whenGiven_asks {value : String} {code : Code Unit} (h : code.Asks Request.Mild) :
    (whenGiven value code).Asks Request.Mild := by
  unfold whenGiven
  split
  · exact h
  · exact .pure _

theorem stasisStartReplace_asks {event : StasisStart} :
    (stasisStartReplace event).Asks Request.Mild := by
  unfold stasisStartReplace
  split
  · exact .pure _
  · dsimp only
    split
    · exact .pure _
    · refine .ignoring (.bind (whenGiven_asks (.request trivial)) fun _ =>
        .bind (whenGiven_asks ?_) fun _ => whenGiven_asks ?_)
      · exact .bind (.request trivial) fun _ => notifyQueuedCalls_asks
      · exact .bind (.request trivial) fun _ => notifyHeldCalls_asks

theorem stasisStartAnswer_asks {answered : String → Notification} {operator : String} :
    (stasisStartAnswer answered operator call).Asks Request.Plain := by
  refine .bind (.catching (.request trivial)) fun found => ?_
  cases found with
  | none => exact .request trivial
  | some channel =>
    refine .bind (.request trivial) fun _ => .bind (.ignoring ?_) fun _ => ?_
    · exact .bind (.request trivial) fun _ => .request trivial
    · exact .bind (.request trivial) fun _ => .bind (.request trivial) fun _ =>
        .bind (.request trivial) fun _ => .request trivial

end Mild

/-! ## The lock -/

/-- The phase once the lock has been given back. -/
def Phase.released (k : Phase) : Phase := ⟨k.role, false⟩

/-- To give the lock back changes no role. -/
theorem next_release {role : Role} {w : World} {x : Answer} : role.next w .release x = role := by
  cases role with
  | answering sb c stage => cases stage <;> rfl
  | queueing sb c stage => cases stage <;> rfl
  | fallback t stage => cases stage <;> rfl
  | other => rfl

/-- `with self._switchboards_lock.acquired(..)`: the lock is given back on both ways out. -/
theorem locked_keeps {role : Role} {body : Code α}
    (hacquire : role.takes false .acquire) (hnext : ∀ w x, role.next w .acquire x = role)
    (hbody : switchboardService.Keeps
      (fun k a => k.role.takes k.inLock .release ∧ Q k.released a)
      (fun k e => k.role.takes k.inLock .release ∧ E k.released e) ⟨role, true⟩ body) :
    switchboardService.Keeps Q E ⟨role, false⟩ (locked body) := by
  have hgive (R : Phase → Prop) (k : Phase) (hk : k.role.takes k.inLock .release)
      (hR : R k.released) : switchboardService.Keeps (fun k (_ : Unit) => R k) E k
        (send .release) := by
    refine send_keeps hk fun w x a ha => ?_
    have hreleased : k.next w .release x = k.released := by
      unfold Phase.next Phase.released Request.lock
      rw [next_release]
    cases x with
    | done =>
      cases ha
      rw [hreleased]
      exact hR
    | _ => cases ha
  refine Service.Keeps.bind (send_keeps hacquire fun w x a ha => ?_)
  have hphase : (⟨role, false⟩ : Phase).next w .acquire x = ⟨role, true⟩ := by
    unfold Phase.next Request.lock
    rw [hnext]
  cases x with
  | done =>
    simp only [Request.reply] at ha
    split at ha
    · cases ha
    · cases ha
      rw [hphase]
      refine Service.Keeps.ensuring (hbody.mono ?_ ?_)
      · rintro k a ⟨hk, hQ⟩
        exact hgive (fun k => Q k a) k hk hQ
      · rintro k e ⟨hk, hE⟩
        exact hgive (fun k => E k e) k hk hE
  | _ => cases ha

/-! ## Answer requests -/

section Answering

variable {tenant sb c user : String} {w : World} {n : ℕ}

theorem mem_channelsOf {b : String} :
    c ∈ w.channelsOf b ↔ ∃ p, w.place.get c = some p ∧ p.bridge = b := by
  unfold World.channelsOf
  rw [List.mem_filter, Dict.mem_keys]
  cases w.place.get c with
  | none => simp
  | some p => simp

/-- A bridge that is read tells the stay of the calls in it. -/
theorem stage_cases {σ : Type} (found : ℕ → σ) (missing : σ) {json : BridgeJson} {b : String}
    (h : json.channels.Perm (w.channelsOf b)) :
    (c ∈ json.channels ∧ ∃ p, w.place.get c = some p ∧ p.bridge = b ∧
      w.stage found missing c json = found p.entry) ∨
    (c ∉ json.channels ∧ w.stage found missing c json = missing) := by
  by_cases hc : c ∈ json.channels
  · obtain ⟨p, hp, hb⟩ := mem_channelsOf.mp (h.mem_iff.mp hc)
    refine .inl ⟨hc, p, hp, hb, ?_⟩
    unfold World.stage
    rw [hp]
    exact if_pos hc
  · refine .inr ⟨hc, ?_⟩
    unfold World.stage
    split
    · exact if_neg hc
    · rfl

/-- The request of a number refuses the call, which is not in the queue. -/
def Phase.Refused (k : Phase) (call : String) : Prop :=
  ∃ sb, k.role = .answering sb call .refused

/-- A program that returns does not have the lock, and has not refused. -/
def Returns (k : Phase) (_ : α) : Prop := k.inLock = false ∧ ∀ call, ¬ k.Refused call

/-- A program that raises does not have the lock; one that has refused raises
`NoSuchCall`. -/
def Raises (k : Phase) (e : Exn) : Prop :=
  k.inLock = false ∧ ∀ call, k.Refused call → e = .noSuchCall call

/-- The test whether a call is in the queue, for a phase that it decides. -/
theorem hasCall_keeps {σ : Type} (mk : σ → Phase) {found : ℕ → σ} {missing : σ} {b : String}
    (ht : k.role.takes k.inLock (.bridgesGet b))
    (hbridge : ∀ w json, k.next w (.bridgesGet b) (.bridge json) =
      mk (w.stage found missing c json))
    (hnone : ∀ w, k.next w (.bridgesGet b) (.failure .ariNotFound) = mk missing) :
    switchboardService.Keeps
      (fun k' queued => if queued = true then ∃ n, k' = mk (found n) else k' = mk missing)
      (fun k' _ => ∃ w f, f ≠ .ariNotFound ∧ k' = k.next w (.bridgesGet b) (.failure f)) k
      (hasCall b c) := by
  unfold hasCall bridgeCallIds
  refine .bind (.bind (.catching (send_keeps ht fun w x a ha => ?_)))
  cases x with
  | bridge json =>
    obtain ⟨⟨-, hperm⟩, ha⟩ := Option.ite_none_right_eq_some.mp ha
    cases ha
    change if decide (c ∈ json.channels) = true then _ else _
    rw [hbridge]
    obtain ⟨hc, p, -, -, hstage⟩ | ⟨hc, hstage⟩ :=
      stage_cases found missing hperm
    · rw [if_pos (decide_eq_true hc), hstage]
      exact ⟨p.entry, rfl⟩
    · rw [if_neg (by simpa using hc), hstage]
  | failure f =>
    obtain ⟨-, ha⟩ := Option.ite_none_right_eq_some.mp ha
    cases ha
    cases f with
    | ariNotFound => exact hnone w
    | _ => exact ⟨w, _, by simp, rfl⟩
  | _ => cases ha

/-- What is asked of a call that is found: its channel, and the line of the operator. -/
def Request.OfOperator : Request → Prop
  | .channelsGet _ | .confdUser .. | .confdLine .. => True
  | _ => False

theorem quiet_found : Quiet ⟨.answering sb c (.found n), true⟩ Request.OfOperator where
  takes r h := by
    cases r <;> first | exact trivial | exact absurd h id
  next r h w x := by
    cases r <;> first | rfl | exact absurd h id

/-- The operator of a call that is found is originated, or something raises before. -/
theorem offerQueuedCall_keeps {line : Option ℤ} : switchboardService.Keeps
    (fun k _ => k = ⟨.answering sb c (.offered n), true⟩)
    (fun k _ => k = ⟨.answering sb c (.found n), true⟩) ⟨.answering sb c (.found n), true⟩
    (offerQueuedCall tenant sb c user line) := by
  refine quiet_found.bind (callChannel_asks trivial) (fun channel => ?_) fun _ => rfl
  refine quiet_found.bind (operatorEndpoint_asks (fun _ => trivial) fun _ _ => trivial)
    (fun endpoint => ?_) fun _ => rfl
  refine send_keeps rfl fun w x a ha => ?_
  cases x with
  | text value =>
    cases ha
    rfl
  | failure f =>
    cases ha
    rfl
  | _ => cases ha

/-- The call has been seen out of the queue, or not. -/
def Phase.Left (k : Phase) (sb c : String) (n : ℕ) : Prop :=
  k = ⟨.answering sb c (.cleared n), true⟩ ∨ k = ⟨.answering sb c (.kept n), true⟩

theorem leaveQueue_keeps : switchboardService.Keeps (fun k _ => k.Left sb c n)
    (fun k _ => k.Left sb c n) ⟨.answering sb c (.offered n), true⟩ (leaveQueue sb c) := by
  have hfailed (f : Failure) (p : Prop) [Decidable p] :
      Phase.Left ⟨.answering sb c (if p then .cleared n else .kept n), true⟩ sb c n := by
    split
    · exact .inl rfl
    · exact .inr rfl
  have hcaught {k : Phase} (C : Prop) [Decidable C] (hk : k.Left sb c n) :
      if C then k.Left sb c n else k.Left sb c n := by
    rwa [ite_id]
  refine .ignoring (.bind (send_keeps rfl fun w x a ha => ?_))
  cases x with
  | bridge json =>
    obtain ⟨⟨hid, -⟩, ha⟩ := Option.ite_none_right_eq_some.mp ha
    cases ha
    refine send_keeps ⟨hid, rfl⟩ fun w x a ha => ?_
    cases x with
    | done =>
      cases ha
      exact .inl rfl
    | failure f =>
      cases ha
      exact hcaught _ (hfailed f _)
    | _ => cases ha
  | failure f =>
    obtain ⟨-, ha⟩ := Option.ite_none_right_eq_some.mp ha
    cases ha
    exact hcaught _ (hfailed f _)
  | _ => cases ha

theorem not_refused {stage : AnswerStage} {inLock : Bool} (h : stage ≠ .refused)
    (call : String) : ¬ (⟨.answering sb c stage, inLock⟩ : Phase).Refused call := by
  rintro ⟨sb', hrole⟩
  cases hrole
  exact h rfl

/-- `answer_queued_call`. -/
theorem answerQueuedCall_keeps {line : Option ℤ} : switchboardService.Keeps Returns Raises
    ⟨.answering sb c .untested, false⟩ (answerQueuedCall tenant sb c user line) := by
  have hstays {e : Exn} {stage : AnswerStage} (hstage : stage ≠ .refused) :
      Raises (⟨.answering sb c stage, true⟩ : Phase).released e :=
    ⟨rfl, fun call h => absurd h (not_refused hstage call)⟩
  have hquiet : Quiet ⟨.answering sb c .untested, true⟩ (· = .confdSwitchboard tenant sb) :=
    ⟨fun r h => h ▸ trivial, fun r h w x => h ▸ rfl⟩
  refine locked_keeps rfl (fun _ _ => rfl) ?_
  refine hquiet.bind (confdSwitchboardExists_asks rfl) (fun found => ?_)
    fun _ => ⟨rfl, hstays (by simp)⟩
  cases found with
  | false => exact .throw ⟨rfl, hstays (by simp)⟩
  | true =>
    refine (hasCall_keeps (k := ⟨.answering sb c .untested, true⟩)
      (fun stage => ⟨.answering sb c stage, true⟩) rfl (fun _ _ => rfl) fun _ => rfl).after
        (fun k queued hk => ?_) ?_
    · cases queued with
      | false =>
        -- the call is not queued
        obtain rfl : k = _ := hk
        refine .throw ⟨rfl, rfl, ?_⟩
        rintro call ⟨sb', hrole⟩
        cases hrole
        rfl
      | true =>
        obtain ⟨n, rfl⟩ := hk
        refine offerQueuedCall_keeps.after ?_ ?_
        · rintro k channelId rfl
          refine leaveQueue_keeps.after ?_ ?_
          · rintro k - (rfl | rfl)
            · exact .pure ⟨rfl, rfl, not_refused (by simp)⟩
            · exact .pure ⟨rfl, rfl, not_refused (by simp)⟩
          · rintro k e (rfl | rfl)
            · exact ⟨rfl, hstays (by simp)⟩
            · exact ⟨rfl, hstays (by simp)⟩
        · rintro k e rfl
          exact ⟨rfl, hstays (by simp)⟩
    · rintro k e ⟨w, f, hf, rfl⟩
      have hsame : (⟨.answering sb c .untested, true⟩ : Phase).next w
          (.bridgesGet (bridgeQueueId sb)) (.failure f) = ⟨.answering sb c .untested, true⟩ := by
        cases f <;> first | rfl | exact absurd rfl hf
      rw [hsame]
      exact ⟨rfl, hstays (by simp)⟩

end Answering

/-! ## The other programs -/

section Others

variable {tenant sb c user : String} {n : ℕ}

theorem quiet_other (inLock : Bool) : Quiet ⟨.other, inLock⟩ Request.Plain where
  takes r h := by
    cases r <;> first | exact trivial | exact absurd h id
  next r h w x := by
    cases r <;> first | rfl | exact absurd h id

theorem returns_other (a : α) : Returns ⟨.other, false⟩ a :=
  ⟨rfl, fun _ ⟨_, h⟩ => by cases h⟩

theorem raises_other (e : Exn) : Raises ⟨.other, false⟩ e :=
  ⟨rfl, fun _ ⟨_, h⟩ => by cases h⟩

/-- A program that needs nothing special. -/
theorem other_keeps {p : Code α} (hp : p.Asks Request.Plain) :
    switchboardService.Keeps Returns Raises ⟨.other, false⟩ p := by
  refine ((quiet_other false).keeps hp).mono ?_ ?_
  · rintro k a rfl
    exact returns_other a
  · rintro k e rfl
    exact raises_other e

/-- A program that needs nothing special but the lock. -/
theorem locked_other_keeps {body : Code α} (hp : body.Asks Request.Plain) :
    switchboardService.Keeps Returns Raises ⟨.other, false⟩ (locked body) := by
  refine locked_keeps rfl (fun _ _ => rfl)
    (((quiet_other true).keeps hp).mono ?_ ?_)
  · rintro k a rfl
    exact ⟨rfl, returns_other a⟩
  · rintro k e rfl
    exact ⟨rfl, raises_other e⟩

theorem holdCall_keeps {callId : String} : switchboardService.Keeps Returns Raises
    ⟨.other, false⟩ (holdCall tenant sb callId) := by
  refine locked_other_keeps (.bind (confdSwitchboardExists_asks trivial) fun found => ?_)
  split
  · refine .bind (hasCall_asks.mono fun _ => Request.Mild.plain) fun held => ?_
    split
    · exact .throw _
    · refine .bind (callChannel_asks trivial) fun channel => .bind (.request trivial) fun bridges => ?_
      dsimp only
      split
      · exact .pure _
      · exact holdChannel_asks
  · exact .throw _

theorem answerHeldCall_keeps {callId : String} {line : Option ℤ} :
    switchboardService.Keeps Returns Raises ⟨.other, false⟩
      (answerHeldCall tenant sb callId user line) := by
  refine locked_other_keeps (.bind (confdSwitchboardExists_asks trivial) fun found => ?_)
  split
  · refine .bind (hasCall_asks.mono fun _ => Request.Mild.plain) fun held => ?_
    split
    · refine .bind (callChannel_asks trivial) fun channel =>
        .bind (operatorEndpoint_asks (fun _ => trivial) fun _ _ => trivial) fun endpoint =>
          .bind (.request trivial) fun channelId => .bind (.ignoring ?_) fun _ => .pure _
      exact .bind (.request trivial) fun bridge => .request trivial
    · exact .throw _
  · exact .throw _

/-- `on_queued_call_noanswer_timeout`. -/
theorem onQueuedCallNoanswerTimeout_keeps {t : Timer} : switchboardService.Keeps Returns Raises
    ⟨.fallback t .untested, false⟩
    (onQueuedCallNoanswerTimeout t.switchboardUuid t.callId) := by
  have hends (stage : FallbackStage) (call : String) :
      ¬ (⟨.fallback t stage, false⟩ : Phase).Refused call := by
    rintro ⟨sb, hrole⟩
    cases hrole
  refine (hasCall_keeps (k := ⟨.fallback t .untested, false⟩)
    (fun stage => ⟨.fallback t stage, false⟩) rfl (fun _ _ => rfl) fun _ => rfl).after
      (fun k queued hk => ?_) ?_
  · cases queued with
    | false =>
      obtain rfl : k = _ := hk
      exact .pure ⟨rfl, hends _⟩
    | true =>
      obtain ⟨n, rfl⟩ := hk
      refine .ignoring (send_keeps rfl fun w x a ha => ?_)
      cases x with
      | done =>
        cases ha
        exact ⟨rfl, hends _⟩
      | failure f =>
        cases ha
        exact ⟨rfl, hends _⟩
      | _ => cases ha
  · rintro k e ⟨w, f, hf, rfl⟩
    cases f <;> exact ⟨rfl, fun call h => absurd h (hends _ call)⟩

/-! ## New queued calls -/

theorem quiet_queueing (sb c : String) (stage : QueueStage) :
    Quiet ⟨.queueing sb c stage, false⟩ Request.Mild where
  takes r h := by
    cases stage <;> cases r <;> first | exact trivial | exact absurd h id
  next r h w x := by
    cases stage <;> cases r <;> first | rfl | exact absurd h id

/-- The handler of a call that is queued, at any stage. -/
def Phase.Queueing (k : Phase) (sb c : String) : Prop :=
  ∃ stage, k = ⟨.queueing sb c stage, false⟩

/-- The bridge of an id has this id. -/
theorem holdingBridge_keeps {bridgeId : String} {stage : QueueStage} :
    switchboardService.Keeps
      (fun k json => k = ⟨.queueing sb c stage, false⟩ ∧ json.id = bridgeId)
      (fun k _ => k = ⟨.queueing sb c stage, false⟩) ⟨.queueing sb c stage, false⟩
      (holdingBridge bridgeId) := by
  have hquiet := quiet_queueing sb c stage
  have hget := hquiet.next (.bridgesGet bridgeId) trivial
  have hcreate := hquiet.next (.bridgesCreateWithId "holding" bridgeId) trivial
  refine .bind (.catching (send_keeps (hquiet.takes _ trivial) fun w x a ha => ?_))
  rw [hget]
  cases x with
  | bridge json =>
    obtain ⟨⟨hid, -⟩, ha⟩ := Option.ite_none_right_eq_some.mp ha
    cases ha
    exact ⟨rfl, hid⟩
  | failure f =>
    obtain ⟨-, ha⟩ := Option.ite_none_right_eq_some.mp ha
    cases ha
    dsimp only
    split
    · refine send_keeps (hquiet.takes _ trivial) fun w x a ha => ?_
      rw [hcreate]
      cases x with
      | bridge json =>
        obtain ⟨hid, ha⟩ := Option.ite_none_right_eq_some.mp ha
        cases ha
        exact ⟨rfl, hid⟩
      | failure f =>
        cases ha
        rfl
      | _ => cases ha
    · rfl
  | _ => cases ha

/-- The call is in the queue. -/
theorem enqueue_keeps : switchboardService.Keeps
    (fun k _ => ∃ n, k = ⟨.queueing sb c (.entered n), false⟩) (fun k _ => k.Queueing sb c)
    ⟨.queueing sb c .waiting, false⟩ (enqueue tenant sb c) := by
  have hwaiting {k : Phase} (e : Exn) (h : k = ⟨.queueing sb c .waiting, false⟩) :
      k.Queueing sb c := ⟨_, h⟩
  have hquiet := quiet_queueing sb c .waiting
  refine holdingBridge_keeps.after ?_ fun _ => hwaiting
  rintro k json ⟨rfl, hid⟩
  refine hquiet.bind (startMohWhenEmpty_asks (.bind (confdSwitchboardGet_asks trivial)
    fun _ => .pure _)) (fun _ => ?_) fun e => hwaiting e rfl
  refine hquiet.bind (.request trivial) (fun _ => ?_) fun e => hwaiting e rfl
  refine hquiet.bind (.request trivial) (fun _ => ?_) fun e => hwaiting e rfl
  refine hquiet.bind (.request trivial) (fun _ => ?_) fun e => hwaiting e rfl
  refine hquiet.bind (.request trivial) (fun _ => ?_) fun e => hwaiting e rfl
  refine send_keeps trivial fun w x a ha => ?_
  cases x with
  | done =>
    cases ha
    have hentered : QueueStage.next w sb c .waiting (.addChannel json.id c) .done =
        .entered w.entries := if_pos ⟨hid, rfl⟩
    exact ⟨w.entries, congrArg (fun stage => (⟨.queueing sb c stage, false⟩ : Phase)) hentered⟩
  | failure f =>
    cases ha
    exact ⟨_, rfl⟩
  | _ => cases ha

/-- `new_queued_call`. -/
theorem newQueuedCall_keeps : switchboardService.Keeps (fun k _ => k.Queueing sb c)
    (fun k _ => k.Queueing sb c) ⟨.queueing sb c .waiting, false⟩
    (newQueuedCall tenant sb c) := by
  refine enqueue_keeps.after ?_ fun _ _ => id
  rintro k - ⟨n, rfl⟩
  have hquiet := quiet_queueing sb c (.entered n)
  refine hquiet.bind notifyQueuedCalls_asks (fun _ => ?_) fun _ => ⟨_, rfl⟩
  refine hquiet.bind switchboardTimeout_asks (fun timeout => ?_) fun _ => ⟨_, rfl⟩
  split
  · exact .pure ⟨_, rfl⟩
  · refine hquiet.bind channelVar_asks (fun action => ?_) fun _ => ⟨_, rfl⟩
    split
    · exact .pure ⟨_, rfl⟩
    · refine send_keeps ⟨rfl, rfl⟩ fun w x a ha => ?_
      cases x with
      | done =>
        cases ha
        exact ⟨_, rfl⟩
      | failure f =>
        cases ha
        exact ⟨_, rfl⟩
      | _ => cases ha

/-- `stasis_start` of a call that is queued. -/
theorem stasisStart_queueing {event : StasisStart} {rest : List String}
    (h : event.args = "switchboard" :: "switchboard_queue" :: tenant :: sb :: rest) :
    switchboardService.Keeps Returns Raises ⟨.queueing sb event.channelId .waiting, false⟩
      (stasisStart event) := by
  have hends {k : Phase} (hk : k.Queueing sb event.channelId) :
      k.inLock = false ∧ ∀ call, ¬ k.Refused call := by
    obtain ⟨stage, rfl⟩ := hk
    exact ⟨rfl, fun _ ⟨_, hrole⟩ => by cases hrole⟩
  have hgoOn : (send (.continueInDialplan event.channelId none none none)).Asks Request.Mild :=
    .request trivial
  have hstart : switchboardService.Keeps (fun k _ => k.Queueing sb event.channelId)
      (fun k _ => k.Queueing sb event.channelId) ⟨.queueing sb event.channelId .waiting, false⟩
      (stasisStart event) := by
    unfold stasisStart stasisStartSwitchboard
    rw [h]
    dsimp only
    rw [if_neg (by simp)]
    refine .tryCatch (newQueuedCall_keeps.mono (fun _ _ => id) ?_)
    rintro k e ⟨stage, rfl⟩
    refine ((quiet_queueing sb event.channelId stage).keeps hgoOn).mono ?_ ?_
    · exact fun _ _ hk => ⟨stage, hk⟩
    · exact fun _ _ hk => ⟨stage, hk⟩
  exact hstart.mono (fun k _ hk => hends hk)
    fun k e hk => ⟨(hends hk).1, fun call hr => absurd hr ((hends hk).2 call)⟩

theorem role_cases (event : StasisStart) :
    (∃ tenant sb rest, event.args = "switchboard" :: "switchboard_queue" :: tenant :: sb :: rest ∧
      event.role = .queueing sb event.channelId .waiting) ∨ event.role = .other := by
  unfold StasisStart.role
  split
  · next tenant sb rest hargs => exact .inl ⟨tenant, sb, rest, hargs, rfl⟩
  · exact .inr rfl

theorem stasisStartSwitchboard_asks {event : StasisStart} (h : event.role = .other)
    (hsub : event.args.head? = some "switchboard") :
    (stasisStartSwitchboard event).Asks Request.Plain := by
  unfold stasisStartSwitchboard
  split
  · next hargs =>
    -- a call that is queued has another role
    exfalso
    rw [hargs] at hsub
    obtain rfl := Option.some.inj hsub
    unfold StasisStart.role at h
    rw [hargs] at h
    cases h
  · exact stasisStartAnswer_asks
  · exact stasisStartAnswer_asks
  · exact .pure _

/-- `stasis_start` of other channels. -/
theorem stasisStart_other {event : StasisStart} (h : event.role = .other) :
    switchboardService.Keeps Returns Raises ⟨.other, false⟩ (stasisStart event) := by
  refine other_keeps ?_
  unfold stasisStart
  split
  · exact stasisStartReplace_asks.mono fun _ => Request.Mild.plain
  · next subApp rest hargs =>
    split
    · exact .pure _
    · next hsub =>
      refine .tryCatch (stasisStartSwitchboard_asks h ?_) fun _ => .request trivial
      rw [hargs, List.head?_cons, not_ne_iff.mp hsub]

end Others

/-! ## All programs -/

/-- A program whose result does not matter. -/
theorem silent_keeps {p : Code α} (h : switchboardService.Keeps Returns Raises k p) :
    switchboardService.Keeps Returns Raises k (silent p) :=
  h.after (fun _ _ hk => hk) fun _ _ => id

/-- How a program starts: a timer that fires is taken from the event loop. -/
theorem launch_cases {job : Job} {w w' : World} {p : Code (Option String)}
    (h : switchboards.launch job w = some (w', k, p)) :
    (w' = w ∧ ((∃ sb c, k = ⟨.answering sb c .untested, false⟩) ∨
      (∃ sb c, k = ⟨.queueing sb c .waiting, false⟩) ∨ k = ⟨.other, false⟩)) ∨
    ∃ n t, w.timers[n]? = some t ∧ t.due ≤ w.now ∧
      w' = { w with timers := w.timers.eraseIdx n } ∧ k = ⟨.fallback t .untested, false⟩ := by
  cases job with
  | answerQueuedCall tenant sb c =>
    cases h
    exact .inl ⟨rfl, .inl ⟨sb, c, rfl⟩⟩
  | stasisStart event =>
    cases h
    obtain ⟨tenant, sb, rest, -, hrole⟩ | hrole := role_cases event
    · exact .inl ⟨rfl, .inr (.inl ⟨sb, event.channelId, by rw [hrole]⟩)⟩
    · exact .inl ⟨rfl, .inr (.inr (by rw [hrole]))⟩
  | noanswerTimeout n =>
    obtain ⟨t, ht, h⟩ := Option.bind_eq_some_iff.mp h
    obtain ⟨hdue, h⟩ := Option.ite_none_right_eq_some.mp h
    cases h
    exact .inr ⟨n, t, ht, hdue, rfl, rfl⟩
  | _ =>
    cases h
    exact .inl ⟨rfl, .inr (.inr rfl)⟩

/-- Every program of the switchboards keeps to its phases. -/
theorem launch_keeps (job : Job) (w w' : World) (k : Phase) (p : Code (Option String))
    (h : switchboards.launch job w = some (w', k, p)) :
    switchboards.Keeps Returns Raises k p := by
  cases job with
  | queuedCalls =>
    cases h
    exact silent_keeps (other_keeps (callsOf_asks.mono fun _ => Request.Mild.plain))
  | heldCalls =>
    cases h
    exact silent_keeps (other_keeps (callsOf_asks.mono fun _ => Request.Mild.plain))
  | answerQueuedCall =>
    cases h
    exact answerQueuedCall_keeps.after (fun _ _ hk => hk) fun _ _ => id
  | holdCall =>
    cases h
    exact silent_keeps holdCall_keeps
  | answerHeldCall =>
    cases h
    exact answerHeldCall_keeps.after (fun _ _ hk => hk) fun _ _ => id
  | stasisStart event =>
    cases h
    obtain ⟨tenant, sb, rest, hargs, hrole⟩ | hrole := role_cases event
    · rw [hrole]
      exact silent_keeps (stasisStart_queueing hargs)
    · rw [hrole]
      exact silent_keeps (stasisStart_other hrole)
  | unqueue =>
    cases h
    exact silent_keeps (other_keeps (.ignoring
      (notifyQueuedCalls_asks.mono fun _ => Request.Mild.plain)))
  | unhold =>
    cases h
    exact silent_keeps (other_keeps (.ignoring
      (notifyHeldCalls_asks.mono fun _ => Request.Mild.plain)))
  | noanswerTimeout n =>
    obtain ⟨t, ht, h⟩ := Option.bind_eq_some_iff.mp h
    obtain ⟨hdue, h⟩ := Option.ite_none_right_eq_some.mp h
    cases h
    exact silent_keeps onQueuedCallNoanswerTimeout_keeps

end Calld.Switchboards
