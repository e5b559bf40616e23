/-
# When parking is full

The operation asks Asterisk to park the call and then looks for it: a first request lists the
calls of the lot, and when the call is not there a second one counts them.  Asterisk parks the
call when it gets to it, and other calls come and go.

For the statements the lots keep a log of the calls that have come and gone, and an operation
remembers how long this was when it listed the calls of its lot, and whether its call was
parked when it has found that the lot is full.
-/
import Calld.Parkings.Services

namespace Calld.Parkings

open Effect Effect.Interactive

/-! ## Asterisk -/

/-- The calls come and go; a call that is asked to be parked comes too. -/
inductive ParkingEvent where
  | enter (lot : String) (call : AsteriskParkedCall)
  | leave (lot callId : String)

/-- The calls of every lot, and what has happened so far. -/
structure ParkingWorld where
  lots : String → List AsteriskParkedCall
  log : List ParkingEvent

/-- The call is parked in the lot. -/
def ParkingWorld.Parked (w : ParkingWorld) (lot callId : String) : Prop :=
  ∃ call ∈ w.lots lot, call.parkeeUniqueid = callId

instance (w : ParkingWorld) (lot callId : String) : Decidable (w.Parked lot callId) := by
  unfold ParkingWorld.Parked
  infer_instance

/-- The calls of a lot after an event of it. -/
def ParkingEvent.apply (lot : String) : ParkingEvent → List AsteriskParkedCall →
    List AsteriskParkedCall
  | .enter lot' call, calls => if lot' = lot then calls ++ [call] else calls
  | .leave lot' callId, calls =>
    if lot' = lot then calls.filter (·.parkeeUniqueid ≠ callId) else calls

def ParkingWorld.happens (w : ParkingWorld) (event : ParkingEvent) : ParkingWorld where
  lots lot := event.apply lot (w.lots lot)
  log := w.log ++ [event]

/-- The answer to `ParkedCalls`. -/
def ParkingWorld.parkedCalls (w : ParkingWorld) (lot : String) : List AmiEvent :=
  (w.lots lot).map .parkedCall ++ [.parkedCallsComplete (w.lots lot).length]

/-- What an event makes of whether the call has come, and has not gone again. -/
def ParkingEvent.came (lot callId : String) (before : Bool) : ParkingEvent → Bool
  | .enter lot' call => before || (lot' = lot ∧ call.parkeeUniqueid = callId)
  | .leave lot' callId' => before && ¬ (lot' = lot ∧ callId' = callId)

/-- In these events the call comes to the lot and does not go again. -/
def Came (lot callId : String) (events : List ParkingEvent) : Prop :=
  events.foldl (ParkingEvent.came lot callId) false = true

instance (lot callId : String) (events : List ParkingEvent) :
    Decidable (Came lot callId events) := inferInstanceAs (Decidable (_ = _))

/-! ## Operations -/

/-- Where an operation is: before the action; waiting for the call; between the two requests
of a check, before and after it knows how many calls the lot takes; and at its end. -/
inductive ParkStage where
  | start
  | waiting
  | absent (seen : ℕ)
  | sized (seen : ℕ) (total : ℤ)
  | found
  | full (parked : Bool)
  deriving DecidableEq

/-- An operation: the lot and the call, and where it is. -/
structure ParkPhase where
  parkingId : ℤ
  callId : String
  stage : ParkStage
  deriving DecidableEq

abbrev ParkPhase.lot (k : ParkPhase) : String := parkingLotName k.parkingId

/-- An operation asks for its own lot only. -/
def ParkPhase.takes (k : ParkPhase) : Request → Prop
  | .parkings parkingId => parkingId = k.parkingId
  | .parkedCalls lot => lot = k.lot
  | _ => True

/-- What the rest of the world answers to a request. -/
abbrev Answer : Type := (r : Request) → Except Failure r.Reply

/-- The answer to an operation: the lots answer from what they are now, and a parking lot has
the id that it was asked for. -/
def ParkingWorld.reply (x : Answer) (w : ParkingWorld) (r : Request) : Except Failure r.Reply :=
  match r with
  | .parkings parkingId => (x (.parkings parkingId)).map fun lot => { lot with id := parkingId }
  | .parkedCalls lot => (x (.parkedCalls lot)).map fun _ => w.parkedCalls lot
  | r => x r

/-- The stage after a parking lot is known. -/
def ParkStage.sizing (lot : ConfdParkingLot) : ParkStage → ParkStage
  | .absent seen =>
    match totalSlots lot with
    | some total => .sized seen total
    | none => .absent seen
  | stage => stage

/-- The stage after the calls of the lot are listed or counted. -/
def ParkPhase.looked (k : ParkPhase) (w : ParkingWorld) : ParkStage :=
  match k.stage with
  | .waiting => if w.Parked k.lot k.callId then .found else .absent w.log.length
  | .sized _ total =>
    if total ≤ ((w.lots k.lot).length : ℤ) then .full (w.Parked k.lot k.callId) else .waiting
  | stage => stage

/-- The stage after an answer. -/
def ParkPhase.nextStage (k : ParkPhase) (w : ParkingWorld) :
    (r : Request) → Except Failure r.Reply → ParkStage
  | .park _, _ => .waiting
  | .sleep, _ => .waiting
  | .parkings _, .ok lot => k.stage.sizing lot
  | .parkedCalls _, .ok _ => k.looked w
  | _, _ => k.stage

def ParkPhase.next (k : ParkPhase) (w : ParkingWorld) (r : Request)
    (reply : Except Failure r.Reply) : ParkPhase :=
  ⟨k.parkingId, k.callId, k.nextStage w r reply⟩

/-- A call to park: the lot, the call, its tenant, the preferred slot and the timeout. -/
structure ParkJob where
  parkingId : ℤ
  callId : String
  tenantUuid : String
  preferredSlot : Option String
  timeout : Option ℕ

/-- The operations, and the calls that come and go beside them. -/
def parkingSystem : System Request Request.Reply ServiceExn AsteriskParkedCall ParkingWorld
    ParkPhase Answer ParkJob ParkingEvent where
  takes := ParkPhase.takes
  answer x _ w k r := some ((w.reply x r).mapError .failure, w, k.next w r (w.reply x r))
  init w := w.log = []
  launch job w := some (w, ⟨job.parkingId, job.callId, .start⟩,
    parkCall job.parkingId job.callId job.tenantUuid job.preferredSlot job.timeout)
  outside event w := some (w.happens event)

abbrev ParkingPool : Type :=
  Pool Request Request.Reply ServiceExn AsteriskParkedCall ParkingWorld ParkPhase

abbrev ParkingLabel : Type := System.Label Answer ParkJob ParkingEvent

section Steps

variable {k : ParkPhase} {w : ParkingWorld} {parkingId : ℤ} {callId tenantUuid : String}
  {seen : ℕ} {total : ℤ} {retries : ℕ} {checkFull : Option Bool}

theorem reply_parkings {x : Answer} {lot : ConfdParkingLot}
    (h : w.reply x (.parkings parkingId) = .ok lot) : lot.id = parkingId := by
  simp only [ParkingWorld.reply] at h
  cases hx : x (.parkings parkingId) with
  | error f => simp [hx, Except.map] at h
  | ok lot' =>
    simp only [hx, Except.map, Except.ok.injEq] at h
    rw [← h]

theorem reply_parkedCalls {x : Answer} {lot : String} {results : List AmiEvent}
    (h : w.reply x (.parkedCalls lot) = .ok results) : results = w.parkedCalls lot := by
  simp only [ParkingWorld.reply] at h
  cases hx : x (.parkedCalls lot) with
  | error f => simp [hx, Except.map] at h
  | ok _ =>
    simp only [hx, Except.map, Except.ok.injEq] at h
    exact h.symm

/-- A step of an operation, by its answer. -/
theorem ask_keeps {r : Request} {Q : ParkPhase → r.Reply → Prop}
    {E : ParkPhase → ServiceExn → Prop} (ht : k.takes r)
    (hok : ∀ x w a, w.reply x r = .ok a → Q (k.next w r (.ok a)) a)
    (herror : ∀ w f, E (k.next w r (.error f)) (.failure f)) :
    parkingSystem.Keeps Q E k (ask r) := by
  refine Service.Keeps.request ht fun x i w y hy => ?_
  obtain rfl := Option.some.inj hy
  cases h : w.reply x r with
  | ok a => exact hok x w a h
  | error f => exact herror w f

/-- What the wait for the call does not look at: all but that the call is not in the lot, and
that the lot is full. -/
def ServiceExn.Other : ServiceExn → Prop
  | .noSuchParkedCall .. => False
  | .parkingFull .. => False
  | _ => True

/-- What an operation raises: that its lot is full, at the end of a check; or something else. -/
def ParkPhase.Raises (k : ParkPhase) : ServiceExn → Prop
  | .parkingFull _ parkingId callId =>
    parkingId = k.parkingId ∧ callId = k.callId ∧ ∃ parked, k.stage = .full parked
  | _ => True

theorem ServiceExn.Other.raises {e : ServiceExn} (h : e.Other) : k.Raises e := by
  cases e <;> trivial

/-- An action of the manager interface. -/
theorem amidAction_keeps {r : Request} {Q : ParkPhase → r.Reply → Prop} (ht : k.takes r)
    (hok : ∀ x w a, w.reply x r = .ok a → Q (k.next w r (.ok a)) a) :
    parkingSystem.Keeps Q (fun _ e => e.Other) k (amidAction r) := by
  refine Service.Keeps.tryCatch (ask_keeps ht hok fun w f => ?_)
  cases f <;> trivial

/-- `get_parking`. -/
theorem getParking_keeps :
    parkingSystem.Keeps (fun k' parking => parking.id = k.parkingId ∧
        k' = ⟨k.parkingId, k.callId, k.stage.sizing parking⟩)
      (fun _ e => e.Other) k (getParking tenantUuid k.parkingId) := by
  unfold getParking
  refine Service.Keeps.bind (ask_keeps rfl ?_ fun _ _ => trivial)
  intro x w parking h
  by_cases htenant : parking.tenantUuid ≠ tenantUuid
  · rw [if_pos htenant]
    trivial
  · rw [if_neg htenant]
    exact ⟨reply_parkings h, rfl⟩

/-- `list_parked_calls`, where the size of the lot is not looked at. -/
theorem listParkedCalls_keeps (hk : ∀ lot, k.stage.sizing lot = k.stage) :
    parkingSystem.Keeps (fun k' calls => ∃ w : ParkingWorld, calls = w.lots k.lot ∧
        k' = ⟨k.parkingId, k.callId, k.looked w⟩)
      (fun _ e => e.Other) k (listParkedCalls tenantUuid k.parkingId) := by
  unfold listParkedCalls
  refine getParking_keeps.after ?_ fun _ _ => id
  rintro k' parking ⟨hid, rfl⟩
  rw [hk parking, hid]
  refine Service.Keeps.bind (amidAction_keeps rfl fun x w results h => ?_)
  refine ⟨w, ?_, rfl⟩
  rw [reply_parkedCalls h]
  simp [ParkingWorld.parkedCalls, List.filterMap_append, List.filterMap_map]

/-- Find the call while it is waited for. -/
theorem getParkedCall_keeps :
    parkingSystem.Keeps (fun _ _ => True)
      (fun k' e => if e.isNoSuchParkedCall = true then
        ∃ seen, k' = ⟨parkingId, callId, .absent seen⟩ else e.Other)
      ⟨parkingId, callId, .waiting⟩ (getParkedCall tenantUuid parkingId callId) := by
  unfold getParkedCall findParkedCall
  refine Service.Keeps.bind (Service.Keeps.bind ?_)
  refine (listParkedCalls_keeps (k := ⟨parkingId, callId, .waiting⟩) fun _ => rfl).mono ?_ ?_
  · rintro k' calls ⟨w, rfl, rfl⟩
    cases hfind : (w.lots (parkingLotName parkingId)).find? (·.parkeeUniqueid = callId) with
    | some call => trivial
    | none =>
      have habsent : ¬ w.Parked (parkingLotName parkingId) callId := by
        rintro ⟨call, hmem, hid⟩
        simpa [hid] using List.find?_eq_none.mp hfind call hmem
      refine ⟨w.log.length, ?_⟩
      simp [ParkPhase.looked, ParkPhase.lot, habsent]
  · intro k' e he
    cases e <;> trivial

/-- Count the calls. -/
theorem isParkingFull_keeps :
    parkingSystem.Keeps (fun k' full => k'.parkingId = parkingId ∧ k'.callId = callId ∧
        (full = true → ∃ parked, k'.stage = .full parked))
      (fun _ e => e.Other) ⟨parkingId, callId, .absent seen⟩
      (isParkingFull tenantUuid parkingId) := by
  unfold isParkingFull
  refine (getParking_keeps (k := ⟨parkingId, callId, .absent seen⟩)).after ?_ fun _ _ => id
  rintro k' parking ⟨-, rfl⟩
  cases htotal : totalSlots parking with
  | none => trivial
  | some total =>
    simp only [ParkStage.sizing, htotal]
    refine Service.Keeps.bind ?_
    unfold countParkedCalls
    refine (getParking_keeps (k := ⟨parkingId, callId, .sized seen total⟩)).after ?_
      fun _ _ => id
    rintro k' parking ⟨hid, rfl⟩
    obtain rfl : parking.id = parkingId := hid
    refine Service.Keeps.bind (amidAction_keeps rfl fun x w results h => ?_)
    rw [reply_parkedCalls h]
    simp only [ParkingWorld.parkedCalls, List.getLast?_append, List.getLast?_singleton]
    refine ⟨rfl, rfl, fun hfull => ⟨w.Parked (parkingLotName parking.id) callId, ?_⟩⟩
    exact if_pos (of_decide_eq_true hfull)

/-- The loop. -/
theorem awaitParked_keeps (hfull : checkFull ≠ some true) :
    parkingSystem.Keeps (fun _ _ => True) ParkPhase.Raises ⟨parkingId, callId, .waiting⟩
      (awaitParked tenantUuid parkingId callId retries checkFull) := by
  induction retries generalizing checkFull with
  | zero => trivial
  | succ retries ih =>
    unfold awaitParked
    refine Service.Keeps.bind (Service.Keeps.catching (getParkedCall_keeps.mono ?_ ?_))
    · intro k' call _
      trivial
    · intro k' e he
      split at he
      · next hno =>
        rw [if_pos hno]
        obtain ⟨seen, rfl⟩ := he
        cases checkFull with
        | some full =>
          refine Service.Keeps.bind (ask_keeps trivial (fun _ _ _ _ => ?_) fun _ _ => trivial)
          exact ih hfull
        | none =>
          refine isParkingFull_keeps.after ?_ fun _ _ h => h.raises
          rintro ⟨parkingId', callId', stage⟩ full ⟨rfl, rfl, hstage⟩
          cases full with
          | true => exact ⟨rfl, rfl, hstage rfl⟩
          | false =>
            refine Service.Keeps.bind (ask_keeps trivial (fun _ _ _ _ => ?_) fun _ _ => trivial)
            exact ih (by decide)
      · next hno =>
        rw [if_neg hno]
        exact he.raises

/-- What is asked before the action leaves the operation where it is. -/
theorem parkPayload_keeps {lot : ConfdParkingLot} {preferredSlot : Option String}
    {timeout : Option ℕ} (hlot : lot.id = parkingId) :
    parkingSystem.Keeps (fun k' _ => k' = ⟨parkingId, callId, .start⟩) (fun _ e => e.Other)
      ⟨parkingId, callId, .start⟩ (parkPayload callId lot tenantUuid preferredSlot timeout) := by
  subst hlot
  unfold parkPayload findParkedCall
  refine Service.Keeps.bind (ask_keeps trivial (fun _ _ channel _ => ?_) fun _ _ => trivial)
  refine Service.Keeps.bind (Service.Keeps.bind ?_)
  refine (listParkedCalls_keeps (k := ⟨lot.id, callId, .start⟩) fun _ => rfl).mono ?_ fun _ _ => id
  rintro k' calls ⟨w, -, rfl⟩
  show parkingSystem.Keeps _ _ ⟨lot.id, callId, .start⟩ _
  cases List.find? (·.parkeeUniqueid = callId) calls with
  | some call => rfl
  | none =>
    refine Service.Keeps.bind ?_
    unfold getConnectedChannel
    refine Service.Keeps.tryCatch (ask_keeps trivial (fun _ _ callback _ => ?_) fun _ f => ?_)
    · refine Service.Keeps.bind ?_
      exact ask_keeps trivial (fun _ _ _ _ => rfl) fun _ _ => trivial
    · cases f <;> trivial

/-- `park_call`. -/
theorem parkCall_keeps {preferredSlot : Option String} {timeout : Option ℕ} :
    parkingSystem.Keeps (fun _ _ => True) ParkPhase.Raises ⟨parkingId, callId, .start⟩
      (parkCall parkingId callId tenantUuid preferredSlot timeout) := by
  unfold parkCall
  refine Service.Keeps.bind (ask_keeps trivial (fun _ _ found _ => ?_) fun _ _ => trivial)
  cases found with
  | false => trivial
  | true =>
    refine Service.Keeps.bind (ask_keeps trivial (fun _ _ tenant _ => ?_) fun _ _ => trivial)
    by_cases htenant : tenant ≠ some tenantUuid
    · rw [if_pos htenant]
      trivial
    · rw [if_neg htenant]
      refine (getParking_keeps (k := ⟨parkingId, callId, .start⟩)).after ?_
        fun _ _ h => h.raises
      rintro k' parking ⟨hid, rfl⟩
      obtain rfl : parking.id = parkingId := hid
      unfold parkChannel
      refine (parkPayload_keeps rfl).after ?_ fun _ _ h => h.raises
      rintro k' payload rfl
      refine Service.Keeps.bind ((amidAction_keeps (r := .park payload) trivial
        fun _ _ _ _ => ?_).mono (fun _ _ => id) fun _ _ h => h.raises)
      exact awaitParked_keeps (by decide)

theorem parking_launch_keeps (job : ParkJob) (w w' : ParkingWorld) (k : ParkPhase)
    (p : Code AsteriskParkedCall) (h : parkingSystem.launch job w = some (w', k, p)) :
    parkingSystem.Keeps (fun _ _ => True) ParkPhase.Raises k p := by
  cases h
  exact parkCall_keeps

end Steps

/-! ## A call that comes between the two requests -/

section Runs

variable {w w' : ParkingWorld} {ph : ℕ → Option ParkPhase} {k : ParkPhase} {event : ParkingEvent}
  {lot callId : String} {x : Answer} {r : Request}

/-- Whether the call is parked after an event. -/
theorem parked_happens {before : Bool} (h : w.Parked lot callId ↔ before = true) :
    (w.happens event).Parked lot callId ↔ event.came lot callId before = true := by
  unfold ParkingWorld.Parked at h
  cases event with
  | enter lot' call =>
    by_cases hlot : lot' = lot
    · simp [ParkingWorld.Parked, ParkingWorld.happens, ParkingEvent.apply, ParkingEvent.came,
        hlot, or_and_right, exists_or, h]
    · simp [ParkingWorld.Parked, ParkingWorld.happens, ParkingEvent.apply, ParkingEvent.came,
        hlot, h]
  | leave lot' callId' =>
    by_cases hlot : lot' = lot
    · simp only [ParkingWorld.Parked, ParkingWorld.happens, ParkingEvent.apply,
        ParkingEvent.came, hlot, if_true, List.mem_filter]
      grind
    · simp [ParkingWorld.Parked, ParkingWorld.happens, ParkingEvent.apply, ParkingEvent.came,
        hlot, h]

/-- Since the log had a length, the call has come and not gone exactly when it is parked. -/
def ParkingWorld.Since (w : ParkingWorld) (lot callId : String) (seen : ℕ) : Prop :=
  seen ≤ w.log.length ∧ (w.Parked lot callId ↔ Came lot callId (w.log.drop seen))

theorem since_happens {seen : ℕ} (h : w.Since lot callId seen) :
    (w.happens event).Since lot callId seen := by
  obtain ⟨hseen, hcame⟩ := h
  refine ⟨by simp only [ParkingWorld.happens, List.length_append]; omega, ?_⟩
  have hlog : (w.happens event).log.drop seen = w.log.drop seen ++ [event] :=
    List.drop_append_of_le_length hseen
  unfold Came
  rw [hlog, List.foldl_append, List.foldl_cons, List.foldl_nil]
  exact parked_happens hcame

/-- Between its two requests, an operation finds its call when it has come in the meantime. -/
def ParkStage.Logged (w : ParkingWorld) (lot callId : String) : ParkStage → Prop
  | .absent seen => w.Since lot callId seen
  | .sized seen _ => w.Since lot callId seen
  | _ => True

abbrev ParkPhase.Logged (w : ParkingWorld) (k : ParkPhase) : Prop :=
  k.stage.Logged w k.lot k.callId

/-- A count finds the lot full only when the call has not come since the list. -/
def NotArrived (w : ParkingWorld) (ph : ℕ → Option ParkPhase) (i : ℕ) (x : Answer) :
    Request → Prop
  | .parkedCalls lot => ∀ k ∈ ph i, match k.stage with
    | .sized seen total => (x (.parkedCalls lot)).isOk →
      total ≤ ((w.lots lot).length : ℤ) → ¬ Came lot k.callId (w.log.drop seen)
    | _ => True
  | _ => True

instance (w : ParkingWorld) (ph : ℕ → Option ParkPhase) (i : ℕ) (x : Answer) (r : Request) :
    Decidable (NotArrived w ph i x r) := by
  unfold NotArrived
  split
  · refine @Option.decidableForallMem _ _ (fun k => ?_) _
    split <;> infer_instance
  · infer_instance

/-- No operation has found its lot full while its call was parked in it. -/
def ParkPhase.Sound (k : ParkPhase) : Prop := k.stage ≠ .full true

theorem reply_ok_iff : (w.reply x (.parkedCalls lot)).isOk ↔ (x (.parkedCalls lot)).isOk := by
  simp only [ParkingWorld.reply]
  cases x (.parkedCalls lot) <;> rfl

/-- Only the size of the lot, and a list or a count of its calls, lead anywhere. -/
theorem nextStage_cases (ht : k.takes r) :
    k.nextStage w r (w.reply x r) = k.stage ∨ k.nextStage w r (w.reply x r) = .waiting ∨
      (∃ lot, k.nextStage w r (w.reply x r) = k.stage.sizing lot) ∨
      (r = .parkedCalls k.lot ∧ (x (.parkedCalls k.lot)).isOk ∧
        k.nextStage w r (w.reply x r) = k.looked w) := by
  cases r with
  | park action => exact .inr (.inl rfl)
  | sleep => exact .inr (.inl rfl)
  | parkings parkingId =>
    cases h : w.reply x (.parkings parkingId) with
    | ok lot => exact .inr (.inr (.inl ⟨lot, rfl⟩))
    | error f => exact .inl rfl
  | parkedCalls lot =>
    obtain rfl : lot = k.lot := ht
    cases h : w.reply x (.parkedCalls k.lot) with
    | ok results => exact .inr (.inr (.inr ⟨rfl, reply_ok_iff.mp (by rw [h]; rfl), rfl⟩))
    | error f => exact .inl rfl
  | _ => exact .inl rfl

/-- What an operation knows after a step of its own. -/
theorem logged_next (hk : k.Logged w) (ht : k.takes r) :
    (k.next w r (w.reply x r)).Logged w := by
  change (k.nextStage w r (w.reply x r)).Logged w k.lot k.callId
  obtain h | h | ⟨lot, h⟩ | ⟨-, -, h⟩ := nextStage_cases (w := w) (x := x) ht
  · rw [h]
    exact hk
  · rw [h]
    trivial
  · rw [h]
    cases hstage : k.stage with
    | absent seen =>
      rw [ParkPhase.Logged, hstage] at hk
      cases htotal : totalSlots lot <;> simp only [ParkStage.sizing, htotal] <;> exact hk
    | _ =>
      rw [ParkPhase.Logged, hstage] at hk
      exact hk
  · rw [h]
    unfold ParkPhase.looked
    cases hstage : k.stage with
    | waiting =>
      by_cases hparked : w.Parked k.lot k.callId
      · simp only [if_pos hparked]
        trivial
      · simp only [if_neg hparked]
        exact ⟨le_rfl, by simp [Came, hparked]⟩
    | sized seen total =>
      by_cases hfull : total ≤ ((w.lots k.lot).length : ℤ)
      · simp only [if_pos hfull]
        trivial
      · simp only [if_neg hfull]
        trivial
    | _ =>
      rw [ParkPhase.Logged, hstage] at hk
      exact hk

/-- An operation finds the lot full while its call is parked exactly when the call has come
since the list. -/
theorem sound_next {i : ℕ} (hi : ph i = some k) (hk : k.Logged w) (hs : k.Sound)
    (ht : k.takes r) : (k.next w r (w.reply x r)).Sound ↔ NotArrived w ph i x r := by
  change k.nextStage w r (w.reply x r) ≠ .full true ↔ _
  by_cases hcount : ∃ seen total, k.stage = .sized seen total ∧ r = .parkedCalls k.lot ∧
      (x (.parkedCalls k.lot)).isOk
  · obtain ⟨seen, total, hstage, rfl, hok⟩ := hcount
    have hnext : k.nextStage w (.parkedCalls k.lot) (w.reply x (.parkedCalls k.lot)) =
        k.looked w := by
      obtain ⟨results, hresults⟩ : ∃ results, w.reply x (.parkedCalls k.lot) = .ok results := by
        cases h : w.reply x (.parkedCalls k.lot) with
        | ok results => exact ⟨results, rfl⟩
        | error f =>
          rw [← reply_ok_iff (w := w), h] at hok
          cases hok
      rw [hresults]
      rfl
    have honly : NotArrived w ph i x (.parkedCalls k.lot) ↔
        (total ≤ ((w.lots k.lot).length : ℤ) → ¬ Came k.lot k.callId (w.log.drop seen)) := by
      simp [NotArrived, hi, hstage, hok]
    have hcame : w.Parked k.lot k.callId ↔ Came k.lot k.callId (w.log.drop seen) := by
      rw [ParkPhase.Logged, hstage] at hk
      exact hk.2
    rw [hnext, honly, ← hcame, ParkPhase.looked, hstage]
    by_cases hfull : total ≤ ((w.lots k.lot).length : ℤ)
    · simp [hfull]
    · simp [hfull]
  · have hnot : NotArrived w ph i x r := by
      unfold NotArrived
      split
      · intro k' hk'
        obtain rfl : k = k' := by
          rw [hi] at hk'
          exact Option.some.inj hk'
        split
        · next lot _ seen total hstage =>
          intro hok
          obtain rfl : lot = k.lot := ht
          exact absurd ⟨seen, total, hstage, rfl, hok⟩ hcount
        · trivial
      · trivial
    refine iff_of_true ?_ hnot
    obtain h | h | ⟨lot, h⟩ | ⟨hr, hok, h⟩ := nextStage_cases (w := w) (x := x) ht
    · rw [h]
      exact hs
    · rw [h]
      decide
    · rw [h]
      intro hfull
      cases hstage : k.stage with
      | absent seen =>
        rw [hstage] at hfull
        cases htotal : totalSlots lot <;> simp [ParkStage.sizing, htotal] at hfull
      | _ =>
        rw [hstage] at hfull
        exact hs (hstage.trans hfull)
    · rw [h]
      unfold ParkPhase.looked
      cases hstage : k.stage with
      | sized seen total => exact absurd ⟨seen, total, hstage, hr, hok⟩ hcount
      | waiting =>
        by_cases hparked : w.Parked k.lot k.callId <;> simp [hparked]
      | _ => exact fun hfull => hs (hstage.trans hfull)

/-! ## Runs -/

variable {s s' : ParkingPool} {a : ParkingLabel}

theorem logged_of_reaches {C : ParkingWorld → (ℕ → Option ParkPhase) → ℕ → Answer → Request → Prop}
    (h : parkingSystem.machine.Reaches (System.Answers C) s) :
    ∀ i k, s.phases i = some k → k.Logged s.world := by
  refine System.invariant_phases (I := fun w ph => ∀ i k, ph i = some k → k.Logged w)
    parking_launch_keeps ?_ ?_ ?_ ?_ h
  · intro w _ i k hk
    cases hk
  · intro w ph i job w' k p hph _ hl
    cases hl
    exact System.forall_update hph trivial
  · intro w ph i x k r y hph hk ht _ ha
    obtain rfl := Option.some.inj ha
    exact System.forall_update hph (logged_next (hph i k hk) ht)
  · intro w ph event w' hph he i k hk
    obtain rfl := Option.some.inj he
    have hold := hph i k hk
    unfold ParkPhase.Logged at hold ⊢
    cases hstage : k.stage <;> rw [hstage] at hold <;>
      first | exact since_happens hold | trivial

/-- No operation has found its lot full while its call was parked in it. -/
def NoneParked (s : ParkingPool) : Prop := ∀ i k, s.phases i = some k → k.Sound

theorem noneParked_step {i : ℕ}
    (hlogged : ∀ i k, s.phases i = some k → k.Logged s.world) (hs : NoneParked s)
    (hkeeps : ∀ i k p, s.tasks i = some (k, p) →
      parkingSystem.Keeps (fun _ _ => True) ParkPhase.Raises k p)
    (h : parkingSystem.machine.step (.answer i x) s = some s') :
    NoneParked s' ↔ ∀ r ∈ s.asked i, NotArrived s.world s.phases i x r := by
  obtain ⟨_, _, _, _, _, ha, -⟩ | ⟨i', x', k, r, next, y, ha, ht, hy, rfl⟩ |
    ⟨_, _, ha, -⟩ := System.step_cases h
  · cases ha
  · cases ha
    obtain rfl := Option.some.inj hy
    have hi : s.phases i = some k := by simp [Pool.phases, ht]
    have hasked : s.asked i = some r := by simp [Pool.asked, ht]
    have htakes : k.takes r := (hkeeps i k _ ht).1
    rw [hasked]
    unfold NoneParked
    rw [System.phases_update]
    have hnext := sound_next (x := x) hi (hlogged i k hi) (hs i k hi) htakes
    constructor
    · rintro hall r' hr'
      obtain rfl := Option.some.inj hr'
      exact hnext.mp (hall i _ (Function.update_self ..))
    · intro hall
      exact System.forall_update hs (hnext.mpr (hall r rfl))
  · cases ha

theorem noneParked_of_reaches
    (h : parkingSystem.machine.Reaches (System.Answers NotArrived) s) : NoneParked s := by
  refine h.invariant_along (I := NoneParked) ?_ ?_
  · intro s hs i k hk
    simp [Pool.phases, hs.2 i] at hk
  · intro s a s' hreach hs hmeets hstep
    obtain ⟨i, job, w, k, p, -, -, hl, rfl⟩ | ⟨i, x, k, r, next, y, rfl, -, -, -⟩ |
      ⟨e, w, -, -, rfl⟩ := System.step_cases hstep
    · cases hl
      unfold NoneParked
      rw [System.phases_update]
      exact System.forall_update hs (by simp [ParkPhase.Sound])
    · exact (noneParked_step (logged_of_reaches hreach) hs
        (System.keeps_of_reaches parking_launch_keeps hreach) hstep).mpr hmeets
    · exact hs

/-- When an operation has raised that its lot is full, its call was not parked there. -/
def FullSaid (s : ParkingPool) : Prop :=
  ∀ i k tenantUuid parkingId callId,
    s.tasks i = some (k, .error (.parkingFull tenantUuid parkingId callId)) →
      parkingId = k.parkingId ∧ callId = k.callId ∧ k.stage = .full false

/-- **As long as no call comes to its full lot between the two requests of a check, and stays,
parking full means that the call is not parked**; and where one does, its operation finds the
lot full while the call is parked in it. -/
theorem full_means_not_parked
    (h : parkingSystem.machine.Reaches (System.Answers NotArrived) s) :
    FullSaid s ∧ ∀ i x s', parkingSystem.machine.step (.answer i x) s = some s' →
      (NoneParked s' ↔ ∀ r ∈ s.asked i, NotArrived s.world s.phases i x r) := by
  have hnone := noneParked_of_reaches h
  have hkeeps := System.keeps_of_reaches parking_launch_keeps h
  refine ⟨?_, fun i x s' => noneParked_step (logged_of_reaches h) hnone hkeeps⟩
  intro i k tenantUuid parkingId callId ht
  have hraises : k.Raises (.parkingFull tenantUuid parkingId callId) := hkeeps i k _ ht
  obtain ⟨hlot, hcall, parked, hstage⟩ := hraises
  have hsound := hnone i k (by simp [Pool.phases, ht])
  cases parked with
  | false => exact ⟨hlot, hcall, hstage⟩
  | true => exact absurd hstage hsound

end Runs

/-! ## A lot with one slot -/

/-- Nothing fails, and the lot has one slot. -/
def oneSlot : Answer
  | .channelExists _ => .ok true
  | .channelTenantUuid _ => .ok (some "some-tenant")
  | .channelUser _ => .ok none
  | .asteriskName callId => .ok callId
  | .onlyConnectedChannel _ => .ok "peer"
  | .parkings parkingId =>
    .ok ⟨parkingId, "some-tenant", "some-parking", "701", "701", "45", "default", []⟩
  | .park _ => .ok ()
  | .parkedCalls _ => .ok []
  | .parkinglots => .ok []
  | .sleep => .ok ()

def parkedCallOf (callId : String) : AsteriskParkedCall :=
  ⟨callId, callId, "peer", "parkinglot-1", "701"⟩

/-- The lot with the given calls, and no operation. -/
def lotWith (calls : List AsteriskParkedCall) : ParkingPool where
  world := ⟨fun lot => if lot = "parkinglot-1" then calls else [], []⟩
  tasks _ := none

/-- The call is asked to be parked; it comes to the lot, or does not, after the list. -/
def parkingOf (comes : Bool) : List ParkingLabel :=
  .start 0 ⟨1, "call", "some-tenant", none, none⟩ :: List.replicate 11 (.answer 0 oneSlot) ++
    (if comes then [.outside (.enter "parkinglot-1" (parkedCallOf "call"))] else []) ++
    List.replicate 3 (.answer 0 oneSlot)

def afterParking (calls : List AsteriskParkedCall) (comes : Bool) : ParkingPool :=
  (parkingSystem.machine.run (parkingOf comes) (lotWith calls)).getD (lotWith calls)

theorem afterParking_reaches {C : ParkingPool → ParkingLabel → Prop}
    {calls : List AsteriskParkedCall} {comes : Bool}
    (h : parkingSystem.machine.Meets C (parkingOf comes) (lotWith calls)) :
    parkingSystem.machine.Reaches C (afterParking calls comes) := by
  have hinit : parkingSystem.machine.init (lotWith calls) := ⟨rfl, fun _ => rfl⟩
  unfold afterParking
  cases hrun : parkingSystem.machine.run (parkingOf comes) (lotWith calls) with
  | none => exact .init hinit
  | some s => exact Machine.Reaches.run (.init hinit) h hrun

/-- Another call has the slot, and the operation raises that the lot is full. -/
theorem full_means_not_parked_taken :
    ∃ s, parkingSystem.machine.Reaches (System.Answers NotArrived) s ∧
      s.tasks 0 = some (⟨1, "call", .full false⟩, .error (.parkingFull "some-tenant" 1 "call")) ∧
      FullSaid s := by
  have hmeets : parkingSystem.machine.Meets (System.Answers NotArrived) (parkingOf false)
      (lotWith [parkedCallOf "other"]) := by
    decide
  have hreach := afterParking_reaches hmeets
  exact ⟨_, hreach, rfl, (full_means_not_parked hreach).1⟩

/-- The call is parked in the last slot between the list and the count, and the operation
raises that the lot is full. -/
theorem full_though_parked : ¬ ∀ s, parkingSystem.machine.Reachable s → FullSaid s := by
  intro hall
  obtain ⟨-, -, hstage⟩ := hall _ (@afterParking_reaches _ [] true
    (Machine.meets_true _ _)) 0 ⟨1, "call", .full true⟩ "some-tenant" 1 "call" rfl
  cases hstage

end Calld.Parkings
