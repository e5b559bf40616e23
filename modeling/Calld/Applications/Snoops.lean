/-
# Snoops

A snoop lets a call of an application listen to another one, through a Snoop channel of
Asterisk in a bridge with the snooping call.  Nothing is stored: the snoops are found by
reading the bridges of the application, whose channels come and go during the reading.

A bridge with a Snoop channel only, or one whose Snoop channel is gone before its variables are
read, makes every list of the snoops raise.
-/
import Calld.Effect.Dialogues

namespace Calld.Applications

open Effect Effect.Interactive

/-! ## Requests -/

/-- What a method on the snoops raises. -/
inductive SnoopExn where
  | ariNotFound
  | ariNotInStasis
  /-- another error of a status -/
  | httpError (status : ℕ)
  | connectionError
  | noSuchCall (callId : String) (statusCode : ℕ)
  | noSuchSnoop (snoopUuid : String)
  | invalidSnoopBridge (bridgeId : String)
  /-- `Exception('call failed to enter stasis')` -/
  | notInStasis
  | unboundLocalError
  | attributeError
  deriving DecidableEq, Repr

/-- A bridge as `bridges.list` answers it. -/
structure SnoopBridge where
  id : String
  name : String
  channels : List String
  deriving DecidableEq, Repr

inductive SnoopRequest where
  | bridgesList
  | channelsGet (channelId : String)
  | getChannelVar (channelId variable_ : String)
  | setChannelVar (channelId variable_ : String) (value : Option String)
  | createWithId (bridgeId name type : String)
  | addChannel (bridgeId channel : String)
  | snoopChannel (channelId spy whisper app : String)
  | destroy (bridgeId : String)
  | hangup (channelId : String)
  deriving DecidableEq, Repr

/-- Of a channel its name is answered, and of a new one its id. -/
@[reducible] def SnoopRequest.Reply : SnoopRequest → Type
  | .bridgesList => List SnoopBridge
  | .channelsGet _ => String
  | .getChannelVar .. => String
  | .snoopChannel .. => String
  | _ => Unit

abbrev SnoopCode (α : Type) : Type := Interactive SnoopRequest SnoopRequest.Reply SnoopExn α

abbrev SnoopExchange : Type := Exchange SnoopRequest SnoopRequest.Reply SnoopExn

def askAri (r : SnoopRequest) : SnoopCode r.Reply := request r

def SnoopExn.isNotFound (e : SnoopExn) : Bool := e = .ariNotFound

def SnoopExn.isInvalid : SnoopExn → Bool
  | .invalidSnoopBridge _ => true
  | _ => false

/-! ## Snoops -/

/-- What a snoop has of its application. -/
structure SnoopApplication where
  uuid : String
  name : String
  channelIds : List String

/-- `_Snoop`, with the ids of its bridge and of its channel. -/
structure Snoop where
  uuid : String
  snoopedCallId : String
  snoopingCallId : String
  whisperMode : Option String
  bridge : Option String
  snoopChannel : Option String
  deriving DecidableEq, Repr

def snoopedCallIdVar : String := "WAZO_SNOOPED_CALL_ID"

def whisperModeVar : String := "WAZO_SNOOP_WHISPER_MODE"

/-- `bridge_name_tpl`. -/
def SnoopApplication.bridgeName (application : SnoopApplication) : String :=
  "wazo-app-snoop-" ++ application.uuid

/-- The name of a Snoop channel. -/
def isSnoop (name : String) : Bool := "Snoop/".toList.isPrefixOf name.toList

/-- The loop over the channels of a bridge: the Snoop channel, and the snooping call. -/
def members : List String → Option String → Option String →
    SnoopCode (Option String × Option String)
  | [], snoopChannel, snoopingCallId => pure (snoopChannel, snoopingCallId)
  | channelId :: channels, snoopChannel, snoopingCallId => do
    match ← catching SnoopExn.isNotFound (askAri (.channelsGet channelId)) with
    | none => members channels snoopChannel snoopingCallId
    | some name =>
      if isSnoop name then members channels (some channelId) snoopingCallId
      else members channels snoopChannel (some channelId)

/-- `_Snoop.from_bridge`. -/
def fromBridge (bridge : SnoopBridge) : SnoopCode Snoop := do
  let (snoopChannel, snoopingCallId) ← members bridge.channels none none
  match snoopChannel with
  | none => throw (.invalidSnoopBridge bridge.id)
  | some channel =>
    let snoopedCallId ← askAri (.getChannelVar channel snoopedCallIdVar)
    let whisperMode ← askAri (.getChannelVar channel whisperModeVar)
    -- the local variable is bound by the loop only
    match snoopingCallId with
    | none => throw .unboundLocalError
    | some snoopingCallId =>
      pure ⟨bridge.id, snoopedCallId, snoopingCallId, some whisperMode, some bridge.id,
        some channel⟩

/-- `_snoop_bridges`. -/
def snoopBridges (application : SnoopApplication) : SnoopCode (List SnoopBridge) := do
  let bridges ← askAri .bridgesList
  pure (bridges.filter (·.name = application.bridgeName))

/-- The loop of `list_`. -/
def listFrom : List SnoopBridge → SnoopCode (List Snoop)
  | [] => pure []
  | bridge :: bridges => do
    match ← catching SnoopExn.isInvalid (fromBridge bridge) with
    | none => listFrom bridges
    | some snoop =>
      let result ← listFrom bridges
      pure (snoop :: result)

/-- `SnoopHelper.list_`. -/
def listSnoops (application : SnoopApplication) : SnoopCode (List Snoop) := do
  let bridges ← snoopBridges application
  listFrom bridges

/-- The loop of `get`. -/
def getFrom (snoopUuid : String) : List SnoopBridge → SnoopCode Snoop
  | [] => throw (.noSuchSnoop snoopUuid)
  | bridge :: bridges =>
    if bridge.id ≠ snoopUuid then getFrom snoopUuid bridges
    else do
      match ← catching SnoopExn.isInvalid (fromBridge bridge) with
      | none => getFrom snoopUuid bridges
      | some snoop => pure snoop

/-- `SnoopHelper.get`. -/
def getSnoop (application : SnoopApplication) (snoopUuid : String) : SnoopCode Snoop := do
  let bridges ← snoopBridges application
  getFrom snoopUuid bridges

/-! ## Readings -/

/-- What Asterisk has answered while a bridge was read: the names of its members, `none` for
those that were gone, and the two variables of the Snoop channel. -/
structure Reading where
  bridge : SnoopBridge
  members : List (String × Option String)
  snoopedCallId : Option String
  whisperMode : Option String

/-- The last member that is there and has such a name. -/
def lastMember (p : String → Bool) (members : List (String × Option String)) : Option String :=
  (members.filterMap fun m => m.2.bind fun name => if p name then some m.1 else none).getLast?

namespace Reading

/-- A Snoop channel that was there. -/
def snoopChannel (r : Reading) : Option String := lastMember isSnoop r.members

/-- Another channel that was there. -/
def snoopingCallId (r : Reading) : Option String := lastMember (fun name => !isSnoop name) r.members

/-- The snoop of the bridge, if both channels were there until they were read. -/
def snoop (r : Reading) : Option Snoop := do
  let channel ← r.snoopChannel
  let snoopingCallId ← r.snoopingCallId
  let snoopedCallId ← r.snoopedCallId
  let whisperMode ← r.whisperMode
  pure ⟨r.bridge.id, snoopedCallId, snoopingCallId, some whisperMode, some r.bridge.id,
    some channel⟩

/-- Where there was a Snoop channel, another channel was there too, and the variables were
answered. -/
def Whole (r : Reading) : Prop :=
  r.snoopChannel.isSome → r.snoopingCallId.isSome ∧ r.snoopedCallId.isSome ∧ r.whisperMode.isSome

instance (r : Reading) : Decidable r.Whole := inferInstanceAs (Decidable (_ → _))

/-- What is answered, or that it is not there. -/
def found (answer : Option String) : Except SnoopExn String := answer.elim (.error .ariNotFound) .ok

/-- The requests of the reading with their answers. -/
def exchanges (r : Reading) : List SnoopExchange :=
  r.members.map (fun m => ⟨.channelsGet m.1, found m.2⟩) ++
    match r.snoopChannel with
    | none => []
    | some channel =>
      ⟨.getChannelVar channel snoopedCallIdVar, found r.snoopedCallId⟩ ::
        if r.snoopedCallId.isSome then
          [⟨.getChannelVar channel whisperModeVar, found r.whisperMode⟩]
        else []

/-- The bridge has been read, member by member. -/
def Reads (r : Reading) (bridge : SnoopBridge) : Prop :=
  r.bridge = bridge ∧ r.members.map Prod.fst = bridge.channels

/-- How the reading ends. -/
def outcome (r : Reading) : Except SnoopExn Snoop :=
  match r.snoopChannel with
  | none => .error (.invalidSnoopBridge r.bridge.id)
  | some channel =>
    match r.snoopedCallId, r.whisperMode, r.snoopingCallId with
    | none, _, _ => .error .ariNotFound
    | some _, none, _ => .error .ariNotFound
    | some _, some _, none => .error .unboundLocalError
    | some snoopedCallId, some whisperMode, some snoopingCallId =>
      .ok ⟨r.bridge.id, snoopedCallId, snoopingCallId, some whisperMode, some r.bridge.id,
        some channel⟩

end Reading

/-- Whatever is refused is not there. -/
def OnlyGone (l : List SnoopExchange) : Prop :=
  ∀ x ∈ l, ∀ e, x.answer = .error e → e = .ariNotFound

section Readings

variable {l l₁ l₂ : List SnoopExchange} {bridge : SnoopBridge} {bridges : List SnoopBridge}
  {r : Reading}

theorem lastMember_cons (p : String → Bool) (m : String × Option String)
    (seen : List (String × Option String)) : lastMember p (m :: seen) =
      (lastMember p seen).or (m.2.bind fun name => if p name then some m.1 else none) := by
  unfold lastMember
  rw [List.filterMap_cons]
  rcases m.2.bind fun name => if p name then some m.1 else none with _ | c
  · rw [Option.or_none]
  · dsimp only
    rw [List.getLast?_cons]
    cases List.getLast? _ <;> rfl

theorem OnlyGone.left (h : OnlyGone (l₁ ++ l₂)) : OnlyGone l₁ :=
  fun x hx => h x (List.mem_append_left _ hx)

theorem OnlyGone.right (h : OnlyGone (l₁ ++ l₂)) : OnlyGone l₂ :=
  fun x hx => h x (List.mem_append_right _ hx)

theorem found_ok {value : Option String} {a : String} (h : .ok a = Reading.found value) :
    value = some a := by
  cases value with
  | none => cases h
  | some b =>
    cases h
    rfl

theorem found_error {value : Option String} {e : SnoopExn} (h : .error e = Reading.found value) :
    value = none ∧ e = .ariNotFound := by
  cases value with
  | none =>
    cases h
    exact ⟨rfl, rfl⟩
  | some b => cases h

/-- A member is read: its name, or that it is gone. -/
theorem member_comes {channelId : String} {y : Except SnoopExn (Option String)}
    (h : (catching SnoopExn.isNotFound (askAri (.channelsGet channelId))).Comes l y)
    (gone : OnlyGone l) :
    ∃ name, y = .ok name ∧ l = [⟨.channelsGet channelId, Reading.found name⟩] := by
  obtain ⟨name, hp, rfl⟩ | ⟨e, hp, rfl⟩ := comes_catching h
  · exact ⟨some name, rfl, comes_request hp⟩
  · obtain rfl := comes_request hp
    obtain rfl : e = .ariNotFound := gone _ (List.mem_singleton_self _) e rfl
    exact ⟨none, rfl, rfl⟩

/-- A variable is read, or it is not there. -/
theorem variable_comes {channelId variable_ : String} {y : Except SnoopExn String}
    (h : (askAri (.getChannelVar channelId variable_)).Comes l y) (gone : OnlyGone l) :
    ∃ value, y = Reading.found value ∧
      l = [⟨.getChannelVar channelId variable_, Reading.found value⟩] := by
  obtain rfl := comes_request h
  cases y with
  | ok value => exact ⟨some value, rfl, rfl⟩
  | error e =>
    obtain rfl : e = .ariNotFound := gone _ (List.mem_singleton_self _) e rfl
    exact ⟨none, rfl, rfl⟩

/-- The loop over the members finds the last one of each kind. -/
theorem members_comes {channels : List String} {snoopChannel snoopingCallId : Option String}
    {y : Except SnoopExn (Option String × Option String)}
    (h : (members channels snoopChannel snoopingCallId).Comes l y) (gone : OnlyGone l) :
    ∃ seen : List (String × Option String), seen.map Prod.fst = channels ∧
      l = seen.map (fun m => ⟨.channelsGet m.1, Reading.found m.2⟩) ∧
      y = .ok ((lastMember isSnoop seen).or snoopChannel,
        (lastMember (fun name => !isSnoop name) seen).or snoopingCallId) := by
  induction channels generalizing l snoopChannel snoopingCallId with
  | nil =>
    obtain ⟨rfl, rfl⟩ := comes_pure h
    exact ⟨[], rfl, rfl, rfl⟩
  | cons channelId channels ih =>
    obtain ⟨e, hmember, -⟩ | ⟨l₁, l₂, name, rfl, hmember, hrest⟩ := comes_bind h
    · obtain ⟨name, hname, -⟩ := member_comes hmember gone
      cases hname
    obtain ⟨name', hname, rfl⟩ := member_comes hmember gone.left
    obtain rfl := Except.ok.inj hname
    cases name with
    | none =>
      obtain ⟨seen, hseen, rfl, rfl⟩ := ih hrest gone.right
      exact ⟨(channelId, none) :: seen, by simp [hseen], rfl, by simp [lastMember_cons]⟩
    | some name =>
      dsimp only at hrest
      split at hrest
      · rename_i hsnoop
        obtain ⟨seen, hseen, rfl, rfl⟩ := ih hrest gone.right
        refine ⟨(channelId, some name) :: seen, by simp [hseen], rfl, ?_⟩
        simp [lastMember_cons, hsnoop]
      · rename_i hother
        obtain ⟨seen, hseen, rfl, rfl⟩ := ih hrest gone.right
        refine ⟨(channelId, some name) :: seen, by simp [hseen], rfl, ?_⟩
        simp [lastMember_cons, hother]

/-- A bridge is read once, and the reading says how it ends. -/
theorem fromBridge_comes {y : Except SnoopExn Snoop} (h : (fromBridge bridge).Comes l y)
    (gone : OnlyGone l) : ∃ r : Reading, r.Reads bridge ∧ l = r.exchanges ∧ y = r.outcome := by
  obtain ⟨e, hmembers, -⟩ | ⟨l₁, l₂, found, rfl, hmembers, hrest⟩ := comes_bind h
  · obtain ⟨seen, -, -, hy⟩ := members_comes hmembers gone
    cases hy
  obtain ⟨seen, hseen, rfl, hfound⟩ := members_comes hmembers gone.left
  obtain rfl := Except.ok.inj hfound
  simp only [Option.or_none] at hrest
  rcases hsnoop : lastMember isSnoop seen with _ | channel <;> rw [hsnoop] at hrest <;>
    dsimp only at hrest
  · obtain ⟨rfl, rfl⟩ := comes_throw hrest
    refine ⟨⟨bridge, seen, none, none⟩, ⟨rfl, hseen⟩, ?_, ?_⟩
    · simp [Reading.exchanges, Reading.snoopChannel, hsnoop]
    · simp [Reading.outcome, Reading.snoopChannel, hsnoop]
  obtain ⟨e, hvar, rfl⟩ | ⟨l₃, l₄, snooped, rfl, hvar, hafter⟩ := comes_bind hrest
  · obtain ⟨value, hvalue, rfl⟩ := variable_comes hvar gone.right
    obtain ⟨rfl, rfl⟩ := found_error hvalue
    refine ⟨⟨bridge, seen, none, none⟩, ⟨rfl, hseen⟩, ?_, ?_⟩
    · simp [Reading.exchanges, Reading.snoopChannel, hsnoop]
    · simp [Reading.outcome, Reading.snoopChannel, hsnoop]
  obtain ⟨value, hvalue, rfl⟩ := variable_comes hvar gone.right.left
  obtain rfl := found_ok hvalue
  obtain ⟨e, hvar', rfl⟩ | ⟨l₅, l₆, whisper, rfl, hvar', hend⟩ := comes_bind hafter
  · obtain ⟨value', hvalue', rfl⟩ := variable_comes hvar' gone.right.right
    obtain ⟨rfl, rfl⟩ := found_error hvalue'
    refine ⟨⟨bridge, seen, some snooped, none⟩, ⟨rfl, hseen⟩, ?_, ?_⟩
    · simp [Reading.exchanges, Reading.snoopChannel, hsnoop]
    · simp [Reading.outcome, Reading.snoopChannel, hsnoop]
  obtain ⟨value', hvalue', rfl⟩ := variable_comes hvar' gone.right.right.left
  obtain rfl := found_ok hvalue'
  refine ⟨⟨bridge, seen, some snooped, some whisper⟩, ⟨rfl, hseen⟩, ?_, ?_⟩
  · rcases hother : lastMember (fun name => !isSnoop name) seen with _ | snooping <;>
      rw [hother] at hend
    · obtain ⟨rfl, -⟩ := comes_throw hend
      simp [Reading.exchanges, Reading.snoopChannel, hsnoop]
    · obtain ⟨rfl, -⟩ := comes_pure hend
      simp [Reading.exchanges, Reading.snoopChannel, hsnoop]
  · rcases hother : lastMember (fun name => !isSnoop name) seen with _ | snooping <;>
      rw [hother] at hend
    · obtain ⟨-, rfl⟩ := comes_throw hend
      simp [Reading.outcome, Reading.snoopChannel, Reading.snoopingCallId, hsnoop, hother]
    · obtain ⟨-, rfl⟩ := comes_pure hend
      simp [Reading.outcome, Reading.snoopChannel, Reading.snoopingCallId, hsnoop, hother]

/-! ## The exact condition -/

namespace Reading

/-- What is made of a whole reading: its snoop, or that there is no Snoop channel. -/
theorem outcome_of_whole (h : r.Whole) :
    r.outcome = r.snoop.elim (.error (.invalidSnoopBridge r.bridge.id)) .ok := by
  unfold outcome snoop
  rcases hchannel : r.snoopChannel with _ | channel
  · rfl
  · obtain ⟨hsnooping, hsnooped, hwhisper⟩ := h (by rw [hchannel]; rfl)
    obtain ⟨snooping, hsnooping⟩ := Option.isSome_iff_exists.mp hsnooping
    obtain ⟨snooped, hsnooped⟩ := Option.isSome_iff_exists.mp hsnooped
    obtain ⟨whisper, hwhisper⟩ := Option.isSome_iff_exists.mp hwhisper
    rw [hsnooping, hsnooped, hwhisper]
    rfl

/-- A reading that is not whole raises what nothing expects. -/
theorem outcome_of_not_whole (h : ¬ r.Whole) :
    r.outcome = .error .ariNotFound ∨ r.outcome = .error .unboundLocalError := by
  unfold Whole at h
  unfold outcome
  rcases hchannel : r.snoopChannel with _ | channel
  · simp [hchannel] at h
  rcases hsnooped : r.snoopedCallId with _ | snooped
  · exact .inl rfl
  rcases hwhisper : r.whisperMode with _ | whisper
  · exact .inl rfl
  rcases hsnooping : r.snoopingCallId with _ | snooping
  · exact .inr rfl
  · simp [hchannel, hsnooped, hwhisper, hsnooping] at h

theorem uuid_of_snoop {snoop : Snoop} (h : r.snoop = some snoop) : snoop.uuid = r.bridge.id := by
  unfold Reading.snoop at h
  rcases hchannel : r.snoopChannel with _ | channel <;> rw [hchannel] at h
  · cases h
  rcases hsnooping : r.snoopingCallId with _ | snooping <;> rw [hsnooping] at h
  · cases h
  rcases hsnooped : r.snoopedCallId with _ | snooped <;> rw [hsnooped] at h
  · cases h
  rcases hwhisper : r.whisperMode with _ | whisper <;> rw [hwhisper] at h
  · cases h
  · cases h
    rfl

end Reading

/-- A bridge is read, and left out when it has no Snoop channel. -/
theorem bridge_comes {y : Except SnoopExn (Option Snoop)}
    (h : (catching SnoopExn.isInvalid (fromBridge bridge)).Comes l y) (gone : OnlyGone l) :
    ∃ r : Reading, r.Reads bridge ∧ l = r.exchanges ∧ (r.Whole → y = .ok r.snoop) ∧
      (¬ r.Whole → y = .error .ariNotFound ∨ y = .error .unboundLocalError) := by
  obtain ⟨snoop, hp, rfl⟩ | ⟨e, hp, rfl⟩ := comes_catching h
  · obtain ⟨r, hreads, rfl, hy⟩ := fromBridge_comes hp gone
    refine ⟨r, hreads, rfl, fun hwhole => ?_, fun hwhole => ?_⟩
    · rw [Reading.outcome_of_whole hwhole] at hy
      cases hsnoop : r.snoop <;> rw [hsnoop] at hy <;> cases hy
      rfl
    · obtain hraises | hraises := Reading.outcome_of_not_whole hwhole <;> rw [hraises] at hy <;>
        cases hy
  · obtain ⟨r, hreads, rfl, hy⟩ := fromBridge_comes hp gone
    refine ⟨r, hreads, rfl, fun hwhole => ?_, fun hwhole => ?_⟩
    · rw [Reading.outcome_of_whole hwhole] at hy
      cases hsnoop : r.snoop <;> rw [hsnoop] at hy <;> cases hy
      rfl
    · obtain hraises | hraises := Reading.outcome_of_not_whole hwhole <;> rw [hraises] at hy <;>
        cases hy
      · exact .inl rfl
      · exact .inr rfl

/-- The dialogue is that of the readings of the first ones of the bridges. -/
structure ReadInOrder (bridges : List SnoopBridge) (l : List SnoopExchange)
    (readings : List Reading) : Prop where
  bridges : ∃ read, read <+: bridges ∧ List.Forall₂ Reading.Reads readings read
  exchanges : l = readings.flatMap Reading.exchanges

/-- All bridges have been read, and the snoops found are returned. -/
def Lists (bridges : List SnoopBridge) (readings : List Reading)
    (y : Except SnoopExn (List Snoop)) : Prop :=
  List.Forall₂ Reading.Reads readings bridges ∧ y = .ok (readings.filterMap Reading.snoop)

/-- A snoop that was found is returned, or all bridges of the uuid have been read and none has
a snoop. -/
def Gets (snoopUuid : String) (bridges : List SnoopBridge) (readings : List Reading)
    (y : Except SnoopExn Snoop) : Prop :=
  (∃ snoop, y = .ok snoop ∧ snoop ∈ readings.filterMap Reading.snoop ∧ snoop.uuid = snoopUuid) ∨
    (y = .error (.noSuchSnoop snoopUuid) ∧ readings.filterMap Reading.snoop = [] ∧
      List.Forall₂ Reading.Reads readings bridges)

theorem ReadInOrder.nil : ReadInOrder bridges [] [] :=
  ⟨⟨[], List.nil_prefix, .nil⟩, rfl⟩

/-- The reading of the first bridge comes first. -/
theorem ReadInOrder.cons {readings : List Reading} (hr : r.Reads bridge)
    (h : ReadInOrder bridges l readings) :
    ReadInOrder (bridge :: bridges) (r.exchanges ++ l) (r :: readings) := by
  obtain ⟨⟨read, hprefix, hreads⟩, rfl⟩ := h
  exact ⟨⟨bridge :: read, List.cons_prefix_cons.mpr ⟨rfl, hprefix⟩, .cons hr hreads⟩, rfl⟩

theorem listFrom_comes {y : Except SnoopExn (List Snoop)} (h : (listFrom bridges).Comes l y)
    (gone : OnlyGone l) : ∃ readings, ReadInOrder bridges l readings ∧
      (Lists bridges readings y ↔ ∀ r ∈ readings, r.Whole) := by
  induction bridges generalizing l y with
  | nil =>
    obtain ⟨rfl, rfl⟩ := comes_pure h
    exact ⟨[], .nil, by simp [Lists]⟩
  | cons bridge bridges ih =>
    obtain ⟨e, hbridge, rfl⟩ | ⟨l₁, l₂, found, rfl, hbridge, hrest⟩ := comes_bind h
    · obtain ⟨r, hreads, rfl, hwhole, -⟩ := bridge_comes hbridge gone
      refine ⟨[r], by simpa using ReadInOrder.nil.cons hreads, iff_of_false ?_ fun hall => ?_⟩
      · rintro ⟨-, hy⟩
        cases hy
      · cases hwhole (hall r (List.mem_singleton_self r))
    obtain ⟨r, hreads, rfl, hwhole, hraises⟩ := bridge_comes hbridge gone.left
    have hr : r.Whole := by
      by_contra hnot
      obtain hy | hy := hraises hnot <;> cases hy
    obtain rfl := Except.ok.inj (hwhole hr)
    -- what is left to do with the other bridges depends on this one
    cases hsnoop : r.snoop with
    | none =>
      rw [hsnoop] at hrest
      obtain ⟨readings, hread, hiff⟩ := ih hrest gone.right
      refine ⟨r :: readings, hread.cons hreads, ?_⟩
      rw [List.forall_mem_cons, ← hiff]
      simp [Lists, hreads, hr, hsnoop]
    | some snoop =>
      rw [hsnoop] at hrest
      obtain ⟨e, hlist, rfl⟩ | ⟨l₃, l₄, result, rfl, hlist, hend⟩ := comes_bind hrest
      · obtain ⟨readings, hread, hiff⟩ := ih hlist gone.right
        refine ⟨r :: readings, hread.cons hreads, ?_⟩
        rw [List.forall_mem_cons, ← hiff]
        simp [Lists]
      · obtain ⟨rfl, rfl⟩ := comes_pure hend
        rw [List.append_nil] at gone ⊢
        obtain ⟨readings, hread, hiff⟩ := ih hlist gone.right
        refine ⟨r :: readings, hread.cons hreads, ?_⟩
        rw [List.forall_mem_cons, ← hiff]
        simp [Lists, hreads, hr, hsnoop]

theorem getFrom_comes {snoopUuid : String} {y : Except SnoopExn Snoop}
    (h : (getFrom snoopUuid bridges).Comes l y) (gone : OnlyGone l) :
    ∃ readings, ReadInOrder (bridges.filter (·.id = snoopUuid)) l readings ∧
      (Gets snoopUuid (bridges.filter (·.id = snoopUuid)) readings y ↔
        ∀ r ∈ readings, r.Whole) := by
  induction bridges generalizing l with
  | nil =>
    obtain ⟨rfl, rfl⟩ := comes_throw h
    exact ⟨[], .nil, by simp [Gets]⟩
  | cons bridge bridges ih =>
    unfold getFrom at h
    by_cases hid : bridge.id = snoopUuid
    swap
    · rw [if_pos hid] at h
      rw [List.filter_cons_of_neg (by simpa using hid)]
      exact ih h gone
    rw [if_neg (by simpa using hid)] at h
    rw [List.filter_cons_of_pos (by simpa using hid)]
    obtain ⟨e, hbridge, rfl⟩ | ⟨l₁, l₂, found, rfl, hbridge, hrest⟩ := comes_bind h
    · obtain ⟨r, hreads, rfl, hwhole, hraises⟩ := bridge_comes hbridge gone
      have hr : ¬ r.Whole := fun hr => by cases hwhole hr
      refine ⟨[r], by simpa using ReadInOrder.nil.cons hreads, iff_of_false ?_ fun hall => ?_⟩
      · rintro (⟨snoop, hy, -⟩ | ⟨hy, -⟩)
        · cases hy
        · cases hy
          obtain he | he := hraises hr <;> cases he
      · exact hr (hall r (List.mem_singleton_self r))
    obtain ⟨r, hreads, rfl, hwhole, hraises⟩ := bridge_comes hbridge gone.left
    have hr : r.Whole := by
      by_contra hnot
      obtain hy | hy := hraises hnot <;> cases hy
    obtain rfl := Except.ok.inj (hwhole hr)
    cases hsnoop : r.snoop with
    | none =>
      rw [hsnoop] at hrest
      obtain ⟨readings, hread, hiff⟩ := ih hrest gone.right
      refine ⟨r :: readings, hread.cons hreads, ?_⟩
      rw [List.forall_mem_cons, ← hiff]
      simp [Gets, hreads, hr, hsnoop]
    | some snoop =>
      rw [hsnoop] at hrest
      obtain ⟨rfl, rfl⟩ := comes_pure hrest
      refine ⟨[r], by simpa using ReadInOrder.nil.cons hreads, iff_of_true (.inl ?_) (by simpa)⟩
      exact ⟨snoop, rfl, by simp [hsnoop], by rw [Reading.uuid_of_snoop hsnoop, hreads.1, hid]⟩

theorem snoopBridges_comes {application : SnoopApplication} {α : Type}
    {f : List SnoopBridge → SnoopCode α} {y : Except SnoopExn α}
    (h : (snoopBridges application >>= f).Comes (⟨.bridgesList, .ok bridges⟩ :: l) y) :
    (f (bridges.filter (·.name = application.bridgeName))).Comes l y := by
  cases h with
  | ask _ _ x l y h => exact h

/-- **The snoops of an application are found exactly when no bridge that is read has a Snoop
channel without another channel, or one that goes before its variables are answered**, whatever
the bridges are and whenever their channels go. -/
theorem snoops_found_iff (application : SnoopApplication) (bridges : List SnoopBridge)
    (l : List SnoopExchange) (gone : OnlyGone l) :
    (∀ y, (listSnoops application).Comes (⟨.bridgesList, .ok bridges⟩ :: l) y →
      ∃ readings,
        ReadInOrder (bridges.filter (·.name = application.bridgeName)) l readings ∧
        (Lists (bridges.filter (·.name = application.bridgeName)) readings y ↔
          ∀ r ∈ readings, r.Whole)) ∧
    ∀ snoopUuid y, (getSnoop application snoopUuid).Comes (⟨.bridgesList, .ok bridges⟩ :: l) y →
      ∃ readings,
        ReadInOrder ((bridges.filter (·.name = application.bridgeName)).filter
          (·.id = snoopUuid)) l readings ∧
        (Gets snoopUuid ((bridges.filter (·.name = application.bridgeName)).filter
          (·.id = snoopUuid)) readings y ↔ ∀ r ∈ readings, r.Whole) :=
  ⟨fun _ h => listFrom_comes (snoopBridges_comes h) gone,
    fun _ _ h => getFrom_comes (snoopBridges_comes h) gone⟩

end Readings

/-! ## A Snoop channel that is alone -/

/-- Bridges, the names of the channels that are there, and the variables of the Snoop
channels. -/
structure SnoopScene where
  bridges : List SnoopBridge
  name : String → Option String
  variable_ : String → String → Option String

/-- The answers when nothing changes. -/
def SnoopScene.answer (scene : SnoopScene) : (r : SnoopRequest) → Except SnoopExn r.Reply
  | .bridgesList => .ok scene.bridges
  | .channelsGet channelId => Reading.found (scene.name channelId)
  | .getChannelVar channelId variable_ => Reading.found (scene.variable_ channelId variable_)
  | .setChannelVar .. => .ok ()
  | .createWithId .. => .ok ()
  | .addChannel .. => .ok ()
  | .snoopChannel .. => .error .ariNotFound
  | .destroy _ => .ok ()
  | .hangup _ => .ok ()

def SnoopScene.answers (scene : SnoopScene) (_ : Unit) (r : SnoopRequest) :
    Except SnoopExn r.Reply × Unit :=
  (scene.answer r, ())

theorem SnoopScene.answer_gone (scene : SnoopScene) (r : SnoopRequest) (e : SnoopExn)
    (h : scene.answer r = .error e) : e = .ariNotFound := by
  cases r with
  | channelsGet channelId =>
    rcases hname : scene.name channelId with _ | name <;>
      simp [SnoopScene.answer, hname, Reading.found] at h
    exact h.symm
  | getChannelVar channelId variable_ =>
    rcases hvalue : scene.variable_ channelId variable_ with _ | value <;>
      simp [SnoopScene.answer, hvalue, Reading.found] at h
    exact h.symm
  | snoopChannel => exact (Except.error.inj h).symm
  | _ => cases h

def someApplication : SnoopApplication := ⟨"app", "wazo-app-app", ["caller", "supervisor"]⟩

/-- The Snoop channel is in the bridge with these other channels. -/
def snoopingWith (others : List String) : SnoopScene where
  bridges := [⟨"snoop", "wazo-app-snoop-app", others ++ ["spy"]⟩]
  name channelId := if channelId = "spy" then some "Snoop/caller-0001" else some "PJSIP/supervisor"
  variable_ _ variable_ := if variable_ = snoopedCallIdVar then some "caller" else some "none"

/-- **Where the Snoop channel is alone in its bridge, all lists of the snoops raise.** -/
theorem lone_snoop_raises :
    (exec (snoopingWith []).answers (listSnoops someApplication) ()).1 =
      .error .unboundLocalError ∧
    (exec (snoopingWith []).answers (getSnoop someApplication "snoop") ()).1 =
      .error .unboundLocalError :=
  ⟨rfl, rfl⟩

/-- With the snooping call it is listed. -/
theorem snoops_found_iff_listed : ∃ l, OnlyGone l ∧
    (listSnoops someApplication).Comes
      (⟨.bridgesList, .ok (snoopingWith ["supervisor"]).bridges⟩ :: l)
      (.ok [⟨"snoop", "caller", "supervisor", some "none", some "snoop", some "spy"⟩]) ∧
    ∃ readings, ReadInOrder ((snoopingWith ["supervisor"]).bridges.filter
        (·.name = someApplication.bridgeName)) l readings ∧
      (Lists ((snoopingWith ["supervisor"]).bridges.filter
          (·.name = someApplication.bridgeName)) readings
          (.ok [⟨"snoop", "caller", "supervisor", some "none", some "snoop", some "spy"⟩]) ↔
        ∀ r ∈ readings, r.Whole) := by
  have hcomes := comes_dialogue (snoopingWith ["supervisor"]).answers
    (listSnoops someApplication) ()
  have hgone : OnlyGone (dialogue (snoopingWith ["supervisor"]).answers
      (listSnoops someApplication) ()).tail := by
    intro x hx
    exact forall_mem_dialogue
      (C := fun _ a => ∀ e, a = .error e → e = .ariNotFound)
      (fun _ r e => SnoopScene.answer_gone _ r e) _ _ x (List.mem_of_mem_tail hx)
  exact ⟨_, hgone, hcomes, (snoops_found_iff _ _ _ hgone).1 _ hcomes⟩

end Calld.Applications
