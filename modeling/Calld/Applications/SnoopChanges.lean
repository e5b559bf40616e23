/-
# Creating and editing a snoop

A snoop is created with several requests: its bridge, the snooping call in it, the Snoop channel,
and this channel in the bridge.  When one of them fails, the object is destroyed, as far as it
knows what it has; a new Snoop channel it only knows once it has been prepared.  An edition makes
another Snoop channel for the bridge and hangs up the old one, and undoes nothing.
-/
import Calld.Applications.Snoops

namespace Calld.Applications

open Effect Effect.Interactive

/-! ## The methods -/

/-- `Channel.is_in_stasis`. -/
def isInStasis (channelId : String) : SnoopCode Bool := do
  let set ← catching (fun e => e = .ariNotInStasis)
    (askAri (.setChannelVar channelId "WAZO_TEST_STASIS" none))
  pure set.isSome

/-- `Channel.wait_until_in_stasis`, with the retries that are left. -/
def waitUntilInStasis (channelId : String) : ℕ → SnoopCode Unit
  | 0 => throw .notInStasis
  | retry + 1 => do
    if ← isInStasis channelId then pure ()
    else waitUntilInStasis channelId retry

/-- What is done with an attribute that is set. -/
def ifSet (value : Option String) (f : String → SnoopCode Unit) : SnoopCode Unit :=
  match value with
  | some id => f id
  | none => pure ()

/-- `_Snoop.destroy`. -/
def Snoop.destroy (snoop : Snoop) : SnoopCode Unit := do
  ifSet snoop.bridge fun bridge => ignoring SnoopExn.isNotFound (askAri (.destroy bridge))
  ifSet snoop.snoopChannel fun channel =>
    ignoring SnoopExn.isNotFound (askAri (.hangup channel))

/-- A part of a method, where `handler` is what the caller of the method does with the object, as
it is then, before an exception goes on. -/
def underHandler {α : Type} (handler : Snoop → SnoopCode Unit) (snoop : Snoop)
    (p : SnoopCode α) : SnoopCode α :=
  tryCatch p fun e => do
    handler snoop
    throw e

/-- `_Snoop.create_bridge`. -/
def createBridge (application : SnoopApplication) (handler : Snoop → SnoopCode Unit)
    (snoop : Snoop) : SnoopCode Snoop := do
  underHandler handler snoop
    (askAri (.createWithId snoop.uuid application.bridgeName "mixing"))
  let snoop := { snoop with bridge := some snoop.uuid }
  underHandler handler snoop
    (tryCatch (askAri (.addChannel snoop.uuid snoop.snoopingCallId)) fun
      | .httpError 400 => throw (.noSuchCall snoop.snoopingCallId 400)
      | e => throw e)
  pure snoop

/-- `_Snoop.new_snoop_channel`. -/
def newSnoopChannel (application : SnoopApplication) (snoop : Snoop) (whisperMode : String) :
    SnoopCode String := do
  let snoopChannel ← tryCatch
    (askAri (.snoopChannel snoop.snoopedCallId "both" whisperMode application.name)) fun
      | .ariNotFound => throw (.noSuchCall snoop.snoopedCallId 404)
      | e => throw e
  waitUntilInStasis snoopChannel 20
  askAri (.setChannelVar snoopChannel whisperModeVar (some whisperMode))
  askAri (.setChannelVar snoopChannel snoopedCallIdVar (some snoop.snoopedCallId))
  pure snoopChannel

/-- `_Snoop.update_snoop_channel`. -/
def updateSnoopChannel (handler : Snoop → SnoopCode Unit) (snoop : Snoop)
    (snoopChannel : String) : SnoopCode Snoop := do
  let oldSnoopChannel := snoop.snoopChannel
  let snoop := { snoop with snoopChannel := some snoopChannel }
  underHandler handler snoop do
    match snoop.bridge with
    | none => throw .attributeError
    | some bridge =>
      askAri (.addChannel bridge snoopChannel)
      ifSet oldSnoopChannel fun channel => askAri (.hangup channel)
  pure snoop

/-- `SnoopHelper.validate_ownership`. -/
def validateOwnership (application : SnoopApplication) (snoopedCallId : String)
    (snoopingCallId : Option String) : SnoopCode Unit :=
  if snoopedCallId ∉ application.channelIds then throw (.noSuchCall snoopedCallId 404)
  else
    match snoopingCallId with
    | none => pure ()
    | some snoopingCallId =>
      if snoopingCallId ≠ "" ∧ snoopingCallId ∉ application.channelIds then
        throw (.noSuchCall snoopingCallId 400)
      else pure ()

/-- `SnoopHelper.create`; `uuid` is the one that `uuid4` gives. -/
def createSnoop (application : SnoopApplication) (snoopedCallId snoopingCallId whisperMode uuid :
    String) : SnoopCode Snoop := do
  validateOwnership application snoopedCallId (some snoopingCallId)
  let snoop : Snoop := ⟨uuid, snoopedCallId, snoopingCallId, none, none, none⟩
  let snoop ← createBridge application Snoop.destroy snoop
  let snoopChannel ← underHandler Snoop.destroy snoop
    (newSnoopChannel application snoop whisperMode)
  let snoop := { snoop with whisperMode := some whisperMode }
  updateSnoopChannel Snoop.destroy snoop snoopChannel

/-- `SnoopHelper.edit`. -/
def editSnoop (application : SnoopApplication) (snoopUuid whisperMode : String) :
    SnoopCode Snoop := do
  let snoop ← getSnoop application snoopUuid
  validateOwnership application snoop.snoopedCallId none
  let snoopChannel ← newSnoopChannel application snoop whisperMode
  let snoop := { snoop with whisperMode := some whisperMode }
  updateSnoopChannel (fun _ => pure ()) snoop snoopChannel

/-! ## Deeds -/

/-- What a dialogue has brought about: the bridges and Snoop channels that were created, those
that were asked to go, whether the channels of a bridge have changed, and what has failed on the
way of a new Snoop channel: its preparation, its tests, and its coming into the bridge. -/
structure Deeds where
  bridges : List String := []
  channels : List String := []
  destroyed : List String := []
  hungUp : List String := []
  changed : Bool := false
  unprepared : Bool := false
  tests : ℕ := 0
  unmoved : Bool := false
  deriving DecidableEq

def Deeds.note (k : Deeds) : (r : SnoopRequest) → Except SnoopExn r.Reply → Deeds
  | .createWithId bridgeId _ _, .ok _ => { k with bridges := k.bridges ++ [bridgeId] }
  | .snoopChannel .., .ok channelId => { k with channels := k.channels ++ [channelId] }
  | .destroy bridgeId, _ => { k with destroyed := k.destroyed ++ [bridgeId] }
  | .hangup channelId, .ok _ => { k with hungUp := k.hungUp ++ [channelId], changed := true }
  | .hangup channelId, .error _ => { k with hungUp := k.hungUp ++ [channelId], unmoved := true }
  | .addChannel .., .ok _ => { k with changed := true }
  | .addChannel .., .error _ => { k with unmoved := true }
  | .setChannelVar _ variable_ _, .error e =>
    if variable_ = "WAZO_TEST_STASIS" ∧ e = .ariNotInStasis then { k with tests := k.tests + 1 }
    else { k with unprepared := true }
  | _, _ => k

def deeds (l : List SnoopExchange) : Deeds := heard Deeds.note {} l

/-- Everything that was created was asked to go. -/
def Deeds.Undone (k : Deeds) : Prop :=
  (∀ b ∈ k.bridges, b ∈ k.destroyed) ∧ ∀ c ∈ k.channels, c ∈ k.hungUp

/-- No new Snoop channel has failed before it was ready for the bridge. -/
def Deeds.Prepared (k : Deeds) : Prop := k.unprepared = false ∧ k.tests < 20

/-- When a creation raises, nothing is left of it. -/
def CreateAtomic (l : List SnoopExchange) (y : Except SnoopExn Snoop) : Prop :=
  ∀ e, y = .error e → (deeds l).Undone

/-- When an edition raises, nothing is left of it, and the channels of the bridge are those from
before. -/
def EditAtomic (l : List SnoopExchange) (y : Except SnoopExn Snoop) : Prop :=
  ∀ e, y = .error e → (deeds l).Undone ∧ (deeds l).changed = false

/-- What is asked to go goes, or is gone. -/
def Compensates : (r : SnoopRequest) → Except SnoopExn r.Reply → Prop
  | .destroy _, .error e => e = .ariNotFound
  | .hangup _, .error e => e = .ariNotFound
  | _, _ => True

section Contracts

variable {α : Type} {C : (r : SnoopRequest) → Except SnoopExn r.Reply → Prop} {k : Deeds}
  {snoop : Snoop} {application : SnoopApplication} {c whisperMode : String}

/-- Before there is a new Snoop channel, none has failed. -/
theorem prepared_of_fresh (hprepared : k.unprepared = false) (htests : k.tests = 0) :
    k.Prepared :=
  ⟨hprepared, by omega⟩

/-- The deeds with a new Snoop channel and so many tests. -/
def Deeds.created (k : Deeds) (c : String) (tests : ℕ) (unprepared : Bool) : Deeds :=
  { k with channels := [c], tests := tests, unprepared := unprepared }

/-- The wait for a channel ends before the twentieth test has failed, or the channel is not
prepared. -/
theorem ends_wait {retry tests : ℕ} (h : tests + retry = 20) :
    Ends C Deeds.note (fun k' _ => ∃ t < 20, k' = k.created c t false)
      (fun k' _ => ∃ t u, k' = k.created c t u ∧ ¬ k'.Prepared) (k.created c tests false)
      (waitUntilInStasis c retry) := by
  induction retry generalizing tests with
  | zero =>
    refine Ends.throw ⟨tests, false, rfl, fun hprepared => ?_⟩
    have htests : tests < 20 := hprepared.2
    omega
  | succ retry ih =>
    have htest : Ends C Deeds.note
        (fun k' (found : Bool) => if found then k' = k.created c tests false
          else k' = k.created c (tests + 1) false)
        (fun k' _ => ∃ t u, k' = k.created c t u ∧ ¬ k'.Prepared) (k.created c tests false)
        (isInStasis c) := by
      refine Ends.bind (Ends.catching (Ends.request (fun _ _ => Ends.pure rfl) fun e _ => ?_))
      by_cases he : e = .ariNotInStasis
      · subst he
        rw [if_pos (by simp)]
        exact Ends.pure rfl
      · rw [if_neg (by simpa using he)]
        have hnote : (k.created c tests false).note (.setChannelVar c "WAZO_TEST_STASIS" none)
            (.error e) = k.created c tests true := by
          simp [Deeds.note, Deeds.created, he]
        rw [hnote]
        exact ⟨tests, true, rfl, fun hprepared => by cases hprepared.1⟩
    refine htest.after (fun k' found hk' => ?_) fun _ _ he => he
    cases found with
    | true => exact Ends.pure ⟨tests, by omega, hk'⟩
    | false =>
      rw [if_neg (by simp)] at hk'
      rw [hk']
      exact ih (by omega)

/-- A variable of the new channel. -/
theorem ends_setVar {variable_ : String} {value : Option String} {tests : ℕ} (htests : tests < 20)
    (hvariable : variable_ ≠ "WAZO_TEST_STASIS") :
    Ends C Deeds.note (fun k' _ => ∃ t < 20, k' = k.created c t false)
      (fun k' _ => ∃ t u, k' = k.created c t u ∧ ¬ k'.Prepared) (k.created c tests false)
      (askAri (.setChannelVar c variable_ value)) := by
  refine Ends.request (fun _ _ => ⟨tests, htests, rfl⟩) fun e _ => ?_
  have hnote : (k.created c tests false).note (.setChannelVar c variable_ value) (.error e) =
      k.created c tests true := by
    simp [Deeds.note, Deeds.created, hvariable]
  rw [hnote]
  exact ⟨tests, true, rfl, fun hprepared => by cases hprepared.1⟩

/-- A new Snoop channel is prepared; where something is raised, it is not there or not
prepared. -/
theorem ends_newSnoopChannel (hchannels : k.channels = []) (htests : k.tests = 0)
    (hprepared : k.unprepared = false) :
    Ends C Deeds.note (fun k' c => ∃ t < 20, k' = k.created c t false)
      (fun k' _ => k' = k ∨ ∃ c t u, k' = k.created c t u ∧ ¬ k'.Prepared) k
      (newSnoopChannel application snoop whisperMode) := by
  have hsnoop : Ends C Deeds.note (fun k' c => k' = k.created c 0 false) (fun k' _ => k' = k) k
      (tryCatch (askAri (.snoopChannel snoop.snoopedCallId "both" whisperMode application.name))
        fun
          | .ariNotFound => throw (.noSuchCall snoop.snoopedCallId 404)
          | e => throw e) := by
    refine Ends.tryCatch (Ends.request (fun c _ => ?_) fun e _ => ?_)
    · show { k with channels := k.channels ++ [c] } = _
      rw [Deeds.created, hchannels, ← htests, ← hprepared]
      rfl
    · cases e <;> exact Ends.throw rfl
  refine hsnoop.after (fun k' c hk' => ?_) fun _ _ hk' => .inl hk'
  rw [hk']
  refine (ends_wait (by omega)).after ?_ fun _ _ he => .inr ⟨c, he⟩
  rintro k₁ - ⟨t₁, ht₁, rfl⟩
  refine (ends_setVar ht₁ (by decide)).after ?_ fun _ _ he => .inr ⟨c, he⟩
  rintro k₂ - ⟨t₂, ht₂, rfl⟩
  refine (ends_setVar ht₂ (by decide)).after ?_ fun _ _ he => .inr ⟨c, he⟩
  rintro k₃ - ⟨t₃, ht₃, rfl⟩
  exact Ends.pure ⟨t₃, ht₃, rfl⟩

/-- Where a new channel is not asked to go, nothing is undone. -/
theorem not_undone (hchannels : k.channels = [c]) (hhungUp : k.hungUp = []) : ¬ k.Undone := by
  intro hundone
  have hmem : c ∈ k.hungUp := hundone.2 c (by rw [hchannels]; exact List.mem_singleton_self c)
  rw [hhungUp] at hmem
  cases hmem

/-! ## Creating -/

/-- The deeds after the object was destroyed. -/
def Deeds.Destroying (k : Deeds) (snoop : Snoop) (k' : Deeds) : Prop :=
  k'.bridges = k.bridges ∧ k'.channels = k.channels ∧
    k'.destroyed = k.destroyed ++ snoop.bridge.toList ∧
      k'.hungUp = k.hungUp ++ snoop.snoopChannel.toList ∧ (k'.Prepared ↔ k.Prepared)

/-- An object that is destroyed lets its bridge and its channel go. -/
theorem ends_destroy :
    Ends Compensates Deeds.note (fun k' _ => k.Destroying snoop k') (fun _ _ => False) k
      snoop.destroy := by
  have hbridge : Ends Compensates Deeds.note
      (fun k' _ => k' = { k with destroyed := k.destroyed ++ snoop.bridge.toList })
      (fun _ _ => False) k
      (ifSet snoop.bridge fun bridge =>
        ignoring SnoopExn.isNotFound (askAri (.destroy bridge))) := by
    cases snoop.bridge with
    | none => exact Ends.pure (by simp)
    | some bridge =>
      refine Ends.ignoring (Ends.request (fun _ _ => rfl) fun e he => ?_)
      obtain rfl : e = .ariNotFound := he
      exact rfl
  refine hbridge.after (fun k₁ _ hk₁ => ?_) fun _ _ he => he
  subst hk₁
  cases hchannel : snoop.snoopChannel with
  | none => exact Ends.pure ⟨rfl, rfl, rfl, by simp [hchannel], Iff.rfl⟩
  | some channel =>
    refine Ends.ignoring (Ends.request (fun _ _ => ?_) fun e he => ?_)
    · exact ⟨rfl, rfl, rfl, by simp [Deeds.note, hchannel], .rfl⟩
    · obtain rfl : e = .ariNotFound := he
      exact ⟨rfl, rfl, rfl, by simp [Deeds.note, hchannel], .rfl⟩

/-- A part of a creation: what it raises leaves the object to be destroyed. -/
theorem ends_underHandler {Q : Deeds → α → Prop} {E : Deeds → SnoopExn → Prop}
    {p : SnoopCode α} (hp : Ends Compensates Deeds.note Q E k p) :
    Ends Compensates Deeds.note Q (fun k' e => ∃ k₁, E k₁ e ∧ k₁.Destroying snoop k') k
      (underHandler Snoop.destroy snoop p) := by
  refine Ends.tryCatch (hp.mono (fun _ _ h => h) fun k₁ e he => ?_)
  exact ends_destroy.after (fun k' _ hk' => Ends.throw ⟨k₁, he, hk'⟩) fun _ _ hf => hf.elim

/-- How a creation raises. -/
def CreationRaises (k : Deeds) (_ : SnoopExn) : Prop := k.Undone ↔ k.Prepared

/-- What was created is undone where the object has all of it. -/
theorem creationRaises_of_undone {k' : Deeds} {e : SnoopExn} (h : k.Destroying snoop k')
    (hprepared : k.Prepared) (hdestroyed : k.bridges = snoop.bridge.toList)
    (hhungUp : k.channels = snoop.snoopChannel.toList) : CreationRaises k' e := by
  obtain ⟨hb, hc, hd, hu, hiff⟩ := h
  refine iff_of_true ⟨fun b hmem => ?_, fun c hmem => ?_⟩ (hiff.mpr hprepared)
  · rw [hb, hdestroyed] at hmem
    rw [hd]
    exact List.mem_append_right _ hmem
  · rw [hc, hhungUp] at hmem
    rw [hu]
    exact List.mem_append_right _ hmem

/-- The part that makes the bridge. -/
theorem ends_createBridge (hbridge : snoop.bridge = none) (hchannel : snoop.snoopChannel = none) :
    Ends Compensates Deeds.note
      (fun k s => k = { bridges := [snoop.uuid], changed := true } ∧
        s = { snoop with bridge := some snoop.uuid })
      CreationRaises {} (createBridge application Snoop.destroy snoop) := by
  have hcreate : Ends Compensates Deeds.note (fun k' _ => k' = { bridges := [snoop.uuid] })
      (fun k' _ => k' = {}) {}
      (askAri (.createWithId snoop.uuid application.bridgeName "mixing")) :=
    Ends.request (fun _ _ => rfl) fun _ _ => rfl
  refine (ends_underHandler hcreate).after ?_ ?_
  swap
  · rintro k' e ⟨k₁, rfl, hdestroying⟩
    exact creationRaises_of_undone hdestroying (prepared_of_fresh rfl rfl) (by rw [hbridge]; rfl)
      (by rw [hchannel]; rfl)
  rintro k - rfl
  have hadd : Ends Compensates Deeds.note
      (fun k' _ => k' = { bridges := [snoop.uuid], changed := true })
      (fun k' _ => k' = { bridges := [snoop.uuid], unmoved := true })
      { bridges := [snoop.uuid] }
      (tryCatch (askAri (.addChannel snoop.uuid snoop.snoopingCallId)) fun
        | .httpError 400 => throw (.noSuchCall snoop.snoopingCallId 400)
        | e => throw e) := by
    refine Ends.tryCatch (Ends.request (fun _ _ => rfl) fun e _ => ?_)
    split <;> exact Ends.throw rfl
  refine (ends_underHandler hadd).after ?_ ?_
  · rintro k - rfl
    exact Ends.pure ⟨rfl, rfl⟩
  · rintro k' e ⟨k₁, rfl, hdestroying⟩
    exact creationRaises_of_undone hdestroying (prepared_of_fresh rfl rfl) rfl (by rw [hchannel]; rfl)

theorem ends_createSnoop {snoopedCallId snoopingCallId uuid : String} :
    Ends Compensates Deeds.note (fun k _ => k.Prepared) CreationRaises {}
      (createSnoop application snoopedCallId snoopingCallId whisperMode uuid) := by
  have hvalidate : Ends Compensates Deeds.note (fun k' _ => k' = {}) (fun k' _ => k' = {}) {}
      (validateOwnership application snoopedCallId (some snoopingCallId)) := by
    unfold validateOwnership
    split
    · exact Ends.throw rfl
    · dsimp only
      split
      · exact Ends.throw rfl
      · exact Ends.pure rfl
  refine hvalidate.after ?_ fun k e hk => ?_
  swap
  · subst hk
    exact iff_of_true ⟨by simp, by simp⟩ (prepared_of_fresh rfl rfl)
  rintro k - rfl
  refine (ends_createBridge rfl rfl).after ?_ fun _ _ he => he
  rintro k snoop ⟨rfl, rfl⟩
  dsimp only
  refine (ends_underHandler (ends_newSnoopChannel rfl rfl rfl)).after ?_ ?_
  swap
  · rintro k' e ⟨k₁, rfl | ⟨c, t, u, rfl, hnot⟩, hdestroying⟩
    · exact creationRaises_of_undone hdestroying (prepared_of_fresh rfl rfl) rfl rfl
    · -- the object does not have the new channel yet
      obtain ⟨-, hchannels, -, hhungUp, hiff⟩ := hdestroying
      exact iff_of_false (not_undone hchannels hhungUp) (mt hiff.mp hnot)
  rintro k c ⟨t, ht, rfl⟩
  have hadd : Ends Compensates Deeds.note
      (fun k' _ => k'.Prepared)
      (fun k' _ => k' = { Deeds.created { bridges := [uuid], changed := true } c t false with
        unmoved := true })
      (Deeds.created { bridges := [uuid], changed := true } c t false)
      (do
        askAri (.addChannel uuid c)
        ifSet none fun channel => askAri (.hangup channel)) :=
    Ends.bind (Ends.request (fun _ _ => Ends.pure ⟨rfl, ht⟩) fun _ _ => rfl)
  refine (ends_underHandler hadd).after (fun _ _ h => Ends.pure h) ?_
  rintro k' e ⟨k₁, rfl, hdestroying⟩
  exact creationRaises_of_undone hdestroying ⟨rfl, ht⟩ rfl rfl

/-! ## Editing -/

/-- How an edition raises. -/
def EditionRaises (k : Deeds) (_ : SnoopExn) : Prop :=
  (k.Undone ∧ k.changed = false) ↔ (k.Prepared ∧ k.unmoved = false)

/-- What does nothing but read. -/
def Reads (r : SnoopRequest) : Prop := ∀ k x, Deeds.note k r x = k

theorem members_reads {channels : List String} {snoopChannel snoopingCallId : Option String} :
    (members channels snoopChannel snoopingCallId).Asks Reads := by
  induction channels generalizing snoopChannel snoopingCallId with
  | nil => exact Asks.pure _
  | cons channelId channels ih =>
    refine Asks.bind (Asks.catching (Asks.request fun _ _ => rfl)) fun name => ?_
    cases name with
    | none => exact ih
    | some name =>
      dsimp only
      split
      · exact ih
      · exact ih

/-- The snoop of a bridge has this bridge. -/
theorem ends_fromBridge {bridge : SnoopBridge} :
    Ends C Deeds.note (fun k' s => k' = k ∧ s.bridge = some bridge.id) (fun k' _ => k' = k) k
      (fromBridge bridge) := by
  refine (Ends.of_asks members_reads fun r hr x => hr k x).after ?_ fun _ _ he => he
  rintro k₁ ⟨snoopChannel, snoopingCallId⟩ rfl
  cases snoopChannel with
  | none => exact Ends.throw rfl
  | some channel =>
    refine Ends.bind (Ends.request (fun snoopedCallId _ => ?_) fun _ _ => rfl)
    refine Ends.bind (Ends.request (fun whisperMode _ => ?_) fun _ _ => rfl)
    cases snoopingCallId with
    | none => exact Ends.throw rfl
    | some snoopingCallId => exact Ends.pure ⟨rfl, rfl⟩

theorem ends_getFrom {snoopUuid : String} {bridges : List SnoopBridge} :
    Ends C Deeds.note (fun k' s => k' = k ∧ s.bridge.isSome) (fun k' _ => k' = k) k
      (getFrom snoopUuid bridges) := by
  induction bridges with
  | nil => exact Ends.throw rfl
  | cons bridge bridges ih =>
    unfold getFrom
    split
    · exact ih
    · refine Ends.bind (Ends.catching (ends_fromBridge.mono (fun k' s hs => ?_) fun k' e hk' => ?_))
      · obtain ⟨rfl, hbridge⟩ := hs
        exact Ends.pure ⟨rfl, by rw [hbridge]; rfl⟩
      · subst hk'
        split
        · exact ih
        · rfl

/-- Finding a snoop does nothing. -/
theorem ends_getSnoop {snoopUuid : String} :
    Ends C Deeds.note (fun k' s => k' = k ∧ s.bridge.isSome) (fun k' _ => k' = k) k
      (getSnoop application snoopUuid) :=
  Ends.bind (Ends.bind (Ends.request (fun _ _ => Ends.pure ends_getFrom) fun _ _ => rfl))

theorem ends_editSnoop {snoopUuid : String} :
    Ends C Deeds.note (fun k _ => k.Prepared ∧ k.unmoved = false) EditionRaises {}
      (editSnoop application snoopUuid whisperMode) := by
  have hnothing {e : SnoopExn} : EditionRaises {} e :=
    iff_of_true ⟨⟨by simp, by simp⟩, rfl⟩ ⟨prepared_of_fresh rfl rfl, rfl⟩
  refine ends_getSnoop.after ?_ ?_
  swap
  · rintro k e rfl
    exact hnothing
  rintro k snoop ⟨rfl, hbridge⟩
  obtain ⟨bridge, hbridge⟩ := Option.isSome_iff_exists.mp hbridge
  have hvalidate : Ends C Deeds.note (fun k' _ => k' = {}) (fun k' _ => k' = {}) {}
      (validateOwnership application snoop.snoopedCallId none) := by
    unfold validateOwnership
    split
    · exact Ends.throw rfl
    · exact Ends.pure rfl
  refine hvalidate.after ?_ ?_
  swap
  · rintro k e rfl
    exact hnothing
  rintro k - rfl
  refine (ends_newSnoopChannel rfl rfl rfl).after ?_ ?_
  swap
  · rintro k e (rfl | ⟨c, t, u, rfl, hnot⟩)
    · exact hnothing
    · exact iff_of_false (fun h => not_undone rfl rfl h.1) fun h => hnot h.1
  rintro k c ⟨t, ht, rfl⟩
  unfold updateSnoopChannel
  dsimp only
  rw [hbridge]
  refine Ends.bind (Ends.tryCatch (Ends.bind (Ends.request (fun _ _ => ?_) fun e _ => ?_)))
  · -- the new channel is in the bridge now
    cases snoop.snoopChannel with
    | none => exact Ends.pure (Ends.pure ⟨⟨rfl, ht⟩, rfl⟩)
    | some old =>
      refine Ends.request (fun _ _ => Ends.pure ⟨⟨rfl, ht⟩, rfl⟩) fun e _ => Ends.throw ?_
      exact iff_of_false (fun h => by cases h.2) fun h => by cases h.2
  · exact Ends.throw (iff_of_false (fun h => not_undone rfl rfl h.1) fun h => by cases h.2)

/-- **A creation that raises has undone what it has made exactly when no new Snoop channel has
failed before it was ready for the bridge; an edition, when the channel has also come to the
bridge and the old one has gone**, whatever else fails. -/
theorem snoop_atomic_iff (application : SnoopApplication) (whisperMode : String)
    (l : List SnoopExchange) (y : Except SnoopExn Snoop) :
    (∀ snoopedCallId snoopingCallId uuid,
      (createSnoop application snoopedCallId snoopingCallId whisperMode uuid).Comes l y →
      (∀ x ∈ l, Compensates x.request x.answer) → (CreateAtomic l y ↔ (deeds l).Prepared)) ∧
    ∀ snoopUuid, (editSnoop application snoopUuid whisperMode).Comes l y →
      (EditAtomic l y ↔ (deeds l).Prepared ∧ (deeds l).unmoved = false) := by
  constructor
  · intro snoopedCallId snoopingCallId uuid hcomes hcompensates
    have hcloses := ends_createSnoop.comes hcomes hcompensates
    cases y with
    | ok snoop => exact iff_of_true (fun e he => by cases he) hcloses
    | error e => exact Iff.trans ⟨fun h => h e rfl, fun h e' _ => h⟩ hcloses
  · intro snoopUuid hcomes
    have hcloses := (ends_editSnoop (C := fun _ _ => True)).comes hcomes fun _ _ => trivial
    cases y with
    | ok snoop => exact iff_of_true (fun e he => by cases he) hcloses
    | error e => exact Iff.trans ⟨fun h => h e rfl, fun h e' _ => h⟩ hcloses

end Contracts

/-! ## A new channel that is left -/

/-- A snoop is there, a new Snoop channel can be made, and some requests are refused. -/
def refusing (refused : SnoopRequest → Bool) (_ : Unit) (r : SnoopRequest) :
    Except SnoopExn r.Reply × Unit :=
  (if refused r then .error .ariNotFound
    else match r with
      | .snoopChannel .. => .ok "new-spy"
      | r => (snoopingWith ["supervisor"]).answer r, ())

/-- The requests on the way of a new channel: a variable, or its coming into the bridge. -/
def isVariable : SnoopRequest → Bool
  | .setChannelVar _ variable_ _ => variable_ = whisperModeVar
  | _ => false

def isArrival : SnoopRequest → Bool
  | .addChannel _ channel => channel = "new-spy"
  | _ => false

/-- The dialogue of the creation, and of the edition, and how they end. -/
def creating (refused : SnoopRequest → Bool) : List SnoopExchange × Except SnoopExn Snoop :=
  let p := createSnoop someApplication "caller" "supervisor" "in" "other-snoop"
  (dialogue (refusing refused) p (), (exec (refusing refused) p ()).1)

def editing (refused : SnoopRequest → Bool) : List SnoopExchange × Except SnoopExn Snoop :=
  let p := editSnoop someApplication "snoop" "in"
  (dialogue (refusing refused) p (), (exec (refusing refused) p ()).1)

/-- **Where a variable of the new channel cannot be set, the creation leaves the channel; where
it cannot come into the bridge, so does the edition.** -/
theorem new_channel_left :
    ¬ CreateAtomic (creating isVariable).1 (creating isVariable).2 ∧
      ¬ EditAtomic (editing isArrival).1 (editing isArrival).2 := by
  constructor
  · intro hatomic
    have hundone : (deeds (creating isVariable).1).Undone := hatomic .ariNotFound rfl
    exact not_undone (c := "new-spy") rfl rfl hundone
  · intro hatomic
    have hundone : (deeds (editing isArrival).1).Undone := (hatomic .ariNotFound rfl).1
    exact not_undone (c := "new-spy") rfl rfl hundone

/-- Where the new channel cannot come into the bridge, the creation is undone. -/
theorem snoop_atomic_iff_arrival :
    (creating isArrival).2 = .error .ariNotFound ∧
      CreateAtomic (creating isArrival).1 (creating isArrival).2 := by
  have hcomes := comes_dialogue (refusing isArrival)
    (createSnoop someApplication "caller" "supervisor" "in" "other-snoop") ()
  have hcompensates : ∀ x ∈ (creating isArrival).1, Compensates x.request x.answer := by
    refine forall_mem_dialogue (fun _ r => ?_) _ _
    cases r <;> exact trivial
  refine ⟨rfl, ?_⟩
  exact ((snoop_atomic_iff someApplication "in" _ _).1 _ _ _ hcomes hcompensates).mpr
    ⟨rfl, by decide⟩

end Calld.Applications
