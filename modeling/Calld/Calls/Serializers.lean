/-
# The three serializers of a call

A call is built from a channel while it lives, from the event of its destruction, and from
the channel that such an event carries.  The three mappings read the same snapshot: the first
one through the channel helper, which asks Asterisk for what the snapshot does not embed.
-/
import Calld.Ari.Channel

namespace Calld.Serializers

open Calld.Ari

/-! ## The call -/

/-- A line is a number in a call that lives, and a text in one that has ended. -/
inductive LineId where
  | number (n : Int)
  | text (s : String)
  deriving DecidableEq, Repr

/-- `Call`. -/
structure Call where
  id : String
  conversationId : Option String := none
  creationTime : Option String := none
  bridges : List String := []
  status : String := "Down"
  talkingTo : List (String × Option String) := []
  userUuid : Option String := none
  tenantUuid : Option String := none
  callerIdName : String := ""
  callerIdNumber : String := ""
  peerCallerIdName : String := ""
  peerCallerIdNumber : String := ""
  onHold : Bool := false
  muted : Bool := false
  recordState : String := "inactive"
  isCaller : Bool := false
  dialedExtension : Option String := none
  sipCallId : Option String := none
  lineId : Option LineId := none
  isVideo : Bool := false
  answerTime : Option String := none
  hangupTime : Option String := none
  direction : String := "unknown"
  isLocal : Bool := false
  isAutoprov : Bool := false
  parked : Bool := false
  deriving DecidableEq, Repr

/-- `AUTOPROV_CONTEXT`. -/
def autoprovContext : String := "xivo-provisioning"

/-- `value or None`. -/
def orNone (value : Option String) : Option String := value.filter (· ≠ "")

/-- `_conversation_direction_from_directions`. -/
def conversationDirectionFromDirections (directions : List String) : String :=
  if "outbound" ∈ directions ∧ "inbound" ∈ directions then "unknown"
  else if "outbound" ∈ directions then "outbound"
  else if "inbound" ∈ directions then "inbound"
  else "internal"

/-- `conversation_direction_from_channels`. -/
def conversationDirectionFromChannels (ari : Asterisk) (channels : List String)
    (channelsById : String → Option Snapshot) : String :=
  conversationDirectionFromDirections <| channels.filterMap fun channelId =>
    orNone (Channel.getVar ⟨channelId, ari, channelsById channelId⟩ "WAZO_CALL_DIRECTION")

/-- `WAZO_CONVERSATION_DIRECTION`, or what the channels say. -/
def directionOf (channel : Snapshot) (fromChannels : String) : String :=
  match orNone (channel.channelvars "WAZO_CONVERSATION_DIRECTION") with
  | some direction => direction
  | none => if fromChannels ≠ "" then fromChannels else "unknown"

/-- `make_call_from_channel`. -/
def makeCallFromChannel (ari : Asterisk) (channel : Snapshot) (bridges : Option (List Bridge))
    (channelsById : String → Option Snapshot) : Call :=
  let bridges := bridges.getD ari.bridges
  let helper : Channel := ⟨channel.id, ari, some channel⟩
  let connected := helper.connectedChannels bridges channelsById
  { id := channel.id
    conversationId := helper.conversationId
    creationTime := some channel.creationtime
    answerTime := orNone (channel.channelvars "WAZO_ANSWER_TIME")
    status := channel.state
    isLocal := "Local/".isPrefixOf channel.name
    callerIdName := channel.caller.name
    callerIdNumber := channel.caller.number
    peerCallerIdName := channel.connected.name
    peerCallerIdNumber := channel.connected.number
    userUuid := helper.user none
    tenantUuid := helper.tenantUuid none
    isAutoprov := channel.dialplan.context = autoprovContext
    onHold := helper.onHold
    muted := helper.muted
    parked := helper.parked
    recordState :=
      if channel.channelvars "WAZO_RECORDING_PAUSED" = some "1" then "paused"
      else if channel.channelvars "WAZO_CALL_RECORD_ACTIVE" = some "1" then "active"
      else "inactive"
    bridges := (bridges.filter (channel.id ∈ ·.channels)).map (·.id)
    talkingTo := connected.map fun other => (other.id, other.user none)
    isCaller := helper.isCaller
    isVideo := channel.channelvars "CHANNEL(videonativeformat)" ≠ some "(nothing)"
    dialedExtension := helper.dialedExtension
    sipCallId := helper.sipCallId
    lineId := helper.lineId.map .number
    direction := directionOf channel <|
      conversationDirectionFromChannels ari (channel.id :: connected.map (·.id)) fun channelId =>
        (channelsById channelId).or (if channelId = channel.id then some channel else none) }

/-- `channel_destroyed_event`, at a time. -/
def channelDestroyedEvent (ari : Asterisk) (channel : Snapshot) (now : String) : Call :=
  let helper : Channel := ⟨channel.id, ari, none⟩
  let connected := helper.connectedChannels ari.bridges fun _ => none
  { id := channel.id
    conversationId := channel.channelvars "CHANNEL(linkedid)"
    status := channel.state
    callerIdName := channel.connected.name
    callerIdNumber := channel.connected.number
    peerCallerIdName := channel.caller.name
    peerCallerIdNumber := channel.caller.number
    userUuid := (orNone (channel.channelvars "WAZO_DEREFERENCED_USERUUID")).or
      (orNone (channel.channelvars "WAZO_USERUUID"))
    tenantUuid := orNone (channel.channelvars "WAZO_TENANT_UUID")
    dialedExtension := orNone (channel.channelvars "WAZO_ENTRY_EXTEN")
    sipCallId := channel.channelvars "WAZO_SIP_CALL_ID"
    lineId := (orNone (channel.channelvars "WAZO_LINE_ID")).map .text
    creationTime := some channel.creationtime
    answerTime := orNone (channel.channelvars "WAZO_ANSWER_TIME")
    isAutoprov := channel.dialplan.context = autoprovContext
    hangupTime := some now
    isVideo := channel.channelvars "CHANNEL(videonativeformat)" ≠ some "(nothing)"
    isCaller := channel.channelvars "WAZO_CHANNEL_DIRECTION" = some "to-wazo"
    direction := directionOf channel <|
      conversationDirectionFromChannels ari (channel.id :: connected.map (·.id)) fun _ => none }

/-- `make_call_from_dead_channel`. -/
def makeCallFromDeadChannel (channel : Snapshot) : Call where
  id := channel.id
  conversationId := orNone (channel.channelvars "CHANNEL(linkedid)")
  isVideo := channel.channelvars "CHANNEL(videonativeformat)" ≠ some "(nothing)"
  creationTime := some channel.creationtime
  status := channel.state
  callerIdName := channel.caller.name
  callerIdNumber := channel.caller.number
  peerCallerIdName := channel.connected.name
  peerCallerIdNumber := channel.connected.number
  userUuid := (orNone (channel.channelvars "WAZO_DEREFERENCED_USERUUID")).or
    (orNone (channel.channelvars "WAZO_USERUUID"))
  tenantUuid := orNone (channel.channelvars "WAZO_TENANT_UUID")
  dialedExtension := orNone (channel.channelvars "WAZO_ENTRY_EXTEN")
  sipCallId := orNone (channel.channelvars "WAZO_SIP_CALL_ID")
  lineId := (orNone (channel.channelvars "WAZO_LINE_ID")).map .text
  direction := directionOf channel "unknown"

/-! ## Agreement -/

/-- The fields that all three fill agree. -/
structure Call.Agrees (call live : Call) : Prop where
  conversationId : call.conversationId = live.conversationId
  creationTime : call.creationTime = live.creationTime
  callerIdName : call.callerIdName = live.callerIdName
  callerIdNumber : call.callerIdNumber = live.callerIdNumber
  peerCallerIdName : call.peerCallerIdName = live.peerCallerIdName
  peerCallerIdNumber : call.peerCallerIdNumber = live.peerCallerIdNumber
  userUuid : call.userUuid = live.userUuid
  tenantUuid : call.tenantUuid = live.tenantUuid
  dialedExtension : call.dialedExtension = live.dialedExtension
  sipCallId : call.sipCallId = live.sipCallId
  lineId : call.lineId = live.lineId
  isVideo : call.isVideo = live.isVideo

/-- So do those that the event of the destruction fills beside them. -/
structure Call.AgreesEnded (call live : Call) : Prop extends call.Agrees live where
  answerTime : call.answerTime = live.answerTime
  isAutoprov : call.isAutoprov = live.isAutoprov
  isCaller : call.isCaller = live.isCaller

/-- The value of a variable that is embedded and not empty. -/
def given (channel : Snapshot) (x : String) : Option String := orNone (channel.channelvars x)

/-- The value of a variable that is not embedded, and only Asterisk has. -/
def missing (ari : Asterisk) (channel : Snapshot) (x : String) : Option String :=
  if channel.channelvars x = none then ari.getChannelVar channel.id x else none

/-- The value of a variable, from either. -/
def known (ari : Asterisk) (channel : Snapshot) (x : String) : Option String :=
  (given channel x).or (missing ari channel x)

/-- The user that both the dereferenced and the plain variable give is the one that the name
of the channel asks for. -/
def UserAligned (ari : Asterisk) (channel : Snapshot) : Prop :=
  if "Local/".isPrefixOf channel.name then
    given channel "WAZO_DEREFERENCED_USERUUID" = none →
      given channel "WAZO_USERUUID" = missing ari channel "WAZO_DEREFERENCED_USERUUID"
  else
    match given channel "WAZO_DEREFERENCED_USERUUID" with
    | some uuid => known ari channel "WAZO_USERUUID" = some uuid
    | none => missing ari channel "WAZO_USERUUID" = none

/-- The call id is embedded for a SIP channel that has one, and for no other channel. -/
def SipAligned (ari : Asterisk) (channel : Snapshot) : Prop :=
  if known ari channel "CHANNEL(channeltype)" = some "PJSIP" then
    channel.channelvars "WAZO_SIP_CALL_ID" ≠ some "" ∧
      (channel.channelvars "WAZO_SIP_CALL_ID" = none →
        missing ari channel "WAZO_SIP_CALL_ID" = none ∧
          known ari channel "CHANNEL(pjsip,call-id)" = none)
  else channel.channelvars "WAZO_SIP_CALL_ID" = none

/-- The outgoing flag, where there is one, tells what the direction tells. -/
def CallerAligned (ari : Asterisk) (channel : Snapshot) : Prop :=
  match known ari channel "WAZO_USER_OUTGOING_CALL" with
  | some outgoing => outgoing = "true" ↔ given channel "WAZO_CHANNEL_DIRECTION" = some "to-wazo"
  | none => missing ari channel "WAZO_CHANNEL_DIRECTION" ≠ some "to-wazo"

instance (ari : Asterisk) (channel : Snapshot) : Decidable (UserAligned ari channel) := by
  unfold UserAligned
  split
  · infer_instance
  · split <;> infer_instance

instance (ari : Asterisk) (channel : Snapshot) : Decidable (SipAligned ari channel) := by
  unfold SipAligned
  split <;> infer_instance

instance (ari : Asterisk) (channel : Snapshot) : Decidable (CallerAligned ari channel) := by
  unfold CallerAligned
  split <;> infer_instance

/-- What the snapshot of a channel has to be like. -/
structure Aligned (ari : Asterisk) (channel : Snapshot) : Prop where
  /-- the two sides cannot be told apart -/
  parties : channel.connected = channel.caller
  conversation : channel.channelvars "CHANNEL(linkedid)" ≠ some "" ∧
    missing ari channel "CHANNEL(linkedid)" = none
  user : UserAligned ari channel
  tenant : missing ari channel "WAZO_TENANT_UUID" = none
  exten : given channel "WAZO_ENTRY_EXTEN" ≠ none
  sip : SipAligned ari channel
  /-- there is no line -/
  line : given channel "WAZO_LINE_ID" = none ∧
    (missing ari channel "WAZO_LINE_ID").bind int = none
  caller : CallerAligned ari channel

/-! ## The fields -/

section Fields

variable {ari : Asterisk} {channel : Snapshot} {x value : String}

/-- The helper that a live call is built with. -/
def helper (ari : Asterisk) (channel : Snapshot) : Channel := ⟨channel.id, ari, some channel⟩

theorem given_some (h : channel.channelvars x = some value) (hvalue : value ≠ "") :
    given channel x = some value := by
  simp [given, orNone, h, Option.filter, hvalue]

theorem given_empty (h : channel.channelvars x = some "") : given channel x = none := by
  simp [given, orNone, h, Option.filter]

theorem given_none (h : channel.channelvars x = none) : given channel x = none := by
  simp [given, orNone, h]

/-- An embedded variable has a value, or is empty, or is not embedded. -/
theorem channelvars_cases (channel : Snapshot) (x : String) :
    (∃ value, value ≠ "" ∧ channel.channelvars x = some value ∧ given channel x = some value) ∨
    (channel.channelvars x = some "" ∧ given channel x = none) ∨
    (channel.channelvars x = none ∧ given channel x = none) := by
  cases h : channel.channelvars x with
  | none => exact .inr (.inr ⟨rfl, given_none h⟩)
  | some value =>
    by_cases hvalue : value = ""
    · subst hvalue
      exact .inr (.inl ⟨rfl, given_empty h⟩)
    · exact .inl ⟨value, hvalue, rfl, given_some h hvalue⟩

/-- The helper reads the variable from either. -/
theorem helper_getVar (x : String) : (helper ari channel).getVar x = known ari channel x := by
  have hread : (helper ari channel).getVar x =
      match channel.channelvars x with
      | some value => if value ≠ "" then some value else none
      | none => ari.getChannelVar channel.id x := rfl
  unfold known missing
  rw [hread]
  obtain ⟨value, hvalue, h, hgiven⟩ | ⟨h, hgiven⟩ | ⟨h, hgiven⟩ := channelvars_cases channel x
  · simp [h, hgiven, hvalue]
  · simp [h, hgiven]
  · simp [h, hgiven]

/-- What the snapshot gives is all that is known, unless only Asterisk has a value. -/
theorem given_eq_known_iff :
    given channel x = known ari channel x ↔ missing ari channel x = none := by
  unfold known missing
  obtain ⟨value, hvalue, h, hgiven⟩ | ⟨h, hgiven⟩ | ⟨h, hgiven⟩ := channelvars_cases channel x
  · simp [h, hgiven]
  · simp [h, hgiven]
  · simp [h, hgiven, eq_comm]

/-- A variable as it is embedded, and what is known of it. -/
theorem channelvars_eq_known_iff :
    channel.channelvars x = known ari channel x ↔
      channel.channelvars x ≠ some "" ∧ missing ari channel x = none := by
  unfold known missing
  obtain ⟨value, hvalue, h, hgiven⟩ | ⟨h, hgiven⟩ | ⟨h, hgiven⟩ := channelvars_cases channel x
  · simp [h, hgiven, hvalue]
  · simp [h, hgiven]
  · simp [h, hgiven, eq_comm]

/-- What is read with the default none is what is known. -/
theorem helper_tenantUuid : (helper ari channel).tenantUuid none =
    known ari channel "WAZO_TENANT_UUID" := by
  unfold Channel.tenantUuid
  rw [helper_getVar]
  cases known ari channel "WAZO_TENANT_UUID" <;> rfl

theorem helper_user : (helper ari channel).user none =
    if "Local/".isPrefixOf channel.name then known ari channel "WAZO_DEREFERENCED_USERUUID"
    else known ari channel "WAZO_USERUUID" := by
  have hlocal : (helper ari channel).isLocal = "Local/".isPrefixOf channel.name := rfl
  unfold Channel.user
  rw [hlocal, helper_getVar, helper_getVar]
  split
  · cases known ari channel "WAZO_DEREFERENCED_USERUUID" <;> rfl
  · cases known ari channel "WAZO_USERUUID" <;> rfl

theorem userUuid_iff :
    (given channel "WAZO_DEREFERENCED_USERUUID").or (given channel "WAZO_USERUUID") =
      (helper ari channel).user none ↔ UserAligned ari channel := by
  rw [helper_user]
  unfold UserAligned
  split
  · unfold known
    cases given channel "WAZO_DEREFERENCED_USERUUID" with
    | some uuid => simp
    | none => simp
  · cases given channel "WAZO_DEREFERENCED_USERUUID" with
    | some uuid => simp [eq_comm]
    | none =>
      rw [Option.none_or]
      exact given_eq_known_iff

/-- The call of a channel always has an extension while it lives. -/
theorem dialedExtension_iff (ari : Asterisk) :
    given channel "WAZO_ENTRY_EXTEN" = (helper ari channel).dialedExtension ↔
      given channel "WAZO_ENTRY_EXTEN" ≠ none := by
  have hexten : (helper ari channel).dialedExtension =
      some ((known ari channel "WAZO_ENTRY_EXTEN").getD channel.dialplan.exten) := by
    unfold Channel.dialedExtension
    rw [helper_getVar]
    cases known ari channel "WAZO_ENTRY_EXTEN" <;> rfl
  rw [hexten]
  constructor
  · intro h hnone
    rw [hnone] at h
    cases h
  · intro h
    obtain ⟨exten, hgiven⟩ := Option.ne_none_iff_exists'.mp h
    simp [known, hgiven]

/-- A number is no text. -/
theorem lineId_iff :
    (given channel "WAZO_LINE_ID").map LineId.text = (helper ari channel).lineId.map .number ↔
      given channel "WAZO_LINE_ID" = none ∧
        (missing ari channel "WAZO_LINE_ID").bind int = none := by
  unfold Channel.lineId
  rw [helper_getVar]
  unfold known
  cases given channel "WAZO_LINE_ID" with
  | some line =>
    rw [Option.some_or, Option.bind_some, Option.map_some]
    cases int line <;> simp
  | none =>
    rw [Option.none_or]
    cases (missing ari channel "WAZO_LINE_ID").bind int <;> simp

theorem sipCallId_iff :
    (channel.channelvars "WAZO_SIP_CALL_ID" = (helper ari channel).sipCallId ∧
      given channel "WAZO_SIP_CALL_ID" = (helper ari channel).sipCallId) ↔
      SipAligned ari channel := by
  have hsip : (helper ari channel).isSip = true ↔
      known ari channel "CHANNEL(channeltype)" = some "PJSIP" := by
    unfold Channel.isSip Channel.flag
    rw [helper_getVar]
    cases known ari channel "CHANNEL(channeltype)" <;> simp
  have hcallId : (helper ari channel).sipCallIdUnsafe =
      (known ari channel "WAZO_SIP_CALL_ID").or (known ari channel "CHANNEL(pjsip,call-id)") := by
    have hread : (helper ari channel).sipCallIdUnsafe =
        match (helper ari channel).getVar "WAZO_SIP_CALL_ID" with
        | some callId => some callId
        | none => (helper ari channel).getVar "CHANNEL(pjsip,call-id)" := rfl
    rw [hread, helper_getVar, helper_getVar]
    cases known ari channel "WAZO_SIP_CALL_ID" <;> rfl
  unfold Channel.sipCallId SipAligned
  by_cases h : known ari channel "CHANNEL(channeltype)" = some "PJSIP"
  · have hknown : known ari channel "WAZO_SIP_CALL_ID" =
        (given channel "WAZO_SIP_CALL_ID").or (missing ari channel "WAZO_SIP_CALL_ID") := rfl
    rw [if_pos h, if_pos (hsip.mpr h), hcallId, hknown]
    generalize known ari channel "CHANNEL(pjsip,call-id)" = callId
    obtain ⟨value, hvalue, hvar, hgiven⟩ | ⟨hvar, hgiven⟩ | ⟨hvar, hgiven⟩ :=
      channelvars_cases channel "WAZO_SIP_CALL_ID"
    · simp [hvar, hgiven, hvalue]
    · simp only [hvar, hgiven, missing, Option.none_or]
      -- the empty text is no answer
      cases callId <;> simp
    · rw [hvar, hgiven, Option.none_or]
      cases missing ari channel "WAZO_SIP_CALL_ID" <;> cases callId <;> simp
  · rw [if_neg h, if_neg (fun e => h (hsip.mp e))]
    constructor
    · rintro ⟨hvar, -⟩
      exact hvar
    · intro hvar
      exact ⟨hvar, given_none hvar⟩

theorem isCaller_iff :
    decide (channel.channelvars "WAZO_CHANNEL_DIRECTION" = some "to-wazo") =
      (helper ari channel).isCaller ↔ CallerAligned ari channel := by
  have hgiven : channel.channelvars "WAZO_CHANNEL_DIRECTION" = some "to-wazo" ↔
      given channel "WAZO_CHANNEL_DIRECTION" = some "to-wazo" := by
    obtain ⟨value, hvalue, h, hgiven⟩ | ⟨h, hgiven⟩ | ⟨h, hgiven⟩ :=
      channelvars_cases channel "WAZO_CHANNEL_DIRECTION"
    · rw [h, hgiven]
    · simp [h, hgiven]
    · simp [h, hgiven]
  unfold Channel.isCaller CallerAligned
  rw [helper_getVar, helper_getVar]
  cases known ari channel "WAZO_USER_OUTGOING_CALL" with
  | some outgoing =>
    dsimp only
    rw [decide_eq_decide, hgiven]
    exact ⟨Iff.symm, Iff.symm⟩
  | none =>
    dsimp only
    obtain ⟨value, hvalue, h, hgiven⟩ | ⟨h, hgiven⟩ | ⟨h, hgiven⟩ :=
      channelvars_cases channel "WAZO_CHANNEL_DIRECTION"
    · simp [h, hgiven, known, missing]
    · simp [h, hgiven, known, missing]
    · rw [h, known, hgiven, Option.none_or]
      cases missing ari channel "WAZO_CHANNEL_DIRECTION" <;> simp

end Fields

/-! ## The serializers -/

/-- **The three serializers agree** on a snapshot, on all fields that they share, exactly when
the two parties are the same, an extension is embedded and a line is not, the variables of
the conversation, the tenant and the user are embedded, and those of the user, of the SIP
call and of the caller do not contradict one another. -/
theorem serializers_agree_iff (ari : Asterisk) (channel : Snapshot)
    (bridges : Option (List Bridge)) (channelsById : String → Option Snapshot) (now : String) :
    ((channelDestroyedEvent ari channel now).AgreesEnded
        (makeCallFromChannel ari channel bridges channelsById) ∧
      (makeCallFromDeadChannel channel).Agrees
        (makeCallFromChannel ari channel bridges channelsById)) ↔
      Aligned ari channel := by
  constructor
  · rintro ⟨ended, dead⟩
    exact
      { parties := by
          have hname : channel.connected.name = channel.caller.name := ended.callerIdName
          have hnumber : channel.connected.number = channel.caller.number := ended.callerIdNumber
          cases hconnected : channel.connected
          cases hcaller : channel.caller
          rw [hconnected, hcaller] at hname hnumber
          cases hname
          cases hnumber
          rfl
        conversation := by
          rw [← channelvars_eq_known_iff, ← helper_getVar]
          exact ended.conversationId
        user := userUuid_iff.mp dead.userUuid
        tenant := by
          rw [← given_eq_known_iff, ← helper_tenantUuid]
          exact dead.tenantUuid
        exten := (dialedExtension_iff ari).mp dead.dialedExtension
        sip := sipCallId_iff.mp ⟨ended.sipCallId, dead.sipCallId⟩
        line := lineId_iff.mp dead.lineId
        caller := isCaller_iff.mp ended.isCaller }
  · intro h
    have hconversation : channel.channelvars "CHANNEL(linkedid)" =
        (helper ari channel).conversationId := by
      unfold Channel.conversationId
      rw [helper_getVar]
      exact channelvars_eq_known_iff.mpr h.conversation
    have hdead : (makeCallFromDeadChannel channel).Agrees
        (makeCallFromChannel ari channel bridges channelsById) :=
      { conversationId := by
          show given channel "CHANNEL(linkedid)" = (helper ari channel).conversationId
          unfold Channel.conversationId
          rw [helper_getVar]
          exact given_eq_known_iff.mpr h.conversation.2
        creationTime := rfl
        callerIdName := rfl
        callerIdNumber := rfl
        peerCallerIdName := rfl
        peerCallerIdNumber := rfl
        userUuid := userUuid_iff.mpr h.user
        tenantUuid := by
          show given channel "WAZO_TENANT_UUID" = (helper ari channel).tenantUuid none
          rw [helper_tenantUuid]
          exact given_eq_known_iff.mpr h.tenant
        dialedExtension := (dialedExtension_iff ari).mpr h.exten
        sipCallId := (sipCallId_iff.mpr h.sip).2
        lineId := lineId_iff.mpr h.line
        isVideo := rfl }
    refine ⟨?_, hdead⟩
    exact
      { conversationId := hconversation
        creationTime := rfl
        callerIdName := congrArg CallerId.name h.parties
        callerIdNumber := congrArg CallerId.number h.parties
        peerCallerIdName := congrArg CallerId.name h.parties.symm
        peerCallerIdNumber := congrArg CallerId.number h.parties.symm
        userUuid := hdead.userUuid
        tenantUuid := hdead.tenantUuid
        dialedExtension := hdead.dialedExtension
        sipCallId := (sipCallId_iff.mpr h.sip).1
        lineId := hdead.lineId
        isVideo := rfl
        answerTime := rfl
        isAutoprov := rfl
        isCaller := isCaller_iff.mpr h.caller }

/-! ## A destroyed channel -/

/-- The variables that the event of a destruction embeds. -/
def destroyedVars : List (String × String) :=
  [("CHANNEL(linkedid)", "1623743605.135"), ("WAZO_DEREFERENCED_USERUUID", ""),
    ("WAZO_ENTRY_EXTEN", "9001"), ("WAZO_LINE_ID", "2"),
    ("WAZO_SIP_CALL_ID", "coNsbzfk_Tcq2cffBi9g7Q.."),
    ("WAZO_TENANT_UUID", "6345gd34-9ac7-4337-818d-d04e606d9f74"),
    ("WAZO_USERUUID", "76f7fmfh-a547-4324-a521-e2e04843cfee"),
    ("WAZO_CHANNEL_DIRECTION", "to-wazo"), ("CHANNEL(channeltype)", "PJSIP")]

/-- Its channel. -/
def destroyed : Snapshot where
  id := "1623769434.135"
  name := "PJSIP/HwnelF4k-00000075"
  state := "Up"
  caller := ⟨"Oxynor", "9000"⟩
  connected := ⟨"Xelanir", "9001"⟩
  dialplan := ⟨"pickup", "my_pickup"⟩
  creationtime := "2021-06-15T11:06:45.465-0400"
  channelvars := fun x => destroyedVars.lookup x

/-- Asterisk has nothing to add. -/
def quietAsterisk : Asterisk where
  get := fun _ => none
  getChannelVar := fun _ _ => none
  bridges := []

/-- The same channel with one party and no line. -/
example : Aligned quietAsterisk { destroyed with
    connected := ⟨"Oxynor", "9000"⟩
    channelvars := fun x => if x = "WAZO_LINE_ID" then none else destroyedVars.lookup x } where
  parties := rfl
  conversation := ⟨by decide, by decide⟩
  user := by decide +kernel
  tenant := by decide
  exten := by decide
  sip := by decide
  line := ⟨by decide, by decide⟩
  caller := by decide

/-- **The call that has ended is another one than the call that was**: its caller is the other
party, and its line a text. -/
theorem destroyed_differs :
    let live := makeCallFromChannel quietAsterisk destroyed none fun _ => none
    let ended := channelDestroyedEvent quietAsterisk destroyed "2021-06-15T11:06:46-04:00"
    live.callerIdName = "Oxynor" ∧ ended.callerIdName = "Xelanir" ∧
      live.lineId = some (.number 2) ∧ ended.lineId = some (.text "2") ∧
      (makeCallFromDeadChannel destroyed).lineId = some (.text "2") ∧
      ¬ (ended.AgreesEnded live ∧ (makeCallFromDeadChannel destroyed).Agrees live) := by
  intro live ended
  have hlive : live.callerIdName = "Oxynor" := rfl
  have hended : ended.callerIdName = "Xelanir" := rfl
  refine ⟨hlive, hended, by decide, by decide, by decide, ?_⟩
  rintro ⟨h, -⟩
  have := h.callerIdName
  rw [hlive, hended] at this
  exact absurd this (by decide)

end Calld.Serializers
