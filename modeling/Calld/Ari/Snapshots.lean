/-
# Reads from a snapshot and live reads

The snapshot of a live channel embeds the listed variables, a set one with its value and an
unset one as the empty string, while Asterisk answers "not found" for a variable that is
unset and the empty string for one that has been set to it.  A helper that is given the
snapshot takes the empty string for unset, so the two ways to read differ on a listed
variable that is set to the empty string: whether a helper then gives another result depends
on what it does with an empty value (`snapshot_agrees_iff`).
-/
import Calld.Ari.Channel

namespace Calld.Ari

/-! ## Live channels -/

/-- A channel of Asterisk with the snapshot that ARI sends of it, for a list of variables in
`ari.conf`.  `WAZO_SIP_CALL_ID` is a copy of the call id that PJSIP knows. -/
structure LiveChannel where
  ari : Asterisk
  json : Snapshot
  listed : List String
  found : ari.get json.id = some json
  channelvars : ∀ x, json.channelvars x =
    if x ∈ listed then some ((ari.getChannelVar json.id x).getD "") else none
  sipCallId : ∀ callId, ari.getChannelVar json.id "WAZO_SIP_CALL_ID" = some callId →
    ari.getChannelVar json.id "CHANNEL(pjsip,call-id)" = some callId

namespace LiveChannel

variable (live : LiveChannel)

/-- `Channel(channel.id, ari)`. -/
def plain : Channel := ⟨live.json.id, live.ari, none⟩

/-- `Channel(channel.id, ari, snapshot=channel.json)`. -/
def withSnapshot : Channel := ⟨live.json.id, live.ari, some live.json⟩

/-- The variables of the channel; an unset one is `none`. -/
def vars (x : String) : Option String := live.ari.getChannelVar live.json.id x

/-- A listed variable that is set to the empty string. -/
def Hidden (x : String) : Prop := x ∈ live.listed ∧ live.vars x = some ""

instance (x : String) : Decidable (live.Hidden x) := inferInstanceAs (Decidable (_ ∧ _))

/-- Every helper gives the same result with the snapshot as without it. -/
structure Agrees : Prop where
  user : ∀ default, live.withSnapshot.user default = live.plain.user default
  tenantUuid : ∀ default, live.withSnapshot.tenantUuid default = live.plain.tenantUuid default
  isCaller : live.withSnapshot.isCaller = live.plain.isCaller
  dialedExtension : live.withSnapshot.dialedExtension = live.plain.dialedExtension
  lineId : live.withSnapshot.lineId = live.plain.lineId
  sipCallId : live.withSnapshot.sipCallId = live.plain.sipCallId
  onHold : live.withSnapshot.onHold = live.plain.onHold
  muted : live.withSnapshot.muted = live.plain.muted
  parked : live.withSnapshot.parked = live.plain.parked
  isProgress : live.withSnapshot.isProgress = live.plain.isProgress
  conversationId : live.withSnapshot.conversationId = live.plain.conversationId
  switchboardTimeout : live.withSnapshot.switchboardTimeout = live.plain.switchboardTimeout

/-- The variable that names the user. -/
def userVariable : String :=
  if "Local/".isPrefixOf live.json.name then "WAZO_DEREFERENCED_USERUUID" else "WAZO_USERUUID"

/-- No hidden variable makes a difference: the user, the tenant and the conversation are not
hidden; a hidden extension is the one of the dialplan, a hidden outgoing flag is not the one of
a call to wazo, and a hidden call id is not the one of a SIP channel, unless the copy of it is
set but not listed. -/
structure Visible : Prop where
  user : ¬ live.Hidden live.userVariable
  tenant : ¬ live.Hidden "WAZO_TENANT_UUID"
  conversation : ¬ live.Hidden "CHANNEL(linkedid)"
  exten : live.Hidden "WAZO_ENTRY_EXTEN" → live.json.dialplan.exten = ""
  outgoing : live.Hidden "WAZO_USER_OUTGOING_CALL" →
    live.vars "WAZO_CHANNEL_DIRECTION" ≠ some "to-wazo"
  callId : live.vars "CHANNEL(channeltype)" = some "PJSIP" →
    live.Hidden "CHANNEL(pjsip,call-id)" →
      "WAZO_SIP_CALL_ID" ∉ live.listed ∧ live.vars "WAZO_SIP_CALL_ID" ≠ none

/-! ## The two reads -/

variable {live} {x value : String}

theorem getVar_plain (x : String) : live.plain.getVar x = live.vars x := rfl

/-- The snapshot hides a variable that is set to the empty string. -/
theorem getVar_withSnapshot (x : String) :
    live.withSnapshot.getVar x = if live.Hidden x then none else live.vars x := by
  have hsnapshot : live.withSnapshot.snapshot.bind (·.channelvars x) = live.json.channelvars x := rfl
  rw [Channel.getVar, hsnapshot, live.channelvars x]
  by_cases hhidden : live.Hidden x
  · rw [if_pos hhidden, if_pos hhidden.1]
    show (if (live.vars x).getD "" ≠ "" then some ((live.vars x).getD "") else none) = none
    rw [hhidden.2]
    rfl
  · rw [if_neg hhidden]
    by_cases hx : x ∈ live.listed
    · rw [if_pos hx]
      show (if (live.vars x).getD "" ≠ "" then some ((live.vars x).getD "") else none) = _
      cases hvar : live.vars x with
      | none => rfl
      | some value =>
        have hvalue : value ≠ "" := fun e => hhidden ⟨hx, e ▸ hvar⟩
        simp [hvalue]
    · rw [if_neg hx]
      rfl

theorem getVar_hidden (h : live.Hidden x) : live.withSnapshot.getVar x = none := by
  rw [getVar_withSnapshot, if_pos h]

theorem getVar_visible (h : ¬ live.Hidden x) :
    live.withSnapshot.getVar x = live.plain.getVar x := by
  rw [getVar_withSnapshot, if_neg h]
  rfl

/-- A hidden variable is live all the same. -/
theorem getVar_plain_hidden (h : live.Hidden x) : live.plain.getVar x = some "" := h.2

/-- A value other than the empty one is not hidden. -/
theorem not_hidden (h : live.vars x = some value) (hvalue : value ≠ "") : ¬ live.Hidden x := by
  intro hx
  rw [hx.2] at h
  exact hvalue (Option.some.inj h).symm

theorem isLocal_eq : live.withSnapshot.isLocal = live.plain.isLocal := by
  unfold Channel.isLocal plain withSnapshot
  dsimp only
  rw [live.found]

/-! ## The helpers -/

/-- What is not `1` when it is unset is not `1` when it is empty. -/
theorem flag_eq (hvalue : value ≠ "") :
    live.withSnapshot.flag x value = live.plain.flag x value := by
  unfold Channel.flag
  by_cases hx : live.Hidden x
  · rw [getVar_hidden hx, getVar_plain_hidden hx]
    simp [Ne.symm hvalue]
  · rw [getVar_visible hx]

/-- A helper that gives a variable, or a default, differs on a hidden one. -/
theorem getD_iff :
    (∀ default : Option String, (match live.withSnapshot.getVar x with
        | none => default
        | some value => some value) =
      match live.plain.getVar x with
        | none => default
        | some value => some value) ↔ ¬ live.Hidden x := by
  constructor
  · intro h hx
    have := h none
    rw [getVar_hidden hx, getVar_plain_hidden hx] at this
    cases this
  · intro hx default
    rw [getVar_visible hx]

theorem user_iff : (∀ default, live.withSnapshot.user default = live.plain.user default) ↔
    ¬ live.Hidden live.userVariable := by
  have hname : live.plain.isLocal = "Local/".isPrefixOf live.json.name := isLocal_eq.symm
  unfold Channel.user userVariable
  rw [isLocal_eq, hname]
  cases "Local/".isPrefixOf live.json.name with
  | false => exact getD_iff
  | true => exact getD_iff

theorem tenantUuid_iff :
    (∀ default, live.withSnapshot.tenantUuid default = live.plain.tenantUuid default) ↔
      ¬ live.Hidden "WAZO_TENANT_UUID" := getD_iff

theorem conversationId_iff : live.withSnapshot.conversationId = live.plain.conversationId ↔
    ¬ live.Hidden "CHANNEL(linkedid)" := by
  unfold Channel.conversationId
  constructor
  · intro h hx
    rw [getVar_hidden hx, getVar_plain_hidden hx] at h
    cases h
  · exact getVar_visible

/-- The direction is asked for only where the outgoing flag is not found. -/
theorem isCaller_iff : live.withSnapshot.isCaller = live.plain.isCaller ↔
    (live.Hidden "WAZO_USER_OUTGOING_CALL" →
      live.vars "WAZO_CHANNEL_DIRECTION" ≠ some "to-wazo") := by
  have hdirection : live.withSnapshot.flag "WAZO_CHANNEL_DIRECTION" "to-wazo" =
      live.plain.flag "WAZO_CHANNEL_DIRECTION" "to-wazo" := flag_eq (by decide)
  have hcaller (channel : Channel) : channel.isCaller =
      ((channel.getVar "WAZO_USER_OUTGOING_CALL").map fun outgoing => decide (outgoing = "true")).getD
        (channel.flag "WAZO_CHANNEL_DIRECTION" "to-wazo") := by
    unfold Channel.isCaller Channel.flag
    cases channel.getVar "WAZO_USER_OUTGOING_CALL" <;> rfl
  have hflag : live.plain.flag "WAZO_CHANNEL_DIRECTION" "to-wazo" = true ↔
      live.vars "WAZO_CHANNEL_DIRECTION" = some "to-wazo" := by
    unfold Channel.flag
    rw [getVar_plain]
    cases live.vars "WAZO_CHANNEL_DIRECTION" <;> simp
  rw [hcaller, hcaller]
  by_cases hx : live.Hidden "WAZO_USER_OUTGOING_CALL"
  · rw [getVar_hidden hx, getVar_plain_hidden hx, hdirection]
    simp only [hx, true_implies, ne_eq, ← hflag]
    cases live.plain.flag "WAZO_CHANNEL_DIRECTION" "to-wazo" <;> decide
  · rw [getVar_visible hx, hdirection]
    simp [hx]

/-- The extension of the dialplan takes the place of a hidden one. -/
theorem dialedExtension_iff :
    live.withSnapshot.dialedExtension = live.plain.dialedExtension ↔
      (live.Hidden "WAZO_ENTRY_EXTEN" → live.json.dialplan.exten = "") := by
  unfold Channel.dialedExtension
  by_cases hx : live.Hidden "WAZO_ENTRY_EXTEN"
  · rw [getVar_hidden hx, getVar_plain_hidden hx]
    simp [hx, withSnapshot]
  · rw [getVar_visible hx]
    have hexten : (live.plain.ari.get live.plain.id).map (·.dialplan.exten) =
        some live.json.dialplan.exten := by
      show (live.ari.get live.json.id).map _ = _
      rw [live.found]
      rfl
    simp only [hx, false_implies, iff_true]
    cases live.plain.getVar "WAZO_ENTRY_EXTEN" with
    | some exten => rfl
    | none => exact hexten.symm

/-- An empty line is no number. -/
theorem lineId_eq : live.withSnapshot.lineId = live.plain.lineId := by
  unfold Channel.lineId
  by_cases hx : live.Hidden "WAZO_LINE_ID"
  · rw [getVar_hidden hx, getVar_plain_hidden hx]
    exact int_empty.symm
  · rw [getVar_visible hx]

/-- An empty timeout is none. -/
theorem switchboardTimeout_eq :
    live.withSnapshot.switchboardTimeout = live.plain.switchboardTimeout := by
  unfold Channel.switchboardTimeout
  by_cases hx : live.Hidden "WAZO_SWITCHBOARD_TIMEOUT"
  · rw [getVar_hidden hx, getVar_plain_hidden hx]
    rfl
  · rw [getVar_visible hx]

/-- What a SIP channel answers for its call id, with the snapshot. -/
theorem sipCallIdUnsafe_withSnapshot :
    live.withSnapshot.sipCallIdUnsafe =
      match live.withSnapshot.getVar "WAZO_SIP_CALL_ID" with
      | some callId => some callId
      | none => live.withSnapshot.getVar "CHANNEL(pjsip,call-id)" := rfl

theorem sipCallIdUnsafe_iff :
    live.withSnapshot.sipCallIdUnsafe = live.plain.sipCallIdUnsafe ↔
      (live.Hidden "CHANNEL(pjsip,call-id)" →
        "WAZO_SIP_CALL_ID" ∉ live.listed ∧ live.vars "WAZO_SIP_CALL_ID" ≠ none) := by
  have hplain : live.plain.sipCallIdUnsafe = live.vars "CHANNEL(pjsip,call-id)" := rfl
  rw [sipCallIdUnsafe_withSnapshot, hplain]
  cases hcopy : live.vars "WAZO_SIP_CALL_ID" with
  | none =>
    -- the copy is not found, and the call id itself is read
    have hread : live.withSnapshot.getVar "WAZO_SIP_CALL_ID" = none := by
      rw [getVar_withSnapshot, hcopy, ite_self]
    rw [hread]
    by_cases hx : live.Hidden "CHANNEL(pjsip,call-id)"
    · simp [getVar_hidden hx, hx.2, hx]
    · simp [getVar_visible hx, getVar_plain, hx]
  | some callId =>
    have hcall : live.vars "CHANNEL(pjsip,call-id)" = some callId := live.sipCallId callId hcopy
    by_cases hempty : live.Hidden "WAZO_SIP_CALL_ID"
    · -- an empty copy in the snapshot: the call id is empty too
      have hcallId : callId = "" := Option.some.inj (hcopy.symm.trans hempty.2)
      rw [getVar_hidden hempty]
      by_cases hx : live.Hidden "CHANNEL(pjsip,call-id)"
      · simp [getVar_hidden hx, hcall, hx, hempty.1]
      · simp [getVar_visible hx, getVar_plain, hx]
    · rw [getVar_visible hempty, getVar_plain, hcopy]
      simp only [hcall, true_iff]
      intro hx
      have hcallId : callId = "" := Option.some.inj (hcall.symm.trans hx.2)
      refine ⟨fun hlisted => hempty ⟨hlisted, hcallId ▸ hcopy⟩, by simp⟩

theorem sipCallId_iff : live.withSnapshot.sipCallId = live.plain.sipCallId ↔
    (live.vars "CHANNEL(channeltype)" = some "PJSIP" →
      live.Hidden "CHANNEL(pjsip,call-id)" →
        "WAZO_SIP_CALL_ID" ∉ live.listed ∧ live.vars "WAZO_SIP_CALL_ID" ≠ none) := by
  have hsip : live.withSnapshot.isSip = live.plain.isSip := flag_eq (by decide)
  have hisSip : live.plain.isSip = true ↔ live.vars "CHANNEL(channeltype)" = some "PJSIP" := by
    unfold Channel.isSip Channel.flag
    rw [getVar_plain]
    cases live.vars "CHANNEL(channeltype)" <;> simp
  unfold Channel.sipCallId
  rw [hsip]
  by_cases h : live.plain.isSip = true
  · rw [if_pos h, if_pos h, sipCallIdUnsafe_iff]
    simp [hisSip.mp h]
  · rw [if_neg h, if_neg h]
    have hne : live.vars "CHANNEL(channeltype)" ≠ some "PJSIP" := fun e => h (hisSip.mpr e)
    simp [hne]

end LiveChannel

/-- **The snapshot is as good as the live channel**, for every helper, exactly when no listed
variable that is set to the empty string makes a difference. -/
theorem snapshot_agrees_iff (live : LiveChannel) : live.Agrees ↔ live.Visible := by
  constructor
  · intro h
    exact
      { user := LiveChannel.user_iff.mp h.user
        tenant := LiveChannel.tenantUuid_iff.mp h.tenantUuid
        conversation := LiveChannel.conversationId_iff.mp h.conversationId
        exten := LiveChannel.dialedExtension_iff.mp h.dialedExtension
        outgoing := LiveChannel.isCaller_iff.mp h.isCaller
        callId := LiveChannel.sipCallId_iff.mp h.sipCallId }
  · intro h
    exact
      { user := LiveChannel.user_iff.mpr h.user
        tenantUuid := LiveChannel.tenantUuid_iff.mpr h.tenant
        isCaller := LiveChannel.isCaller_iff.mpr h.outgoing
        dialedExtension := LiveChannel.dialedExtension_iff.mpr h.exten
        lineId := LiveChannel.lineId_eq
        sipCallId := LiveChannel.sipCallId_iff.mpr h.callId
        onHold := LiveChannel.flag_eq (by decide)
        muted := LiveChannel.flag_eq (by decide)
        parked := LiveChannel.flag_eq (by decide)
        isProgress := LiveChannel.flag_eq (by decide)
        conversationId := LiveChannel.conversationId_iff.mpr h.conversation
        switchboardTimeout := LiveChannel.switchboardTimeout_eq }

/-! ## A flag that has been emptied -/

/-- A call to wazo whose outgoing flag has been set to the empty string. -/
def emptiedVars (x : String) : Option String :=
  if x = "WAZO_USER_OUTGOING_CALL" then some ""
  else if x = "WAZO_CHANNEL_DIRECTION" then some "to-wazo"
  else if x = "WAZO_ENTRY_EXTEN" then some ""
  else none

/-- Some of the variables that `ari.conf` lists. -/
def emptiedListed : List String :=
  ["WAZO_ENTRY_EXTEN", "WAZO_CHANNEL_DIRECTION", "WAZO_USER_OUTGOING_CALL"]

/-- The snapshot of that channel. -/
def emptiedJson : Snapshot where
  id := "1700000000.1"
  name := "PJSIP/abcdef-00000001"
  state := "Up"
  caller := ⟨"Alice", "1001"⟩
  connected := ⟨"Bob", "1002"⟩
  dialplan := ⟨"default", "1002"⟩
  creationtime := "2026-06-04T10:00:00.000-0400"
  channelvars := fun x => if x ∈ emptiedListed then some ((emptiedVars x).getD "") else none

/-- That channel in Asterisk. -/
def emptied : LiveChannel where
  ari :=
    { get := fun id => if id = "1700000000.1" then some emptiedJson else none
      getChannelVar := fun id x => if id = "1700000000.1" then emptiedVars x else none
      bridges := [] }
  json := emptiedJson
  listed := emptiedListed
  found := rfl
  channelvars := fun _ => rfl
  sipCallId := fun _ h => by cases h

/-- **An emptied variable is read as an unset one**: the channel is the one of a caller, and
its extension that of the dialplan, with the snapshot only. -/
theorem emptied_differs :
    emptied.withSnapshot.isCaller = true ∧ emptied.plain.isCaller = false ∧
      emptied.withSnapshot.dialedExtension = some "1002" ∧
      emptied.plain.dialedExtension = some "" ∧ ¬ emptied.Agrees := by
  have hcaller : emptied.withSnapshot.isCaller = true := by decide
  have hplain : emptied.plain.isCaller = false := by decide
  refine ⟨hcaller, hplain, by decide, by decide, fun h => ?_⟩
  have := h.isCaller
  rw [hcaller, hplain] at this
  cases this

end Calld.Ari
