/-
# What the host hears of the channels that enter

When a channel enters the bridge of a conference, the users of all the channels in it are told,
the one of the channel among them.  The channel of the host comes with a catch-up besides: its
user is told of every channel that is there already, the channel of the host included.

So a channel that is there when the host enters is told twice to the host when it was already
told to the host's user as it entered; this is so of the channel of the host itself.  Every
other channel is told once.
-/
import Calld.AdhocConferences.Services
import Calld.Calls.Serializers

namespace Calld.AdhocConferences

open Calld.Ari Calld.Serializers

/-! ## The handler -/

/-- The arguments of `AdhocConferenceParticipantJoinedEvent`. -/
structure ParticipantJoined where
  adhocConferenceId : String
  callId : String
  tenantUuid : Option String
  userUuid : Option String
  deriving DecidableEq, Repr

/-- What the handler does. -/
inductive Action where
  | setGlobalVar (variable_ : String) (value : Option String)
  | setChannelVar (channelId variable_ value : String)
  | publish (event : ParticipantJoined)
  deriving DecidableEq, Repr

/-- `ChannelEnteredBridge`: the bridge has its channels of that time. -/
structure ChannelEnteredBridge where
  application : String
  bridge : Bridge
  channel : Snapshot

/-- `AdhocConferencesNotifier.participant_joined`. -/
def participantJoined (adhocConferenceId : String) (others : List (Option String)) (call : Call) :
    List Action :=
  others.map fun other => .publish ⟨adhocConferenceId, call.id, call.tenantUuid, other⟩

/-- `_notify_host_of_channels_already_present`. -/
def notifyHostOfChannelsAlreadyPresent (ari : Asterisk) (adhocConferenceId : String)
    (channelIds : List String) (hostUserUuid : Option String) : List Action :=
  channelIds.flatMap fun channelId =>
    match ari.get channelId with
    | none => []
    | some channel =>
      participantJoined adhocConferenceId [hostUserUuid]
        (makeCallFromChannel ari channel none fun _ => none)

/-- `_set_host_connectedline`. -/
def setHostConnectedline (ari : Asterisk) (channelId : String) : List Action :=
  match ari.getChannelVar channelId "CALLERID(number)" with
  | none => []
  | some number =>
    [.setChannelVar channelId "CONNECTEDLINE(all)" ("\"Conference\" <" ++ number ++ ">")]

/-- `Channel(channel_id, ari).user()`. -/
def userOf (ari : Asterisk) (channelId : String) : Option String :=
  Channel.user ⟨channelId, ari, none⟩ none

/-- `BridgeSnapshot.valid_user_uuids`. -/
def validUserUuids (order : SetOrder (Option String)) (ari : Asterisk) (bridge : Bridge) :
    List (Option String) :=
  order.1 (bridge.channels.map (userOf ari))

/-- The part of `on_channel_entered_bridge` that is for the host. -/
def hostEntered (ari : Asterisk) (event : ChannelEnteredBridge) : List Action :=
  let set (variable_ : String) (value : Option String) : Action :=
    .setGlobalVar (bridgeVariableName event.bridge.id variable_) value
  let channel : Channel := ⟨event.channel.id, ari, none⟩
  [set "WAZO_HOST_CHANNEL_ID" (some channel.id), set "WAZO_HOST_USER_UUID" (channel.user none),
      set "WAZO_HOST_TENANT_UUID" (channel.tenantUuid none)] ++
    notifyHostOfChannelsAlreadyPresent ari event.bridge.id event.bridge.channels
      (channel.user none) ++
    setHostConnectedline ari event.channel.id

/-- `on_channel_entered_bridge`. -/
def onChannelEnteredBridge (order : SetOrder (Option String)) (ari : Asterisk)
    (event : ChannelEnteredBridge) : List Action :=
  if event.application ≠ stasisApp then []
  else
    match ari.getChannelVar event.channel.id "WAZO_IS_ADHOC_CONFERENCE_HOST" with
    | none => []
    | some isHost =>
      (if isHost = "true" then hostEntered ari event else []) ++
        participantJoined event.bridge.id (validUserUuids order ari event.bridge)
          (makeCallFromChannel ari event.channel none fun _ => none)

/-! ## Conferences that gather -/

/-- An event, with Asterisk and the order of a set when it is handled. -/
structure Arrival where
  ari : Asterisk
  order : SetOrder (Option String)
  event : ChannelEnteredBridge

/-- The channel that enters. -/
def Arrival.channelId (a : Arrival) : String := a.event.channel.id

/-- The channels in the bridge. -/
def Arrival.members (a : Arrival) : List String := a.event.bridge.channels

/-- The channels of a conference enter its bridge one after the other, and none leaves.  Whatever
else changes in Asterisk, the channels that have entered are there, and have their users; the
service has marked the host with `true` and the others with `false`. -/
structure Gathering where
  id : String
  host : String
  user : String → Option String
  arrivals : List Arrival
  application : ∀ a ∈ arrivals, a.event.application = stasisApp
  bridge : ∀ a ∈ arrivals, a.event.bridge.id = id
  once : (arrivals.map (·.channelId)).Nodup
  members : ∀ before a after, arrivals = before ++ a :: after →
    a.members.Perm ((before ++ [a]).map (·.channelId))
  present : ∀ a ∈ arrivals, ∀ c ∈ a.members, ∃ json, a.ari.get c = some json ∧ json.id = c
  users : ∀ a ∈ arrivals, ∀ c ∈ a.members, userOf a.ari c = user c
  marked : ∀ a ∈ arrivals, a.ari.getChannelVar a.channelId "WAZO_IS_ADHOC_CONFERENCE_HOST" =
    some (if a.channelId = host then "true" else "false")
  entered : host ∈ arrivals.map (·.channelId)

namespace Gathering

variable (G : Gathering)

/-- The channels of the conference. -/
def channels : List String := G.arrivals.map (·.channelId)

/-- What the handler does in all. -/
def actions : List Action :=
  G.arrivals.flatMap fun a => onChannelEnteredBridge a.order a.ari a.event

/-- The host's user is told that a channel has joined. -/
def tellsHost (c : String) : Action → Bool
  | .publish event => event.adhocConferenceId = G.id && event.callId = c &&
      event.userUuid = G.user G.host
  | _ => false

/-- How many times the host's user is told of a channel. -/
def told (c : String) : ℕ := G.actions.countP (G.tellsHost c)

/-- The channel is there when the host enters. -/
def Found (c : String) : Prop := ∃ a ∈ G.arrivals, a.channelId = G.host ∧ c ∈ a.members

/-- When the channel enters, a channel of the host's user is there. -/
def Heard (c : String) : Prop :=
  ∃ a ∈ G.arrivals, a.channelId = c ∧ ∃ d ∈ a.members, G.user d = G.user G.host

instance (c : String) : Decidable (G.Found c) := inferInstanceAs (Decidable (∃ a ∈ _, _))

instance (c : String) : Decidable (G.Heard c) := inferInstanceAs (Decidable (∃ a ∈ _, _))

/-! ## One arrival -/

variable {G} {a : Arrival} {c : String}

theorem countP_participantJoined {others : List (Option String)} {call : Call} :
    (participantJoined G.id others call).countP (G.tellsHost c) =
      if call.id = c then others.count (G.user G.host) else 0 := by
  unfold participantJoined
  rw [List.countP_map]
  by_cases hc : call.id = c
  · rw [if_pos hc, List.count]
    congr 1
    funext other
    simp [tellsHost, hc, beq_eq_decide]
  · rw [if_neg hc]
    simp [tellsHost, hc]

/-- The set of the users has each of them once. -/
theorem count_validUserUuids (ha : a ∈ G.arrivals) :
    (validUserUuids a.order a.ari a.event.bridge).count (G.user G.host) =
      if ∃ d ∈ a.members, G.user d = G.user G.host then 1 else 0 := by
  have husers : a.event.bridge.channels.map (userOf a.ari) = a.members.map G.user :=
    List.map_congr_left (G.users a ha)
  have hset := a.order.2 (a.members.map G.user)
  unfold validUserUuids
  rw [husers]
  have hmem : G.user G.host ∈ a.order.1 (a.members.map G.user) ↔
      ∃ d ∈ a.members, G.user d = G.user G.host := by
    rw [hset.mem_iff, List.mem_dedup, List.mem_map]
  by_cases h : ∃ d ∈ a.members, G.user d = G.user G.host
  · rw [if_pos h]
    exact List.count_eq_one_of_mem (hset.symm.nodup (List.nodup_dedup _)) (hmem.mpr h)
  · rw [if_neg h]
    exact List.count_eq_zero.mpr fun hin => h (hmem.mp hin)

/-- The catch-up tells of every channel that is there. -/
theorem countP_notifyHost (ha : a ∈ G.arrivals) :
    (notifyHostOfChannelsAlreadyPresent a.ari G.id a.event.bridge.channels
      (G.user G.host)).countP (G.tellsHost c) = a.members.count c := by
  have hone : ∀ d ∈ a.members, (match a.ari.get d with
      | none => []
      | some channel => participantJoined G.id [G.user G.host]
          (makeCallFromChannel a.ari channel none fun _ => none)).countP (G.tellsHost c) =
      if d = c then 1 else 0 := by
    intro d hd
    obtain ⟨json, hget, rfl⟩ := G.present a ha d hd
    rw [hget]
    refine countP_participantJoined.trans ?_
    simp [makeCallFromChannel]
  have hsum : ∀ l : List String, (∀ d ∈ l, d ∈ a.members) →
      (notifyHostOfChannelsAlreadyPresent a.ari G.id l (G.user G.host)).countP (G.tellsHost c) =
        l.count c := by
    intro l hl
    induction l with
    | nil => rfl
    | cons d l ih =>
      unfold notifyHostOfChannelsAlreadyPresent at ih ⊢
      rw [List.flatMap_cons, List.countP_append, hone d (hl d (by simp)),
        ih fun e he => hl e (by simp [he]), List.count_cons]
      simp [add_comm]
  exact hsum _ fun _ h => h

/-- The part for the host. -/
theorem countP_hostEntered (ha : a ∈ G.arrivals) (hhost : a.channelId = G.host) :
    (hostEntered a.ari a.event).countP (G.tellsHost c) = a.members.count c := by
  have hmem : a.channelId ∈ a.members := by
    obtain ⟨before, after, h⟩ := List.append_of_mem ha
    rw [(G.members before a after h).mem_iff]
    simp
  have huser : Channel.user ⟨a.event.channel.id, a.ari, none⟩ none = G.user G.host := by
    rw [← hhost]
    exact G.users a ha _ hmem
  have hline : (setHostConnectedline a.ari a.event.channel.id).countP (G.tellsHost c) = 0 := by
    unfold setHostConnectedline
    cases a.ari.getChannelVar a.event.channel.id "CALLERID(number)" <;> simp [tellsHost]
  simp only [hostEntered, huser, G.bridge a ha, List.countP_append, countP_notifyHost ha, hline]
  simp [tellsHost]

/-- What the handler tells of a channel when one enters. -/
theorem countP_arrival (ha : a ∈ G.arrivals) :
    (onChannelEnteredBridge a.order a.ari a.event).countP (G.tellsHost c) =
      (if a.channelId = G.host then a.members.count c else 0) +
        if a.channelId = c then
          if ∃ d ∈ a.members, G.user d = G.user G.host then 1 else 0
        else 0 := by
  have hmarked : a.ari.getChannelVar a.event.channel.id "WAZO_IS_ADHOC_CONFERENCE_HOST" =
    some (if a.channelId = G.host then "true" else "false") := G.marked a ha
  unfold onChannelEnteredBridge
  rw [if_neg (by simp [G.application a ha]), hmarked]
  simp only [G.bridge a ha, List.countP_append, countP_participantJoined,
    count_validUserUuids ha]
  congr 1
  by_cases hhost : a.channelId = G.host
  · simp [hhost, countP_hostEntered ha hhost]
  · simp [hhost]

/-! ## All arrivals -/

/-- Of elements with different keys, one has the key. -/
theorem sum_keyed {α : Type} {key : α → String} {f : α → ℕ} {l : List α} {a : α}
    (hnodup : (l.map key).Nodup) (ha : a ∈ l) :
    (l.map fun b => if key b = key a then f b else 0).sum = f a := by
  induction l with
  | nil => cases ha
  | cons b l ih =>
    rw [List.map_cons, List.nodup_cons] at hnodup
    rw [List.map_cons, List.sum_cons]
    rcases List.mem_cons.mp ha with rfl | ha
    · have hrest : (l.map fun b => if key b = key a then f b else 0).sum = 0 := by
        refine List.sum_eq_zero fun n hn => ?_
        obtain ⟨b, hb, rfl⟩ := List.mem_map.mp hn
        exact if_neg fun h : key b = key a => hnodup.1 (h ▸ List.mem_map_of_mem hb)
      rw [if_pos rfl, hrest, add_zero]
    · have hb : key b ≠ key a := fun h => hnodup.1 (h ▸ List.mem_map_of_mem ha)
      rw [if_neg hb, zero_add, ih hnodup.2 ha]

/-- A channel enters once. -/
theorem arrival_unique {b : Arrival} (ha : a ∈ G.arrivals) (hb : b ∈ G.arrivals)
    (h : a.channelId = b.channelId) : a = b :=
  List.inj_on_of_nodup_map G.once ha hb h

/-- The bridge has every channel once. -/
theorem members_nodup (ha : a ∈ G.arrivals) : a.members.Nodup := by
  obtain ⟨before, after, h⟩ := List.append_of_mem ha
  refine (G.members before a after h).symm.nodup ?_
  have honce := G.once
  rw [h, List.append_cons, List.map_append] at honce
  exact (List.nodup_append.mp honce).1

/-- The host is there when a channel enters after it. -/
theorem found_or_hosted {h : Arrival} (hh : h ∈ G.arrivals) (ha : a ∈ G.arrivals) :
    a.channelId ∈ h.members ∨ h.channelId ∈ a.members := by
  obtain ⟨before, after, hsplit⟩ := List.append_of_mem hh
  have hmem : a ∈ before ++ h :: after := hsplit ▸ ha
  rw [List.append_cons, List.mem_append] at hmem
  rcases hmem with hbefore | hafter
  · left
    rw [(G.members before h after hsplit).mem_iff]
    exact List.mem_map_of_mem hbefore
  · right
    obtain ⟨between, rest, rfl⟩ := List.append_of_mem hafter
    have hsplit' : G.arrivals = (before ++ h :: between) ++ a :: rest := by
      rw [hsplit]
      simp
    rw [(G.members _ a rest hsplit').mem_iff]
    simp

/-- The catch-up and the broadcast, over the run. -/
theorem told_split {h : Arrival} (hh : h ∈ G.arrivals) (hhost : h.channelId = G.host)
    (ha : a ∈ G.arrivals) :
    G.told a.channelId = h.members.count a.channelId +
      if ∃ d ∈ a.members, G.user d = G.user G.host then 1 else 0 := by
  have hrun : G.told a.channelId = (G.arrivals.map fun b =>
      (if b.channelId = h.channelId then b.members.count a.channelId else 0) +
        if b.channelId = a.channelId then
          if ∃ d ∈ b.members, G.user d = G.user G.host then 1 else 0
        else 0).sum := by
    unfold told actions
    rw [List.countP_flatMap, hhost]
    exact congrArg List.sum (List.map_congr_left fun b hb => countP_arrival hb)
  rw [hrun, List.sum_map_add, sum_keyed G.once hh, sum_keyed G.once ha]

theorem found_iff {h : Arrival} (hh : h ∈ G.arrivals) (hhost : h.channelId = G.host) :
    G.Found c ↔ c ∈ h.members := by
  constructor
  · rintro ⟨b, hb, hbhost, hc⟩
    rwa [arrival_unique hh hb (hhost.trans hbhost.symm)]
  · exact fun hc => ⟨h, hh, hhost, hc⟩

theorem heard_iff (ha : a ∈ G.arrivals) :
    G.Heard a.channelId ↔ ∃ d ∈ a.members, G.user d = G.user G.host := by
  constructor
  · rintro ⟨b, hb, hid, hd⟩
    rwa [arrival_unique ha hb hid.symm]
  · exact fun hd => ⟨a, ha, rfl, hd⟩

end Gathering

/-- **The host hears of every channel once, or twice**: twice exactly of those that are there when
it enters, and on whose arrival a channel of its user was there. -/
theorem told_once_or_twice (G : Gathering) (c : String) (hc : c ∈ G.channels) :
    G.told c = if G.Found c ∧ G.Heard c then 2 else 1 := by
  obtain ⟨a, ha, rfl⟩ := List.mem_map.mp hc
  obtain ⟨h, hh, hhost⟩ := List.mem_map.mp G.entered
  have hfoundIff := Gathering.found_iff (c := a.channelId) hh hhost
  rw [Gathering.told_split hh hhost ha]
  by_cases hheard : G.Heard a.channelId
  · rw [if_pos ((Gathering.heard_iff ha).mp hheard)]
    by_cases hfound : G.Found a.channelId
    · rw [if_pos ⟨hfound, hheard⟩,
        List.count_eq_one_of_mem (Gathering.members_nodup hh) (hfoundIff.mp hfound)]
    · rw [if_neg fun h => hfound h.1, List.count_eq_zero.mpr fun hc => hfound (hfoundIff.mpr hc)]
  · -- the host was not there, so it enters later
    have hnot : ¬ ∃ d ∈ a.members, G.user d = G.user G.host := fun h =>
      hheard ((Gathering.heard_iff ha).mpr h)
    have hfound : a.channelId ∈ h.members := by
      rcases Gathering.found_or_hosted hh ha with hfound | hhosted
      · exact hfound
      · exact absurd ⟨_, hhosted, by rw [hhost]⟩ hnot
    rw [if_neg hnot, if_neg fun h => hheard h.2,
      List.count_eq_one_of_mem (Gathering.members_nodup hh) hfound]

/-! ## A host and a participant -/

/-- The host and a participant, of two users. -/
def pairAsterisk : Asterisk where
  get c := some
    { id := c
      name := "PJSIP/" ++ c
      state := "Up"
      caller := ⟨"", ""⟩
      connected := ⟨"", ""⟩
      dialplan := ⟨"", ""⟩
      creationtime := ""
      channelvars := fun _ => none }
  getChannelVar c v :=
    if v = "WAZO_IS_ADHOC_CONFERENCE_HOST" then some (if c = "host" then "true" else "false")
    else if v = "WAZO_USERUUID" then some (if c = "host" then "alice" else "bob")
    else none
  bridges := []

/-- One of them enters. -/
def pairArrival (c : String) (channels : List String) : Arrival where
  ari := pairAsterisk
  order := ⟨List.dedup, fun _ => .refl _⟩
  event :=
    { application := stasisApp
      bridge := ⟨"conf", channels⟩
      channel :=
        { id := c
          name := "PJSIP/" ++ c
          state := "Up"
          caller := ⟨"", ""⟩
          connected := ⟨"", ""⟩
          dialplan := ⟨"", ""⟩
          creationtime := ""
          channelvars := fun _ => none } }

/-- The participant enters, and then the host. -/
def pair : Gathering where
  id := "conf"
  host := "host"
  user c := if c = "host" then some "alice" else some "bob"
  arrivals := [pairArrival "friend" ["friend"], pairArrival "host" ["friend", "host"]]
  application := by simp [pairArrival]
  bridge := by simp [pairArrival]
  once := by decide
  members := by
    intro before a after h
    rcases before with _ | ⟨b, _ | ⟨b', before⟩⟩
    · simp only [List.nil_append, List.cons.injEq] at h
      obtain ⟨rfl, -⟩ := h
      exact .refl _
    · simp only [List.cons_append, List.nil_append, List.cons.injEq] at h
      obtain ⟨rfl, rfl, -⟩ := h
      exact .refl _
    · simp at h
  present := by
    intro a ha c hc
    simp only [List.mem_cons, List.not_mem_nil, or_false] at ha
    rcases ha with rfl | rfl <;> exact ⟨_, rfl, rfl⟩
  users := by decide +kernel
  marked := by decide
  entered := by decide

/-- **The host hears of its own channel twice.** -/
theorem host_told_twice : pair.host ∈ pair.channels ∧ pair.told pair.host = 2 ∧
    ¬ ∀ G : Gathering, ∀ c ∈ G.channels, G.told c = 1 := by
  have hmem : pair.host ∈ pair.channels := by decide
  have htold : pair.told pair.host = 2 := by decide +kernel
  refine ⟨hmem, htold, fun h => ?_⟩
  have := h pair pair.host hmem
  omega

/-- It hears of the participant once. -/
theorem told_once_or_twice_pair :
    pair.told "friend" = if pair.Found "friend" ∧ pair.Heard "friend" then 2 else 1 :=
  told_once_or_twice pair "friend" (by decide)

end Calld.AdhocConferences
