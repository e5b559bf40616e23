/-
# The status of an endpoint counts the truth

The truth about a SIP endpoint that is tracked: which channels have been opened and which
have been hung up since it was first tracked, and what the last event about its registration
has said.  The events of AMI change the endpoint as they change the truth.  An association
does not: it puts a new endpoint, without calls and not registered, in the place of the one
that was tracked.
-/
import Calld.Effect.Machine
import Calld.Endpoints.EventHandler

namespace Calld.Endpoints

open Effect Program

/-! ## The model -/

/-- What has happened to an endpoint since it was first tracked. -/
structure Truth where
  opened : Finset String
  ended : Finset String
  registered : Option Bool
  deriving DecidableEq

/-- The technology and the name of the endpoint that an event of AMI is about. -/
def AmiEvent.target (confd : Confd) (s : Caches) : AmiEvent → Option (String × String)
  | .hangup channel _ => technoNameFromChannel channel
  | .newchannel channel _ => technoNameFromChannel channel
  | .peerStatus peer _ => splitOnce peer '/'
  | .registry channelType username _ =>
    (registryUsername channelType username).bind fun username =>
      match (getTrunkByUsername channelType (some username) confd s.confd).1 with
      | .ok (some trunk) => some (channelType, trunk.name)
      | _ => none

/-- What an event says about a SIP endpoint. -/
def Truth.note (t : Truth) : AmiEvent → Truth
  | .hangup _ uniqueid => { t with ended := insert uniqueid t.ended }
  | .newchannel _ uniqueid => { t with opened := insert uniqueid t.opened }
  | .peerStatus _ status =>
    if status = "Reachable" then { t with registered := some true }
    else if status = "Unreachable" then { t with registered := some false }
    else t
  | .registry _ _ status => { t with registered := some (status = "Registered") }

/-- The caches, and the truth about every SIP endpoint that is tracked. -/
structure TrueCaches where
  caches : Caches
  truth : String → Option Truth

/-- The truth about an endpoint that is tracked from now on. -/
def Endpoint.first (e : Endpoint) : Truth := ⟨e.channelIds, ∅, e.registered⟩

namespace TrueCaches

/-- The SIP endpoint of a name, if it is tracked. -/
def tracked (s : TrueCaches) (name : String) : Option Endpoint :=
  s.caches.status.find "PJSIP" name

/-- The truth about an endpoint that has been tracked before an event. -/
def noted (s : TrueCaches) (confd : Confd) (name : String) (t : Truth) : EndpointEvent → Truth
  | .ami e => if e.target confd s.caches = some ("PJSIP", name) then t.note e else t
  | .confd _ => t

/-- An event is handled, while confd has these lists. -/
def handle (s : TrueCaches) (confd : Confd) (e : EndpointEvent) : TrueCaches where
  caches := (e.handle confd s.caches).2
  truth name :=
    -- an endpoint that is not tracked any more has been deleted
    ((e.handle confd s.caches).2.status.find "PJSIP" name).map fun endpoint =>
      match s.truth name with
      | none => endpoint.first
      | some t => s.noted confd name t e

/-- The count and the registration of every endpoint that is tracked are the true ones. -/
def Counts (s : TrueCaches) : Prop :=
  ∀ name, ∀ e ∈ s.tracked name, ∃ t ∈ s.truth name,
    e.currentCallCount = (t.opened \ t.ended).card ∧ e.registered = t.registered

end TrueCaches

/-- The name of the SIP endpoint that an event associates. -/
def ConfdEvent.sipAssociated : ConfdEvent → Option String
  | .lineEndpointSipAssociated _ _ name _ => some name
  | .trunkEndpointSipAssociated _ _ name _ => some name
  | _ => none

/-- An endpoint is associated while it has no calls and is not registered, and no channel is
opened after it has been hung up. -/
def TrueCaches.Gentle (s : TrueCaches) : Confd × EndpointEvent → Prop
  | (_, .confd e) => ∀ name ∈ e.sipAssociated, ∀ endpoint ∈ s.tracked name,
    endpoint.currentCallCount = 0 ∧ endpoint.registered = some false
  | (_, .ami (.newchannel channel uniqueid)) => ∀ p ∈ technoNameFromChannel channel,
    p.1 = "PJSIP" → ∀ t ∈ s.truth p.2, uniqueid ∉ t.ended
  | _ => True

/-- The events of AMI and of confd, in any order; confd has some lists when an event is
handled. -/
def trueCaches : Machine TrueCaches (Confd × EndpointEvent) where
  init s := ∀ name, s.truth name = (s.tracked name).map (·.first)
  step a s := some (s.handle a.1 a.2)

/-! ## What an event does to a SIP endpoint -/

/-- What an event of AMI does to the SIP endpoint that it is about. -/
def AmiEvent.body : AmiEvent → Endpoint → Endpoint
  | .hangup _ uniqueid => (·.removeCall uniqueid)
  | .newchannel _ uniqueid => (·.addCall uniqueid)
  | .peerStatus _ status => peerStatusOf "PJSIP" status
  | .registry _ _ status => fun endpoint =>
    { endpoint with registered := some (status = "Registered") }

section Events

variable {confd : Confd} {s : Caches} {name : String}

theorem find_onChannel {channel : String} {body : Endpoint → Endpoint} :
    (onChannel channel body confd s).2.status.find "PJSIP" name =
      if technoNameFromChannel channel = some ("PJSIP", name) then
        (s.status.find "PJSIP" name).map body
      else s.status.find "PJSIP" name := by
  unfold onChannel
  rcases technoNameFromChannel channel with _ | ⟨techno, name'⟩
  · rfl
  · dsimp only
    by_cases hlocal : techno = "Local"
    · subst hlocal
      rw [if_pos rfl, if_neg (by simp)]
      rfl
    · rw [if_neg hlocal, find_updateEndpoint]
      exact if_congr (by simp [eq_comm]) rfl rfl

theorem find_onRegistry {channelType username status : String} :
    (onRegistry channelType username status confd s).2.status.find "PJSIP" name =
      if (AmiEvent.registry channelType username status).target confd s =
          some ("PJSIP", name) then
        (s.status.find "PJSIP" name).map fun endpoint =>
          { endpoint with registered := some (status = "Registered") }
      else s.status.find "PJSIP" name := by
  have htarget : (AmiEvent.registry channelType username status).target confd s =
      (registryUsername channelType username).bind fun username =>
        match (getTrunkByUsername channelType (some username) confd s.confd).1 with
        | .ok (some trunk) => some (channelType, trunk.name)
        | _ => none := rfl
  unfold onRegistry
  rw [htarget]
  rcases registryUsername channelType username with _ | username
  · rfl
  · rw [Option.bind_some]
    dsimp only
    rcases hlookup : getTrunkByUsername channelType (some username) confd s.confd with
      ⟨_ | trunk, c⟩
    · rw [bind_of_error (onConfdCache_error hlookup)]
      rfl
    · rw [bind_of_ok (onConfdCache_ok hlookup)]
      cases trunk with
      | none =>
        dsimp only
        by_cases hregistered : status = "Registered" <;> simp [hregistered]
      | some trunk =>
        dsimp only
        rw [find_updateEndpoint]
        exact if_congr (by simp [eq_comm]) rfl rfl

/-- An event of AMI changes the endpoint that it is about. -/
theorem find_ami (e : AmiEvent) :
    (e.handle confd s).2.status.find "PJSIP" name =
      if e.target confd s = some ("PJSIP", name) then
        (s.status.find "PJSIP" name).map e.body
      else s.status.find "PJSIP" name := by
  cases e with
  | hangup channel uniqueid => exact find_onChannel
  | newchannel channel uniqueid => exact find_onChannel
  | peerStatus peer status =>
    show (onPeerStatus peer status confd s).2.status.find "PJSIP" name =
      if splitOnce peer '/' = some ("PJSIP", name) then
        (s.status.find "PJSIP" name).map (peerStatusOf "PJSIP" status)
      else s.status.find "PJSIP" name
    unfold onPeerStatus
    rcases splitOnce peer '/' with _ | ⟨techno, name'⟩
    · rfl
    · dsimp only
      rw [find_updateEndpoint]
      by_cases h : "PJSIP" = techno ∧ name = name'
      · obtain ⟨rfl, rfl⟩ := h
        rw [if_pos ⟨rfl, rfl⟩, if_pos rfl]
      · rw [if_neg h, if_neg fun heq => h ?_]
        cases heq
        exact ⟨rfl, rfl⟩
  | registry channelType username status => exact find_onRegistry

/-- The SIP endpoint that an event associates is a new one. -/
theorem find_associated {e : ConfdEvent} (h : e.sipAssociated = some name) :
    (e.handle confd s).2.status.find "PJSIP" name =
      some ⟨"PJSIP", name, some false, ∅⟩ := by
  cases e <;> cases h <;>
    exact find_addNewSipEndpoint.trans (if_pos ⟨rfl, rfl⟩)

/-- A trunk that is deleted takes its endpoint along. -/
theorem find_onTrunkEndpointDeleted {trunkId : Int} :
    (onTrunkEndpointDeleted trunkId confd s).2.status.find "PJSIP" name =
        s.status.find "PJSIP" name ∨
      (onTrunkEndpointDeleted trunkId confd s).2.status.find "PJSIP" name = none := by
  unfold onTrunkEndpointDeleted
  have hstatus := @onConfdCache_status confd s _ (getTrunkById trunkId)
  rcases hlookup : onConfdCache (getTrunkById trunkId) confd s with ⟨_ | trunk, s'⟩ <;>
    rw [hlookup] at hstatus
  · rw [bind_of_error hlookup]
    exact .inl (congrArg (·.find "PJSIP" name) hstatus)
  · rw [bind_of_ok hlookup]
    have hsame : s'.status.find "PJSIP" name = s.status.find "PJSIP" name :=
      congrArg (·.find "PJSIP" name) hstatus
    rcases trunk with _ | trunk
    · exact .inl hsame
    · rw [bind_of_ok (changeConfd_apply _)]
      dsimp only
      cases technoMap trunk.technology with
      | none => exact .inl hsame
      | some techno =>
        have hdrop : (changeStatus (·.drop techno trunk.name) confd
            { s' with confd := s'.confd.deleteTrunk trunkId }).2.status.find "PJSIP" name =
            if "PJSIP" = techno ∧ name = trunk.name then none
            else s.status.find "PJSIP" name := hsame ▸ find_drop
        rw [hdrop]
        split
        · exact .inr rfl
        · exact .inl rfl

/-- Any other event of confd leaves a SIP endpoint as it is, or deletes it. -/
theorem find_confd {e : ConfdEvent} (h : e.sipAssociated ≠ some name) :
    (e.handle confd s).2.status.find "PJSIP" name = s.status.find "PJSIP" name ∨
      (e.handle confd s).2.status.find "PJSIP" name = none := by
  cases e with
  | lineEndpointSipAssociated lineId tenantUuid name' options =>
    refine .inl (find_addNewSipEndpoint.trans (if_neg fun hname => h ?_))
    rw [hname.2]
    rfl
  | trunkEndpointSipAssociated trunkId tenantUuid name' options =>
    refine .inl (find_addNewSipEndpoint.trans (if_neg fun hname => h ?_))
    rw [hname.2]
    rfl
  | trunkEndpointIaxAssociated trunkId tenantUuid name' =>
    exact .inl (find_addNewIaxEndpoint.trans (if_neg (by simp)))
  | trunkDeleted trunkId => exact find_onTrunkEndpointDeleted
  | lineEdited protocol lineId name' tenantUuid =>
    refine .inl ?_
    show ((if protocol ≠ some .sccp then pure () else changeConfd _ : Handler Unit)
      confd s).2.status.find "PJSIP" name = _
    split <;> rfl
  | _ => exact .inl rfl

end Events

/-! ## The invariant -/

/-- The channels of every endpoint that is tracked are those that are open in truth, and
nothing is said of the others. -/
structure TrueCaches.Faithful (s : TrueCaches) : Prop where
  tracked : ∀ name, ∀ e ∈ s.tracked name, ∃ t ∈ s.truth name,
    e.channelIds = t.opened \ t.ended ∧ e.registered = t.registered
  untracked : ∀ name, s.tracked name = none → s.truth name = none

section Runs

variable {s s' : TrueCaches} {a : Confd × EndpointEvent} {confd : Confd} {name : String}
  {e e' : Endpoint} {t : Truth}

theorem TrueCaches.Faithful.counts (h : s.Faithful) : s.Counts := by
  intro name e he
  obtain ⟨t, ht, hids, hregistered⟩ := h.tracked name e he
  exact ⟨t, ht, congrArg Finset.card hids, hregistered⟩

/-- The truth about an endpoint that is tracked after an event. -/
theorem truth_handle {event : EndpointEvent}
    (h : (s.handle confd event).tracked name = some e) :
    (s.handle confd event).truth name = some (match s.truth name with
      | none => e.first
      | some t => s.noted confd name t event) := by
  show Option.map _ _ = _
  have h : (event.handle confd s.caches).2.status.find "PJSIP" name = some e := h
  rw [h]
  rfl

/-- Nothing is said of an endpoint that is not tracked after an event. -/
theorem untracked_handle {event : EndpointEvent}
    (h : (s.handle confd event).tracked name = none) :
    (s.handle confd event).truth name = none := by
  show Option.map _ _ = _
  have h : (event.handle confd s.caches).2.status.find "PJSIP" name = none := h
  rw [h]
  rfl

/-- What happens to an endpoint happens to the truth, if no channel is opened again. -/
theorem note_faithful {event : AmiEvent} (hids : e.channelIds = t.opened \ t.ended)
    (hregistered : e.registered = t.registered)
    (hnew : ∀ channel uniqueid, event = .newchannel channel uniqueid → uniqueid ∉ t.ended) :
    (event.body e).channelIds = (t.note event).opened \ (t.note event).ended ∧
      (event.body e).registered = (t.note event).registered := by
  cases event with
  | hangup channel uniqueid =>
    refine ⟨?_, hregistered⟩
    show e.channelIds.erase uniqueid = t.opened \ insert uniqueid t.ended
    rw [hids, Finset.sdiff_insert]
  | newchannel channel uniqueid =>
    refine ⟨?_, hregistered⟩
    show insert uniqueid e.channelIds = insert uniqueid t.opened \ t.ended
    rw [hids, Finset.insert_sdiff_of_notMem _ (hnew channel uniqueid rfl)]
  | peerStatus peer status =>
    show (peerStatusOf "PJSIP" status e).channelIds = _ ∧
      (peerStatusOf "PJSIP" status e).registered = _
    unfold peerStatusOf Truth.note
    by_cases hreachable : status = "Reachable"
    · simp [hreachable, hids]
    · by_cases hunreachable : status = "Unreachable"
      · simp [hunreachable, hids]
      · simp [hreachable, hunreachable, hids, hregistered]
  | registry channelType username status => exact ⟨hids, rfl⟩

/-- An event of AMI keeps the endpoints faithful, if no channel is opened again. -/
theorem TrueCaches.Faithful.amiEvent (h : s.Faithful) {event : AmiEvent}
    (hgentle : s.Gentle (confd, .ami event)) : (s.handle confd (.ami event)).Faithful where
  tracked name e he := by
    have hfind := @find_ami confd s.caches name event
    have htruth := truth_handle he
    have he : (event.handle confd s.caches).2.status.find "PJSIP" name = some e := he
    rw [he] at hfind
    by_cases htarget : event.target confd s.caches = some ("PJSIP", name)
    · rw [if_pos htarget] at hfind
      obtain ⟨before, hbefore, rfl⟩ := Option.map_eq_some_iff.mp hfind.symm
      obtain ⟨t, ht, hids, hregistered⟩ := h.tracked name before hbefore
      have ht : s.truth name = some t := ht
      refine ⟨t.note event, htruth.trans ?_, note_faithful hids hregistered ?_⟩
      · rw [ht]
        exact congrArg some (if_pos htarget)
      · rintro channel uniqueid rfl
        exact hgentle ("PJSIP", name) htarget rfl t ht
    · rw [if_neg htarget] at hfind
      obtain ⟨t, ht, hsame⟩ := h.tracked name e hfind.symm
      have ht : s.truth name = some t := ht
      refine ⟨t, htruth.trans ?_, hsame⟩
      rw [ht]
      exact congrArg some (if_neg htarget)
  untracked _ := untracked_handle

/-- An event of confd keeps the endpoints faithful, if it replaces only endpoints without
calls that are not registered. -/
theorem TrueCaches.Faithful.confdEvent (h : s.Faithful) {event : ConfdEvent}
    (hgentle : s.Gentle (confd, .confd event)) : (s.handle confd (.confd event)).Faithful where
  tracked name e he := by
    have htruth := truth_handle he
    have he : (event.handle confd s.caches).2.status.find "PJSIP" name = some e := he
    by_cases hname : event.sipAssociated = some name
    · rw [find_associated hname, Option.some.injEq] at he
      subst he
      cases htracked : s.tracked name with
      | none =>
        rw [h.untracked name htracked] at htruth
        exact ⟨_, htruth, Finset.sdiff_empty.symm, rfl⟩
      | some before =>
        obtain ⟨t, ht, hids, hregistered⟩ := h.tracked name before htracked
        obtain ⟨hcount, hoff⟩ := hgentle name hname before htracked
        have ht : s.truth name = some t := ht
        rw [ht] at htruth
        refine ⟨t, htruth, ?_, hregistered ▸ hoff.symm⟩
        exact (Finset.card_eq_zero.mp hcount).symm.trans hids
    · rcases find_confd hname with hsame | hnone
      · obtain ⟨t, ht, hfaithful⟩ := h.tracked name e (hsame.symm.trans he)
        have ht : s.truth name = some t := ht
        rw [ht] at htruth
        exact ⟨t, htruth, hfaithful⟩
      · rw [hnone] at he
        cases he
  untracked _ := untracked_handle

/-- An event under the condition keeps the endpoints faithful. -/
theorem TrueCaches.Faithful.handle (h : s.Faithful) {event : EndpointEvent}
    (hgentle : s.Gentle (confd, event)) : (s.handle confd event).Faithful := by
  cases event with
  | ami event => exact h.amiEvent hgentle
  | confd event => exact h.confdEvent hgentle

theorem faithful_of_reaches (h : trueCaches.Reaches TrueCaches.Gentle s) : s.Faithful := by
  refine h.invariant (fun s hs => ?_) (fun s a s' hs hgentle hstep => ?_)
  · have hs : ∀ name, s.truth name = (s.tracked name).map (·.first) := hs
    constructor
    · intro name e he
      have he : s.tracked name = some e := he
      exact ⟨e.first, by rw [hs, he]; rfl, Finset.sdiff_empty.symm, rfl⟩
    · intro name hname
      rw [hs, hname]
      rfl
  · obtain rfl := Option.some.inj hstep
    exact hs.handle hgentle

/-- An event that breaks the condition breaks a count or a registration. -/
theorem TrueCaches.Faithful.gentle (h : s.Faithful) {event : EndpointEvent}
    (hcounts : (s.handle confd event).Counts) : s.Gentle (confd, event) := by
  cases event with
  | confd event =>
    intro name hname endpoint hendpoint
    have hname : event.sipAssociated = some name := hname
    obtain ⟨t, ht, hids, hregistered⟩ := h.tracked name endpoint hendpoint
    have htracked : (s.handle confd (.confd event)).tracked name =
        some ⟨"PJSIP", name, some false, ∅⟩ := find_associated hname
    obtain ⟨t', ht', hcount, hoff⟩ := hcounts name _ htracked
    have ht : s.truth name = some t := ht
    obtain rfl : t = t' := by
      have htruth := truth_handle htracked
      rw [ht] at htruth
      exact Option.some.inj (htruth.symm.trans ht')
    refine ⟨?_, hregistered.trans hoff.symm⟩
    unfold Endpoint.currentCallCount
    rw [hids, ← hcount]
    rfl
  | ami event =>
    cases event with
    | newchannel channel uniqueid =>
      rintro ⟨techno, name⟩ hchannel rfl t ht hended
      have ht : s.truth name = some t := ht
      obtain ⟨before, hbefore⟩ : ∃ before, s.tracked name = some before := by
        rw [← Option.ne_none_iff_exists']
        intro hnone
        rw [h.untracked name hnone] at ht
        cases ht
      obtain ⟨t', ht', hids, -⟩ := h.tracked name before hbefore
      obtain rfl : t = t' := Option.some.inj (ht.symm.trans ht')
      have htarget : (AmiEvent.newchannel channel uniqueid).target confd s.caches =
          some ("PJSIP", name) := hchannel
      have htracked : (s.handle confd (.ami (.newchannel channel uniqueid))).tracked name =
          some (before.addCall uniqueid) := by
        refine (find_ami _).trans ((if_pos htarget).trans ?_)
        have hbefore : s.caches.status.find "PJSIP" name = some before := hbefore
        rw [hbefore]
        rfl
      obtain ⟨t', ht', hcount, -⟩ := hcounts name _ htracked
      obtain rfl : t.note (.newchannel channel uniqueid) = t' := by
        have htruth := truth_handle htracked
        rw [ht] at htruth
        refine Option.some.inj (Eq.trans ?_ ht')
        exact (htruth.trans (congrArg some (if_pos htarget))).symm
      -- the channel is counted, although it has been hung up
      have hnotMem : uniqueid ∉ before.channelIds := by
        rw [hids]
        simp [hended]
      have hopened : insert uniqueid t.opened \ t.ended = before.channelIds := by
        rw [hids, Finset.insert_sdiff_of_mem _ hended]
      have hcard : (insert uniqueid before.channelIds).card = before.channelIds.card :=
        hcount.trans (congrArg Finset.card hopened)
      rw [Finset.card_insert_of_notMem hnotMem] at hcard
      omega
    | _ => trivial

/-- An event of confd under the condition resets nothing. -/
theorem TrueCaches.Gentle.kept {event : ConfdEvent} (h : s.Gentle (confd, .confd event))
    (he : s.tracked name = some e)
    (he' : (s.handle confd (.confd event)).tracked name = some e') :
    e'.currentCallCount = e.currentCallCount ∧ e'.registered = e.registered := by
  have he' : (event.handle confd s.caches).2.status.find "PJSIP" name = some e' := he'
  by_cases hname : event.sipAssociated = some name
  · rw [find_associated hname, Option.some.injEq] at he'
    obtain ⟨hcount, hoff⟩ := h name hname e he
    rw [hcount, hoff, ← he']
    exact ⟨rfl, rfl⟩
  · rcases find_confd hname with hsame | hnone
    · have he : s.caches.status.find "PJSIP" name = some e := he
      rw [hsame, he, Option.some.injEq] at he'
      rw [he']
      exact ⟨rfl, rfl⟩
    · rw [hnone] at he'
      cases he'

end Runs

/-! ## An endpoint with a call -/

/-- A SIP endpoint that is registered and has a call, in the list of ARI. -/
def callingEndpoint : AriEndpoint := ⟨"alice", "PJSIP", "online", ["1.1"]⟩

/-- The caches once the list of ARI has been read. -/
def callingCaches : TrueCaches :=
  let status : StatusCache := StatusCache.initializeFrom ∅ [callingEndpoint]
  ⟨⟨ConfdCache.fresh.initializeWith ⟨[], []⟩, status, []⟩,
    fun name => (status.find "PJSIP" name).map (·.first)⟩

theorem callingCaches_init : trueCaches.init callingCaches := fun _ => rfl

/-- The line of the endpoint is associated again. -/
def associateAlice : EndpointEvent :=
  .confd (.lineEndpointSipAssociated 1 "tenant" "alice" [("username", "alice")])

/-- Another channel of the endpoint is opened. -/
def secondCall : EndpointEvent := .ami (.newchannel "PJSIP/alice-00000002" "1.2")

end Calld.Endpoints
