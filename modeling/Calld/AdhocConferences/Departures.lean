/-
# When the host has left

The handler of the departure of the host reads the channels of the bridge once, and hangs them
up.  A channel that is put into the bridge after that, or into a new bridge of the conference,
is not hung up by anyone: `on_stasis_start` does not ask whether the conference is over.

The invariant follows the departure through the system: it is pending, or its handler is on the
way to the channels, or whoever is in the bridge has been asked to hang up or is about to be.
-/
import Calld.AdhocConferences.Stasis

namespace Calld.AdhocConferences

open Effect Effect.Interactive Calld.Ari Calld.Serializers

namespace Conference

variable {conf : Conference}

/-! ## The programs -/

section Programs

variable {α : Type} {k : Phase} {order : SetOrder (Option String)} {ari : Asterisk}

/-- How a handler ends: with nothing left to deal with. -/
def Settled (k : Phase) : Prop := k ≠ .departing ∧ ∀ channelIds, k = .hanging channelIds → channelIds = []

/-- One request. -/
theorem keeps_enquire {r : StasisRequest} {Q : Phase → r.Reply → Prop} {E : Phase → Exn → Prop}
    (ht : conf.takes k r)
    (h : ∀ w found a, conf.reply w found r = some a → match a with
      | .ok b => Q (conf.next w k r) b
      | .error e => E (conf.next w k r) e) :
    conf.stasisService.Keeps Q E k (enquire r) := by
  refine Service.Keeps.request ht fun found i w y hy => ?_
  obtain ⟨a, ha, rfl⟩ := Option.map_eq_some_iff.mp hy
  have hend := h w found a ha
  cases a <;> exact hend

/-- A handler of anything but the departure of the host. -/
theorem keeps_other {p : StasisCode α} (h : p.Asks (conf.takes .other)) :
    conf.stasisService.Keeps (fun k _ => Settled k) (fun k _ => Settled k) .other p := by
  have hsettled : Settled .other := ⟨by simp, by simp⟩
  refine (h.keeps (S := conf.stasisService) (fun _ hr => hr) fun r _ found i w y hy => ?_).mono
    (fun k _ hk => hk ▸ hsettled) fun k _ hk => hk ▸ hsettled
  obtain ⟨a, ha, rfl⟩ := Option.map_eq_some_iff.mp hy
  rfl

/-- What is no action may be asked in every handler. -/
theorem asks_onStasisStart {args : List String} {c : String} :
    (onStasisStart args c).Asks (conf.takes .other) := by
  unfold onStasisStart
  split
  · refine (Asks.request trivial).bind fun _ => (Asks.ensuring ?_ (Asks.request trivial)).bind
      fun _ => Asks.request trivial
    refine (Asks.request trivial).catching.bind fun found => ?_
    cases found with
    | some l => exact Asks.pure _
    | none => exact (Asks.request trivial).bind fun _ => Asks.request trivial
  · exact Asks.pure _

theorem asks_bridgeGlobal {b v : String} : (bridgeGlobal b v).Asks (conf.takes .other) :=
  (Asks.request trivial).catching

theorem asks_bridgeChannels {reader : BridgeReader} {b : String} :
    (bridgeChannels reader b).Asks (conf.takes .other) :=
  (Asks.request trivial).catching

theorem asks_hangUpMembers {reader : BridgeReader} {b : String} :
    (hangUpMembers reader b).Asks (conf.takes .other) :=
  asks_bridgeChannels.bind fun _ => Asks.forM fun _ _ => (Asks.request trivial).ignoring

theorem asks_onChannelLeftBridge {b : String} {channel : Snapshot} :
    (onChannelLeftBridge order ari b channel).Asks (conf.takes .other) := by
  refine asks_bridgeGlobal.bind fun hostUserUuid => ?_
  cases hostUserUuid with
  | none => exact Asks.pure _
  | some hostUserUuid =>
    refine (asks_bridgeChannels.bind fun _ => Asks.forM fun _ _ => Asks.request trivial).bind
      fun _ => asks_bridgeChannels.bind fun lone => ?_
    split
    · exact asks_hangUpMembers
    refine asks_bridgeChannels.bind fun empty => ?_
    split
    · exact (Asks.request trivial).ignoring
    refine asks_bridgeGlobal.bind fun hostChannelId => ?_
    cases hostChannelId with
    | none => exact Asks.pure _
    | some hostChannelId =>
      dsimp only
      split
      · exact asks_hangUpMembers
      · exact Asks.pure _

theorem asks_onBridgeDestroyed {b : String} :
    (onBridgeDestroyed b).Asks (conf.takes .other) := by
  refine asks_bridgeGlobal.bind fun hostUserUuid => ?_
  cases hostUserUuid with
  | none => exact Asks.pure _
  | some hostUserUuid =>
    refine asks_bridgeGlobal.bind fun hostTenantUuid => ?_
    cases hostTenantUuid with
    | none => exact Asks.pure _
    | some hostTenantUuid =>
      exact (Asks.request trivial).bind fun _ => (Asks.request trivial).bind fun _ =>
        (Asks.request trivial).bind fun _ => Asks.request trivial

/-- The variables of a bridge are told apart by their names. -/
theorem bridgeVariableName_inj {b v v' : String}
    (h : bridgeVariableName b v = bridgeVariableName b v') : v = v' := by
  have := congrArg String.toList h
  simpa [bridgeVariableName, String.toList_inj] using this

theorem mem_participantJoined {id : String} {others : List (Option String)} {call : Call}
    {action : Action} (h : action ∈ participantJoined id others call) :
    ∃ event, action = .publish event := by
  obtain ⟨other, -, rfl⟩ := List.mem_map.mp h
  exact ⟨_, rfl⟩

/-- What is done for the host names no other channel. -/
theorem takes_hostEntered {event : ChannelEnteredBridge} (hid : event.bridge.id = conf.id)
    (hhost : event.channel.id = conf.host) {action : Action}
    (h : action ∈ hostEntered ari event) : conf.takes .other (.perform action) := by
  simp only [hostEntered, List.mem_append, List.mem_cons, List.not_mem_nil, or_false] at h
  rcases h with ((rfl | rfl | rfl) | h) | h
  · exact fun _ => congrArg some hhost
  · intro hv
    rw [hostVariable, hid] at hv
    exact absurd (bridgeVariableName_inj hv) (by decide)
  · intro hv
    rw [hostVariable, hid] at hv
    exact absurd (bridgeVariableName_inj hv) (by decide)
  · obtain ⟨c, -, h⟩ := List.mem_flatMap.mp h
    cases hc : ari.get c with
    | none => simp [hc] at h
    | some channel =>
      rw [hc] at h
      obtain ⟨joined, rfl⟩ := mem_participantJoined h
      trivial
  · unfold setHostConnectedline at h
    split at h
    · cases h
    · obtain rfl := List.mem_singleton.mp h
      trivial

theorem asks_channelEnteredBridge {event : ChannelEnteredBridge} (h : conf.Sound ari event) :
    (channelEnteredBridge order ari event).Asks (conf.takes .other) := by
  refine Asks.forM fun action haction => Asks.request ?_
  unfold onChannelEnteredBridge at haction
  split at haction
  · cases haction
  split at haction
  · cases haction
  · rename_i isHost hmark
    rcases List.mem_append.mp haction with haction | haction
    · by_cases htrue : isHost = "true"
      · rw [if_pos htrue] at haction
        exact takes_hostEntered h.1 (h.2 (htrue ▸ hmark)) haction
      · rw [if_neg htrue] at haction
        cases haction
    · obtain ⟨joined, rfl⟩ := mem_participantJoined haction
      trivial

/-! ### The departure of the host -/

/-- A variable is read: when it is unset, the departure is dealt with. -/
theorem keeps_bridgeGlobal {E : Phase → Exn → Prop} {b v : String} :
    conf.stasisService.Keeps
      (fun k o => k = o.elim .over fun value =>
        if bridgeVariableName b v = conf.hostVariable ∧ value ≠ conf.host then .astray
        else .departing)
      E .departing (bridgeGlobal b v) := by
  refine Service.Keeps.catching (keeps_enquire trivial fun w found a ha => ?_)
  obtain rfl := Option.some.inj ha
  cases hv : w.variables_ (bridgeVariableName b v) with
  | none => simp [next, hv, Exn.isARINotFound]
  | some value => simp [next, hv]

/-- The channels are read: the phase is that of the reader. -/
theorem keeps_bridgeChannels {E : Phase → Exn → Prop} {reader : BridgeReader} {b : String} :
    conf.stasisService.Keeps
      (fun k o => k = match reader with
        | .hangupAll | .hangupAllParticipants => .hanging (o.getD [])
        | .isEmpty => if o = some [] then .over else .departing
        | _ => .departing)
      E .departing (bridgeChannels reader b) := by
  refine Service.Keeps.catching (keeps_enquire trivial fun w found a ha => ?_)
  have hb : b = conf.id := by
    by_contra hb
    simp [reply, hb] at ha
  rw [reply, if_pos hb] at ha
  obtain rfl := Option.some.inj ha
  cases hm : w.members with
  | none => cases reader <;> simp [next, World.channels, hm, Exn.isARINotFound]
  | some l => cases reader <;> simp [next, World.channels, hm]

theorem keeps_hangUpEach {E : Phase → Exn → Prop} {channelIds : List String} :
    conf.stasisService.Keeps (fun k _ => k = .hanging []) E (.hanging channelIds)
      (hangUpEach channelIds) := by
  induction channelIds with
  | nil => exact Service.Keeps.pure rfl
  | cons c channelIds ih =>
    have hhangup : conf.stasisService.Keeps (fun k _ => k = .hanging channelIds)
        (fun _ _ => False) (.hanging (c :: channelIds))
        (ignoring Exn.isARINotFound (enquire (.hangup c))) := by
      refine Service.Keeps.ignoring (keeps_enquire rfl fun w found a ha => ?_)
      obtain rfl := Option.some.inj ha
      cases found with
      | true => rfl
      | false => simp [next, Exn.isARINotFound]
    exact hhangup.after (fun k _ hk => hk ▸ ih) fun _ _ => False.elim

/-- `hangup_all`, or `_hangup_all_participants`. -/
theorem keeps_hangUpMembers {E : Phase → Exn → Prop} {reader : BridgeReader} {b : String}
    (hreader : reader = .hangupAll ∨ reader = .hangupAllParticipants) :
    conf.stasisService.Keeps (fun k _ => Settled k) E .departing (hangUpMembers reader b) := by
  refine (keeps_bridgeChannels (E := E)).after (fun k o hk => ?_) fun _ _ he => he
  obtain rfl : k = .hanging (o.getD []) := by
    rcases hreader with rfl | rfl <;> exact hk
  refine (keeps_hangUpEach (E := E)).mono (fun k _ hk => ?_) fun _ _ he => he
  subst hk
  exact ⟨by simp, fun l hl => by cases hl; rfl⟩

theorem keeps_notifyLeft {E : Phase → Exn → Prop} {id hostUserUuid : String} {call : Call} :
    conf.stasisService.Keeps (fun k _ => k = .departing) E .departing
      (notifyLeft order ari id hostUserUuid call) := by
  refine (keeps_bridgeChannels (E := E)).after (fun k o hk => ?_) fun _ _ he => he
  subst hk
  have hpublish : ∀ users : List (Option String), conf.stasisService.Keeps
      (fun k _ => k = .departing) E .departing (users.forM fun user =>
        enquire (.publishLeft ⟨id, call.id, call.tenantUuid, user⟩)) := by
    intro users
    induction users with
    | nil => exact Service.Keeps.pure rfl
    | cons user users ih =>
      have htold : conf.stasisService.Keeps (fun k _ => k = .departing) (fun _ _ => False)
          .departing (enquire (.publishLeft ⟨id, call.id, call.tenantUuid, user⟩)) := by
        refine keeps_enquire trivial fun w found a ha => ?_
        obtain rfl := Option.some.inj ha
        rfl
      exact htold.after (fun k _ hk => hk ▸ ih) fun _ _ => False.elim
  exact hpublish _

/-- **The handler of the departure of the host** ends with nothing left to deal with. -/
theorem keeps_departure {channel : Snapshot} (hchannel : channel.id = conf.host) :
    conf.stasisService.Keeps (fun k _ => Settled k) (fun k _ => Settled k) .departing
      (onChannelLeftBridge order ari conf.id channel) := by
  have hover : Settled .over := ⟨by simp, by simp⟩
  have hastray : Settled .astray := ⟨by simp, by simp⟩
  refine keeps_bridgeGlobal.after (fun k hostUserUuid hk => ?_) fun _ _ he => he
  cases hostUserUuid with
  | none =>
    subst hk
    exact Service.Keeps.pure hover
  | some hostUserUuid =>
  have hname : bridgeVariableName conf.id "WAZO_HOST_USER_UUID" ≠ conf.hostVariable := fun h =>
    absurd (bridgeVariableName_inj h) (by decide)
  obtain rfl : k = .departing := hk.trans (if_neg fun h => hname h.1)
  refine keeps_notifyLeft.after (fun k _ hk => ?_) fun _ _ he => he
  subst hk
  refine keeps_bridgeChannels.after (fun k lone hk => ?_) fun _ _ he => he
  obtain rfl : k = .departing := hk
  show Service.Keeps _ _ _ _ (if (lone.getD []).length = 1 then _ else _)
  by_cases hlone : (lone.getD []).length = 1
  · rw [if_pos hlone]
    exact keeps_hangUpMembers (.inl rfl)
  rw [if_neg hlone]
  refine keeps_bridgeChannels.after (fun k empty hk => ?_) fun _ _ he => he
  show Service.Keeps _ _ _ _ (if empty = some [] then _ else _)
  by_cases hempty : empty = some []
  · -- nobody is left, and the bridge is destroyed
    obtain rfl : k = .over := hk.trans (if_pos hempty)
    rw [if_pos hempty]
    refine Service.Keeps.ignoring (keeps_enquire trivial fun w found a ha => ?_)
    cases a with
    | ok u => exact hover
    | error e =>
      dsimp only
      split <;> exact hover
  obtain rfl : k = .departing := hk.trans (if_neg hempty)
  rw [if_neg hempty]
  refine keeps_bridgeGlobal.after (fun k hostChannelId hk => ?_) fun _ _ he => he
  cases hostChannelId with
  | none =>
    subst hk
    exact Service.Keeps.pure hover
  | some hostChannelId =>
    show Service.Keeps _ _ _ _ (if hostChannelId = channel.id then _ else _)
    by_cases hid : hostChannelId = channel.id
    · obtain rfl : k = .departing := hk.trans (if_neg fun h => h.2 (hid.trans hchannel))
      rw [if_pos hid]
      exact keeps_hangUpMembers (.inr rfl)
    · obtain rfl : k = .astray := hk.trans (if_pos ⟨rfl, fun h => hid (h.trans hchannel.symm)⟩)
      rw [if_neg hid]
      exact Service.Keeps.pure hastray

end Programs

/-- Every program of the system keeps to its phases. -/
theorem keeps_start {handler : Handler} {w w' : World} {k : Phase} {p : StasisCode Unit}
    (h : conf.stasis.launch handler w = some (w', k, p)) :
    conf.stasisService.Keeps (fun k _ => Settled k) (fun k _ => Settled k) k p := by
  have hstart : conf.start handler = some (k, p) := by
    simp only [stasis] at h
    split at h
    · obtain ⟨⟨k', p'⟩, hs, heq⟩ := Option.map_eq_some_iff.mp h
      cases heq
      exact hs
    · cases h
  cases handler with
  | stasisStart c =>
    cases hstart
    exact keeps_other asks_onStasisStart
  | destroyed =>
    cases hstart
    exact keeps_other asks_onBridgeDestroyed
  | entered order ari event =>
    by_cases hsound : conf.Sound ari event
    · rw [start, if_pos hsound] at hstart
      cases hstart
      exact keeps_other (asks_channelEnteredBridge hsound)
    · rw [start, if_neg hsound] at hstart
      cases hstart
  | left order ari channel =>
    cases hstart
    by_cases hchannel : channel.id = conf.host
    · rw [if_pos hchannel]
      exact keeps_departure hchannel
    · rw [if_neg hchannel]
      exact keeps_other asks_onChannelLeftBridge

/-! ## What an answer changes -/

section Changes

variable {w : World} {found : Bool} {r : StasisRequest} {k : Phase} {c : String}

theorem act_dealt : (conf.act w found r).dealt = w.dealt := by
  cases r with
  | addChannel b c =>
    unfold act
    dsimp only
    split <;> rfl
  | bridgesDestroy b =>
    unfold act
    dsimp only
    split <;> rfl
  | perform action => cases action <;> rfl
  | _ => rfl

theorem act_asked (h : c ∈ w.asked) : c ∈ (conf.act w found r).asked := by
  cases r with
  | addChannel b c =>
    unfold act
    dsimp only
    split <;> exact h
  | bridgesDestroy b =>
    unfold act
    dsimp only
    split <;> exact h
  | perform action => cases action <;> exact h
  | hangup d => exact List.mem_cons_of_mem _ h
  | _ => exact h

theorem act_pending {e : StasisEvent} (h : e ∈ w.pending) : e ∈ (conf.act w found r).pending := by
  cases r with
  | addChannel b c =>
    unfold act
    dsimp only
    split
    · exact List.mem_append_left _ h
    · exact h
  | bridgesDestroy b =>
    unfold act
    dsimp only
    split
    · exact List.mem_append_left _ (List.mem_append_left _ h)
    · exact h
  | perform action => cases action <;> exact h
  | _ => exact h

/-- The host leaves when the bridge is destroyed, and then its departure is pending. -/
theorem act_left (h : (conf.act w found r).left = true) :
    w.left = true ∨ .left conf.host ∈ (conf.act w found r).pending := by
  cases r with
  | addChannel b c =>
    unfold act at h
    dsimp only at h
    split at h <;> exact .inl h
  | bridgesDestroy b =>
    by_cases hm : w.members.isSome = true
    · simp only [act, hm, if_true, takeOut, Bool.or_eq_true, decide_eq_true_eq] at h ⊢
      refine h.imp_right fun hmem => ?_
      exact List.mem_append_left _ (List.mem_append_right _ (List.mem_map_of_mem hmem))
    · simp only [act, hm] at h
      exact .inl h
  | perform action => cases action <;> exact .inl h
  | _ => exact .inl h

/-- Only `addChannel` puts a channel into the bridge. -/
theorem act_channels (h : c ∈ (conf.act w found r).channels) :
    c ∈ w.channels ∨ found = true ∧ ∃ b, r = .addChannel b c := by
  cases r with
  | addChannel b d =>
    unfold act at h
    dsimp only at h
    split at h
    · rename_i l hm
      rcases List.mem_append.mp h with h | h
      · left
        simpa [World.channels, hm] using h
      · right
        exact ⟨rfl, b, by rw [List.mem_singleton.mp h]⟩
    · exact .inl h
  | bridgesDestroy b =>
    unfold act at h
    dsimp only at h
    split at h
    · cases h
    · exact .inl h
  | perform action => cases action <;> exact .inl h
  | _ => exact .inl h

/-- The host, once it is named, is not named otherwise. -/
def Named (conf : Conference) (w : World) : Prop :=
  w.variables_ conf.hostVariable = none ∨ w.variables_ conf.hostVariable = some conf.host

theorem named_set {v : String} {o : Option String} (h : Named conf w)
    (ho : v = conf.hostVariable → o = none ∨ o = some conf.host) :
    Named conf { w with variables_ := Function.update w.variables_ v o } := by
  unfold Named
  dsimp only
  by_cases hv : conf.hostVariable = v
  · subst hv
    rw [Function.update_self]
    exact ho rfl
  · rw [Function.update_of_ne hv]
    exact h

theorem act_named (ht : conf.takes k r) (h : Named conf w) : Named conf (conf.act w found r) := by
  cases r with
  | addChannel b c =>
    unfold act
    dsimp only
    split <;> exact h
  | bridgesDestroy b =>
    unfold act
    dsimp only
    split <;> exact h
  | perform action =>
    cases action with
    | setGlobalVar v value =>
      have hk : v = conf.hostVariable → value = some conf.host := by
        cases k <;> first | exact ht | exact ht.elim
      exact named_set h fun hv => .inr (by rw [hk hv]; rfl)
    | _ => exact h
  | unsetGlobalVar v => exact named_set h fun _ => .inl rfl
  | _ => exact h

end Changes

/-! ## The invariant -/

/-- A departure of the host that has not been dealt with is pending, or is being handled; and
when it has been dealt with, whoever is in the bridge has been asked to hang up, or will be. -/
structure Invariant (conf : Conference) (w : World) (ph : ℕ → Option Phase) : Prop where
  named : Named conf w
  aligned : ∀ i, ph i ≠ some .astray
  owed : w.left = true →
    w.dealt = true ∨ .left conf.host ∈ w.pending ∨ ∃ i, ph i = some .departing
  done : w.dealt = true → ∀ c ∈ w.channels, c ≠ conf.host →
    c ∈ w.asked ∨ ∃ i channelIds, ph i = some (.hanging channelIds) ∧ c ∈ channelIds

/-- No channel is put into the bridge when the departure of the host has been dealt with, and the
handler of that departure finds the variables of the host set, unless nobody is there to hang up. -/
def Timely (conf : Conference) (w : World) (ph : ℕ → Option Phase) (i : ℕ) (found : Bool) :
    StasisRequest → Prop
  | .addChannel .. => found = true → w.dealt = false
  | .getGlobalVar v => ph i = some .departing → w.variables_ v = none →
      ∀ c ∈ w.channels, c ≠ conf.host → c ∈ w.asked
  | _ => True

instance (w : World) (ph : ℕ → Option Phase) (i : ℕ) (found : Bool) :
    ∀ r, Decidable (Timely conf w ph i found r)
  | .addChannel .. => inferInstanceAs (Decidable (_ → _))
  | .getGlobalVar _ => inferInstanceAs (Decidable (_ → _ → ∀ c ∈ _, _))
  | .acquire | .release | .bridgesGet .. | .bridgesCreateWithId _ | .subscribe _
  | .bridgesDestroy _ | .hangup _ | .unsetGlobalVar _ | .perform _ | .publishLeft _
  | .publishDeleted .. => isTrue trivial

section Steps

variable {w : World} {ph : ℕ → Option Phase} {i : ℕ} {k : Phase} {found : Bool}
  {r : StasisRequest}

/-- The handler of the departure, at the request that deals with it. -/
theorem next_of_departing (hw : Invariant conf w ph) (hph : ph i = some .departing)
    (htimely : Timely conf w ph i found r) (hnext : conf.next w .departing r ≠ .departing)
    {c : String} (hc : c ∈ w.channels) (hhost : c ≠ conf.host) :
    c ∈ w.asked ∨ ∃ channelIds, conf.next w .departing r = .hanging channelIds ∧
      c ∈ channelIds := by
  cases r with
  | bridgesGet reader b =>
    cases reader with
    | hangupAll => exact .inr ⟨w.channels, rfl, hc⟩
    | hangupAllParticipants => exact .inr ⟨w.channels, rfl, hc⟩
    | isEmpty =>
      by_cases hm : w.members = some []
      · simp [World.channels, hm] at hc
      · exact absurd (if_neg hm) hnext
    | _ => exact absurd rfl hnext
  | getGlobalVar v =>
    cases hv : w.variables_ v with
    | none => exact .inl (htimely hph hv c hc hhost)
    | some value =>
      -- the variable of the host names the host
      refine absurd ?_ hnext
      simp only [next, hv]
      refine if_neg fun ⟨hname, hne⟩ => ?_
      subst hname
      rcases hw.named with hnone | hsome
      · rw [hnone] at hv
        cases hv
      · rw [hsome] at hv
        exact hne (Option.some.inj hv).symm
  | _ => exact absurd rfl hnext

/-- No handler goes astray. -/
theorem next_ne_astray (hw : Invariant conf w ph) (hk : k ≠ .astray) :
    conf.next w k r ≠ .astray := by
  cases k with
  | departing =>
    cases r with
    | bridgesGet reader b =>
      cases reader <;> simp only [next] <;> first | (split <;> simp) | simp
    | getGlobalVar v =>
      cases hv : w.variables_ v with
      | none => simp [next, hv]
      | some value =>
        simp only [next, hv]
        split
        · rename_i hname
          obtain ⟨rfl, hne⟩ := hname
          rcases hw.named with hnone | hsome
          · rw [hnone] at hv
            cases hv
          · rw [hsome] at hv
            exact absurd (Option.some.inj hv).symm hne
        · simp
    | _ => simp [next]
  | hanging channelIds =>
    cases channelIds with
    | nil => simp [next]
    | cons c l => cases r <;> simp [next]
  | astray => exact absurd rfl hk
  | _ => simp [next]

theorem settle_fields {k' : Phase} : (settle k k' w).channels = w.channels ∧
    (settle k k' w).asked = w.asked ∧ (settle k k' w).pending = w.pending ∧
    (settle k k' w).left = w.left ∧ (settle k k' w).variables_ = w.variables_ := by
  unfold settle
  split <;> exact ⟨rfl, rfl, rfl, rfl, rfl⟩

/-- The departure is dealt with before the step, or by it. -/
theorem settle_dealt {k' : Phase} : (settle k k' w).dealt = true ↔
    w.dealt = true ∨ k = .departing ∧ k' ≠ .departing := by
  unfold settle
  split
  · rename_i h
    exact iff_of_true rfl (.inr h)
  · rename_i h
    exact ⟨.inl, fun h' => h'.resolve_right h⟩

theorem Invariant.init (hw : conf.stasis.init w) : Invariant conf w fun _ => none := by
  obtain ⟨-, hvariables, hleft, hdealt⟩ := hw
  refine ⟨.inl (hvariables _), fun _ h => (Option.some_ne_none _ h.symm).elim, fun h => ?_,
    fun h => ?_⟩
  · rw [hleft] at h
    cases h
  · rw [hdealt] at h
    cases h

/-- An answer keeps the invariant. -/
theorem Invariant.answer (hw : Invariant conf w ph) (hph : ph i = some k) (ht : conf.takes k r)
    (htimely : Timely conf w ph i found r) :
    Invariant conf (settle k (conf.next w k r) (conf.act w found r))
      (Function.update ph i (some (conf.next w k r))) := by
  obtain ⟨hchannels, hasked, hpending, hleft, hvariables⟩ :
      (settle k (conf.next w k r) (conf.act w found r)).channels = (conf.act w found r).channels ∧
        _ := settle_fields
  refine ⟨?_, fun j => ?_, fun h => ?_, fun h c hc hhost => ?_⟩
  · have hnamed : Named conf (conf.act w found r) := act_named ht hw.named
    unfold Named at hnamed ⊢
    rwa [hvariables]
  · by_cases hj : j = i
    · subst hj
      rw [Function.update_self]
      have hk : k ≠ .astray := fun e => hw.aligned j (e ▸ hph)
      exact fun e => next_ne_astray hw hk (Option.some.inj e)
    · rw [Function.update_of_ne hj]
      exact hw.aligned j
  · rw [hleft] at h
    rw [hpending, settle_dealt, act_dealt]
    rcases act_left h with h | h
    swap
    · exact .inr (.inl h)
    rcases hw.owed h with hd | hp | ⟨j, hj⟩
    · exact .inl (.inl hd)
    · exact .inr (.inl (act_pending hp))
    · -- the handler of the departure has dealt with it, or is still on the way
      by_cases hji : j = i
      · subst hji
        obtain rfl : k = .departing := Option.some.inj (hph.symm.trans hj)
        by_cases hnext : conf.next w .departing r = .departing
        · exact .inr (.inr ⟨j, by rw [Function.update_self, hnext]⟩)
        · exact .inl (.inr ⟨rfl, hnext⟩)
      · exact .inr (.inr ⟨j, by rw [Function.update_of_ne hji, hj]⟩)
  · rw [hchannels] at hc
    rw [hasked]
    rw [settle_dealt, act_dealt] at h
    rcases h with hd | ⟨rfl, hnext⟩
    · -- nobody enters any more, and who is being hung up is asked, or still on the list
      have hold : c ∈ w.channels := by
        rcases act_channels hc with hold | ⟨rfl, b, rfl⟩
        · exact hold
        · exact absurd (hd.symm.trans (htimely rfl)) (by simp)
      rcases hw.done hd c hold hhost with ha | ⟨j, channelIds, hj, hmem⟩
      · exact .inl (act_asked ha)
      by_cases hji : j = i
      swap
      · exact .inr ⟨j, channelIds, by rw [Function.update_of_ne hji, hj], hmem⟩
      subst hji
      obtain rfl : k = .hanging channelIds := Option.some.inj (hph.symm.trans hj)
      cases r with
      | hangup d =>
        cases channelIds with
        | nil => cases hmem
        | cons e l =>
          obtain rfl : e = d := Option.some.inj ht
          rcases List.mem_cons.mp hmem with rfl | hmem
          · exact .inl (List.mem_cons_self ..)
          · exact .inr ⟨j, l, by rw [Function.update_self]; rfl, hmem⟩
      | _ => exact ht.elim
    · have hold : c ∈ w.channels := by
        rcases act_channels hc with hold | ⟨rfl, b, rfl⟩
        · exact hold
        · exact ht.elim
      rcases next_of_departing hw hph htimely hnext hold hhost with ha | ⟨channelIds, hl, hmem⟩
      · exact .inl (act_asked ha)
      · exact .inr ⟨i, channelIds, by rw [Function.update_self, hl], hmem⟩

/-- The handler of the departure of the host starts on the way to it. -/
theorem Invariant.start {handler : Handler} {w' : World} {p : StasisCode Unit}
    (hw : Invariant conf w ph) (hi : ph i = none)
    (h : conf.stasis.launch handler w = some (w', k, p)) :
    Invariant conf w' (Function.update ph i (some k)) := by
  simp only [stasis] at h
  split at h
  swap
  · cases h
  rename_i hevent
  obtain ⟨⟨k, p⟩, hstart, heq⟩ := Option.map_eq_some_iff.mp h
  cases heq
  have hk : k ≠ .astray ∧ (handler.event = .left conf.host → k = .departing) := by
    cases handler with
    | entered order ari event =>
      rw [Conference.start] at hstart
      split at hstart
      · cases hstart
        exact ⟨by simp, fun h => by cases h⟩
      · cases hstart
    | left order ari channel =>
      cases hstart
      by_cases hchannel : channel.id = conf.host
      · exact ⟨by simp [hchannel], fun _ => if_pos hchannel⟩
      · exact ⟨by simp [hchannel], fun h => absurd (StasisEvent.left.inj h) hchannel⟩
    | _ =>
      cases hstart
      exact ⟨by simp, fun h => by cases h⟩
  refine ⟨hw.named, fun j => ?_, fun hleft => ?_, fun hd c hc hhost => ?_⟩
  · by_cases hj : j = i
    · subst hj
      rw [Function.update_self]
      exact fun e => hk.1 (Option.some.inj e)
    · rw [Function.update_of_ne hj]
      exact hw.aligned j
  · rcases hw.owed hleft with hd | hp | ⟨j, hj⟩
    · exact .inl hd
    · by_cases hhandled : handler.event = .left conf.host
      · exact .inr (.inr ⟨i, by rw [Function.update_self, hk.2 hhandled]⟩)
      · exact .inr (.inl ((List.mem_erase_of_ne (Ne.symm hhandled)).mpr hp))
    · have hji : j ≠ i := fun e => by rw [e, hi] at hj; cases hj
      exact .inr (.inr ⟨j, by rw [Function.update_of_ne hji, hj]⟩)
  · rcases hw.done hd c hc hhost with ha | ⟨j, channelIds, hj, hmem⟩
    · exact .inl ha
    · have hji : j ≠ i := fun e => by rw [e, hi] at hj; cases hj
      exact .inr ⟨j, channelIds, by rw [Function.update_of_ne hji, hj], hmem⟩

theorem Invariant.outside {e : Outside} {w' : World} (hw : Invariant conf w ph)
    (h : conf.stasis.outside e w = some w') : Invariant conf w' ph := by
  cases e with
  | arrive c =>
    cases h
    refine ⟨hw.named, hw.aligned, fun hleft => ?_, hw.done⟩
    exact (hw.owed hleft).imp_right fun h => h.imp_left (List.mem_append_left _)
  | leave c =>
    cases hm : w.members with
    | none => simp [stasis, hm] at h
    | some channelIds =>
      by_cases hc : c ∈ channelIds
      swap
      · simp [stasis, hm, hc] at h
      simp only [stasis, hm, if_pos hc, Option.some.injEq] at h
      subst h
      refine ⟨hw.named, hw.aligned, fun hleft => ?_, fun hd d hd' hhost => ?_⟩
      · simp only [takeOut, Bool.or_eq_true, decide_eq_true_eq] at hleft ⊢
        rcases hleft with hleft | hhost
        · exact (hw.owed hleft).imp_right fun h => h.imp_left (List.mem_append_left _)
        · exact .inr (.inl (List.mem_append_right _ (List.mem_map_of_mem hhost)))
      · refine hw.done hd d ?_ hhost
        have hd'' : d ∈ channelIds.filter (· ≠ c) := hd'
        simpa [World.channels, hm] using (List.mem_filter.mp hd'').1

end Steps

/-- Every event has been handled. -/
def Quiet (s : Pool StasisRequest StasisRequest.Reply Exn Unit World Phase) : Prop :=
  s.world.pending = [] ∧ ∀ i, s.asked i = none

/-- The conference does not survive its host: when the host has left and every event has been
handled, all others that were bridged have been asked to hang up, or are gone. -/
def Over (conf : Conference) (w : World) : Prop :=
  w.left = true → ∀ c ∈ w.bridged, c ≠ conf.host → c ∈ w.asked ∨ c ∉ w.channels

/-- A host and a participant. -/
def pairConference : Conference := ⟨"conf", "host"⟩

/-- Nobody has arrived. -/
def nobody : Pool StasisRequest StasisRequest.Reply Exn Unit World Phase :=
  ⟨{ members := none, variables_ := fun _ => none, locked := false, pending := [], bridged := [],
     asked := [], left := false, dealt := false }, fun _ => none⟩

/-- Where a list of steps leads. -/
def afterwards (steps : List (System.Label Bool Handler Outside)) :
    Pool StasisRequest StasisRequest.Reply Exn Unit World Phase :=
  (pairConference.stasis.machine.run steps nobody).getD nobody

/-- A handler runs to its end, by a number of answers. -/
def runs (i : ℕ) (handler : Handler) (answers : ℕ) : List (System.Label Bool Handler Outside) :=
  .start i handler :: List.replicate answers (.answer i true)

/-- The handler of a channel that has entered. -/
def entering (c : String) (channels : List String) : Handler :=
  .entered (pairArrival c channels).order pairAsterisk (pairArrival c channels).event

/-- The handler of a channel that has left. -/
def leaving (c : String) : Handler :=
  .left (pairArrival c []).order pairAsterisk (pairArrival c []).event.channel

/-- The host enters and leaves while the participant is on its way. -/
def lateArrival : List (System.Label Bool Handler Outside) :=
  [.outside (.arrive "host")] ++ runs 0 (.stasisStart "host") 6 ++
    runs 1 (entering "host" ["host"]) 5 ++
    [.outside (.arrive "friend"), .outside (.leave "host")] ++ runs 2 (leaving "host") 6 ++
    runs 3 (.stasisStart "friend") 6 ++ runs 4 .destroyed 6 ++
    runs 5 (entering "friend" ["friend"]) 1

/-- The participant enters in time. -/
def timelyArrival : List (System.Label Bool Handler Outside) :=
  [.outside (.arrive "host"), .outside (.arrive "friend")] ++ runs 0 (.stasisStart "host") 6 ++
    runs 1 (.stasisStart "friend") 4 ++ runs 2 (entering "host" ["host"]) 5 ++
    runs 3 (entering "friend" ["host", "friend"]) 2 ++ [.outside (.leave "host")] ++
    runs 4 (leaving "host") 7

theorem afterwards_reaches {C : Pool StasisRequest StasisRequest.Reply Exn Unit World Phase →
      System.Label Bool Handler Outside → Prop} {steps : List (System.Label Bool Handler Outside)}
    (h : pairConference.stasis.machine.Meets C steps nobody) :
    pairConference.stasis.machine.Reaches C (afterwards steps) := by
  have hinit : pairConference.stasis.machine.init nobody :=
    ⟨⟨rfl, fun _ => rfl, rfl, rfl⟩, fun _ => rfl⟩
  unfold afterwards
  cases hrun : pairConference.stasis.machine.run steps nobody with
  | none => exact .init hinit
  | some s => exact Machine.Reaches.run (.init hinit) h hrun

/-- Only the handlers that are started have to end. -/
theorem quiet_afterwards {steps : List (System.Label Bool Handler Outside)} {n : ℕ}
    (hruns : (pairConference.stasis.machine.run steps nobody).isSome = true)
    (hpending : (afterwards steps).world.pending = [])
    (hended : ∀ i < n, (afterwards steps).asked i = none)
    (hstarted : ∀ a ∈ steps, ∀ i job, a = .start i job → i < n) : Quiet (afterwards steps) := by
  refine ⟨hpending, fun i => ?_⟩
  by_cases hi : i < n
  · exact hended i hi
  obtain ⟨s, hs⟩ := Option.isSome_iff_exists.mp hruns
  have hidle : (afterwards steps).tasks i = none := by
    unfold afterwards
    rw [hs]
    exact System.idle_run rfl (fun a ha job e => hi (hstarted a ha i job e)) hs
  simp [Pool.asked, hidle]

theorem quiet_lateArrival : Quiet (afterwards lateArrival) :=
  quiet_afterwards (n := 6) (by decide) (by decide) (by decide)
    (by simp [lateArrival, runs])

end Conference

end Calld.AdhocConferences
