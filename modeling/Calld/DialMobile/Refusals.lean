/-
# A call that is refused

When a channel that has been dialed ends, the call was refused: `_on_channel_gone` stops the dialer,
waits for its thread and hangs up the caller.  It recognises the channel by `_dialed_channels`,
which the thread fills once the answer to `originate` has come; a channel that ends before is
nobody's, and the caller is not hung up.

The handler that waits for the thread does not wait for ever: the thread is woken up, and each of
its steps brings its end closer.
-/
import Calld.DialMobile.Ringing

namespace Calld.DialMobile

open Effect ContactDialer

variable {s s' : ContactDialer} {answer : DialerAnswer} {order : List ChannelId}
  {label : DialerLabel}

/-- The next statement of the thread puts a channel in `_dialed_channels`. -/
def DialerPhase.adds : DialerPhase → Bool
  | called _ _ => true
  | _ => false

/-- The channel whose end is handled. -/
def GonePhase.current : GonePhase → Option ChannelId
  | idle => none
  | reading channel _ _ | stopping channel _ | waking channel _ | joining channel _
  | refusing channel _ => some channel

/-- The channel that is looked for, of a dialer that was not stopped. -/
def GonePhase.lookedFor : GonePhase → Option ChannelId
  | reading channel _ false => some channel
  | _ => none

/-- The channel that has refused the call, of a dialer that was not stopped. -/
def GonePhase.refused : GonePhase → Option ChannelId
  | refusing channel false => some channel
  | _ => none

namespace ContactDialer

/-- Who refuses the call ends it: the dialer is stopped, and the caller has been hung up. -/
def Declined (s : ContactDialer) : Prop :=
  ∀ result ∈ s.handled, result.channel ∈ s.legs → result.stopped = false →
    result.result = .ok () ∧ s.phase = .finished ∧ s.caller ∈ s.hungUp

/-- The end of a channel is handled once the channel is in `_dialed_channels`, no other channel is
put there while the handler looks for it, and the caller can be hung up. -/
def Timely (s : ContactDialer) : DialerLabel → Prop
  | .gone channel => channel ∈ s.legs → s.shouldStop = false → channel ∈ s.dialedChannels
  | .thread _ _ => s.phase.adds → ∀ channel ∈ s.handler.lookedFor, channel ∉ s.legs
  | .handler answer => answer = .raises → ∀ channel ∈ s.handler.refused, channel ∉ s.legs
  | _ => True

instance decidableTimely (s : ContactDialer) : DecidablePred s.Timely
  | .gone channel => inferInstanceAs
      (Decidable (channel ∈ s.legs → s.shouldStop = false → channel ∈ s.dialedChannels))
  | .thread _ _ => inferInstanceAs
      (Decidable (s.phase.adds → ∀ channel ∈ s.handler.lookedFor, channel ∉ s.legs))
  | .handler answer => inferInstanceAs
      (Decidable (answer = .raises → ∀ channel ∈ s.handler.refused, channel ∉ s.legs))
  | .kick | .stop | .wake | .register _ | .unregister _ | .create _ | .answered _ | .destroyed _ =>
    isTrue trivial

/-! ## The frame of a step -/

/-- All that the thread touches. -/
theorem threadStep_frame (hs : s.threadStep answer order = some s') :
    ∃ phase wakeup calledContacts dialedChannels hungUp,
      s' = { s with phase, wakeup, calledContacts, dialedChannels, hungUp } ∧
      (s.phase.adds = false → dialedChannels = s.dialedChannels) ∧
      ∀ channel ∈ s.hungUp, channel ∈ hungUp := by
  have hleave {t : ContactDialer} (ht : s.leave order = some t) :
      ∃ phase wakeup calledContacts dialedChannels hungUp,
        t = { s with phase, wakeup, calledContacts, dialedChannels, hungUp } ∧
        (s.phase.adds = false → dialedChannels = s.dialedChannels) ∧
        ∀ channel ∈ s.hungUp, channel ∈ hungUp := by
    unfold ContactDialer.leave at ht
    split at ht <;> cases ht
    exact ⟨_, _, _, _, _, rfl, fun _ => rfl, fun _ => id⟩
  unfold threadStep at hs
  cases hphase : s.phase with
  | called channel contacts =>
    simp only [hphase] at hs
    cases hs
    exact ⟨_, _, _, _, _, rfl, nofun, fun _ => id⟩
  | dialing contacts =>
    cases contacts with
    | nil =>
      simp only [hphase] at hs
      cases hs
      exact ⟨_, _, _, _, _, rfl, fun _ => rfl, fun _ => id⟩
    | cons contact contacts =>
      simp only [hphase] at hs
      split at hs
      · cases hs
        exact ⟨_, _, _, _, _, rfl, fun _ => rfl, fun _ => id⟩
      · split at hs <;> cases hs <;> exact ⟨_, _, _, _, _, rfl, fun _ => rfl, fun _ => id⟩
  | cleaning channels =>
    cases channels with
    | nil =>
      simp only [hphase] at hs
      cases hs
      exact ⟨_, _, _, _, _, rfl, fun _ => rfl, fun _ => id⟩
    | cons channel channels =>
      simp only [hphase] at hs
      split at hs
      · cases hs
        exact ⟨_, _, _, _, _, rfl, fun _ => rfl, fun _ => id⟩
      · split at hs <;> cases hs <;> exact ⟨_, _, _, _, _, rfl, fun _ => rfl, fun _ => id⟩
  | hanging channel channels =>
    simp only [hphase] at hs
    split at hs <;> cases hs
    · exact ⟨_, _, _, _, _, rfl, fun _ => rfl, fun _ => id⟩
    · exact ⟨_, _, _, _, _, rfl, fun _ => rfl, fun _ => List.mem_append_left _⟩
  | testing | checking =>
    simp only [hphase] at hs
    split at hs
    · rw [← hphase]
      exact hleave hs
    · cases hs
      exact ⟨_, _, _, _, _, rfl, fun _ => rfl, fun _ => id⟩
  | waiting =>
    simp only [hphase] at hs
    split at hs <;> cases hs
    exact ⟨_, _, _, _, _, rfl, fun _ => rfl, fun _ => id⟩
  | clearing =>
    simp only [hphase] at hs
    cases hs
    exact ⟨_, _, _, _, _, rfl, fun _ => rfl, fun _ => id⟩
  | probing =>
    simp only [hphase] at hs
    split at hs
    · cases hs
      exact ⟨_, _, _, _, _, rfl, fun _ => rfl, fun _ => id⟩
    · rw [← hphase]
      exact hleave hs
    · cases hs
      exact ⟨_, _, _, _, _, rfl, fun _ => rfl, fun _ => id⟩
  | starting | fetching | originating contact contacts | created contact channel contacts
  | dialed contacts =>
    simp only [hphase] at hs
    split at hs <;> cases hs <;> exact ⟨_, _, _, _, _, rfl, fun _ => rfl, fun _ => id⟩
  | finished =>
    simp only [hphase] at hs
    cases hs

/-! ## The end of the thread -/

/-- How many steps a thread that is stopped has at most before it ends. -/
def rank (s : ContactDialer) : ℕ :=
  match s.phase with
  | .originating _ _ => 2 * s.dialedChannels.length + 9
  | .created _ _ _ => 2 * s.dialedChannels.length + 8
  | .called _ _ => 2 * s.dialedChannels.length + 7
  | .starting | .probing => 2 * s.dialedChannels.length + 5
  | .waiting | .fetching | .dialed _ => 2 * s.dialedChannels.length + 4
  | .clearing | .dialing _ => 2 * s.dialedChannels.length + 3
  | .testing | .checking => 2 * s.dialedChannels.length + 2
  | .hanging _ channels => 2 * channels.length + 2
  | .cleaning channels => 2 * channels.length + 1
  | .finished => 0

/-- A thread that is stopped does not wait again, and comes closer to its end. -/
theorem threadStep_stopped (hstop : s.shouldStop) (hs : s.threadStep answer order = some s') :
    s'.phase ≠ .waiting ∧ s'.rank < s.rank := by
  have hleave (hrank : 2 * s.dialedChannels.length + 1 < s.rank) (ht : s.leave order = some s') :
      s'.phase ≠ .waiting ∧ s'.rank < s.rank := by
    unfold ContactDialer.leave at ht
    split at ht <;> cases ht
    next hperm =>
      refine ⟨nofun, ?_⟩
      show 2 * order.length + 1 < s.rank
      rw [hperm.length_eq]
      exact hrank
  unfold threadStep at hs
  cases hphase : s.phase with
  | dialing contacts =>
    cases contacts with
    | nil =>
      simp only [hphase] at hs
      cases hs
      exact ⟨nofun, by simp [rank, goTo, hphase]⟩
    | cons contact contacts =>
      simp only [hphase, hstop, if_true] at hs
      cases hs
      exact ⟨nofun, by simp [rank, goTo, hphase]⟩
  | called channel contacts =>
    simp only [hphase] at hs
    cases hs
    refine ⟨nofun, ?_⟩
    simp only [rank, goTo, hphase, List.length_append, List.length_singleton]
    omega
  | cleaning channels =>
    cases channels with
    | nil =>
      simp only [hphase] at hs
      cases hs
      exact ⟨nofun, by simp [rank, goTo, hphase]⟩
    | cons channel channels =>
      simp only [hphase] at hs
      split at hs
      · cases hs
        exact ⟨nofun, by simp [rank, goTo, hphase]⟩
      · split at hs <;> cases hs
        all_goals
          refine ⟨nofun, ?_⟩
          simp only [rank, goTo, hphase, List.length_cons]
          omega
  | hanging channel channels =>
    simp only [hphase] at hs
    split at hs <;> cases hs <;> exact ⟨nofun, by simp [rank, goTo, hphase]⟩
  | testing | checking =>
    simp only [hphase, hstop, if_true] at hs
    exact hleave (by simp [rank, hphase]) hs
  | probing =>
    simp only [hphase] at hs
    split at hs
    · cases hs
      exact ⟨nofun, by simp [rank, goTo, hphase]⟩
    · exact hleave (by simp [rank, hphase]) hs
    · cases hs
      exact ⟨nofun, by simp [rank, goTo, hphase]⟩
  | waiting =>
    simp only [hphase] at hs
    split at hs <;> cases hs
    exact ⟨nofun, by simp [rank, goTo, hphase]⟩
  | clearing =>
    simp only [hphase] at hs
    cases hs
    exact ⟨nofun, by simp [rank, goTo, hphase]⟩
  | starting | fetching | originating contact contacts | created contact channel contacts
  | dialed contacts =>
    simp only [hphase] at hs
    split at hs <;> cases hs <;> exact ⟨nofun, by simp [rank, goTo, hphase]⟩
  | finished =>
    simp only [hphase] at hs
    cases hs

/-- Nothing keeps a thread that is stopped from its end. -/
theorem rank_le (hstop : s.shouldStop) (hs : s.step label = some s') : s'.rank ≤ s.rank := by
  obtain ⟨answer, order, rfl, hs⟩ | ⟨channel, contact, contacts, -, hphase, -, rfl⟩ | ha :=
    step_cases hs
  · exact (threadStep_stopped hstop hs).2.le
  · simp [rank, goTo, hphase]
  · rw [rank, rank, ha.phase, ha.dialedChannels]

/-- A thread that is stopped and woken up has a next step until it ends. -/
theorem threadStep_isSome (hstop : s.shouldStop) (hwake : s.phase = .waiting → s.wakeup)
    (hne : s.phase ≠ .finished) : ∃ answer order, (s.threadStep answer order).isSome := by
  have hleave : (s.leave s.dialedChannels).isSome := by simp [ContactDialer.leave]
  refine ⟨.raises, s.dialedChannels, ?_⟩
  unfold threadStep
  cases hphase : s.phase with
  | finished => exact absurd hphase hne
  | waiting =>
    have hwoken := hwake hphase
    simp [hwoken]
  | testing | checking => simpa [hstop] using hleave
  | dialing contacts => cases contacts <;> simp [hstop]
  | cleaning channels => cases channels <;> simp
  | _ => rfl

/-! ## Who has been born -/

/-- The channels that the dialer speaks of are in Asterisk or have been, and the caller is not one
that it has originated. -/
structure Born (s : ContactDialer) : Prop where
  caller : s.channels s.caller ≠ .unborn
  legs : ∀ channel ∈ s.legs, s.channels channel ≠ .unborn
  current : ∀ channel ∈ s.handler.current, s.channels channel ≠ .unborn
  handled : ∀ result ∈ s.handled, s.channels result.channel ≠ .unborn
  other : s.caller ∉ s.legs

namespace Born

/-- Nobody is unborn again. -/
theorem mono (h : s.Born) (hcaller : s'.caller = s.caller) (horiginated : s'.originated = s.originated)
    (hhandler : s'.handler = s.handler) (hhandled : s'.handled = s.handled)
    (hborn : ∀ channel, s.channels channel ≠ .unborn → s'.channels channel ≠ .unborn) :
    s'.Born where
  caller := by
    rw [hcaller]
    exact hborn _ h.caller
  legs channel hleg := by
    rw [ContactDialer.legs, horiginated] at hleg
    exact hborn _ (h.legs channel hleg)
  current channel hcurrent := hborn _ (h.current channel (hhandler ▸ hcurrent))
  handled result hmem := hborn _ (h.handled result (hhandled ▸ hmem))
  other := by
    rw [hcaller, ContactDialer.legs, horiginated]
    exact h.other

/-- `_on_channel_gone` goes on. -/
theorem handle (h : s.Born) {p : GonePhase} (hp : p.current = s.handler.current) :
    (s.handle p).Born where
  caller := h.caller
  legs := h.legs
  current channel hcurrent := h.current channel (hp ▸ hcurrent)
  handled := h.handled
  other := h.other

/-- `_on_channel_gone` ends. -/
theorem finish (h : s.Born) {channel : ChannelId} (hc : s.handler.current = some channel)
    (stopped : Bool) (result : Except GoneError Unit) : (s.finish channel stopped result).Born where
  caller := h.caller
  legs := h.legs
  current := nofun
  handled r hmem := by
    obtain hold | hnew := List.mem_append.mp hmem
    · exact h.handled r hold
    · obtain rfl := List.mem_singleton.mp hnew
      exact h.current channel hc
  other := h.other

theorem handler (h : s.Born) (hs : s.handlerStep answer = some s') : s'.Born := by
  unfold handlerStep at hs
  cases hhandler : s.handler with
  | idle =>
    simp only [hhandler] at hs
    cases hs
  | reading channel size stopped =>
    have hcurrent : s.handler.current = some channel := by rw [hhandler]; rfl
    simp only [hhandler] at hs
    split at hs
    · cases hs
      exact h.finish hcurrent stopped _
    · split at hs <;> cases hs
      · exact h.finish hcurrent stopped _
      · exact h.handle hcurrent.symm
  | stopping channel stopped =>
    have hcurrent : s.handler.current = some channel := by rw [hhandler]; rfl
    simp only [hhandler] at hs
    split at hs <;> cases hs
    · exact h.handle hcurrent.symm
    · exact (h.handle (p := .waking channel stopped) hcurrent.symm).mono rfl rfl rfl rfl fun _ => id
  | waking channel stopped =>
    have hcurrent : s.handler.current = some channel := by rw [hhandler]; rfl
    simp only [hhandler] at hs
    cases hs
    exact (h.handle (p := .joining channel stopped) hcurrent.symm).mono rfl rfl rfl rfl fun _ => id
  | joining channel stopped =>
    have hcurrent : s.handler.current = some channel := by rw [hhandler]; rfl
    simp only [hhandler] at hs
    split at hs <;> cases hs
    exact h.handle hcurrent.symm
  | refusing channel stopped =>
    have hcurrent : s.handler.current = some channel := by rw [hhandler]; rfl
    simp only [hhandler] at hs
    split at hs
    · cases hs
      exact h.finish hcurrent stopped _
    · split at hs <;> cases hs
      · exact h.finish hcurrent stopped _
      · exact (h.finish hcurrent stopped (.ok ())).mono rfl rfl rfl rfl fun _ => id

/-- Asterisk creates the channel of a contact. -/
theorem create {contact : String} {contacts : List String} {channel : ChannelId} (h : s.Born)
    (hunborn : s.channels channel = .unborn) :
    Born { s.goTo (.created contact channel contacts) with
      channels := Function.update s.channels channel .ringing
      originated := s.originated ++ [(contact, channel)] } := by
  have hborn : ∀ channel', s.channels channel' ≠ .unborn →
      Function.update s.channels channel .ringing channel' ≠ .unborn := by
    intro channel' hne
    rwa [Function.update_of_ne]
    rintro rfl
    exact hne hunborn
  have hlegs : ∀ channel' ∈ (s.originated ++ [(contact, channel)]).map (·.2),
      channel' ∈ s.legs ∨ channel' = channel := by simp [ContactDialer.legs]
  refine ⟨hborn _ h.caller, fun channel' hleg => ?_, fun _ hcurrent => hborn _ (h.current _ hcurrent),
    fun _ hmem => hborn _ (h.handled _ hmem), fun hcaller => ?_⟩
  · obtain hold | rfl := hlegs channel' hleg
    · exact hborn _ (h.legs channel' hold)
    · simp
  · obtain hold | heq := hlegs _ hcaller
    · exact h.other hold
    · exact h.caller (heq ▸ hunborn)

theorem start (h : s.Fresh) : s.Born where
  caller := h.caller
  legs := by simp [ContactDialer.legs, h.originated]
  current := by simp [h.handler, GonePhase.current]
  handled := by simp [h.handled]
  other := by simp [ContactDialer.legs, h.originated]

theorem step (h : s.Born) (hs : s.step label = some s') : s'.Born := by
  have hupdate {channel : ChannelId} {leg : Leg} (hleg : leg ≠ .unborn) (channel' : ChannelId)
      (hne : s.channels channel' ≠ .unborn) :
      Function.update s.channels channel leg channel' ≠ .unborn := by
    by_cases hc : channel' = channel
    · subst hc
      rwa [Function.update_self]
    · rwa [Function.update_of_ne hc]
  cases label with
  | thread answer order =>
    obtain ⟨_, _, _, _, _, rfl, -, -⟩ := threadStep_frame hs
    exact h.mono rfl rfl rfl rfl fun _ => id
  | handler answer => exact h.handler hs
  | create channel =>
    obtain ⟨contact, contacts, -, hunborn, rfl⟩ := create_cases hs
    exact h.create hunborn
  | kick | wake | register contact | unregister contact =>
    cases hs
    exact h.mono rfl rfl rfl rfl fun _ => id
  | stop =>
    simp only [ContactDialer.step] at hs
    split at hs <;> cases hs
    exact h.mono rfl rfl rfl rfl fun _ => id
  | answered channel | destroyed channel =>
    simp only [ContactDialer.step] at hs
    split at hs <;> cases hs
    exact h.mono rfl rfl rfl rfl (hupdate (by simp))
  | gone channel =>
    simp only [ContactDialer.step] at hs
    split at hs
    next hgone =>
      cases hs
      refine ⟨h.caller, h.legs, fun channel' hcurrent => ?_, h.handled, h.other⟩
      obtain rfl : channel = channel' := Option.some.inj hcurrent
      show s.channels channel ≠ .unborn
      simp [hgone.2]
    · cases hs

end Born

theorem born_kept {C : ContactDialer → DialerLabel → Prop} (h : dialerMachine.Reaches C s) :
    s.Born :=
  h.invariant (fun _ => Born.start) fun _ _ _ hb _ => hb.step

/-! ## What the handler knows -/

/-- Where the handler stands, the dialer is as far. -/
structure Declining (s : ContactDialer) : Prop where
  reading : ∀ channel size, s.handler = .reading channel size false → channel ∈ s.legs →
    channel ∈ s.dialedChannels ∧ size = s.dialedChannels.length
  waking : ∀ channel stopped, s.handler = .waking channel stopped → s.shouldStop
  joining : ∀ channel stopped, s.handler = .joining channel stopped →
    s.shouldStop ∧ (s.phase = .waiting → s.wakeup)
  refusing : ∀ channel stopped, s.handler = .refusing channel stopped → s.phase = .finished
  declined : s.Declined

theorem threadStep_finished (hphase : s.phase = .finished) : s.threadStep answer order = none := by
  simp only [threadStep, hphase]

namespace Declining

/-- What the others do. -/
theorem aside (h : s.Declining) (ha : s.Aside s') (hcaller : s'.caller = s.caller)
    (hhandler : s'.handler = s.handler) (hhandled : s'.handled = s.handled)
    (hstop : s.shouldStop → s'.shouldStop) (hwake : s.wakeup → s'.wakeup) : s'.Declining where
  reading channel size hreading hleg := by
    rw [legs, ha.originated] at hleg
    rw [ha.dialedChannels]
    exact h.reading channel size (hhandler ▸ hreading) hleg
  waking channel stopped hwaking := hstop (h.waking channel stopped (hhandler ▸ hwaking))
  joining channel stopped hjoining := by
    rw [ha.phase]
    exact (h.joining channel stopped (hhandler ▸ hjoining)).imp hstop fun hw hphase =>
      hwake (hw hphase)
  refusing channel stopped hrefusing :=
    ha.phase.trans (h.refusing channel stopped (hhandler ▸ hrefusing))
  declined result hmem hleg hstopped := by
    rw [legs, ha.originated] at hleg
    obtain ⟨hok, hphase, hhung⟩ := h.declined result (hhandled ▸ hmem) hleg hstopped
    exact ⟨hok, ha.phase.trans hphase, hcaller ▸ ha.hungUp _ hhung⟩

theorem thread (h : s.Declining) (hc : s.Timely (.thread answer order))
    (hs : s.threadStep answer order = some s') : s'.Declining := by
  have hne : s.phase ≠ .finished := by
    intro hphase
    rw [threadStep_finished hphase] at hs
    cases hs
  have hnotwaiting (hstop : s.shouldStop) := (threadStep_stopped hstop hs).1
  obtain ⟨phase, wakeup, calledContacts, dialedChannels, hungUp, rfl, hdialed, -⟩ :=
    threadStep_frame hs
  refine ⟨fun channel size hreading hleg => ?_, h.waking, fun channel stopped hjoining => ?_,
    fun channel stopped hrefusing => absurd (h.refusing channel stopped hrefusing) hne,
    fun result hmem hleg hstopped => absurd (h.declined result hmem hleg hstopped).2.1 hne⟩
  · -- the thread adds no channel while the handler looks for this one
    cases hadds : s.phase.adds with
    | true =>
      have hcurrent : s.handler.lookedFor = some channel := by
        rw [show s.handler = _ from hreading]
        rfl
      exact absurd hleg (hc hadds channel hcurrent)
    | false =>
      show channel ∈ dialedChannels ∧ size = dialedChannels.length
      rw [hdialed hadds]
      exact h.reading channel size hreading hleg
  · have hstop := (h.joining channel stopped hjoining).1
    exact ⟨hstop, fun hphase => absurd hphase (hnotwaiting hstop)⟩

/-- The channel that is created is not one whose end is handled. -/
theorem create {channel : ChannelId} (h : s.Declining) (hb : s.Born)
    (hs : s.step (.create channel) = some s') : s'.Declining := by
  obtain ⟨contact, contacts, hphase, hunborn, rfl⟩ := create_cases hs
  have hne : s.phase ≠ .finished := by simp [hphase]
  have hold {channel' : ChannelId} (hborn : s.channels channel' ≠ .unborn)
      (hleg : channel' ∈ (s.originated ++ [(contact, channel)]).map (·.2)) : channel' ∈ s.legs := by
    have hlegs : channel' ∈ s.legs ∨ channel' = channel := by simpa [legs] using hleg
    refine hlegs.resolve_right ?_
    rintro rfl
    exact hborn hunborn
  refine ⟨fun channel' size hreading hleg => ?_, h.waking, fun channel' stopped hjoining =>
    ⟨(h.joining channel' stopped hjoining).1, by simp⟩,
    fun channel' stopped hrefusing => absurd (h.refusing channel' stopped hrefusing) hne,
    fun result hmem hleg hstopped => ?_⟩
  · refine h.reading channel' size hreading (hold (hb.current channel' ?_) hleg)
    rw [show s.handler = _ from hreading]
    rfl
  · exact absurd (h.declined result hmem (hold (hb.handled result hmem) hleg) hstopped).2.1 hne

theorem handler (h : s.Declining) (hb : s.Born) (hc : s.Timely (.handler answer))
    (hs : s.handlerStep answer = some s') : s'.Declining := by
  unfold handlerStep at hs
  cases hhandler : s.handler with
  | idle =>
    simp only [hhandler] at hs
    cases hs
  | reading channel size stopped =>
    have hfails {e : GoneError} (hleg : channel ∈ s.legs → stopped = false → False) :
        (s.finish channel stopped (.error e)).Declining := by
      refine ⟨nofun, nofun, nofun, nofun, fun result hmem hleg' hstopped => ?_⟩
      obtain hold | hnew := List.mem_append.mp hmem
      · exact h.declined result hold hleg' hstopped
      · obtain rfl := List.mem_singleton.mp hnew
        exact (hleg hleg' hstopped).elim
    simp only [hhandler] at hs
    split at hs
    next hsize =>
      cases hs
      refine hfails fun hleg hstopped => hsize ?_
      subst hstopped
      exact (h.reading channel size hhandler hleg).2.symm
    · split at hs
      next hunknown =>
        cases hs
        refine hfails fun hleg hstopped => hunknown.1 ?_
        subst hstopped
        exact (h.reading channel size hhandler hleg).1
      · cases hs
        exact ⟨nofun, nofun, nofun, nofun, h.declined⟩
  | stopping channel stopped =>
    simp only [hhandler] at hs
    split at hs <;> cases hs
    next hphase => exact ⟨nofun, nofun, nofun, fun _ _ _ => hphase, h.declined⟩
    next => exact ⟨nofun, fun _ _ _ => rfl, nofun, nofun, h.declined⟩
  | waking channel stopped =>
    have hstop := h.waking channel stopped hhandler
    simp only [hhandler] at hs
    cases hs
    exact ⟨nofun, nofun, fun _ _ _ => ⟨hstop, fun _ => rfl⟩, nofun, h.declined⟩
  | joining channel stopped =>
    simp only [hhandler] at hs
    split at hs <;> cases hs
    next hphase => exact ⟨nofun, nofun, nofun, fun _ _ _ => hphase, h.declined⟩
  | refusing channel stopped =>
    have hphase := h.refusing channel stopped hhandler
    simp only [hhandler] at hs
    split at hs
    next hcaller =>
      -- the caller itself is gone
      cases hs
      refine ⟨nofun, nofun, nofun, nofun, fun result hmem hleg hstopped => ?_⟩
      obtain hold | hnew := List.mem_append.mp hmem
      · exact h.declined result hold hleg hstopped
      · obtain rfl := List.mem_singleton.mp hnew
        exact absurd (hcaller ▸ hleg) hb.other
    · split at hs <;> cases hs
      next hraises =>
        refine ⟨nofun, nofun, nofun, nofun, fun result hmem hleg hstopped => ?_⟩
        obtain hold | hnew := List.mem_append.mp hmem
        · exact h.declined result hold hleg hstopped
        · obtain rfl := List.mem_singleton.mp hnew
          have hrefused : s.handler.refused = some channel := by
            rw [hhandler, show stopped = false from hstopped]
            rfl
          exact absurd hleg (hc hraises channel hrefused)
      next =>
        refine ⟨nofun, nofun, nofun, nofun, fun result hmem hleg hstopped => ?_⟩
        obtain hold | hnew := List.mem_append.mp hmem
        · obtain ⟨hok, hfinished, hhung⟩ := h.declined result hold hleg hstopped
          exact ⟨hok, hfinished, List.mem_append_left _ hhung⟩
        · obtain rfl := List.mem_singleton.mp hnew
          exact ⟨rfl, hphase, List.mem_append_right _ (List.mem_singleton_self _)⟩

theorem start (h : s.Fresh) : s.Declining where
  reading := by simp [h.handler]
  waking := by simp [h.handler]
  joining := by simp [h.handler]
  refusing := by simp [h.handler]
  declined := by simp [Declined, h.handled]

theorem step (h : s.Declining) (hb : s.Born) (hc : s.Timely label)
    (hs : s.step label = some s') : s'.Declining := by
  cases label with
  | thread answer order => exact h.thread hc hs
  | create channel => exact h.create hb hs
  | handler answer => exact h.handler hb hc hs
  | gone channel =>
    simp only [ContactDialer.step] at hs
    split at hs <;> cases hs
    refine ⟨fun channel' size hreading hleg => ?_, fun _ _ hwaking => (by cases hwaking),
      fun _ _ hjoining => (by cases hjoining), fun _ _ hrefusing => (by cases hrefusing),
      h.declined⟩
    obtain ⟨rfl, rfl, hstop⟩ := GonePhase.reading.inj hreading
    exact ⟨hc hleg hstop, rfl⟩
  | kick | wake =>
    cases hs
    exact h.aside ⟨rfl, rfl, rfl, rfl, fun _ => id, fun _ => id⟩ rfl rfl rfl id fun _ => rfl
  | register contact | unregister contact =>
    cases hs
    exact h.aside ⟨rfl, rfl, rfl, rfl, fun _ => id, fun _ => id⟩ rfl rfl rfl id id
  | stop =>
    simp only [ContactDialer.step] at hs
    split at hs <;> cases hs
    exact h.aside ⟨rfl, rfl, rfl, rfl, fun _ => id, fun _ => id⟩ rfl rfl rfl (fun _ => rfl) id
  | answered channel | destroyed channel =>
    simp only [ContactDialer.step] at hs
    split at hs <;> cases hs
    exact h.aside ⟨rfl, rfl, rfl, rfl, fun _ => ringing_of_update (by simp), fun _ => id⟩
      rfl rfl rfl id id

end Declining

end ContactDialer

/-! ## Every run -/

/-- A channel that ends in time ends the call, and the handler that waits for the thread of the
dialer is not kept: the thread has a next step, which brings its end closer, and nothing else puts
it off. -/
theorem refused_call_ends (h : dialerMachine.Reaches Timely s) :
    s.Declined ∧
    ∀ channel stopped, s.handler = .joining channel stopped → s.phase ≠ .finished →
      (∃ answer order s', dialerMachine.step (.thread answer order) s = some s') ∧
      (∀ answer order s', dialerMachine.step (.thread answer order) s = some s' →
        s'.rank < s.rank) ∧
      ∀ label s', dialerMachine.step label s = some s' → s'.rank ≤ s.rank := by
  have hd : s.Declining :=
    h.invariant_along (fun _ => Declining.start) fun _ _ _ hr h hc hs => h.step (born_kept hr) hc hs
  refine ⟨hd.declined, fun channel stopped hjoining hne => ?_⟩
  obtain ⟨hstop, hwake⟩ := hd.joining channel stopped hjoining
  obtain ⟨answer, order, hsome⟩ := threadStep_isSome hstop hwake hne
  obtain ⟨s', hs⟩ := Option.isSome_iff_exists.mp hsome
  exact ⟨⟨answer, order, s', hs⟩, fun _ _ _ hs => (threadStep_stopped hstop hs).2,
    fun _ _ hs => rank_le hstop hs⟩

/-- The mobile refuses the call while the thread looks for more contacts. -/
def mobileRefuses : List DialerLabel :=
  mobileRings "PJSIP/mobile" ++ [.destroyed mobileId, .gone mobileId] ++
    List.replicate 3 (.handler (.ok "")) ++ threads 1 "" ++ [.thread (.ok "") [mobileId]] ++
    threads 2 "" ++ List.replicate 2 (.handler (.ok ""))

/-- The caller of a mobile that refuses is hung up. -/
theorem refused_call_ends_mobile :
    mobileId ∈ (after mobileRefuses).handled.map (·.channel) ∧
      callerId ∈ (after mobileRefuses).hungUp := by
  have run : dialerMachine.run mobileRefuses calling = some (after mobileRefuses) := rfl
  have meets : dialerMachine.Meets Timely mobileRefuses calling := by decide
  have declined := (refused_call_ends (Machine.Reaches.run (.init calling_fresh) meets run)).1
  exact ⟨by decide,
    (declined ⟨mobileId, false, .ok ()⟩ (.head _) (by decide) rfl).2.2⟩

/-- The mobile refuses before the answer to `originate` has come. -/
def mobileRefusesAtOnce : List DialerLabel :=
  threads 1 "" ++ threads 2 "PJSIP/mobile" ++
    [.create mobileId, .destroyed mobileId, .gone mobileId, .handler (.ok "")]

/-- Nobody hears of the refusal, and the caller is not hung up. -/
theorem refusal_is_lost : ¬ ∀ s, dialerMachine.Reachable s → s.Declined := by
  intro h
  have run : dialerMachine.run mobileRefusesAtOnce calling = some (after mobileRefusesAtOnce) := rfl
  have declined := h _ (Machine.Reaches.reachable_run (.init calling_fresh) run)
  have hung := (declined ⟨mobileId, false, .error .noSuchChannel⟩ (.head _) (by decide)
    rfl).2.2
  exact absurd hung (by decide)

end Calld.DialMobile
