/-
# The contacts that are dialed

A contact is dialed once: the thread asks `_called_contacts` first, and puts it there before it asks
for the next one.  And no wake-up is lost: the event is cleared before the contacts are read, so
that a contact that registers too late to be read finds the event set again.
-/
import Calld.DialMobile.ContactDialer
import Calld.DialMobile.Machine

namespace Calld.DialMobile

open Effect

variable {s s' : ContactDialer} {answer : DialerAnswer} {order : List ChannelId}
  {label : DialerLabel}

/-! ## The ledger of the dialer -/

/-- The contact that has a channel and is not in `_called_contacts` yet. -/
def DialerPhase.uncalled : DialerPhase → List String
  | created contact _ _ => [contact]
  | _ => []

/-- The channel that has been created and is not in `_dialed_channels` yet. -/
def DialerPhase.undialed : DialerPhase → List ChannelId
  | created _ channel _ | called channel _ => [channel]
  | _ => []

/-- The contact that is being dialed. -/
def DialerPhase.current : DialerPhase → List String
  | originating contact _ | created contact _ _ => [contact]
  | _ => []

/-- The contacts are read before the thread waits again. -/
def DialerPhase.Reads : DialerPhase → Prop
  | starting | fetching | clearing | checking | probing => True
  | _ => False

/-- The contacts that have been read and not been dialed yet. -/
def DialerPhase.ahead : DialerPhase → List String
  | dialing contacts | called _ contacts | dialed contacts => contacts
  | originating contact contacts | created contact _ contacts => contact :: contacts
  | _ => []

namespace ContactDialer

/-- What has been originated is what the dialer knows of, but for what is in flight. -/
structure Ledger (s : ContactDialer) : Prop where
  once : s.contacts.Nodup
  called : s.phase ≠ .finished → s.contacts = s.calledContacts ++ s.phase.uncalled
  dialed : s.phase ≠ .finished → s.legs = s.dialedChannels ++ s.phase.undialed
  new : ∀ contact ∈ s.phase.current, contact ∉ s.calledContacts

/-- What the others do leaves the thread where it is, with what it knows; no channel rings again,
and no request is taken back. -/
structure Aside (s s' : ContactDialer) : Prop where
  phase : s'.phase = s.phase
  calledContacts : s'.calledContacts = s.calledContacts
  dialedChannels : s'.dialedChannels = s.dialedChannels
  originated : s'.originated = s.originated
  ringing : ∀ channel, s'.channels channel = .ringing → s.channels channel = .ringing
  hungUp : ∀ channel ∈ s.hungUp, channel ∈ s'.hungUp

/-- All that the handler touches. -/
theorem handlerStep_frame (hs : s.handlerStep answer = some s') :
    ∃ handler shouldStop wakeup hungUp handled,
      s' = { s with handler, shouldStop, wakeup, hungUp, handled } ∧
      (s.shouldStop → shouldStop) ∧ (s.wakeup → wakeup) ∧
      ∀ channel ∈ s.hungUp, channel ∈ hungUp := by
  unfold handlerStep at hs
  cases hhandler : s.handler with
  | idle =>
    simp only [hhandler] at hs
    cases hs
  | reading channel size stopped =>
    simp only [hhandler] at hs
    split at hs
    · cases hs
      exact ⟨_, _, _, _, _, rfl, id, id, fun _ => id⟩
    · split at hs <;> cases hs <;> exact ⟨_, _, _, _, _, rfl, id, id, fun _ => id⟩
  | stopping channel stopped =>
    simp only [hhandler] at hs
    split at hs <;> cases hs
    · exact ⟨_, _, _, _, _, rfl, id, id, fun _ => id⟩
    · exact ⟨_, _, _, _, _, rfl, fun _ => rfl, id, fun _ => id⟩
  | waking channel stopped =>
    simp only [hhandler] at hs
    cases hs
    exact ⟨_, _, _, _, _, rfl, id, fun _ => rfl, fun _ => id⟩
  | joining channel stopped =>
    simp only [hhandler] at hs
    split at hs <;> cases hs
    exact ⟨_, _, _, _, _, rfl, id, id, fun _ => id⟩
  | refusing channel stopped =>
    simp only [hhandler] at hs
    split at hs
    · cases hs
      exact ⟨_, _, _, _, _, rfl, id, id, fun _ => id⟩
    · split at hs <;> cases hs
      · exact ⟨_, _, _, _, _, rfl, id, id, fun _ => id⟩
      · exact ⟨_, _, _, _, _, rfl, id, id, fun _ => List.mem_append_left _⟩

theorem create_cases {channel : ChannelId} (hs : s.step (.create channel) = some s') :
    ∃ contact contacts, s.phase = .originating contact contacts ∧ s.channels channel = .unborn ∧
      s' = { s.goTo (.created contact channel contacts) with
        channels := Function.update s.channels channel .ringing
        originated := s.originated ++ [(contact, channel)] } := by
  simp only [step] at hs
  split at hs
  next contact contacts hphase =>
    split at hs <;> cases hs
    exact ⟨contact, contacts, hphase, ‹_›, rfl⟩
  · cases hs

/-- A channel that answers or ends is the only one that changes, and it does not ring. -/
theorem ringing_of_update {channel channel' : ChannelId} {leg : Leg} (hleg : leg ≠ .ringing)
    (h : Function.update s.channels channel leg channel' = .ringing) :
    s.channels channel' = .ringing := by
  by_cases hc : channel' = channel
  · subst hc
    rw [Function.update_self] at h
    exact absurd h hleg
  · rwa [Function.update_of_ne hc] at h

/-- Whose step it is: the thread's, Asterisk's as it creates a channel, or another's. -/
theorem step_cases (hs : s.step label = some s') :
    (∃ answer order, label = .thread answer order ∧ s.threadStep answer order = some s') ∨
    (∃ channel contact contacts, label = .create channel ∧
      s.phase = .originating contact contacts ∧ s.channels channel = .unborn ∧
      s' = { s.goTo (.created contact channel contacts) with
        channels := Function.update s.channels channel .ringing
        originated := s.originated ++ [(contact, channel)] }) ∨
    s.Aside s' := by
  cases label with
  | thread answer order => exact .inl ⟨answer, order, rfl, hs⟩
  | create channel =>
    obtain ⟨contact, contacts, h⟩ := create_cases hs
    exact .inr (.inl ⟨channel, contact, contacts, rfl, h⟩)
  | handler answer =>
    obtain ⟨_, _, _, _, _, rfl, -, -, hhung⟩ := handlerStep_frame hs
    exact .inr (.inr ⟨rfl, rfl, rfl, rfl, fun _ => id, hhung⟩)
  | kick | wake | register contact | unregister contact =>
    cases hs
    exact .inr (.inr ⟨rfl, rfl, rfl, rfl, fun _ => id, fun _ => id⟩)
  | stop | gone channel =>
    simp only [step] at hs
    split at hs <;> cases hs
    exact .inr (.inr ⟨rfl, rfl, rfl, rfl, fun _ => id, fun _ => id⟩)
  | answered channel =>
    simp only [step] at hs
    split at hs <;> cases hs
    exact .inr (.inr ⟨rfl, rfl, rfl, rfl, fun _ => ringing_of_update nofun, fun _ => id⟩)
  | destroyed channel =>
    simp only [step] at hs
    split at hs <;> cases hs
    exact .inr (.inr ⟨rfl, rfl, rfl, rfl, fun _ => ringing_of_update nofun, fun _ => id⟩)

namespace Ledger

/-- The thread goes on, with nothing in flight. -/
theorem goTo (h : s.Ledger) (hne : s.phase ≠ .finished) {p : DialerPhase}
    (huncalled : p.uncalled = s.phase.uncalled) (hundialed : p.undialed = s.phase.undialed)
    (hnew : ∀ contact ∈ p.current, contact ∉ s.calledContacts) : (s.goTo p).Ledger where
  once := h.once
  called _ := by
    rw [goTo_phase, huncalled]
    exact h.called hne
  dialed _ := by
    rw [goTo_phase, hundialed]
    exact h.dialed hne
  new := hnew

/-- An exception ends the thread. -/
theorem crash (h : s.Ledger) : (s.goTo .finished).Ledger where
  once := h.once
  called hne := absurd rfl hne
  dialed hne := absurd rfl hne
  new := nofun

theorem leave (h : s.Ledger) (hne : s.phase ≠ .finished) (huncalled : s.phase.uncalled = [])
    (hundialed : s.phase.undialed = []) (hs : s.leave order = some s') : s'.Ledger := by
  unfold ContactDialer.leave at hs
  split at hs
  · cases hs
    exact h.goTo hne huncalled.symm hundialed.symm nofun
  · cases hs

/-- What the others do leaves the ledger as it is. -/
theorem same (h : s.Ledger) (hphase : s'.phase = s.phase)
    (hcalled : s'.calledContacts = s.calledContacts) (hdialed : s'.dialedChannels = s.dialedChannels)
    (horiginated : s'.originated = s.originated) : s'.Ledger where
  once := by
    rw [contacts, horiginated]
    exact h.once
  called hne := by
    rw [hphase] at hne ⊢
    rw [contacts, horiginated, hcalled]
    exact h.called hne
  dialed hne := by
    rw [hphase] at hne ⊢
    rw [legs, horiginated, hdialed]
    exact h.dialed hne
  new := by
    rw [hphase, hcalled]
    exact h.new

theorem thread (h : s.Ledger) (hs : s.threadStep answer order = some s') : s'.Ledger := by
  have hplain {p : DialerPhase} (hphase : s.phase = p) (hne : p ≠ .finished)
      (huncalled : p.uncalled = []) (hundialed : p.undialed = []) {q : DialerPhase}
      (hq : q.uncalled = [] ∧ q.undialed = [] ∧ q.current = []) : (s.goTo q).Ledger := by
    subst hphase
    exact h.goTo hne (hq.1.trans huncalled.symm) (hq.2.1.trans hundialed.symm) (by
      rw [hq.2.2]
      exact nofun)
  unfold threadStep at hs
  cases hphase : s.phase with
  | starting =>
    simp only [hphase] at hs
    split at hs <;> cases hs
    · exact hplain hphase nofun rfl rfl ⟨rfl, rfl, rfl⟩
    · exact h.crash
  | fetching =>
    simp only [hphase] at hs
    split at hs <;> cases hs
    · exact hplain hphase nofun rfl rfl ⟨rfl, rfl, rfl⟩
    · exact hplain hphase nofun rfl rfl ⟨rfl, rfl, rfl⟩
    · exact h.crash
  | dialing contacts =>
    cases contacts with
    | nil =>
      simp only [hphase] at hs
      cases hs
      exact hplain hphase nofun rfl rfl ⟨rfl, rfl, rfl⟩
    | cons contact contacts =>
      simp only [hphase] at hs
      split at hs
      · cases hs
        exact hplain hphase nofun rfl rfl ⟨rfl, rfl, rfl⟩
      · split at hs <;> cases hs
        · exact hplain hphase nofun rfl rfl ⟨rfl, rfl, rfl⟩
        · refine h.goTo (by rw [hphase]; nofun) (by rw [hphase]; rfl) (by rw [hphase]; rfl) ?_
          intro contact' hmem
          obtain rfl : contact' = contact := List.mem_singleton.mp hmem
          assumption
  | originating contact contacts =>
    simp only [hphase] at hs
    split at hs <;> cases hs
    exact h.crash
  | created contact channel contacts =>
    simp only [hphase] at hs
    have hcalled := h.called (by rw [hphase]; nofun)
    have hdialed := h.dialed (by rw [hphase]; nofun)
    rw [hphase] at hcalled hdialed
    split at hs <;> cases hs
    · refine ⟨h.once, fun _ => ?_, fun _ => hdialed, nofun⟩
      show s.contacts = (s.calledContacts ++ [contact]) ++ []
      rw [List.append_nil]
      exact hcalled
    · exact h.crash
  | called channel contacts =>
    simp only [hphase] at hs
    have hcalled := h.called (by rw [hphase]; nofun)
    have hdialed := h.dialed (by rw [hphase]; nofun)
    rw [hphase] at hcalled hdialed
    cases hs
    refine ⟨h.once, fun _ => hcalled, fun _ => ?_, nofun⟩
    show s.legs = (s.dialedChannels ++ [channel]) ++ []
    rw [List.append_nil]
    exact hdialed
  | dialed contacts =>
    simp only [hphase] at hs
    split at hs <;> cases hs
    · exact hplain hphase nofun rfl rfl ⟨rfl, rfl, rfl⟩
    · exact h.crash
  | testing =>
    simp only [hphase] at hs
    split at hs
    · exact h.leave (by rw [hphase]; nofun) (by rw [hphase]; rfl) (by rw [hphase]; rfl) hs
    · cases hs
      exact hplain hphase nofun rfl rfl ⟨rfl, rfl, rfl⟩
  | waiting =>
    simp only [hphase] at hs
    split at hs <;> cases hs
    exact hplain hphase nofun rfl rfl ⟨rfl, rfl, rfl⟩
  | clearing =>
    simp only [hphase] at hs
    cases hs
    exact (hplain hphase nofun rfl rfl (q := .checking) ⟨rfl, rfl, rfl⟩).same rfl rfl rfl rfl
  | checking =>
    simp only [hphase] at hs
    split at hs
    · exact h.leave (by rw [hphase]; nofun) (by rw [hphase]; rfl) (by rw [hphase]; rfl) hs
    · cases hs
      exact hplain hphase nofun rfl rfl ⟨rfl, rfl, rfl⟩
  | probing =>
    simp only [hphase] at hs
    split at hs
    · cases hs
      exact hplain hphase nofun rfl rfl ⟨rfl, rfl, rfl⟩
    · exact h.leave (by rw [hphase]; nofun) (by rw [hphase]; rfl) (by rw [hphase]; rfl) hs
    · cases hs
      exact h.crash
  | cleaning channels =>
    cases channels with
    | nil =>
      simp only [hphase] at hs
      cases hs
      exact h.crash
    | cons channel channels =>
      simp only [hphase] at hs
      split at hs
      · cases hs
        exact h.crash
      · split at hs <;> cases hs
        · exact hplain hphase nofun rfl rfl ⟨rfl, rfl, rfl⟩
        · exact hplain hphase nofun rfl rfl ⟨rfl, rfl, rfl⟩
  | hanging channel channels =>
    simp only [hphase] at hs
    split at hs <;> cases hs
    · exact h.crash
    · exact (hplain hphase nofun rfl rfl (q := .cleaning channels) ⟨rfl, rfl, rfl⟩).same
        rfl rfl rfl rfl
  | finished =>
    simp only [hphase] at hs
    cases hs

/-- Asterisk creates the channel of a contact that has not been called. -/
theorem create {contact : String} {contacts : List String} {channel : ChannelId}
    {channels : ChannelId → Leg} (h : s.Ledger) (hphase : s.phase = .originating contact contacts) :
    Ledger { s.goTo (.created contact channel contacts) with
      channels := channels
      originated := s.originated ++ [(contact, channel)] } := by
  have hcalled := h.called (by rw [hphase]; nofun)
  have hdialed := h.dialed (by rw [hphase]; nofun)
  have hnew : contact ∉ s.calledContacts := h.new contact (by
    rw [hphase]
    exact List.mem_singleton_self _)
  simp only [hphase, DialerPhase.uncalled, DialerPhase.undialed, List.append_nil]
    at hcalled hdialed
  have hcontacts : (s.originated ++ [(contact, channel)]).map (·.1) =
      s.calledContacts ++ [contact] := by
    rw [List.map_append, ← hcalled]
    rfl
  refine ⟨?_, fun _ => hcontacts, fun _ => ?_, ?_⟩
  · show ((s.originated ++ [(contact, channel)]).map (·.1)).Nodup
    rw [hcontacts]
    refine List.Nodup.append (hcalled ▸ h.once) (List.nodup_singleton _) ?_
    simpa using hnew
  · show (s.originated ++ [(contact, channel)]).map (·.2) = s.dialedChannels ++ [channel]
    rw [List.map_append, ← hdialed]
    rfl
  · intro contact' hmem
    obtain rfl : contact' = contact := List.mem_singleton.mp hmem
    exact hnew

theorem start (h : s.Fresh) : s.Ledger where
  once := by simp [contacts, h.originated]
  called _ := by simp [contacts, h.originated, h.calledContacts, h.phase, DialerPhase.uncalled]
  dialed _ := by simp [legs, h.originated, h.dialedChannels, h.phase, DialerPhase.undialed]
  new := by simp [h.phase, DialerPhase.current]

theorem step (h : s.Ledger) (hs : s.step label = some s') : s'.Ledger := by
  obtain ⟨answer, order, -, hs⟩ | ⟨channel, contact, contacts, -, hphase, -, rfl⟩ | ha :=
    step_cases hs
  · exact h.thread hs
  · exact h.create hphase
  · exact h.same ha.phase ha.calledContacts ha.dialedChannels ha.originated

end Ledger

/-! ## The signals -/

/-- The contacts of the last kick are dialed, or about to be. -/
def Covered (s : ContactDialer) : Prop :=
  ∀ contact ∈ s.kicked, contact ∈ s.calledContacts ∨ contact ∈ s.phase.ahead

/-- The calls to Asterisk succeed for a caller that is present, and contacts are only added. -/
def Healthy (s : ContactDialer) : DialerLabel → Prop
  | .thread (.ok value) _ =>
    s.phase = .fetching → ∀ contact ∈ s.registered, contact ∈ contactsOf value
  | .thread _ _ | .unregister _ => False
  | _ => True

instance decidableHealthy (s : ContactDialer) : DecidablePred s.Healthy
  | .thread (.ok value) _ => inferInstanceAs (Decidable
      (s.phase = .fetching → ∀ contact ∈ s.registered, contact ∈ contactsOf value))
  | .thread .notFound _ | .thread .raises _ | .unregister _ => isFalse id
  | .handler _ | .kick | .stop | .wake | .register _ | .create _ | .answered _ | .destroyed _
  | .gone _ => isTrue trivial

/-- Before the thread waits, it looks after the contacts of the last kick. -/
structure Wakeful (s : ContactDialer) : Prop where
  kicked : ∀ contact ∈ s.kicked, contact ∈ s.registered
  heard : s.shouldStop ∨ s.wakeup ∨ s.phase.Reads ∨ s.Covered

namespace Wakeful

/-- The thread goes on. -/
theorem next (h : s.Wakeful) (hkicked : s'.kicked = s.kicked)
    (hregistered : s'.registered = s.registered) (hstop : s'.shouldStop = s.shouldStop)
    (hwake : s'.wakeup = s.wakeup)
    (hheard : ¬ s.shouldStop → s.phase.Reads ∨ s.Covered → s'.phase.Reads ∨ s'.Covered) :
    s'.Wakeful where
  kicked := by
    rw [hkicked, hregistered]
    exact h.kicked
  heard := by
    by_cases hs : s.shouldStop
    · exact .inl (hstop.trans hs)
    · obtain hstopped | hwoken | hheard' := h.heard
      · exact absurd hstopped hs
      · exact .inr (.inl (hwake.trans hwoken))
      · exact .inr (.inr (hheard hs hheard'))

/-- Once it is stopped, the thread no longer looks after the contacts. -/
theorem leave (h : s.Wakeful) (hstop : s.shouldStop) (hs : s.leave order = some s') :
    s'.Wakeful := by
  unfold ContactDialer.leave at hs
  split at hs <;> cases hs
  exact h.next rfl rfl rfl rfl fun hstop' => absurd hstop hstop'

theorem thread (h : s.Wakeful) (hc : s.Healthy (.thread answer order))
    (hs : s.threadStep answer order = some s') : s'.Wakeful := by
  obtain ⟨value, rfl, hvalue⟩ : ∃ value, answer = .ok value ∧
      (s.phase = .fetching → ∀ contact ∈ s.registered, contact ∈ contactsOf value) := by
    cases answer with
    | ok value => exact ⟨value, rfl, hc⟩
    | notFound => exact absurd hc id
    | raises => exact absurd hc id
  unfold threadStep at hs
  cases hphase : s.phase with
  | starting =>
    simp only [hphase] at hs
    cases hs
    exact h.next rfl rfl rfl rfl fun _ _ => .inl trivial
  | fetching =>
    simp only [hphase] at hs
    cases hs
    refine h.next rfl rfl rfl rfl fun _ _ => .inr fun contact hmem => .inr ?_
    exact hvalue hphase contact (h.kicked contact hmem)
  | dialing contacts =>
    cases contacts with
    | nil =>
      simp only [hphase] at hs
      cases hs
      refine h.next rfl rfl rfl rfl fun _ hheard => .inr ?_
      simpa [Covered, hphase, DialerPhase.Reads, DialerPhase.ahead] using hheard
    | cons contact contacts =>
      simp only [hphase] at hs
      split at hs
      next hstop =>
        cases hs
        exact h.next rfl rfl rfl rfl fun hstop' => absurd hstop hstop'
      · split at hs
        next hcalled =>
          cases hs
          refine h.next rfl rfl rfl rfl fun _ hheard => .inr fun contact' hmem => ?_
          simp only [hphase, DialerPhase.Reads, false_or] at hheard
          -- the contact that is passed over is in `_called_contacts`
          obtain hcalled' | hahead := hheard contact' hmem
          · exact .inl hcalled'
          · rw [hphase] at hahead
            obtain rfl | htail := List.mem_cons.mp hahead
            · exact .inl hcalled
            · exact .inr htail
        · cases hs
          refine h.next rfl rfl rfl rfl fun _ hheard => .inr ?_
          simpa [Covered, hphase, DialerPhase.Reads, DialerPhase.ahead] using hheard
  | originating contact contacts =>
    simp only [hphase] at hs
    cases hs
  | created contact channel contacts =>
    simp only [hphase] at hs
    cases hs
    refine h.next rfl rfl rfl rfl fun _ hheard => .inr ?_
    simpa [Covered, hphase, DialerPhase.Reads, DialerPhase.ahead, or_assoc] using hheard
  | called channel contacts =>
    simp only [hphase] at hs
    cases hs
    refine h.next rfl rfl rfl rfl fun _ hheard => .inr ?_
    simpa [Covered, hphase, DialerPhase.Reads, DialerPhase.ahead] using hheard
  | dialed contacts =>
    simp only [hphase] at hs
    cases hs
    refine h.next rfl rfl rfl rfl fun _ hheard => .inr ?_
    simpa [Covered, hphase, DialerPhase.Reads, DialerPhase.ahead] using hheard
  | testing =>
    simp only [hphase] at hs
    split at hs
    · exact h.leave ‹_› hs
    · cases hs
      refine h.next rfl rfl rfl rfl fun _ hheard => .inr ?_
      simpa [Covered, hphase, DialerPhase.Reads, DialerPhase.ahead] using hheard
  | waiting =>
    simp only [hphase] at hs
    split at hs <;> cases hs
    exact h.next rfl rfl rfl rfl fun _ _ => .inl trivial
  | clearing =>
    -- the event is cleared before the contacts are read
    simp only [hphase] at hs
    cases hs
    exact ⟨h.kicked, .inr (.inr (.inl trivial))⟩
  | checking =>
    simp only [hphase] at hs
    split at hs
    · exact h.leave ‹_› hs
    · cases hs
      exact h.next rfl rfl rfl rfl fun _ _ => .inl trivial
  | probing =>
    simp only [hphase] at hs
    cases hs
    exact h.next rfl rfl rfl rfl fun _ _ => .inl trivial
  | cleaning channels =>
    cases channels with
    | nil =>
      simp only [hphase] at hs
      cases hs
      refine h.next rfl rfl rfl rfl fun _ hheard => .inr ?_
      simpa [Covered, hphase, DialerPhase.Reads, DialerPhase.ahead] using hheard
    | cons channel channels =>
      simp only [hphase, reduceCtorEq, if_false] at hs
      split at hs <;> cases hs
      all_goals
        refine h.next rfl rfl rfl rfl fun _ hheard => .inr ?_
        simpa [Covered, hphase, DialerPhase.Reads, DialerPhase.ahead] using hheard
  | hanging channel channels =>
    simp only [hphase, reduceCtorEq, if_false] at hs
    cases hs
    refine h.next rfl rfl rfl rfl fun _ hheard => .inr ?_
    simpa [Covered, hphase, DialerPhase.Reads, DialerPhase.ahead] using hheard
  | finished =>
    simp only [hphase] at hs
    cases hs

theorem start (h : s.Fresh) : s.Wakeful where
  kicked := by simp [h.kicked]
  heard := .inr (.inr (.inl (by rw [h.phase]; trivial)))

/-- The others take no signal back, and no contact away. -/
theorem aside (h : s.Wakeful) (hphase : s'.phase = s.phase)
    (hcalled : s'.calledContacts = s.calledContacts) (hkicked : s'.kicked = s.kicked)
    (hregistered : ∀ contact ∈ s.registered, contact ∈ s'.registered)
    (hstop : s.shouldStop → s'.shouldStop) (hwake : s.wakeup → s'.wakeup) : s'.Wakeful where
  kicked contact hmem := hregistered contact (h.kicked contact (hkicked ▸ hmem))
  heard := by
    rw [Covered, hkicked, hphase, hcalled]
    exact h.heard.imp hstop (Or.imp_left hwake)

theorem step (h : s.Wakeful) (hc : s.Healthy label) (hs : s.step label = some s') :
    s'.Wakeful := by
  cases label with
  | thread answer order => exact h.thread hc hs
  | create channel =>
    obtain ⟨contact, contacts, hphase, -, rfl⟩ := create_cases hs
    refine h.next rfl rfl rfl rfl fun _ hheard => .inr ?_
    simpa [Covered, hphase, DialerPhase.Reads, DialerPhase.ahead] using hheard
  | unregister contact => exact absurd hc id
  | kick =>
    cases hs
    exact ⟨fun _ hmem => hmem, .inr (.inl rfl)⟩
  | handler answer =>
    obtain ⟨_, _, _, _, _, rfl, hstop, hwake, -⟩ := handlerStep_frame hs
    exact h.aside rfl rfl rfl (fun _ => id) hstop hwake
  | stop =>
    simp only [ContactDialer.step] at hs
    split at hs <;> cases hs
    exact h.aside rfl rfl rfl (fun _ => id) (fun _ => rfl) id
  | wake =>
    cases hs
    exact h.aside rfl rfl rfl (fun _ => id) id fun _ => rfl
  | register contact =>
    cases hs
    exact h.aside rfl rfl rfl (fun _ => List.mem_cons_of_mem _) id id
  | answered channel | destroyed channel | gone channel =>
    simp only [ContactDialer.step] at hs
    split at hs <;> cases hs
    exact h.aside rfl rfl rfl (fun _ => id) id id

end Wakeful

end ContactDialer

/-! ## Every run -/

open ContactDialer

theorem ledger_kept {C : ContactDialer → DialerLabel → Prop} (h : dialerMachine.Reaches C s) :
    s.Ledger :=
  h.invariant (fun _ => Ledger.start) fun _ _ _ hl _ => hl.step

/-- No contact is dialed twice.  When the calls to Asterisk succeed and contacts are only added, the
thread that waits for an event that is not set has dialed the contacts of the last kick. -/
theorem no_contact_is_missed :
    (∀ s, dialerMachine.Reachable s → s.contacts.Nodup) ∧
    ∀ s, dialerMachine.Reaches Healthy s → s.phase = .waiting → s.wakeup = false →
      s.shouldStop = false → ∀ contact ∈ s.kicked, contact ∈ s.contacts := by
  refine ⟨fun s h => (ledger_kept h).once, fun s h hphase hwake hstop contact hmem => ?_⟩
  have hw : s.Wakeful := h.invariant (fun _ => Wakeful.start) fun _ _ _ hw => hw.step
  obtain hstopped | hwoken | hreads | hcovered := hw.heard
  · exact absurd hstopped (by rw [hstop]; nofun)
  · exact absurd hwoken (by rw [hwake]; nofun)
  · rw [hphase] at hreads
    exact hreads.elim
  · have hcalled : contact ∈ s.calledContacts := by
      simpa [hphase, DialerPhase.ahead] using hcovered contact hmem
    rw [(ledger_kept h).called (by rw [hphase]; nofun)]
    exact List.mem_append_left _ hcalled

/-- The dialer of a call that has just begun. -/
def ContactDialer.calling : ContactDialer where
  caller := callerId
  shouldStop := false
  wakeup := false
  calledContacts := []
  dialedChannels := []
  phase := .starting
  handler := .idle
  registered := []
  channels := Function.update (fun _ => .unborn) callerId .up
  kicked := []
  originated := []
  hungUp := []
  handled := []

theorem ContactDialer.calling_fresh : calling.Fresh where
  caller := by decide
  shouldStop := rfl
  wakeup := rfl
  calledContacts := rfl
  dialedChannels := rfl
  phase := rfl
  handler := rfl
  kicked := rfl
  originated := rfl
  hungUp := rfl
  handled := rfl

/-- The dialer after these steps. -/
def ContactDialer.after (labels : List DialerLabel) : ContactDialer :=
  (dialerMachine.run labels calling).getD calling

/-- The thread takes a number of steps whose requests have that answer. -/
def threads (n : ℕ) (value : String) : List DialerLabel :=
  List.replicate n (.thread (.ok value) [])

/-- A contact registers while the thread has read the contacts and has not waited yet. -/
def registersLate : List DialerLabel :=
  threads 2 "" ++ [.register "PJSIP/mobile", .kick] ++ threads 8 "PJSIP/mobile" ++
    [.create mobileId] ++ threads 5 ""

/-- The contact that registers late is dialed. -/
theorem no_contact_is_missed_late :
    (after registersLate).contacts.Nodup ∧ "PJSIP/mobile" ∈ (after registersLate).contacts := by
  have run : dialerMachine.run registersLate calling = some (after registersLate) := rfl
  have meets : dialerMachine.Meets Healthy registersLate calling := by decide
  have reached := Machine.Reaches.run (.init calling_fresh) meets run
  exact ⟨no_contact_is_missed.1 _ (reached.mono fun _ _ _ => trivial),
    no_contact_is_missed.2 _ reached (by decide) (by decide) (by decide)
      "PJSIP/mobile" (by decide)⟩

end Calld.DialMobile
