/-
# What still rings when the dialer has finished

`_remove_unanswered_channels` hangs up what has been dialed and is not answered, at the end of
`_run`.  It is reached when the dialer is stopped and when the caller is gone, but not when a
request raises: `_run_no_exception` logs the exception and the thread ends.

So the dialer leaves nothing ringing exactly when a request raises only while nothing rings.
-/
import Calld.DialMobile.Contacts

namespace Calld.DialMobile

open Effect ContactDialer

variable {s s' : ContactDialer} {answer : DialerAnswer} {order : List ChannelId}
  {label : DialerLabel}

/-- The channels that `_remove_unanswered_channels` has before it. -/
def DialerPhase.left : DialerPhase → Option (List ChannelId)
  | cleaning channels => some channels
  | hanging channel channels => some (channel :: channels)
  | finished => some []
  | _ => none

/-- The exception of a request leaves the thread. -/
def DialerPhase.Escapes : DialerPhase → DialerAnswer → Prop
  | starting, answer | originating _ _, answer | created _ _ _, answer | dialed _, answer =>
    answer = .notFound ∨ answer = .raises
  | fetching, answer | probing, answer | cleaning (_ :: _), answer | hanging _ _, answer =>
    answer = .raises
  | _, _ => False

instance DialerPhase.decidableEscapes :
    ∀ (phase : DialerPhase) (answer : DialerAnswer), Decidable (phase.Escapes answer)
  | starting, _ | originating _ _, _ | created _ _ _, _ | dialed _, _ =>
    inferInstanceAs (Decidable (_ ∨ _))
  | fetching, _ | probing, _ | cleaning (_ :: _), _ | hanging _ _, _ =>
    inferInstanceAs (Decidable (_ = _))
  | dialing _, _ | called _ _, _ | testing, _ | waiting, _ | clearing, _ | checking, _
  | cleaning [], _ | finished, _ => isFalse id

namespace ContactDialer

/-- Every channel of the dialer that rings has been asked to hang up. -/
def Quiet (s : ContactDialer) : Prop :=
  ∀ channel ∈ s.legs, s.channels channel = .ringing → channel ∈ s.hungUp

/-- A request raises only while nothing rings. -/
def RaisesQuietly (s : ContactDialer) : DialerLabel → Prop
  | .thread answer _ => s.phase.Escapes answer → s.Quiet
  | _ => True

instance decidableQuiet (s : ContactDialer) : Decidable s.Quiet :=
  inferInstanceAs (Decidable (∀ channel ∈ s.legs, _))

instance decidableRaisesQuietly (s : ContactDialer) : DecidablePred s.RaisesQuietly
  | .thread answer _ => inferInstanceAs (Decidable (s.phase.Escapes answer → s.Quiet))
  | .handler _ | .kick | .stop | .wake | .register _ | .unregister _ | .create _ | .answered _
  | .destroyed _ | .gone _ => isTrue trivial

/-- What rings is asked to hang up, or is before `_remove_unanswered_channels`. -/
def Swept (s : ContactDialer) : Prop :=
  ∀ left, s.phase.left = some left → ∀ channel ∈ s.legs, s.channels channel = .ringing →
    channel ∈ s.hungUp ∨ channel ∈ left

theorem Swept.quiet (h : s.Swept) (hphase : s.phase = .finished) : s.Quiet := by
  intro channel hleg hringing
  obtain hhung | hleft := h [] (by rw [hphase]; rfl) channel hleg hringing
  · exact hhung
  · exact absurd hleft List.not_mem_nil

namespace Swept

/-- The loop is left: all that has been originated is in `_dialed_channels`. -/
theorem leave (hl : s.Ledger) (hne : s.phase ≠ .finished) (hundialed : s.phase.undialed = [])
    (hs : s.leave order = some s') : s'.Swept := by
  unfold ContactDialer.leave at hs
  split at hs
  next hperm =>
    cases hs
    intro left hleft channel hleg _
    obtain rfl : order = left := Option.some.inj hleft
    have hdialed := hl.dialed hne
    rw [hundialed, List.append_nil] at hdialed
    exact .inr (hperm.mem_iff.mpr (hdialed ▸ hleg))
  · cases hs

/-- An exception ends the thread while nothing rings. -/
theorem crash (h : s.Quiet) : (s.goTo .finished).Swept :=
  fun _ _ channel hleg hringing => .inl (h channel hleg hringing)

/-- Nothing is before `_remove_unanswered_channels` yet. -/
theorem before (h : s.phase.left = none) : s.Swept := by
  intro left hleft
  rw [h] at hleft
  cases hleft

/-- What the others do. -/
theorem aside (h : s.Swept) (ha : s.Aside s') : s'.Swept := by
  intro left hleft channel hleg hringing
  rw [ha.phase] at hleft
  rw [legs, ha.originated] at hleg
  exact (h left hleft channel hleg (ha.ringing channel hringing)).imp_left (ha.hungUp channel)

theorem thread (h : s.Swept) (hl : s.Ledger) (hc : s.phase.Escapes answer → s.Quiet)
    (hs : s.threadStep answer order = some s') : s'.Swept := by
  unfold threadStep at hs
  cases hphase : s.phase with
  | starting =>
    simp only [hphase] at hs
    cases answer with
    | ok value =>
      cases hs
      exact before rfl
    | notFound | raises =>
      cases hs
      exact crash (hc (by rw [hphase]; simp [DialerPhase.Escapes]))
  | fetching =>
    simp only [hphase] at hs
    cases answer with
    | ok value | notFound =>
      cases hs
      exact before rfl
    | raises =>
      cases hs
      exact crash (hc (by rw [hphase]; rfl))
  | dialing contacts =>
    cases contacts with
    | nil =>
      simp only [hphase] at hs
      cases hs
      exact before rfl
    | cons contact contacts =>
      simp only [hphase] at hs
      split at hs
      · cases hs
        exact before rfl
      · split at hs <;> cases hs <;> exact before rfl
  | originating contact contacts =>
    simp only [hphase] at hs
    cases answer with
    | ok value => cases hs
    | notFound | raises =>
      cases hs
      exact crash (hc (by rw [hphase]; simp [DialerPhase.Escapes]))
  | created contact channel contacts =>
    simp only [hphase] at hs
    cases answer with
    | ok value =>
      cases hs
      exact before rfl
    | notFound | raises =>
      cases hs
      exact crash (hc (by rw [hphase]; simp [DialerPhase.Escapes]))
  | called channel contacts =>
    simp only [hphase] at hs
    cases hs
    exact before rfl
  | dialed contacts =>
    simp only [hphase] at hs
    cases answer with
    | ok value =>
      cases hs
      exact before rfl
    | notFound | raises =>
      cases hs
      exact crash (hc (by rw [hphase]; simp [DialerPhase.Escapes]))
  | testing =>
    simp only [hphase] at hs
    split at hs
    · exact leave hl (by rw [hphase]; nofun) (by rw [hphase]; rfl) hs
    · cases hs
      exact before rfl
  | waiting =>
    simp only [hphase] at hs
    split at hs <;> cases hs
    exact before rfl
  | clearing =>
    simp only [hphase] at hs
    cases hs
    exact before rfl
  | checking =>
    simp only [hphase] at hs
    split at hs
    · exact leave hl (by rw [hphase]; nofun) (by rw [hphase]; rfl) hs
    · cases hs
      exact before rfl
  | probing =>
    simp only [hphase] at hs
    cases answer with
    | ok value =>
      cases hs
      exact before rfl
    | notFound => exact leave hl (by rw [hphase]; nofun) (by rw [hphase]; rfl) hs
    | raises =>
      cases hs
      exact crash (hc (by rw [hphase]; rfl))
  | cleaning channels =>
    have hleft : s.phase.left = some channels := by rw [hphase]; rfl
    cases channels with
    | nil =>
      simp only [hphase] at hs
      cases hs
      intro left hl' channel hleg hringing
      cases hl'
      exact h [] hleft channel hleg hringing
    | cons channel channels =>
      simp only [hphase] at hs
      split at hs
      next hraises =>
        cases hs
        exact crash (hc (by rw [hphase]; exact hraises))
      · split at hs
        · -- the channel is asked to hang up next
          cases hs
          intro left hl' channel' hleg hringing
          cases hl'
          exact h (channel :: channels) hleft channel' hleg hringing
        next hquiet =>
          -- the channel does not ring
          cases hs
          intro left hl' channel' hleg hringing
          cases hl'
          obtain hhung | hmem := h (channel :: channels) hleft channel' hleg hringing
          · exact .inl hhung
          · obtain rfl | htail := List.mem_cons.mp hmem
            · exact absurd hringing hquiet
            · exact .inr htail
  | hanging channel channels =>
    have hleft : s.phase.left = some (channel :: channels) := by rw [hphase]; rfl
    simp only [hphase] at hs
    split at hs
    next hraises =>
      cases hs
      exact crash (hc (by rw [hphase]; exact hraises))
    · cases hs
      intro left hl' channel' hleg hringing
      cases hl'
      obtain hhung | hmem := h (channel :: channels) hleft channel' hleg hringing
      · exact .inl (List.mem_append_left _ hhung)
      · obtain rfl | htail := List.mem_cons.mp hmem
        · exact .inl (List.mem_append_right _ (List.mem_singleton_self _))
        · exact .inr htail
  | finished =>
    simp only [hphase] at hs
    cases hs

theorem start (h : s.Fresh) : s.Swept := before (by rw [h.phase]; rfl)

theorem step (h : s.Swept) (hl : s.Ledger) (hc : s.RaisesQuietly label)
    (hs : s.step label = some s') : s'.Swept := by
  obtain ⟨answer, order, rfl, hs⟩ | ⟨channel, contact, contacts, -, -, -, rfl⟩ | ha :=
    step_cases hs
  · exact h.thread hl hc hs
  · exact before rfl
  · exact h.aside ha

end Swept

/-- The exception that leaves the thread ends it, and changes nothing else. -/
theorem threadStep_escapes (he : s.phase.Escapes answer)
    (hs : s.threadStep answer order = some s') : s' = s.goTo .finished := by
  cases hphase : s.phase with
  | cleaning channels => cases channels <;> simp_all [DialerPhase.Escapes, threadStep]
  | _ => cases answer <;> simp_all [DialerPhase.Escapes, threadStep]

/-- What a request leaves ringing as it raises, the thread leaves ringing as it ends. -/
theorem rings_of_raises (hs : s.step label = some s') (hc : ¬ s.RaisesQuietly label) :
    s'.phase = .finished ∧ ¬ s'.Quiet := by
  cases label with
  | thread answer order =>
    obtain ⟨he, hquiet⟩ := Classical.not_imp.mp hc
    obtain rfl := threadStep_escapes he hs
    exact ⟨rfl, hquiet⟩
  | _ => exact absurd trivial hc

end ContactDialer

/-! ## Every run -/

/-- The mobile is dialed, and the next request of the thread is on its way. -/
def mobileRings (contacts : String) : List DialerLabel :=
  threads 1 "" ++ threads 2 contacts ++ [.create mobileId] ++ threads 3 ""

/-- The call is over while the mobile rings. -/
def stoppedWhileRinging : List DialerLabel :=
  mobileRings "PJSIP/mobile" ++ [.stop, .wake] ++ threads 1 "" ++
    [.thread (.ok "") [mobileId]] ++ threads 3 ""

/-- The second contact is refused by Asterisk while the first one rings. -/
def secondContactRaises : List DialerLabel :=
  mobileRings "PJSIP/mobile&PJSIP/tablet" ++ threads 1 "" ++ [.thread .raises []]

end Calld.DialMobile
