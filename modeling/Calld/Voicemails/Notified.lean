/-
# What the users hear of their mailboxes

Every event of a mailbox reads it, and is to tell what the last ones have not.  For the
statements a run keeps what has been told of every message, and which changes an event that
has succeeded has left untold.
-/
import Calld.Voicemails.BusConsume
import Calld.Effect.Machine

namespace Calld.Voicemails

open Effect Effect.Program

/-! ## Notified changes -/

/-- The notification tells one recipient that a message is created, updated or deleted; of a
message that is deleted only the id counts. -/
def Notification.Tells (voicemail : Voicemail) (recipient : Recipient) (kind : Diff.Kind)
    (message : MessageInfo) (n : Notification) : Prop :=
  n.kind = kind ∧ n.recipient = recipient ∧ n.message.id = message.id ∧
    (kind ≠ .deleted → n = notification voicemail recipient kind message)

instance (voicemail : Voicemail) (recipient : Recipient) (kind : Diff.Kind)
    (message : MessageInfo) (n : Notification) :
    Decidable (n.Tells voicemail recipient kind message) := by
  unfold Notification.Tells
  infer_instance

/-- Everybody whom the voicemail concerns is told. -/
def Announces (voicemails : Option (List Voicemail)) (sent : List Notification)
    (kind : Diff.Kind) (message : MessageInfo) : Prop :=
  match voicemails with
  | some (voicemail :: _) =>
    ∀ recipient ∈ audience voicemail, ∃ n ∈ sent, n.Tells voicemail recipient kind message
  | _ => False

instance (voicemails : Option (List Voicemail)) (sent : List Notification) (kind : Diff.Kind)
    (message : MessageInfo) : Decidable (Announces voicemails sent kind message) := by
  unfold Announces
  rcases voicemails with _ | _ | ⟨voicemail, rest⟩ <;> infer_instance

/-- The change of a message, if there is one, is announced. -/
def Settled (voicemails : Option (List Voicemail)) (sent : List Notification)
    (before after : Option MessageInfo) : Prop :=
  ∀ change ∈ Diff.change before after, Announces voicemails sent change.1 change.2

instance (voicemails : Option (List Voicemail)) (sent : List Notification)
    (before after : Option MessageInfo) : Decidable (Settled voicemails sent before after) := by
  unfold Settled
  infer_instance

/-! ## Runs -/

/-- The cache; what everybody has been told of every message; and the changes that an event
has seen or left pending, and has not told although it succeeded. -/
structure Watched where
  cache : VoicemailMessagesCache
  told : String × String → String → Option MessageInfo
  missed : String × String → String → Prop

/-- An event, and what surrounds its handler. -/
structure MessageWaiting where
  mailbox : Option String
  env : Surroundings

/-- The events one after the other; a mailbox that an event has read is told when the event
succeeds, and otherwise as far as it is announced. -/
def watching : Machine Watched MessageWaiting where
  init s := s.cache.Sound ∧ (∀ key, s.told key = (s.cache.entry key).get) ∧
    ∀ key id, ¬ s.missed key id
  step e s :=
    match voicemailUpdated e.mailbox e.env ⟨s.cache, []⟩, reading e.mailbox e.env.disk with
    | (_, h), none => some { s with cache := h.cache }
    | (.error _, h), some (key, messages) => some {
        s with
        cache := h.cache
        told := Function.update s.told key fun id =>
          if Settled e.env.voicemails h.sent (s.told key id)
              ((index MessageInfo.id messages).get id) then
            (index MessageInfo.id messages).get id
          else s.told key id }
    | (.ok _, h), some (key, messages) => some {
        cache := h.cache
        told := Function.update s.told key (index MessageInfo.id messages).get
        missed := fun key' id => s.missed key' id ∨ key' = key ∧
          ¬ Settled e.env.voicemails h.sent (s.told key id)
            ((index MessageInfo.id messages).get id) }

/-- No change is lost: every event that has succeeded has told all that was to be told. -/
def Watched.NoneMissed (s : Watched) : Prop := ∀ key id, ¬ s.missed key id

/-- The voicemail is found, and it concerns nobody. -/
def NobodyConcerned (voicemails : Option (List Voicemail)) : Prop :=
  match voicemails with
  | some (voicemail :: _) => audience voicemail = []
  | _ => False

/-- When nothing fails after the reading, every message that is not as it was told has
changed in the same way since the cache was last stored. -/
def StillPending (s : Watched) (e : MessageWaiting) : Prop :=
  ∀ key messages, reading e.mailbox e.env.disk = some (key, messages) →
    Undisturbed e.env s.cache key messages → NobodyConcerned e.env.voicemails ∨
      ∀ id, ∀ change ∈ Diff.change (s.told key id) ((index MessageInfo.id messages).get id),
        ∃ message, Diff.change ((s.cache.entry key).get id)
          ((index MessageInfo.id messages).get id) = some (change.1, message)

section Runs

variable {s s' : Watched} {e : MessageWaiting} {voicemail : Voicemail} {diff : Diff MessageInfo}
  {voicemails : Option (List Voicemail)} {kind : Diff.Kind} {recipient : Recipient}

/-- What is sent to somebody is the notification of a change of the diff. -/
theorem mem_notifications {n : Notification} : n ∈ notifications voicemail diff ↔
    ∃ recipient ∈ audience voicemail, ∃ kind, ∃ message ∈ diff.of kind,
      n = notification voicemail recipient kind message := by
  unfold notifications notificationsTo
  simp only [List.mem_flatMap, List.mem_append, List.mem_map]
  constructor
  · rintro ⟨recipient, hr, ⟨message, hm, rfl⟩ | ⟨message, hm, rfl⟩ | ⟨message, hm, rfl⟩⟩
    · exact ⟨recipient, hr, .created, message, hm, rfl⟩
    · exact ⟨recipient, hr, .updated, message, hm, rfl⟩
    · exact ⟨recipient, hr, .deleted, message, hm, rfl⟩
  · rintro ⟨recipient, hr, kind, message, hm, rfl⟩
    refine ⟨recipient, hr, ?_⟩
    cases kind with
    | created => exact .inl ⟨message, hm, rfl⟩
    | updated => exact .inr (.inl ⟨message, hm, rfl⟩)
    | deleted => exact .inr (.inr ⟨message, hm, rfl⟩)

/-- An empty diff has no change. -/
theorem of_of_isEmpty (h : isEmpty diff = true) (kind : Diff.Kind) : diff.of kind = [] := by
  unfold isEmpty at h
  simp only [Bool.and_eq_true, List.isEmpty_iff] at h
  obtain ⟨⟨hcreated, hupdated⟩, hdeleted⟩ := h
  cases kind with
  | created => exact hcreated
  | updated => exact hupdated
  | deleted => exact hdeleted

/-- What is sent announces a change exactly when the diff has it, or nobody is concerned. -/
theorem announces_iff {sent : List Notification} (hdue : sent ∈ due voicemails diff)
    {message : MessageInfo} (hsame : kind ≠ .deleted → ∀ m ∈ diff.of kind,
      m.id = message.id → m = message) :
    Announces voicemails sent kind message ↔
      NobodyConcerned voicemails ∨ ∃ m ∈ diff.of kind, m.id = message.id := by
  unfold due at hdue
  unfold Announces NobodyConcerned
  by_cases hempty : isEmpty diff = true
  · rw [if_pos hempty] at hdue
    obtain rfl := Option.some.inj hdue
    rw [of_of_isEmpty hempty]
    rcases voicemails with _ | _ | ⟨voicemail, rest⟩
    · simp
    · simp
    · simp [List.eq_nil_iff_forall_not_mem]
  · rw [if_neg hempty] at hdue
    rcases voicemails with _ | _ | ⟨voicemail, rest⟩
    · cases hdue
    · cases hdue
    · obtain rfl := Option.some.inj hdue
      dsimp only
      constructor
      · intro hall
        cases haudience : audience voicemail with
        | nil => exact .inl rfl
        | cons recipient others =>
          obtain ⟨n, hn, htells⟩ := hall recipient (by rw [haudience]; simp)
          obtain ⟨recipient', -, kind', m, hm, rfl⟩ := mem_notifications.mp hn
          obtain ⟨rfl, -, hid, -⟩ := htells
          exact .inr ⟨m, hm, hid⟩
      · rintro (hnobody | ⟨m, hm, hid⟩) recipient hrecipient
        · rw [hnobody] at hrecipient
          cases hrecipient
        · refine ⟨notification voicemail recipient kind m,
            mem_notifications.mpr ⟨recipient, hrecipient, kind, m, hm, rfl⟩, rfl, rfl, hid, ?_⟩
          intro hkind
          rw [hsame hkind m hm hid]

/-- What is sent settles a mailbox exactly when every change since it was told is in the diff,
or nobody is concerned. -/
theorem settled_iff {sent : List Notification} {told old new : String → Option MessageInfo}
    (hdue : sent ∈ due voicemails diff) (hd : diff.Describes MessageInfo.id old new)
    (htold : Keyed MessageInfo.id told) (hold : Keyed MessageInfo.id old)
    (hnew : Keyed MessageInfo.id new) :
    (∀ id, Settled voicemails sent (told id) (new id)) ↔
      NobodyConcerned voicemails ∨ ∀ id, ∀ change ∈ Diff.change (told id) (new id),
        ∃ message, Diff.change (old id) (new id) = some (change.1, message) := by
  -- one change of one message
  have hone (id : String) (kind : Diff.Kind) (message : MessageInfo)
      (hchange : Diff.change (told id) (new id) = some (kind, message)) :
      Announces voicemails sent kind message ↔ NobodyConcerned voicemails ∨
        ∃ m, Diff.change (old id) (new id) = some (kind, m) := by
    have hid : message.id = id := Diff.key_of_change htold hnew hchange
    have hsame : kind ≠ .deleted → ∀ m ∈ diff.of kind, m.id = message.id → m = message := by
      intro hkind m hm hmid
      have hm' := Diff.eq_some_of_change (hd.mem_of.mp hm) hkind
      have hmessage := Diff.eq_some_of_change hchange hkind
      rw [hmid, hid, hmessage] at hm'
      exact (Option.some.inj hm').symm
    rw [announces_iff hdue hsame]
    refine or_congr_right ⟨?_, ?_⟩
    · rintro ⟨m, hm, hmid⟩
      have hm' := hd.mem_of.mp hm
      rw [hmid, hid] at hm'
      exact ⟨m, hm'⟩
    · rintro ⟨m, hm⟩
      have hmid : m.id = id := Diff.key_of_change hold hnew hm
      refine ⟨m, hd.mem_of.mpr ?_, hmid.trans hid.symm⟩
      rwa [hmid]
  unfold Settled
  constructor
  · intro hall
    by_cases hnobody : NobodyConcerned voicemails
    · exact .inl hnobody
    · refine .inr fun id change hchange => ?_
      exact ((hone id change.1 change.2 hchange).mp (hall id change hchange)).resolve_left hnobody
  · rintro (hnobody | hall) id change hchange
    · exact (hone id change.1 change.2 hchange).mpr (.inl hnobody)
    · exact (hone id change.1 change.2 hchange).mpr (.inr (hall id change hchange))

/-- The cache and what has been told keep every message under its id. -/
def Watched.Sound (s : Watched) : Prop :=
  s.cache.Sound ∧ ∀ key, Keyed MessageInfo.id (s.told key)

/-- What an event does. -/
theorem watching_cases (h : watching.step e s = some s') :
    (reading e.mailbox e.env.disk = none ∧ s' = s) ∨
    ∃ key messages sent, reading e.mailbox e.env.disk = some (key, messages) ∧
      s'.cache = (getDiff key.1 key.2 e.env.disk s.cache).2 ∧
      ((¬ Undisturbed e.env s.cache key messages ∧ s'.missed = s.missed ∧
          s'.told = Function.update s.told key fun id =>
            if Settled e.env.voicemails sent (s.told key id)
                ((index MessageInfo.id messages).get id) then
              (index MessageInfo.id messages).get id
            else s.told key id) ∨
        (Undisturbed e.env s.cache key messages ∧
          sent ∈ due e.env.voicemails
            (computeDiff (s.cache.entry key) (index MessageInfo.id messages)) ∧
          s'.told = Function.update s.told key (index MessageInfo.id messages).get ∧
          s'.missed = fun key' id => s.missed key' id ∨ key' = key ∧
            ¬ Settled e.env.voicemails sent (s.told key id)
              ((index MessageInfo.id messages).get id))) := by
  simp only [watching] at h
  cases hread : reading e.mailbox e.env.disk with
  | none =>
    obtain ⟨hstate, -⟩ := voicemailUpdated_unread (s := ⟨s.cache, []⟩) hread
    rw [hread] at h
    refine .inl ⟨rfl, ?_⟩
    rcases hrun : voicemailUpdated e.mailbox e.env ⟨s.cache, []⟩ with ⟨r, state⟩
    rw [hrun] at h hstate
    obtain rfl := Option.some.inj h
    rw [show state = ⟨s.cache, []⟩ from hstate]
  | some read =>
    obtain ⟨key, messages⟩ := read
    obtain ⟨hcache, hcases⟩ := voicemailUpdated_read (c := s.cache) hread
    rcases hrun : voicemailUpdated e.mailbox e.env ⟨s.cache, []⟩ with ⟨r, state⟩
    rw [hread, hrun] at h
    rw [hrun] at hcache hcases
    refine .inr ⟨key, messages, state.sent, rfl, ?_⟩
    obtain ⟨hundisturbed, hok, hsent⟩ | ⟨hdisturbed, e, herror⟩ := hcases
    · rw [show r = .ok () from hok] at h
      obtain rfl := Option.some.inj h
      exact ⟨hcache, .inr ⟨hundisturbed, hsent, rfl, rfl⟩⟩
    · rw [show r = .error e from herror] at h
      obtain rfl := Option.some.inj h
      exact ⟨hcache, .inl ⟨hdisturbed, rfl, rfl⟩⟩

theorem watched_sound {C : Watched → MessageWaiting → Prop} (h : watching.Reaches C s) :
    s.Sound := by
  refine h.invariant (I := Watched.Sound) ?_ ?_
  · rintro s ⟨hsound, htold, -⟩
    refine ⟨hsound, fun key => ?_⟩
    rw [htold key]
    exact hsound key
  · intro s e s' hs _ hstep
    obtain ⟨-, rfl⟩ | ⟨key, messages, sent, -, hcache, htold⟩ := watching_cases hstep
    · exact hs
    · have hkeyed : Keyed MessageInfo.id (s'.told key) := by
        obtain ⟨-, -, htold⟩ | ⟨-, -, htold, -⟩ := htold
        · rw [htold, Function.update_self]
          intro id message hm
          dsimp only at hm
          split at hm
          · exact keyed_index _ _ id message hm
          · exact hs.2 key id message hm
        · rw [htold, Function.update_self]
          exact keyed_index _ _
      have hother (key' : String × String) (hne : key' ≠ key) : s'.told key' = s.told key' := by
        obtain ⟨-, -, htold⟩ | ⟨-, -, htold, -⟩ := htold <;>
          rw [htold, Function.update_of_ne hne]
      refine ⟨by rw [hcache]; exact Sound.getDiff hs.1, fun key' => ?_⟩
      by_cases hkey : key' = key
      · rw [hkey]
        exact hkeyed
      · rw [hother key' hkey]
        exact hs.2 key'

/-- An event misses no change exactly when those that are due are still pending. -/
theorem noneMissed_step (hsound : s.Sound) (hs : s.NoneMissed)
    (h : watching.step e s = some s') : s'.NoneMissed ↔ StillPending s e := by
  obtain ⟨hread, rfl⟩ | ⟨key, messages, sent, hread, -, hcases⟩ := watching_cases h
  · refine ⟨fun _ key messages hread' => ?_, fun _ => hs⟩
    rw [hread] at hread'
    cases hread'
  · have honly : StillPending s e ↔ (Undisturbed e.env s.cache key messages →
        NobodyConcerned e.env.voicemails ∨
          ∀ id, ∀ change ∈ Diff.change (s.told key id) ((index MessageInfo.id messages).get id),
            ∃ message, Diff.change ((s.cache.entry key).get id)
              ((index MessageInfo.id messages).get id) = some (change.1, message)) := by
      constructor
      · intro hp
        exact hp key messages hread
      · intro hp key' messages' hread'
        rw [hread] at hread'
        cases hread'
        exact hp
    rw [honly]
    obtain ⟨hdisturbed, hmissed, -⟩ | ⟨hundisturbed, hdue, -, hmissed⟩ := hcases
    · refine ⟨fun _ hu => absurd hu hdisturbed, fun _ key' id => ?_⟩
      rw [hmissed]
      exact hs key' id
    · have hsettled := settled_iff hdue
        (computeDiff_describes (hsound.1 key) (keyed_index MessageInfo.id messages))
        (hsound.2 key) (hsound.1 key) (keyed_index _ _)
      have hnone : s'.NoneMissed ↔ ∀ id, Settled e.env.voicemails sent (s.told key id)
          ((index MessageInfo.id messages).get id) := by
        unfold Watched.NoneMissed
        rw [hmissed]
        constructor
        · intro hnot id
          by_contra hsettled
          exact hnot key id (.inr ⟨rfl, hsettled⟩)
        · rintro hall key' id (hmissed | ⟨-, hnot⟩)
          · exact hs key' id hmissed
          · exact hnot (hall id)
      rw [hnone, hsettled]
      exact ⟨fun hp _ => hp, fun hp => hp hundisturbed⟩

/-- In every run in which the changes that are due are still pending when an event succeeds,
no change is lost; and the first event at which they are not loses one. -/
theorem no_change_lost (h : watching.Reaches StillPending s) :
    s.NoneMissed ∧ ∀ e s', watching.step e s = some s' → (s'.NoneMissed ↔ StillPending s e) := by
  have hs : s.NoneMissed := by
    refine h.invariant_along (I := Watched.NoneMissed) ?_ ?_
    · rintro s ⟨-, -, hs⟩
      exact hs
    intro s e s' hreach hs hpending hstep
    exact (noneMissed_step (watched_sound hreach) hs hstep).mpr hpending
  exact ⟨hs, fun e s' hstep => noneMissed_step (watched_sound h) hs hstep⟩

/-! ## A mailbox of a user -/

/-- Before any event, everybody knows what the cache has. -/
def watched (disk : Disk) : Watched where
  cache := (refreshCache disk (.new 1500)).toOption.getD (.new 1500)
  told key := (((refreshCache disk (.new 1500)).toOption.getD (.new 1500)).entry key).get
  missed _ _ := False

/-- An event of the mailbox 1001, when nothing fails or when confd does not answer. -/
def messageWaiting (results : List ParseResult) (voicemails : Option (List Voicemail)) :
    MessageWaiting where
  mailbox := some "1001@default"
  env := ⟨spool [("1001", results)], voicemails, fun _ => true⟩

def personal : Voicemail := ⟨7, "Alice", "personal", "tenant", ["alice"]⟩

theorem watched_init {c : VoicemailMessagesCache} {disk : Disk}
    (h : refreshCache disk (.new 1500) = .ok c) : watching.init (watched disk) := by
  unfold watched
  rw [h]
  exact ⟨sound_refreshCache h, fun _ => rfl, fun _ _ => id⟩

theorem exists_step (e : MessageWaiting) (s : Watched) : ∃ s', watching.step e s = some s' := by
  simp only [watching]
  split <;> exact ⟨_, rfl⟩

/-- When everybody knows what is in the cache, whatever changes is pending. -/
theorem stillPending_of_told (h : ∀ key, s.told key = (s.cache.entry key).get) :
    StillPending s e := by
  intro key messages _ _
  refine .inr fun id change hchange => ⟨change.2, ?_⟩
  rw [← h key]
  exact hchange

/-- What the events of the mailbox read. -/
theorem reading_messageWaiting (voicemails : Option (List Voicemail)) :
    reading (messageWaiting [hello, bye] voicemails).mailbox
        (messageWaiting [hello, bye] voicemails).env.disk =
      some (("1001", "default"), [inInbox "1001" bye, inInbox "1001" hello]) := by
  change reading (some "1001@default") (spool [("1001", [hello, bye])]) = _
  decide

/-- A message that is left is told by the event. -/
theorem no_change_lost_told : ∃ s, watching.Reaches StillPending s ∧ s.NoneMissed ∧
    s.told ("1001", "default") "msg-2" = some (inInbox "1001" bye) := by
  have hinit : watching.init (watched (spool [("1001", [hello])])) :=
    watched_init (c := (refreshCache (spool [("1001", [hello])]) (.new 1500)).toOption.getD
      (.new 1500)) rfl
  obtain ⟨s, hs⟩ := exists_step (messageWaiting [hello, bye] (some [personal]))
    (watched (spool [("1001", [hello])]))
  have hreach : watching.Reaches StillPending s :=
    (Machine.Reaches.init hinit).step (stillPending_of_told hinit.2.1) hs
  refine ⟨s, hreach, (no_change_lost hreach).1, ?_⟩
  obtain ⟨hnone, -⟩ | ⟨key, messages, sent, hread, -, hcases⟩ := watching_cases hs
  · rw [reading_messageWaiting] at hnone
    cases hnone
  · rw [reading_messageWaiting] at hread
    cases hread
    obtain ⟨hdisturbed, -⟩ | ⟨-, -, htold, -⟩ := hcases
    · refine absurd ⟨?_, ?_⟩ hdisturbed
      · rintro ⟨hcounter, -⟩
        exact absurd hcounter (by decide)
      · exact ⟨_, rfl, fun _ _ => rfl⟩
    · rw [htold, Function.update_self]
      decide

/-- A message that is left while confd does not answer is in the cache, and no event tells it. -/
theorem failed_notification_lost : ∃ s, watching.Reachable s ∧ ¬ s.NoneMissed := by
  have hinit : watching.init (watched (spool [("1001", [hello])])) :=
    watched_init (c := (refreshCache (spool [("1001", [hello])]) (.new 1500)).toOption.getD
      (.new 1500)) rfl
  obtain ⟨s, hs⟩ := exists_step (messageWaiting [hello, bye] none)
    (watched (spool [("1001", [hello])]))
  obtain ⟨s', hs'⟩ := exists_step (messageWaiting [hello, bye] (some [personal])) s
  have hreach : watching.Reachable s := (Machine.Reaches.init hinit).step trivial hs
  refine ⟨s', hreach.step trivial hs', ?_⟩
  obtain ⟨hnone, -⟩ | ⟨key, messages, sent, hread, hcache, hcases⟩ := watching_cases hs
  · rw [reading_messageWaiting] at hnone
    cases hnone
  rw [reading_messageWaiting] at hread
  cases hread
  obtain ⟨-, hmissed, htold⟩ | ⟨⟨-, l, hl, -⟩, -⟩ := hcases
  · have hnone : s.NoneMissed := by
      intro key id
      rw [hmissed]
      exact hinit.2.2 key id
    rw [noneMissed_step (watched_sound hreach) hnone hs']
    intro hpending
    -- the event has stored the new message, and nobody has been told
    have hentry : s.cache.entry ("1001", "default") =
        index MessageInfo.id [inInbox "1001" bye, inInbox "1001" hello] := by
      rw [hcache]
      rfl
    have hnot : s.told ("1001", "default") "msg-2" = none := by
      rw [htold, Function.update_self]
      -- without an answer of confd nothing is announced
      have hunsettled : ¬ Settled none sent none (some (inInbox "1001" bye)) :=
        fun h => h (.created, inInbox "1001" bye) rfl
      exact if_neg hunsettled
    have hundisturbed : Undisturbed (messageWaiting [hello, bye] (some [personal])).env s.cache
        ("1001", "default") [inInbox "1001" bye, inInbox "1001" hello] := by
      refine ⟨?_, ?_⟩
      · rintro ⟨hcounter, -⟩
        rw [hcache] at hcounter
        exact absurd hcounter (by decide)
      · rw [hentry]
        exact ⟨[], by decide, fun i hi => absurd hi (Nat.not_lt_zero i)⟩
    obtain hnobody | hall := hpending _ _ (reading_messageWaiting _) hundisturbed
    · cases hnobody
    · obtain ⟨m, hm⟩ := hall "msg-2" (.created, inInbox "1001" bye) (by rw [hnot]; decide)
      rw [hentry, Diff.change_self] at hm
      cases hm
  · have hdue : due (messageWaiting [hello, bye] none).env.voicemails
        (computeDiff ((watched (spool [("1001", [hello])])).cache.entry ("1001", "default"))
          (index MessageInfo.id [inInbox "1001" bye, inInbox "1001" hello])) = none := by
      decide
    rw [hdue] at hl
    cases hl

end Runs

end Calld.Voicemails
