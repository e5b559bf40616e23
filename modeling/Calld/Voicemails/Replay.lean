/-
# Following the diffs of the mailboxes

Somebody follows a mailbox from the refreshed cache: they start with its messages and apply
every diff that `get_diff` gives.  All mailboxes share the cache, and a reading of any of them
may purge the others, so a diff is told against what the purge has left.
-/
import Calld.Voicemails.Cache
import Calld.Effect.Machine

namespace Calld.Voicemails

open Effect Effect.Program

/-! ## Runs -/

section Runs

/-- What somebody who follows the diffs has: for every mailbox the messages that the diffs have
told, and for the statements those that were on disk at the last diff. -/
structure Followed where
  disk : Disk
  cache : VoicemailMessagesCache
  replayed : String × String → String → Option MessageInfo
  last : String × String → Option (List MessageInfo)

inductive MailboxStep where
  | change (disk : Disk)
  | getDiff (number context : String)

/-- A refreshed cache, and a disk that changes between the diffs. -/
def following : Machine Followed MailboxStep where
  init s := (∃ n, refreshCache s.disk (.new n) = .ok s.cache) ∧ (∀ key, s.last key = none) ∧
    ∀ key, s.replayed key = (index MessageInfo.id ((messagesOnDisk s.disk key).getD [])).get
  step
    | .change disk, s => some { s with disk := disk }
    | .getDiff number context, s =>
      match getDiff number context s.disk s.cache with
      | (.error _, cache) => some { s with cache := cache }
      | (.ok diff, cache) => some {
          disk := s.disk
          cache := cache
          replayed := Function.update s.replayed (number, context)
            (diff.apply MessageInfo.id (s.replayed (number, context)))
          last := Function.update s.last (number, context)
            (messagesOnDisk s.disk (number, context)) }

/-- The diffs of every mailbox give the messages that were on disk at its last one. -/
def Followed.Replays (s : Followed) : Prop :=
  ∀ key messages, s.last key = some messages →
    Lists MessageInfo.id messages (s.replayed key)

/-- When a diff is told, the mailbox has one message an id, and a message that is on disk as
the cache has it is also as the diffs have told it. -/
def Told (s : Followed) : MailboxStep → Prop
  | .change _ => True
  | .getDiff number context => ¬ CleaningFails s.disk s.cache →
    ∀ messages, messagesOnDisk s.disk (number, context) = some messages →
      Unambiguous MessageInfo.id messages ∧
        ∀ id, (s.cache.entry (number, context)).get id =
            (index MessageInfo.id messages).get id →
          s.replayed (number, context) id = (index MessageInfo.id messages).get id

variable {s s' : Followed} {number context : String}

/-- What a step on a mailbox does: the diff is told, or not. -/
theorem following_getDiff (h : following.step (.getDiff number context) s = some s') :
    s'.cache = (getDiff number context s.disk s.cache).2 ∧ s'.disk = s.disk ∧
      ((s'.replayed = s.replayed ∧ s'.last = s.last ∧
          (CleaningFails s.disk s.cache ∨ messagesOnDisk s.disk (number, context) = none)) ∨
        ∃ messages, ¬ CleaningFails s.disk s.cache ∧
          messagesOnDisk s.disk (number, context) = some messages ∧
          s'.replayed = Function.update s.replayed (number, context)
            ((computeDiff (s.cache.entry (number, context)) (index MessageInfo.id messages)).apply
              MessageInfo.id (s.replayed (number, context))) ∧
          s'.last = Function.update s.last (number, context) (some messages)) := by
  simp only [following] at h
  rw [getDiff_apply] at h ⊢
  unfold messagesOnDisk at h ⊢
  dsimp only at h ⊢
  cases hread : getVoicemailInfo s.disk (fakeVmConf number context) with
  | error e =>
    rw [hread] at h
    obtain rfl := Option.some.inj h
    exact ⟨rfl, rfl, .inl ⟨rfl, rfl, .inr rfl⟩⟩
  | ok vmInfo =>
    rw [hread] at h
    dsimp only at h ⊢
    have hfails := maybeCleanCache_fails_iff s.disk (s.cache.store (number, context) vmInfo)
    cases hclean : (maybeCleanCache s.disk (s.cache.store (number, context) vmInfo)).1 with
    | error e =>
      rw [hclean] at h
      obtain rfl := Option.some.inj h
      exact ⟨rfl, rfl, .inl ⟨rfl, rfl, .inl (hfails.mp ⟨e, hclean⟩)⟩⟩
    | ok u =>
      rw [hclean] at h
      obtain rfl := Option.some.inj h
      refine ⟨rfl, rfl, .inr ⟨vmInfo.messages, fun hf => ?_, rfl, rfl, rfl⟩⟩
      obtain ⟨e, he⟩ := hfails.mpr hf
      rw [hclean] at he
      cases he

/-- The cache stays sound. -/
theorem sound_of_reaches {C : Followed → MailboxStep → Prop} (h : following.Reaches C s) :
    s.cache.Sound := by
  refine h.invariant (I := fun s => s.cache.Sound) ?_ ?_
  · rintro s ⟨⟨n, hn⟩, -⟩
    exact sound_refreshCache hn
  · intro s a s' hs _ hstep
    cases a with
    | change disk =>
      obtain rfl := Option.some.inj hstep
      exact hs
    | getDiff number context =>
      rw [(following_getDiff hstep).1]
      exact Sound.getDiff hs

/-- The diffs replay after a step exactly when it tells what was to be told. -/
theorem replays_step (hsound : s.cache.Sound) (hr : s.Replays) {a : MailboxStep}
    (h : following.step a s = some s') : s'.Replays ↔ Told s a := by
  cases a with
  | change disk =>
    obtain rfl := Option.some.inj h
    exact ⟨fun _ => trivial, fun _ => hr⟩
  | getDiff number context =>
    obtain ⟨-, -, ⟨hreplayed, hlast, hnot⟩ | ⟨messages, hclean, hdisk, hreplayed, hlast⟩⟩ :=
      following_getDiff h
    · constructor
      · intro _ hclean messages hdisk
        rcases hnot with hnot | hnot
        · exact absurd hnot hclean
        · rw [hdisk] at hnot
          cases hnot
      · intro _ key messages hkey
        rw [hlast] at hkey
        rw [hreplayed]
        exact hr key messages hkey
    · have hdescribes := computeDiff_describes (hsound (number, context))
        (keyed_index MessageInfo.id messages)
      have happly := hdescribes.apply_eq_iff (m := s.replayed (number, context))
        (hsound (number, context)) (keyed_index _ _)
      -- only the mailbox that was read is concerned
      have hsplit : s'.Replays ↔ Lists MessageInfo.id messages (s'.replayed (number, context)) := by
        constructor
        · intro hr'
          exact hr' (number, context) messages (by rw [hlast, Function.update_self])
        · intro hlists key messages' hkey
          by_cases heq : key = (number, context)
          · subst heq
            rw [hlast, Function.update_self] at hkey
            obtain rfl := Option.some.inj hkey
            exact hlists
          · rw [hlast, Function.update_of_ne heq] at hkey
            rw [hreplayed, Function.update_of_ne heq]
            exact hr key messages' hkey
      rw [hsplit, hreplayed, Function.update_self]
      constructor
      · intro hlists _ messages' hdisk'
        rw [hdisk] at hdisk'
        obtain rfl := Option.some.inj hdisk'
        have hone := hlists.unambiguous
        exact ⟨hone, happly.mp (hlists.unique (lists_index_iff.mpr hone))⟩
      · intro htold
        obtain ⟨hone, hsame⟩ := htold hclean messages hdisk
        rw [happly.mpr hsame]
        exact lists_index_iff.mpr hone

/-- In every run whose diffs tell what is to be told, the successive diffs of a mailbox give
the messages that were on disk at the last one; the first step that does not leaves a mailbox
whose diffs do not. -/
theorem diffs_replay (h : following.Reaches Told s) :
    s.Replays ∧ ∀ a s', following.step a s = some s' → (s'.Replays ↔ Told s a) := by
  have hr : s.Replays := by
    refine h.invariant_along (I := Followed.Replays) ?_ ?_
    · rintro s ⟨-, hlast, -⟩ key messages hkey
      rw [hlast key] at hkey
      cases hkey
    · intro s a s' hreach hr htold hstep
      exact (replays_step (sound_of_reaches hreach) hr hstep).mpr htold
  exact ⟨hr, fun a s' hstep => replays_step (sound_of_reaches h) hr hstep⟩

end Runs

/-! ## Two mailboxes -/

section Mailboxes

variable {s : Followed}

/-- The cache as it has been refreshed from a directory. -/
def refreshed (disk : Disk) (cleanup : ℕ) : Followed where
  disk := disk
  cache := (refreshCache disk (.new cleanup)).toOption.getD (.new cleanup)
  replayed key := (index MessageInfo.id ((messagesOnDisk disk key).getD [])).get
  last _ := none

/-- One message is deleted and another left, and the diff tells both. -/
theorem diffs_replay_two : ∃ s, following.Reaches Told s ∧
    s.last ("1001", "default") = some [inInbox "1001" bye] ∧ s.Replays := by
  have hinit : following.Reaches Told (refreshed (spool [("1001", [hello])]) 1500) :=
    .init ⟨⟨1500, rfl⟩, fun _ => rfl, fun _ => rfl⟩
  have hchange := hinit.step (show Told _ (.change (spool [("1001", [bye])])) from trivial) rfl
  have htold : Told { refreshed (spool [("1001", [hello])]) 1500 with
      disk := spool [("1001", [bye])] } (.getDiff "1001" "default") := by
    intro _ messages hmessages
    obtain rfl : messages = [inInbox "1001" bye] := (Option.some.inj hmessages).symm
    -- what the cache has is what was told at first
    exact ⟨by decide, fun id hid => hid⟩
  have hdiff := hchange.step htold rfl
  exact ⟨_, hdiff, rfl, (diffs_replay hdiff).1⟩

/-- One mailbox has gone, and the other has been read so many times. -/
def Counting (n : ℕ) (s : Followed) : Prop :=
  s.disk = spool [("1002", [])] ∧ s.cache.cacheCleanupCounter = n ∧
    s.cache.cacheCleanupCounterMax = 1500 ∧
    s.replayed ("1001", "default") "msg-1" = some (inInbox "1001" hello)

/-- What a diff of the other mailbox does. -/
theorem step_other (hdisk : s.disk = spool [("1002", [])]) :
    ∃ s', following.step (.getDiff "1002" "default") s = some s' ∧
      s'.disk = s.disk ∧ s'.replayed ("1001", "default") = s.replayed ("1001", "default") ∧
      ∃ vmInfo, s'.cache =
        (maybeCleanCache s.disk (s.cache.store ("1002", "default") vmInfo)).2 := by
  obtain ⟨s', hs'⟩ : ∃ s', following.step (.getDiff "1002" "default") s = some s' := by
    simp only [following]
    split <;> exact ⟨_, rfl⟩
  obtain ⟨hcache, hdisk', hcases⟩ := following_getDiff hs'
  refine ⟨s', hs', hdisk', ?_, ?_⟩
  · obtain ⟨hreplayed, -⟩ | ⟨_, -, -, hreplayed, -⟩ := hcases
    · rw [hreplayed]
    · rw [hreplayed, Function.update_of_ne (by decide)]
  · rw [hcache, getDiff_apply, hdisk]
    exact ⟨_, rfl⟩

/-- The other mailbox is read until the next purge. -/
theorem exists_counting (n : ℕ) (hn : n ≤ 1500) : ∃ s, following.Reachable s ∧ Counting n s := by
  induction n with
  | zero =>
    have hinit : following.Reachable (refreshed (spool [("1001", [hello]), ("1002", [])]) 1500) :=
      .init ⟨⟨1500, rfl⟩, fun _ => rfl, fun _ => rfl⟩
    exact ⟨_, hinit.step (a := .change (spool [("1002", [])])) trivial rfl, rfl, rfl, rfl, rfl⟩
  | succ n ih =>
    obtain ⟨s, hs, hdisk, hcounter, hmax, hreplayed⟩ := ih (by omega)
    obtain ⟨s', hs', hdisk', hreplayed', vmInfo, hcache⟩ := step_other hdisk
    refine ⟨s', hs.step trivial hs', hdisk'.trans hdisk, ?_, ?_, by rw [hreplayed', hreplayed]⟩
    · rw [hcache, (counter_maybeCleanCache _ _).1]
      have hnot : s.cache.cacheCleanupCounter ≠ s.cache.cacheCleanupCounterMax := by omega
      exact (if_neg hnot).trans (by rw [← hcounter]; rfl)
    · rw [hcache, (counter_maybeCleanCache _ _).2]
      exact hmax

/-- A mailbox that has gone is purged by the diff of another one, and the diff that follows
does not tell that its message is deleted. -/
theorem purged_deletion_lost : ∃ s, following.Reachable s ∧ ¬ s.Replays := by
  obtain ⟨s, hs, hdisk, hcounter, hmax, hreplayed⟩ := exists_counting 1500 le_rfl
  obtain ⟨s₁, hs₁, hdisk₁, hreplayed₁, vmInfo, hcache₁⟩ := step_other hdisk
  obtain ⟨s₂, hs₂⟩ : ∃ s₂, following.step (.getDiff "1001" "default") s₁ = some s₂ := by
    simp only [following]
    split <;> exact ⟨_, rfl⟩
  refine ⟨s₂, (hs.step trivial hs₁).step trivial hs₂, fun hr => ?_⟩
  have hdisk' : messagesOnDisk s₁.disk ("1001", "default") = some [] := by
    rw [hdisk₁, hdisk]
    rfl
  have hdue : (s.cache.store ("1002", "default") vmInfo).cacheCleanupCounter =
      (s.cache.store ("1002", "default") vmInfo).cacheCleanupCounterMax :=
    hcounter.trans hmax.symm
  -- the purge starts the counter again and drops the mailbox
  have hclean : ¬ CleaningFails s₁.disk s₁.cache := by
    rintro ⟨hcounter₁, -⟩
    rw [hcache₁, (counter_maybeCleanCache _ _).1, (counter_maybeCleanCache _ _).2,
      if_pos hdue] at hcounter₁
    exact absurd (hcounter₁.trans hmax) (by decide)
  have hpurged : s₁.cache.entry ("1001", "default") = ∅ := by
    obtain ⟨-, hempty⟩ | ⟨hnot, -⟩ := entry_maybeCleanCache s.disk
      (s.cache.store ("1002", "default") vmInfo) ("1001", "default")
    · rw [hcache₁, hempty]
    · rw [hdisk] at hnot
      exact absurd ⟨hdue, [("1002", "default")], rfl, by decide⟩ hnot
  obtain ⟨-, -, ⟨-, -, hfails | hnone⟩ | ⟨messages, -, hmessages, hreplayed₂, hlast⟩⟩ :=
    following_getDiff hs₂
  · exact hclean hfails
  · rw [hdisk'] at hnone
    cases hnone
  · rw [hdisk'] at hmessages
    obtain rfl := Option.some.inj hmessages
    have hlists := hr ("1001", "default") [] (by rw [hlast, Function.update_self])
    rw [hreplayed₂, Function.update_self, hpurged, hreplayed₁] at hlists
    exact absurd ((hlists "msg-1" _).mp hreplayed).1 (by simp)

end Mailboxes

end Calld.Voicemails
