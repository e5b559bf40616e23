/-
# Every line and trunk is tracked

The cache of confd knows lines and trunks; the status cache tracks the endpoints of those
that are SIP or IAX.  An association puts an entry into both.  An endpoint that is given
another name takes its lines and trunks along, and leaves its entry in the status cache where
it was; a trunk that is deleted takes its entry away, also from a line or a trunk that has
the same endpoint.
-/
import Calld.Effect.Machine
import Calld.Endpoints.EventHandler

namespace Calld.Endpoints

open Effect Program

/-! ## The model -/

namespace Caches

variable (s : Caches)

/-- A line or a trunk of this technology and name is present in the cache of confd. -/
def Known (t : Techno) (name : String) : Prop :=
  (named s.confd.lines t name).isSome ∨ (named s.confd.trunks t name).isSome

/-- The endpoint of this technology and name is tracked. -/
def Tracked (t : Techno) (name : String) : Prop :=
  ∃ word ∈ technoMap t, (s.status.find word name).isSome

/-- Every SIP and IAX line and trunk is tracked. -/
def Tracks : Prop :=
  ∀ t name, t = .sip ∨ t = .iax → s.Known t name → s.Tracked t name

/-- The trunk that `get_trunk_by_id` finds. -/
def trunkOf (trunkId : Int) : Option ConfdEndpoint :=
  s.confd.trunks.keys.findSome? (identified s.confd.trunks · trunkId)

/-- An endpoint keeps its name, or takes one that is tracked already; a trunk is deleted when
no line and no other trunk has its endpoint. -/
def Steady : ConfdEvent → Prop
  | .sipEndpointUpdated name _ _ _ trunk line =>
    trunk.isSome ∨ line.isSome → s.Tracked .sip name
  | .iaxEndpointUpdated name _ trunk => trunk.isSome → s.Tracked .iax name
  | .trunkDeleted trunkId => ∀ trunk ∈ s.trunkOf trunkId,
    trunk.technology = .sip ∨ trunk.technology = .iax →
      named s.confd.lines trunk.technology trunk.name = none ∧
      ∀ other ∈ named s.confd.trunks trunk.technology trunk.name, other.id = trunkId
  | _ => True

end Caches

/-- The events of confd, in any order. -/
def trackedCaches : Machine Caches (Confd × ConfdEvent) where
  init s := s.confd.initialized = true ∧ s.Tracks
  step a s := some (a.2.handle a.1 s).2

/-! ## What the events change -/

section Events

variable {confd : Confd} {s s' : Caches} {t : Techno} {name : String} {event : ConfdEvent}

theorem technoMap_sip : technoMap .sip = some "PJSIP" := rfl

theorem tracked_sip : s.Tracked .sip name ↔ (s.status.find "PJSIP" name).isSome := by
  simp [Caches.Tracked, technoMap]

theorem tracked_iax : s.Tracked .iax name ↔ (s.status.find "IAX2" name).isSome := by
  simp [Caches.Tracked, technoMap]

/-- What is known afterwards was known before or is tracked, and nothing is forgotten. -/
theorem Caches.Tracks.mono (h : s.Tracks)
    (hknown : ∀ t name, t = .sip ∨ t = .iax → s'.Known t name →
      s.Known t name ∨ s'.Tracked t name)
    (hstatus : ∀ word name, (s.status.find word name).isSome →
      (s'.status.find word name).isSome) : s'.Tracks := by
  intro t name ht hk
  rcases hknown t name ht hk with hk | htracked
  · obtain ⟨word, hword, hfind⟩ := h t name ht hk
    exact ⟨word, hword, hstatus word name hfind⟩
  · exact htracked

/-- A new entry of the status cache hides no other one. -/
theorem isSome_find_assign {status : StatusCache} {word techno' name' : String} {e : Endpoint}
    (h : (status.find word name).isSome) :
    ((status.assign techno' name' e).find word name).isSome := by
  rw [find_assign]
  split
  · rfl
  · exact h

/-- A deleted id is known no more than before. -/
theorem isSome_of_filter {r : Option ConfdEndpoint} {p : ConfdEndpoint → Bool}
    (h : (r.filter p).isSome) : r.isSome := by
  cases r with
  | none => exact h
  | some e => rfl

/-- A line of a technology and a name is added. -/
theorem known_addLine {c : ConfdCache} {techno : Techno} {i : Int} {n tenantUuid : String}
    {username : Option String}
    (h : (named (c.addLine techno i n username tenantUuid).lines t name).isSome) :
    (named c.lines t name).isSome ∨ t = techno ∧ name = n := by
  rw [named_addLine] at h
  split at h
  · next hkey => exact .inr hkey
  · exact .inl h

/-- A trunk of a technology and a name is added. -/
theorem known_addTrunk {c : ConfdCache} {techno : Techno} {i : Int} {n tenantUuid : String}
    {username : Option String}
    (h : (named (c.addTrunk techno i n username tenantUuid).trunks t name).isSome) :
    (named c.trunks t name).isSome ∨ t = techno ∧ name = n := by
  rw [named_addTrunk] at h
  split at h
  · next hkey => exact .inr hkey
  · exact .inl h

theorem known_deleteLine {c : ConfdCache} {i : Int}
    (h : (named (c.deleteLine i).lines t name).isSome) : (named c.lines t name).isSome := by
  rw [named_deleteLine] at h
  exact isSome_of_filter h

theorem known_deleteTrunk {c : ConfdCache} {i : Int}
    (h : (named (c.deleteTrunk i).trunks t name).isSome) : (named c.trunks t name).isSome := by
  rw [named_deleteTrunk] at h
  exact isSome_of_filter h

/-- The owners of an endpoint are known under its name. -/
theorem known_updateOwners {techno : Techno} {n tenantUuid : String} {trunk line : Option Int}
    {trunkUsername lineUsername : Option String}
    (h : Caches.Known { s with confd := (updateOwners techno n tenantUuid trunk line
      trunkUsername lineUsername s.confd) } t name) :
    s.Known t name ∨ (trunk.isSome ∨ line.isSome) ∧ t = techno ∧ name = n := by
  unfold Caches.Known updateOwners at h
  rcases h with h | h
  · cases line with
    | none => cases trunk <;> exact .inl (.inl h)
    | some lineId =>
      have h : (named (s.confd.updateLine techno lineId n lineUsername tenantUuid).lines t
          name).isSome := by
        cases trunk <;> exact h
      rcases known_addLine h with h | hkey
      · exact .inl (.inl (known_deleteLine h))
      · exact .inr ⟨.inr rfl, hkey⟩
  · cases trunk with
    | none => cases line <;> exact .inl (.inr h)
    | some trunkId =>
      have h : (named (s.confd.updateTrunk techno trunkId n trunkUsername tenantUuid).trunks t
          name).isSome := by
        cases line <;> exact h
      rcases known_addTrunk h with h | hkey
      · exact .inl (.inr (known_deleteTrunk h))
      · exact .inr ⟨.inl rfl, hkey⟩

/-- An owner of an endpoint is known under its name. -/
theorem updateOwners_known {techno : Techno} {n tenantUuid : String} {trunk line : Option Int}
    {trunkUsername lineUsername : Option String} (h : trunk.isSome ∨ line.isSome) :
    Caches.Known { s with confd := (updateOwners techno n tenantUuid trunk line
      trunkUsername lineUsername s.confd) } techno n := by
  unfold Caches.Known updateOwners
  rcases h with h | h
  · obtain ⟨trunkId, rfl⟩ := Option.isSome_iff_exists.mp h
    right
    have hadd : (named (s.confd.updateTrunk techno trunkId n trunkUsername tenantUuid).trunks
        techno n).isSome := by
      unfold ConfdCache.updateTrunk
      rw [named_addTrunk, if_pos ⟨rfl, rfl⟩]
      rfl
    cases line <;> exact hadd
  · obtain ⟨lineId, rfl⟩ := Option.isSome_iff_exists.mp h
    left
    have hadd (c : ConfdCache) : (named (c.updateLine techno lineId n lineUsername
        tenantUuid).lines techno n).isSome := by
      unfold ConfdCache.updateLine
      rw [named_addLine, if_pos ⟨rfl, rfl⟩]
      rfl
    exact hadd _

theorem technoMap_inj {t' : Techno} {word : String} (h : technoMap t = some word)
    (h' : technoMap t' = some word) : t = t' := by
  cases t <;> cases t' <;> first | rfl | (rw [← h'] at h; simp [technoMap] at h)

/-- What the deletion of a trunk does, once the cache is filled. -/
theorem onTrunkEndpointDeleted_snd {trunkId : Int} (h : s.confd.initialized = true) :
    (onTrunkEndpointDeleted trunkId confd s).2 =
      { s with
        confd := s.confd.deleteTrunk trunkId
        status := match s.trunkOf trunkId with
          | none => s.status
          | some trunk => match technoMap trunk.technology with
            | none => s.status
            | some techno => s.status.drop techno trunk.name } := by
  unfold onTrunkEndpointDeleted
  rw [bind_of_ok (onConfdCache_ok (getTrunkById_apply h trunkId)),
    bind_of_ok (changeConfd_apply _)]
  show _ = ({ s with
    confd := s.confd.deleteTrunk trunkId
    status := match s.confd.trunks.keys.findSome? (identified s.confd.trunks · trunkId) with
      | none => s.status
      | some trunk => match technoMap trunk.technology with
        | none => s.status
        | some techno => s.status.drop techno trunk.name } : Caches)
  cases s.confd.trunks.keys.findSome? (identified s.confd.trunks · trunkId) with
  | none => rfl
  | some trunk =>
    dsimp only
    cases technoMap trunk.technology <;> rfl

/-- A trunk is deleted while nothing else has its endpoint. -/
theorem tracks_trunkDeleted {trunkId : Int} (h : s.Tracks)
    (hi : s.confd.initialized = true) (hsteady : s.Steady (.trunkDeleted trunkId)) :
    (onTrunkEndpointDeleted trunkId confd s).2.Tracks := by
  rw [onTrunkEndpointDeleted_snd hi]
  intro t name ht hk
  have hk : (named s.confd.lines t name).isSome ∨
      (named (s.confd.deleteTrunk trunkId).trunks t name).isSome := hk
  obtain ⟨word, hword, hfind⟩ := h t name ht (hk.imp_right known_deleteTrunk)
  refine ⟨word, hword, ?_⟩
  show (StatusCache.find (match s.trunkOf trunkId with
    | none => s.status
    | some trunk => match technoMap trunk.technology with
      | none => s.status
      | some techno => s.status.drop techno trunk.name) word name).isSome
  cases htrunk : s.trunkOf trunkId with
  | none => exact hfind
  | some trunk =>
    dsimp only
    cases htechno : technoMap trunk.technology with
    | none => exact hfind
    | some techno =>
      dsimp only
      rw [find_drop]
      split
      · next hkey =>
        -- the entry that goes is that of the trunk, which is known no more
        obtain ⟨rfl, rfl⟩ := hkey
        obtain rfl : t = trunk.technology := technoMap_inj hword htechno
        obtain ⟨hline, hother⟩ := hsteady trunk htrunk ht
        rw [hline, named_deleteTrunk] at hk
        rcases hk with hk | hk
        · cases hk
        · obtain ⟨other, hfilter⟩ := Option.isSome_iff_exists.mp hk
          obtain ⟨hnamed, hid⟩ := Option.filter_eq_some_iff.mp hfilter
          simp [hother other hnamed] at hid
      · exact hfind

/-- A trunk that is deleted from under another owner of its endpoint leaves it untracked. -/
theorem steady_trunkDeleted {trunkId : Int} (hi : s.confd.initialized = true)
    (h : (onTrunkEndpointDeleted trunkId confd s).2.Tracks) :
    s.Steady (.trunkDeleted trunkId) := by
  rw [onTrunkEndpointDeleted_snd hi] at h
  intro trunk htrunk ht
  have htrunk : s.trunkOf trunkId = some trunk := htrunk
  obtain ⟨word, hword⟩ : ∃ word, technoMap trunk.technology = some word := by
    rcases ht with ht | ht <;> exact ⟨_, by rw [ht]; rfl⟩
  have hnot : ¬ ((named s.confd.lines trunk.technology trunk.name).isSome ∨
      (named (s.confd.deleteTrunk trunkId).trunks trunk.technology trunk.name).isSome) := by
    intro hk
    obtain ⟨word', hword', hfind⟩ := h trunk.technology trunk.name ht hk
    obtain rfl : word = word' := Option.some.inj (hword.symm.trans hword')
    simp only [htrunk, hword, find_drop, and_self, if_true] at hfind
    cases hfind
  rw [named_deleteTrunk, not_or, Option.not_isSome_iff_eq_none,
    Option.not_isSome_iff_eq_none] at hnot
  refine ⟨hnot.1, fun other hother => ?_⟩
  have hother : named s.confd.trunks trunk.technology trunk.name = some other := hother
  by_contra hne
  rw [hother] at hnot
  simp [Option.filter, hne] at hnot

/-- The handlers leave the cache filled. -/
theorem handle_initialized (h : s.confd.initialized = true) (event : ConfdEvent) :
    (event.handle confd s).2.confd.initialized = true := by
  cases event with
  | trunkDeleted trunkId =>
    show (onTrunkEndpointDeleted trunkId confd s).2.confd.initialized = true
    rw [onTrunkEndpointDeleted_snd h]
    exact h
  | lineEdited protocol lineId name tenantUuid =>
    show ((if protocol ≠ some .sccp then pure () else changeConfd _ : Handler Unit)
      confd s).2.confd.initialized = true
    split <;> exact h
  | sipEndpointUpdated name tenantUuid registration auth trunk line =>
    cases trunk <;> cases line <;> exact h
  | iaxEndpointUpdated name tenantUuid trunk => cases trunk <;> exact h
  | customEndpointUpdated interface_ tenantUuid trunk line =>
    cases trunk <;> cases line <;> exact h
  | _ => exact h

/-- The caches after a change of the cache of confd alone. -/
theorem Caches.Tracks.changeConfd {c : ConfdCache} (h : s.Tracks)
    (hknown : ∀ t name, t = .sip ∨ t = .iax → Caches.Known { s with confd := c } t name →
      s.Known t name ∨ s.Tracked t name) : Caches.Tracks { s with confd := c } :=
  h.mono hknown fun _ _ hfind => hfind

/-- An endpoint that keeps its name, or takes one that is tracked. -/
theorem tracks_updateOwners {techno : Techno} {n tenantUuid : String} {trunk line : Option Int}
    {trunkUsername lineUsername : Option String} (h : s.Tracks)
    (hsteady : techno = .sip ∨ techno = .iax → trunk.isSome ∨ line.isSome →
      s.Tracked techno n) :
    Caches.Tracks { s with confd := (updateOwners techno n tenantUuid trunk line
      trunkUsername lineUsername s.confd) } := by
  refine h.changeConfd fun t name ht hk => ?_
  rcases known_updateOwners hk with hk | ⟨howner, rfl, rfl⟩
  · exact .inl hk
  · exact .inr (hsteady ht howner)

/-- An event under the condition leaves every line and trunk tracked. -/
theorem tracks_handle (h : s.Tracks) (hi : s.confd.initialized = true)
    (hsteady : s.Steady event) : (event.handle confd s).2.Tracks := by
  -- neither a SCCP nor a custom endpoint has to be tracked
  have hother {techno t : Techno} (htechno : techno = .sccp ∨ techno = .custom)
      (ht : t = .sip ∨ t = .iax) : t ≠ techno := by
    rcases ht with rfl | rfl <;> rcases htechno with rfl | rfl <;> simp
  have haddLine {c : ConfdCache} {techno : Techno} {i : Int} {n tenantUuid : String}
      (htechno : techno = .sccp ∨ techno = .custom)
      (htrunks : c.trunks = s.confd.trunks)
      (hlines : ∀ t name, (named c.lines t name).isSome → (named s.confd.lines t name).isSome) :
      Caches.Tracks { s with confd := c.addLine techno i n none tenantUuid } := by
    refine h.changeConfd fun t name ht hk => .inl ?_
    rcases hk with hk | hk
    · rcases known_addLine hk with hk | hkey
      · exact .inl (hlines t name hk)
      · exact absurd hkey.1 (hother htechno ht)
    · exact .inr (htrunks ▸ hk)
  cases event with
  | lineEndpointSipAssociated lineId tenantUuid n options =>
    refine h.mono (fun t name ht hk => ?_) fun word name hfind => isSome_find_assign hfind
    rcases hk with hk | hk
    · rcases known_addLine hk with hk | ⟨rfl, rfl⟩
      · exact .inl (.inl hk)
      · refine .inr (tracked_sip.mpr ?_)
        exact (congrArg Option.isSome (find_addNewSipEndpoint.trans (if_pos ⟨rfl, rfl⟩))).trans rfl
    · exact .inl (.inr hk)
  | lineEndpointSccpAssociated lineId tenantUuid n =>
    exact haddLine (.inl rfl) rfl fun _ _ hk => hk
  | lineEndpointCustomAssociated lineId tenantUuid n =>
    exact haddLine (.inr rfl) rfl fun _ _ hk => hk
  | lineEdited protocol lineId n tenantUuid =>
    show Caches.Tracks ((if protocol ≠ some .sccp then pure () else changeConfd _ :
      Handler Unit) confd s).2
    split
    · exact h
    · exact haddLine (.inl rfl) rfl fun _ _ hk => known_deleteLine hk
  | lineEndpointDissociated lineId =>
    exact h.changeConfd fun t name _ hk => .inl (hk.imp_left known_deleteLine)
  | lineDeleted lineId =>
    exact h.changeConfd fun t name _ hk => .inl (hk.imp_left known_deleteLine)
  | trunkEndpointSipAssociated trunkId tenantUuid n options =>
    refine h.mono (fun t name ht hk => ?_) fun word name hfind => isSome_find_assign hfind
    rcases hk with hk | hk
    · exact .inl (.inl hk)
    · rcases known_addTrunk hk with hk | ⟨rfl, rfl⟩
      · exact .inl (.inr hk)
      · refine .inr (tracked_sip.mpr ?_)
        exact (congrArg Option.isSome (find_addNewSipEndpoint.trans (if_pos ⟨rfl, rfl⟩))).trans rfl
  | trunkEndpointIaxAssociated trunkId tenantUuid n =>
    refine h.mono (fun t name ht hk => ?_) fun word name hfind => isSome_find_assign hfind
    rcases hk with hk | hk
    · exact .inl (.inl hk)
    · rcases known_addTrunk hk with hk | ⟨rfl, rfl⟩
      · exact .inl (.inr hk)
      · refine .inr (tracked_iax.mpr ?_)
        exact (congrArg Option.isSome (find_addNewIaxEndpoint.trans (if_pos ⟨rfl, rfl⟩))).trans rfl
  | trunkEndpointCustomAssociated trunkId tenantUuid n =>
    refine h.changeConfd fun t name ht hk => .inl ?_
    rcases hk with hk | hk
    · exact .inl hk
    · rcases known_addTrunk hk with hk | hkey
      · exact .inr hk
      · exact absurd hkey.1 (hother (.inr rfl) ht)
  | trunkEndpointDissociated trunkId =>
    exact h.changeConfd fun t name _ hk => .inl (hk.imp_right known_deleteTrunk)
  | trunkDeleted trunkId => exact tracks_trunkDeleted h hi hsteady
  | sipEndpointUpdated n tenantUuid registration auth trunk line =>
    exact tracks_updateOwners h fun _ howner => hsteady howner
  | iaxEndpointUpdated n tenantUuid trunk =>
    refine tracks_updateOwners h fun _ howner => hsteady ?_
    exact howner.resolve_right (by simp)
  | customEndpointUpdated n tenantUuid trunk line =>
    refine tracks_updateOwners h fun hcustom _ => ?_
    rcases hcustom with hcustom | hcustom <;> cases hcustom

/-- An event that breaks the condition leaves a line or a trunk untracked. -/
theorem steady_of_tracks (hi : s.confd.initialized = true)
    (h : (event.handle confd s).2.Tracks) : s.Steady event := by
  cases event with
  | trunkDeleted trunkId => exact steady_trunkDeleted hi h
  | sipEndpointUpdated n tenantUuid registration auth trunk line =>
    intro howner
    exact tracked_sip.mpr (tracked_sip.mp (h .sip n (.inl rfl) (updateOwners_known howner)))
  | iaxEndpointUpdated n tenantUuid trunk =>
    intro howner
    exact tracked_iax.mpr (tracked_iax.mp (h .iax n (.inr rfl) (updateOwners_known (.inl howner))))
  | _ => trivial

/-- **Every known SIP or IAX line and trunk is tracked, up to the first endpoint that takes a
name which is not tracked, or the first trunk that is deleted while another line or trunk has
its endpoint.** -/
theorem known_are_tracked (h : trackedCaches.Reaches (fun s a => s.Steady a.2) s) :
    s.Tracks ∧ ∀ confd event, (event.handle confd s).2.Tracks ↔ s.Steady event := by
  have hinv : s.confd.initialized = true ∧ s.Tracks := by
    refine h.invariant (I := fun s => s.confd.initialized = true ∧ s.Tracks) (fun s hs => hs)
      fun s a s' hs hsteady hstep => ?_
    obtain rfl := Option.some.inj hstep
    exact ⟨handle_initialized hs.1 a.2, tracks_handle hs.2 hs.1 hsteady⟩
  exact ⟨hinv.2, fun confd event => ⟨steady_of_tracks hinv.1, tracks_handle hinv.2 hinv.1⟩⟩

end Events

/-! ## An endpoint with another name -/

/-- A SIP trunk is associated. -/
def associateTrunk : ConfdEvent := .trunkEndpointSipAssociated 1 "tenant" "trunk" []

/-- Its endpoint is given another name. -/
def renameTrunk : ConfdEvent := .sipEndpointUpdated "other" "tenant" [] [] (some 1) none

/-- The caches once the trunk is associated; confd was empty before. -/
def associatedCaches : Caches :=
  (associateTrunk.handle ⟨[], []⟩ ⟨ConfdCache.fresh.initializeWith ⟨[], []⟩, ∅, []⟩).2

theorem associatedCaches_reaches :
    trackedCaches.Reaches (fun s a => s.Steady a.2) associatedCaches := by
  have hinit : trackedCaches.init ⟨ConfdCache.fresh.initializeWith ⟨[], []⟩, ∅, []⟩ :=
    ⟨rfl, fun _ _ _ hk => by rcases hk with hk | hk <;> cases hk⟩
  exact .step (a := (⟨[], []⟩, associateTrunk)) (.init hinit) trivial rfl

/-- The trunk is tracked as long as its endpoint keeps its name. -/
theorem known_are_tracked_associated :
    associatedCaches.Tracked .sip "trunk" ∧ associatedCaches.Tracks ∧
      ∀ confd event, (event.handle confd associatedCaches).2.Tracks ↔
        associatedCaches.Steady event :=
  ⟨tracked_sip.mpr (by decide), known_are_tracked associatedCaches_reaches⟩

/-- Under its new name the trunk is not tracked. -/
theorem renamed_trunk_is_untracked : ¬ ∀ s, trackedCaches.Reachable s → s.Tracks := by
  intro hall
  have hreach : trackedCaches.Reachable (renameTrunk.handle ⟨[], []⟩ associatedCaches).2 :=
    .step (a := (⟨[], []⟩, renameTrunk))
      (associatedCaches_reaches.mono fun _ _ _ => trivial) trivial rfl
  have hknown : (renameTrunk.handle ⟨[], []⟩ associatedCaches).2.Known .sip "other" :=
    .inr (by decide)
  have htracked := tracked_sip.mp (hall _ hreach .sip "other" (.inl rfl) hknown)
  revert htracked
  decide

end Calld.Endpoints
