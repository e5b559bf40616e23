/-
# Two ways to fill the cache

The cache is filled from the lists of confd, or it is filled from an empty confd and then
handles the event of every association.  Both find the same lines and trunks by name.  By
username they do not: the loader takes the name of an IAX or custom trunk for its username,
it registers a SIP trunk that has none, and of the trunks that share a username the last one
counts, in the order of the list or in that of the events.
-/
import Calld.Effect.Assignments
import Calld.Endpoints.EventHandler
import Calld.Endpoints.TrunkIndexes

namespace Calld.Endpoints

open Effect

/-! ## The model -/

/-- The event of the association of a trunk, if it is associated. -/
def ConfdTrunk.associated (trunk : ConfdTrunk) : Option ConfdEvent :=
  match trunk.endpoint with
  | some (.sip name options) =>
    some (.trunkEndpointSipAssociated trunk.id trunk.tenantUuid name options)
  | some (.iax name) => some (.trunkEndpointIaxAssociated trunk.id trunk.tenantUuid name)
  | some (.custom interface_) =>
    some (.trunkEndpointCustomAssociated trunk.id trunk.tenantUuid interface_)
  | none => none

/-- The event of the association of a line. -/
def ConfdLine.associated (line : ConfdLine) : ConfdEvent :=
  match line.endpoint with
  | .sip name options => .lineEndpointSipAssociated line.id line.tenantUuid name options
  | .sccp name => .lineEndpointSccpAssociated line.id line.tenantUuid name
  | .custom interface_ => .lineEndpointCustomAssociated line.id line.tenantUuid interface_

namespace Confd

variable (confd : Confd)

/-- The trunks that are associated, with the username that the loader takes. -/
def given : List GivenTrunk := confd.trunks.filterMap (·.given)

/-- The events of the associations. -/
def associations : List ConfdEvent :=
  confd.trunks.filterMap (·.associated) ++ confd.lines.map (·.associated)

/-- Within a technology, trunks and lines have distinct ids and distinct names. -/
structure Distinct : Prop where
  trunks : confd.given.Pairwise fun g g' => g.trunk.technology = g'.trunk.technology →
    g.trunk.id ≠ g'.trunk.id ∧ g.trunk.name ≠ g'.trunk.name
  lines : confd.lines.Pairwise fun l l' => l.protocol = l'.protocol →
    l.id ≠ l'.id ∧ l.name ≠ l'.name

/-- Every trunk that is associated is a SIP trunk with a username of its own. -/
structure Plain : Prop where
  sip : ∀ g ∈ confd.given, g.trunk.technology = .sip ∧ truthy g.username = true
  unshared : ∀ g ∈ confd.given, ∀ g' ∈ confd.given, g.username = g'.username → g = g'

/-- The cache that is filled from the lists of confd. -/
def load : ConfdCache := ConfdCache.fresh.initializeWith confd

end Confd

/-- Handle events, one after the other. -/
def handleAll (confd : Confd) (events : List ConfdEvent) (s : Caches) : Caches :=
  events.foldl (fun s e => (e.handle confd s).2) s

/-- A cache that was filled from an empty confd. -/
def emptied : ConfdCache := Confd.load ⟨[], []⟩

/-- The caches give the same answers; the lists are compared as sets. -/
structure SameAnswers (c c' : ConfdCache) : Prop where
  line : ∀ confd techno name, (getLine techno name confd c).1 = (getLine techno name confd c').1
  trunk : ∀ confd techno name,
    (getTrunk techno name confd c).1 = (getTrunk techno name confd c').1
  trunkById : ∀ confd i, (getTrunkById i confd c).1 = (getTrunkById i confd c').1
  trunkByUsername : ∀ confd techno username,
    (getTrunkByUsername techno username confd c).1 =
      (getTrunkByUsername techno username confd c').1
  lines : ∀ confd tenantUuid, ∃ l l', (listLines tenantUuid confd c).1 = .ok l ∧
    (listLines tenantUuid confd c').1 = .ok l' ∧ ∀ e, e ∈ l ↔ e ∈ l'
  trunks : ∀ confd tenantUuid, ∃ l l', (listTrunks tenantUuid confd c).1 = .ok l ∧
    (listTrunks tenantUuid confd c').1 = .ok l' ∧ ∀ e, e ∈ l ↔ e ∈ l'

/-! ## What an event adds -/

/-- The trunk that an event adds. -/
def ConfdEvent.trunk : ConfdEvent → Option GivenTrunk
  | .trunkEndpointSipAssociated trunkId tenantUuid name options =>
    some ⟨⟨trunkId, .sip, name, tenantUuid⟩, extractSipOption options "client_uri"⟩
  | .trunkEndpointIaxAssociated trunkId tenantUuid name =>
    some ⟨⟨trunkId, .iax, name, tenantUuid⟩, none⟩
  | .trunkEndpointCustomAssociated trunkId tenantUuid interface_ =>
    some ⟨⟨trunkId, .custom, interface_, tenantUuid⟩, none⟩
  | _ => none

/-- The line that an event adds. -/
def ConfdEvent.line : ConfdEvent → Option ConfdEndpoint
  | .lineEndpointSipAssociated lineId tenantUuid name _ => some ⟨lineId, .sip, name, tenantUuid⟩
  | .lineEndpointSccpAssociated lineId tenantUuid lineName =>
    some ⟨lineId, .sccp, lineName, tenantUuid⟩
  | .lineEndpointCustomAssociated lineId tenantUuid interface_ =>
    some ⟨lineId, .custom, interface_, tenantUuid⟩
  | _ => none

/-- The event of an association. -/
def ConfdEvent.IsAssociation (e : ConfdEvent) : Prop := e.trunk.isSome ∨ e.line.isSome

/-- A trunk as its event gives it: only a SIP trunk has a username there. -/
def GivenTrunk.announced (g : GivenTrunk) : GivenTrunk :=
  { g with username := if g.trunk.technology = .sip then g.username else none }

/-- What the cache keeps of a line. -/
def ConfdLine.cached (line : ConfdLine) : ConfdEndpoint :=
  ⟨line.id, line.protocol, line.name, line.tenantUuid⟩

section Associations

variable {confd env : Confd} {e : ConfdEvent} {g : GivenTrunk} {v : ConfdEndpoint}
  {line : ConfdLine} {trunk : ConfdTrunk} {events : List ConfdEvent} {s : Caches}

theorem associated_trunk :
    trunk.associated.bind (·.trunk) = trunk.given.map (·.announced) := by
  unfold ConfdTrunk.associated ConfdTrunk.given
  rcases trunk.endpoint with _ | _ | _ | _ <;> rfl

theorem associated_line (h : trunk.associated = some e) : e.line = none := by
  unfold ConfdTrunk.associated at h
  rcases hend : trunk.endpoint with _ | _ | _ | _ <;> rw [hend] at h <;> cases h <;> rfl

theorem line_associated : line.associated.line = some line.cached := by
  unfold ConfdLine.associated ConfdLine.cached ConfdLine.protocol ConfdLine.name
  cases line.endpoint <;> rfl

theorem line_associated_trunk : line.associated.trunk = none := by
  unfold ConfdLine.associated
  cases line.endpoint <;> rfl

/-- The trunks that the events add are those of the lists. -/
theorem exists_trunk_iff : (∃ e ∈ confd.associations, e.trunk = some g) ↔
    ∃ g' ∈ confd.given, g'.announced = g := by
  simp only [Confd.associations, Confd.given, List.mem_append, List.mem_filterMap, List.mem_map]
  constructor
  · rintro ⟨e, ⟨trunk, htrunk, he⟩ | ⟨line, -, rfl⟩, hg⟩
    · have hgiven := @associated_trunk trunk
      rw [he, Option.bind_some, hg] at hgiven
      obtain ⟨g', hg', rfl⟩ := Option.map_eq_some_iff.mp hgiven.symm
      exact ⟨g', ⟨trunk, htrunk, hg'⟩, rfl⟩
    · rw [line_associated_trunk] at hg
      cases hg
  · rintro ⟨g', ⟨trunk, htrunk, hg'⟩, rfl⟩
    have hgiven := @associated_trunk trunk
    rw [hg', Option.map_some] at hgiven
    obtain ⟨e, he, hg⟩ := Option.bind_eq_some_iff.mp hgiven
    exact ⟨e, .inl ⟨trunk, htrunk, he⟩, hg⟩

/-- The lines that the events add are those of the lists. -/
theorem exists_line_iff : (∃ e ∈ confd.associations, e.line = some v) ↔
    ∃ line ∈ confd.lines, line.cached = v := by
  simp only [Confd.associations, List.mem_append, List.mem_filterMap, List.mem_map]
  constructor
  · rintro ⟨e, ⟨trunk, -, he⟩ | ⟨line, hline, rfl⟩, hv⟩
    · rw [associated_line he] at hv
      cases hv
    · rw [line_associated] at hv
      exact ⟨line, hline, Option.some.inj hv⟩
  · rintro ⟨line, hline, rfl⟩
    exact ⟨line.associated, .inr ⟨line, hline, rfl⟩, line_associated⟩

theorem isAssociation_of_mem (h : e ∈ confd.associations) : e.IsAssociation := by
  rcases List.mem_append.mp h with h | h
  · obtain ⟨trunk, -, he⟩ := List.mem_filterMap.mp h
    unfold ConfdTrunk.associated at he
    rcases hend : trunk.endpoint with _ | _ | _ | _ <;> rw [hend] at he <;> cases he <;>
      exact .inl rfl
  · obtain ⟨line, -, rfl⟩ := List.mem_map.mp h
    exact .inr (by rw [line_associated]; rfl)

/-- The handler of an association adds its trunk. -/
theorem handle_trunk (h : e.trunk = some g) :
    (e.handle env s).2.confd = s.confd.addTrunk g.trunk.technology g.trunk.id g.trunk.name
      g.username g.trunk.tenantUuid := by
  cases e <;> cases h <;> rfl

/-- The handler of an association adds its line. -/
theorem handle_line (h : e.line = some v) : ∃ username,
    (e.handle env s).2.confd = s.confd.addLine v.technology v.id v.name username
      v.tenantUuid := by
  cases e <;> cases h <;> exact ⟨_, rfl⟩

theorem trunk_of_line (h : e.line = some v) : e.trunk = none := by
  cases e <;> cases h <;> rfl

end Associations

/-! ## What the two ways assign -/

/-- The entry of a trunk under its name. -/
def GivenTrunk.nameEntry (g : GivenTrunk) : (Techno × String) × ConfdEndpoint :=
  ((g.trunk.technology, g.trunk.name), g.trunk)

/-- The entry of a trunk under its id. -/
def GivenTrunk.idEntry (g : GivenTrunk) : (Techno × Int) × ConfdEndpoint :=
  ((g.trunk.technology, g.trunk.id), g.trunk)

/-- The entry of a trunk under its username. -/
def GivenTrunk.usernameEntry (g : GivenTrunk) : (Techno × Option String) × ConfdEndpoint :=
  ((g.trunk.technology, g.username), g.trunk)

/-- The entry of a line under its name. -/
def lineEntry (v : ConfdEndpoint) : (Techno × String) × ConfdEndpoint :=
  ((v.technology, v.name), v)

theorem fst_snd_iff {α β : Type} {k : α × β} {a : α} {b : β} :
    k.1 = a ∧ k.2 = b ↔ k = (a, b) := by
  cases k
  exact Prod.mk.injEq .. ▸ Iff.rfl

section Assigned

variable {confd env : Confd} {trunks : List ConfdTrunk} {lines : List ConfdLine}
  {events : List ConfdEvent}

/-- The loader assigns the names of the trunks. -/
theorem loadTrunk_assigns_names :
    Assigns (fun (c : ConfdCache) (k : Techno × String) => named c.trunks k.1 k.2)
      ConfdCache.loadTrunk (fun trunk => trunk.given.map (·.nameEntry)) trunks := by
  intro c trunk _ k
  simp only [loadTrunk_trunks]
  cases trunk.given with
  | none => rfl
  | some g =>
    exact (named_atTechno g.trunk fun ix => rfl).trans (if_congr fst_snd_iff rfl rfl)

/-- The loader assigns the ids of the trunks. -/
theorem loadTrunk_assigns_ids :
    Assigns (fun (c : ConfdCache) (k : Techno × Int) => identified c.trunks k.1 k.2)
      ConfdCache.loadTrunk (fun trunk => trunk.given.map (·.idEntry)) trunks := by
  intro c trunk _ k
  simp only [loadTrunk_trunks]
  cases trunk.given with
  | none => rfl
  | some g =>
    exact (identified_atTechno g.trunk fun ix => rfl).trans
      (if_congr fst_snd_iff rfl rfl)

/-- The loader assigns the usernames of the trunks, also one that is missing. -/
theorem loadTrunk_assigns_usernames :
    Assigns (fun (c : ConfdCache) (k : Techno × Option String) => registered c.trunks k.1 k.2)
      ConfdCache.loadTrunk (fun trunk => trunk.given.map (·.usernameEntry)) trunks := by
  intro c trunk _ k
  simp only [loadTrunk_trunks]
  cases trunk.given with
  | none => rfl
  | some g =>
    exact (registered_atTechno g.trunk g.username fun ix => rfl).trans
      (if_congr fst_snd_iff rfl rfl)

/-- The loader assigns the names of the lines. -/
theorem loadLine_assigns :
    Assigns (fun (c : ConfdCache) (k : Techno × String) => named c.lines k.1 k.2)
      ConfdCache.loadLine (fun line => some (lineEntry line.cached)) lines := by
  intro c line _ k
  exact named_loadLine.trans (if_congr fst_snd_iff rfl rfl)

/-- What an event leaves of the trunks, when it adds none. -/
theorem handle_trunks_same {e : ConfdEvent} {s : Caches} (h : e.IsAssociation)
    (hnone : e.trunk = none) : (e.handle env s).2.confd.trunks = s.confd.trunks := by
  rcases h with h | h
  · rw [hnone] at h
    cases h
  · obtain ⟨v, hv⟩ := Option.isSome_iff_exists.mp h
    obtain ⟨username, hconfd⟩ := @handle_line env e v s hv
    rw [hconfd]
    rfl

/-- The events assign the names of the trunks. -/
theorem handle_assigns_names (h : ∀ e ∈ events, e.IsAssociation) :
    Assigns (fun (s : Caches) (k : Techno × String) => named s.confd.trunks k.1 k.2)
      (fun s e => (e.handle env s).2) (fun e => e.trunk.map (·.nameEntry)) events := by
  intro s e he k
  cases htrunk : e.trunk with
  | none =>
    simp only [handle_trunks_same (h e he) htrunk, htrunk]
    rfl
  | some g =>
    simp only [handle_trunk htrunk, htrunk, Option.map_some]
    exact named_addTrunk.trans (if_congr fst_snd_iff rfl rfl)

/-- The events assign the ids of the trunks. -/
theorem handle_assigns_ids (h : ∀ e ∈ events, e.IsAssociation) :
    Assigns (fun (s : Caches) (k : Techno × Int) => identified s.confd.trunks k.1 k.2)
      (fun s e => (e.handle env s).2) (fun e => e.trunk.map (·.idEntry)) events := by
  intro s e he k
  cases htrunk : e.trunk with
  | none =>
    simp only [handle_trunks_same (h e he) htrunk, htrunk]
    rfl
  | some g =>
    simp only [handle_trunk htrunk, htrunk, Option.map_some]
    exact identified_addTrunk.trans (if_congr fst_snd_iff rfl rfl)

/-- The events assign the usernames of the trunks that have one. -/
theorem handle_assigns_usernames (h : ∀ e ∈ events, e.IsAssociation) :
    Assigns (fun (s : Caches) (k : Techno × Option String) => registered s.confd.trunks k.1 k.2)
      (fun s e => (e.handle env s).2)
      (fun e => (e.trunk.filter (truthy ·.username)).map (·.usernameEntry)) events := by
  intro s e he k
  cases htrunk : e.trunk with
  | none =>
    simp only [handle_trunks_same (h e he) htrunk, htrunk]
    rfl
  | some g =>
    simp only [handle_trunk htrunk, htrunk]
    refine registered_addTrunk.trans ?_
    by_cases hu : truthy g.username
    · simp only [Option.filter, hu, and_true, if_true]
      exact if_congr fst_snd_iff rfl rfl
    · simp only [Option.filter, hu, and_false, if_false, Bool.false_eq_true]
      rfl

/-- The events assign the names of the lines. -/
theorem handle_assigns_lines (h : ∀ e ∈ events, e.IsAssociation) :
    Assigns (fun (s : Caches) (k : Techno × String) => named s.confd.lines k.1 k.2)
      (fun s e => (e.handle env s).2) (fun e => e.line.map lineEntry) events := by
  intro s e he k
  cases hline : e.line with
  | none =>
    rcases h e he with htrunk | hline'
    · obtain ⟨g, hg⟩ := Option.isSome_iff_exists.mp htrunk
      simp only [handle_trunk hg, hline]
      rfl
    · rw [hline] at hline'
      cases hline'
  | some v =>
    obtain ⟨username, hconfd⟩ := @handle_line env e v s hline
    simp only [hconfd, hline, Option.map_some]
    exact named_addLine.trans (if_congr fst_snd_iff rfl rfl)

end Assigned

/-! ## What the two ways show -/

section Shows

variable {confd env : Confd} {events : List ConfdEvent} {status : StatusCache}
  {published : List StatusUpdated} {κ : Type} [DecidableEq κ] {k : κ} {v : ConfdEndpoint}
  {t : Techno} {name : String} {i : Int} {g g' : GivenTrunk}

/-- What the loader has assigned is what the trunks agree on. -/
theorem loaded_shows {view : ConfdCache → κ → Option ConfdEndpoint}
    {entry : GivenTrunk → κ × ConfdEndpoint}
    (hassigns : Assigns view ConfdCache.loadTrunk (fun t => t.given.map entry) confd.trunks)
    (hfresh : view .fresh k = none)
    (hagree : ∀ g ∈ confd.given, ∀ g' ∈ confd.given, ∀ v w,
      entry g = (k, v) → entry g' = (k, w) → v = w) :
    view (ConfdCache.fresh.updateTrunkCache confd.trunks) k = some v ↔
      ∃ g ∈ confd.given, entry g = (k, v) := by
  have hmem {w : ConfdEndpoint} {trunk : ConfdTrunk} (htrunk : trunk ∈ confd.trunks)
      (h : trunk.given.map entry = some (k, w)) : ∃ g ∈ confd.given, entry g = (k, w) := by
    obtain ⟨g, hg, he⟩ := Option.map_eq_some_iff.mp h
    exact ⟨g, List.mem_filterMap.mpr ⟨trunk, htrunk, hg⟩, he⟩
  refine (hassigns.shows_iff hfresh fun a ha b hb v w hv hw => ?_).trans ?_
  · obtain ⟨g, hg, hgv⟩ := hmem ha hv
    obtain ⟨g', hg', hgw⟩ := hmem hb hw
    exact hagree g hg g' hg' v w hgv hgw
  · constructor
    · rintro ⟨trunk, htrunk, h⟩
      exact hmem htrunk h
    · rintro ⟨g, hg, he⟩
      obtain ⟨trunk, htrunk, hgiven⟩ := List.mem_filterMap.mp hg
      exact ⟨trunk, htrunk, by rw [hgiven, Option.map_some, he]⟩

/-- What the events have assigned is what they agree on. -/
theorem handled_shows {view : Caches → κ → Option ConfdEndpoint}
    {f : ConfdEvent → Option (κ × ConfdEndpoint)} {P : GivenTrunk → ConfdEndpoint → Prop}
    {s : Caches} (hperm : events.Perm confd.associations)
    (hassigns : Assigns view (fun s e => (e.handle env s).2) f events)
    (hf : ∀ e v, f e = some (k, v) ↔ ∃ g, e.trunk = some g ∧ P g v)
    (hs : view s k = none)
    (hagree : ∀ g ∈ confd.given, ∀ g' ∈ confd.given, ∀ v w,
      P g.announced v → P g'.announced w → v = w) :
    view (handleAll env events s) k = some v ↔ ∃ g ∈ confd.given, P g.announced v := by
  have hmem {w : ConfdEndpoint} {e : ConfdEvent} (he : e ∈ events) (h : f e = some (k, w)) :
      ∃ g ∈ confd.given, P g.announced w := by
    obtain ⟨g, hg, hP⟩ := (hf e w).mp h
    obtain ⟨g', hg', rfl⟩ := exists_trunk_iff.mp ⟨e, hperm.mem_iff.mp he, hg⟩
    exact ⟨g', hg', hP⟩
  refine (hassigns.shows_iff hs fun a ha b hb v w hv hw => ?_).trans ?_
  · obtain ⟨g, hg, hgv⟩ := hmem ha hv
    obtain ⟨g', hg', hgw⟩ := hmem hb hw
    exact hagree g hg g' hg' v w hgv hgw
  · constructor
    · rintro ⟨e, he, h⟩
      exact hmem he h
    · rintro ⟨g, hg, hP⟩
      obtain ⟨e, he, htrunk⟩ := exists_trunk_iff.mpr ⟨g, hg, rfl⟩
      exact ⟨e, hperm.mem_iff.mpr he, (hf e v).mpr ⟨_, htrunk, hP⟩⟩

/-- A trunk is known by its technology and its name. -/
theorem Confd.Distinct.eq_of_name (h : confd.Distinct) (hg : g ∈ confd.given)
    (hg' : g' ∈ confd.given) (ht : g.trunk.technology = g'.trunk.technology)
    (hname : g.trunk.name = g'.trunk.name) : g = g' := by
  by_contra hne
  have hsymm : Std.Symm fun g g' : GivenTrunk => g.trunk.technology = g'.trunk.technology →
      g.trunk.id ≠ g'.trunk.id ∧ g.trunk.name ≠ g'.trunk.name :=
    ⟨fun _ _ h ht => ⟨(h ht.symm).1.symm, (h ht.symm).2.symm⟩⟩
  exact (h.trunks.forall hg hg' hne ht).2 hname

/-- A trunk is known by its technology and its id. -/
theorem Confd.Distinct.eq_of_id (h : confd.Distinct) (hg : g ∈ confd.given)
    (hg' : g' ∈ confd.given) (ht : g.trunk.technology = g'.trunk.technology)
    (hid : g.trunk.id = g'.trunk.id) : g = g' := by
  by_contra hne
  have hsymm : Std.Symm fun g g' : GivenTrunk => g.trunk.technology = g'.trunk.technology →
      g.trunk.id ≠ g'.trunk.id ∧ g.trunk.name ≠ g'.trunk.name :=
    ⟨fun _ _ h ht => ⟨(h ht.symm).1.symm, (h ht.symm).2.symm⟩⟩
  exact (h.trunks.forall hg hg' hne ht).1 hid

/-- A line is known by its technology and its name. -/
theorem Confd.Distinct.eq_of_line {l l' : ConfdLine} (h : confd.Distinct) (hl : l ∈ confd.lines)
    (hl' : l' ∈ confd.lines) (ht : l.protocol = l'.protocol) (hname : l.name = l'.name) :
    l = l' := by
  by_contra hne
  have hsymm : Std.Symm fun l l' : ConfdLine => l.protocol = l'.protocol →
      l.id ≠ l'.id ∧ l.name ≠ l'.name :=
    ⟨fun _ _ h ht => ⟨(h ht.symm).1.symm, (h ht.symm).2.symm⟩⟩
  exact (h.lines.forall hl hl' hne ht).2 hname

/-- The loader of the trunks leaves the lines as they are. -/
theorem updateTrunkCache_lines (trunks : List ConfdTrunk) (c : ConfdCache) :
    (c.updateTrunkCache trunks).lines = c.lines := by
  induction trunks generalizing c with
  | nil => rfl
  | cons trunk trunks ih =>
    refine (ih (c.loadTrunk trunk)).trans ?_
    unfold ConfdCache.loadTrunk
    rcases trunk.endpoint with _ | _ | _ | _ <;> rfl

theorem load_trunks :
    confd.load.trunks = (ConfdCache.fresh.updateTrunkCache confd.trunks).trunks :=
  updateLineCache_trunks confd.lines

theorem load_lines : confd.load.lines =
    ((ConfdCache.fresh.updateTrunkCache confd.trunks).updateLineCache confd.lines).lines := rfl

theorem load_initialized : confd.load.initialized = true := rfl

/-- An association leaves the cache filled. -/
theorem handleAll_initialized {s : Caches} (h : ∀ e ∈ events, e.IsAssociation)
    (hs : s.confd.initialized = true) : (handleAll env events s).confd.initialized = true := by
  induction events generalizing s with
  | nil => exact hs
  | cons e events ih =>
    refine ih (fun e' he' => h e' (by simp [he'])) ?_
    rcases h e (by simp) with htrunk | hline
    · obtain ⟨g, hg⟩ := Option.isSome_iff_exists.mp htrunk
      rw [handle_trunk hg]
      exact hs
    · obtain ⟨v, hv⟩ := Option.isSome_iff_exists.mp hline
      obtain ⟨username, hconfd⟩ := @handle_line env e v s hv
      rw [hconfd]
      exact hs

theorem nameEntry_iff : g.nameEntry = ((t, name), v) ↔ g.HasName t name ∧ g.trunk = v := by
  simp [GivenTrunk.nameEntry]

theorem idEntry_iff : g.idEntry = ((t, i), v) ↔
    (g.trunk.technology = t ∧ g.trunk.id = i) ∧ g.trunk = v := by
  simp [GivenTrunk.idEntry]

theorem usernameEntry_iff {u : Option String} : g.usernameEntry = ((t, u), v) ↔
    (g.trunk.technology = t ∧ g.username = u) ∧ g.trunk = v := by
  simp [GivenTrunk.usernameEntry]

theorem isAssociation_of_perm (hperm : events.Perm confd.associations) :
    ∀ e ∈ events, e.IsAssociation :=
  fun _ he => isAssociation_of_mem (hperm.mem_iff.mp he)

/-- Both ways find the same trunks by name. -/
theorem same_names (h : confd.Distinct) (hperm : events.Perm confd.associations) :
    named confd.load.trunks t name =
      named (handleAll env events ⟨emptied, status, published⟩).confd.trunks t name := by
  have hagree : ∀ g ∈ confd.given, ∀ g' ∈ confd.given, ∀ v w,
      g.nameEntry = ((t, name), v) → g'.nameEntry = ((t, name), w) → v = w := by
    intro g hg g' hg' v w hv hw
    obtain ⟨⟨rfl, rfl⟩, rfl⟩ := nameEntry_iff.mp hv
    obtain ⟨⟨ht, hname⟩, rfl⟩ := nameEntry_iff.mp hw
    rw [h.eq_of_name hg' hg ht hname]
  rw [load_trunks]
  refine Option.ext fun e => ?_
  refine (loaded_shows (k := (t, name)) loadTrunk_assigns_names rfl hagree).trans ?_
  refine (handled_shows (k := (t, name)) (s := ⟨emptied, status, published⟩)
    (P := fun g v => g.nameEntry = ((t, name), v)) hperm
    (handle_assigns_names (isAssociation_of_perm hperm)) (fun e v => ?_) rfl hagree).symm
  exact Option.map_eq_some_iff

theorem lineEntry_iff {l : ConfdLine} : lineEntry l.cached = ((t, name), v) ↔
    (l.protocol = t ∧ l.name = name) ∧ l.cached = v := by
  simp [lineEntry, ConfdLine.cached]

/-- Both ways find the same lines by name. -/
theorem same_lines (h : confd.Distinct) (hperm : events.Perm confd.associations) :
    named confd.load.lines t name =
      named (handleAll env events ⟨emptied, status, published⟩).confd.lines t name := by
  have hagree : ∀ l ∈ confd.lines, ∀ l' ∈ confd.lines, ∀ v w,
      lineEntry l.cached = ((t, name), v) → lineEntry l'.cached = ((t, name), w) → v = w := by
    intro l hl l' hl' v w hv hw
    obtain ⟨⟨rfl, rfl⟩, rfl⟩ := lineEntry_iff.mp hv
    obtain ⟨⟨ht, hname⟩, rfl⟩ := lineEntry_iff.mp hw
    rw [h.eq_of_line hl' hl ht hname]
  -- an event adds the line that it is about
  have hsource {a : ConfdEvent} (ha : a ∈ events) {e : ConfdEndpoint}
      (he : a.line.map lineEntry = some ((t, name), e)) :
      ∃ l ∈ confd.lines, lineEntry l.cached = ((t, name), e) := by
    obtain ⟨v, hline, hv⟩ := Option.map_eq_some_iff.mp he
    obtain ⟨l, hl, rfl⟩ := exists_line_iff.mp ⟨a, hperm.mem_iff.mp ha, hline⟩
    exact ⟨l, hl, hv⟩
  have hnone : named (ConfdCache.fresh.updateTrunkCache confd.trunks).lines t name = none := by
    rw [updateTrunkCache_lines]
    rfl
  have hload : Assigns (fun (c : ConfdCache) (k : Techno × String) => named c.lines k.1 k.2)
      ConfdCache.loadLine (fun line => some (lineEntry line.cached)) confd.lines :=
    loadLine_assigns
  have hevents : Assigns (fun (s : Caches) (k : Techno × String) => named s.confd.lines k.1 k.2)
      (fun s e => (e.handle env s).2) (fun e => e.line.map lineEntry) events :=
    handle_assigns_lines (isAssociation_of_perm hperm)
  refine Option.ext fun e => ?_
  refine (hload.shows_iff (k := (t, name)) hnone fun a ha b hb v w hv hw =>
    hagree a ha b hb v w (Option.some.inj hv) (Option.some.inj hw)).trans (Iff.trans ?_
      (hevents.shows_iff (k := (t, name)) (s := ⟨emptied, status, published⟩) rfl
        fun a ha b hb v w hv hw => ?_).symm)
  · constructor
    · rintro ⟨l, hl, he⟩
      obtain ⟨a, ha, hline⟩ := exists_line_iff.mpr ⟨l, hl, rfl⟩
      exact ⟨a, hperm.mem_iff.mpr ha, by rw [hline, Option.map_some]; exact he⟩
    · rintro ⟨a, ha, he⟩
      obtain ⟨l, hl, hle⟩ := hsource ha he
      exact ⟨l, hl, congrArg some hle⟩
  · obtain ⟨l, hl, hv⟩ := hsource ha hv
    obtain ⟨l', hl', hw⟩ := hsource hb hw
    exact hagree l hl l' hl' v w hv hw

/-- Both ways find the same trunks by id within a technology. -/
theorem same_ids (h : confd.Distinct) (hperm : events.Perm confd.associations) :
    identified confd.load.trunks t i =
      identified (handleAll env events ⟨emptied, status, published⟩).confd.trunks t i := by
  have hagree : ∀ g ∈ confd.given, ∀ g' ∈ confd.given, ∀ v w,
      g.idEntry = ((t, i), v) → g'.idEntry = ((t, i), w) → v = w := by
    intro g hg g' hg' v w hv hw
    obtain ⟨⟨rfl, rfl⟩, rfl⟩ := idEntry_iff.mp hv
    obtain ⟨⟨ht, hid⟩, rfl⟩ := idEntry_iff.mp hw
    rw [h.eq_of_id hg' hg ht hid]
  rw [load_trunks]
  refine Option.ext fun e => ?_
  refine (loaded_shows (k := (t, i)) loadTrunk_assigns_ids rfl hagree).trans ?_
  refine (handled_shows (k := (t, i)) (s := ⟨emptied, status, published⟩)
    (P := fun g v => g.idEntry = ((t, i), v)) hperm
    (handle_assigns_ids (isAssociation_of_perm hperm)) (fun e v => ?_) rfl hagree).symm
  exact Option.map_eq_some_iff

/-- What the loader holds under an id is a trunk of the list. -/
theorem loaded_id (hid : identified confd.load.trunks t i = some v) :
    ∃ g ∈ confd.given, g.trunk.technology = t := by
  rw [load_trunks] at hid
  have hassigns : Assigns (fun (c : ConfdCache) (k : Techno × Int) => identified c.trunks k.1 k.2)
      ConfdCache.loadTrunk (fun trunk => trunk.given.map (·.idEntry)) confd.trunks :=
    loadTrunk_assigns_ids
  rcases hassigns.source (k := (t, i)) hid with hnone | ⟨trunk, htrunk, hg⟩
  · cases hnone
  · obtain ⟨g, hg, he⟩ := Option.map_eq_some_iff.mp hg
    exact ⟨g, List.mem_filterMap.mpr ⟨trunk, htrunk, hg⟩, (idEntry_iff.mp he).1.1⟩

/-- Both ways find the same trunks by username, when every trunk has one of its own. -/
theorem same_usernames (hplain : confd.Plain) (hperm : events.Perm confd.associations)
    {u : Option String} :
    registered confd.load.trunks t u =
      registered (handleAll env events ⟨emptied, status, published⟩).confd.trunks t u := by
  have hagree : ∀ g ∈ confd.given, ∀ g' ∈ confd.given, ∀ v w,
      g.usernameEntry = ((t, u), v) → g'.usernameEntry = ((t, u), w) → v = w := by
    intro g hg g' hg' v w hv hw
    obtain ⟨⟨-, rfl⟩, rfl⟩ := usernameEntry_iff.mp hv
    obtain ⟨⟨-, hu⟩, rfl⟩ := usernameEntry_iff.mp hw
    rw [hplain.unshared g' hg' g hg hu]
  -- the events announce the usernames that the loader takes
  have hannounced : ∀ g ∈ confd.given, g.announced = g := by
    intro g hg
    unfold GivenTrunk.announced
    rw [if_pos (hplain.sip g hg).1]
  rw [load_trunks]
  refine Option.ext fun e => ?_
  refine (loaded_shows (k := (t, u)) loadTrunk_assigns_usernames rfl hagree).trans ?_
  refine Iff.trans ?_ (handled_shows (k := (t, u)) (s := ⟨emptied, status, published⟩)
    (P := fun g v => truthy g.username = true ∧ g.usernameEntry = ((t, u), v)) hperm
    (handle_assigns_usernames (isAssociation_of_perm hperm)) (fun e v => ?_) rfl ?_).symm
  · constructor
    · rintro ⟨g, hg, he⟩
      exact ⟨g, hg, by rw [hannounced g hg]; exact ⟨(hplain.sip g hg).2, he⟩⟩
    · rintro ⟨g, hg, he⟩
      exact ⟨g, hg, by rw [hannounced g hg] at he; exact he.2⟩
  · simp only [Option.map_eq_some_iff, Option.filter_eq_some_iff, and_assoc]
  · intro g hg g' hg' v w hv hw
    rw [hannounced g hg] at hv
    rw [hannounced g' hg'] at hw
    exact hagree g hg g' hg' v w hv.2 hw.2

/-- What is found by going through the technologies is the same. -/
theorem same_findSome (h : confd.Distinct) (hplain : confd.Plain)
    (hperm : events.Perm confd.associations) {c : ConfdCache}
    (hc : c = (handleAll env events ⟨emptied, status, published⟩).confd) :
    confd.load.trunks.keys.findSome? (identified confd.load.trunks · i) =
      c.trunks.keys.findSome? (identified c.trunks · i) := by
  subst hc
  have hsip : ∀ t, t ≠ .sip → identified confd.load.trunks t i = none := by
    intro t ht
    by_contra hsome
    obtain ⟨v, hv⟩ := Option.ne_none_iff_exists'.mp hsome
    obtain ⟨g, hg, rfl⟩ := loaded_id hv
    exact ht (hplain.sip g hg).1
  rw [findSome?_identified hsip, findSome?_identified fun t ht => ?_]
  · exact same_ids h hperm
  · rw [← same_ids h hperm]
    exact hsip t ht

/-- Every answer is the same, when every trunk is a SIP trunk with a username of its own. -/
theorem same_answers (h : confd.Distinct) (hplain : confd.Plain)
    (hperm : events.Perm confd.associations) :
    SameAnswers confd.load (handleAll env events ⟨emptied, status, published⟩).confd := by
  have hi : (handleAll env events ⟨emptied, status, published⟩).confd.initialized = true :=
    handleAll_initialized (isAssociation_of_perm hperm) rfl
  constructor
  · intro confd' techno name
    rw [getLine_apply load_initialized, getLine_apply hi]
    simp only [← same_lines h hperm]
  · intro confd' techno name
    rw [getTrunk_apply load_initialized, getTrunk_apply hi]
    simp only [← same_names h hperm]
  · intro confd' i
    rw [getTrunkById_apply load_initialized, getTrunkById_apply hi]
    rw [same_findSome h hplain hperm rfl]
  · intro confd' techno username
    rw [getTrunkByUsername_apply load_initialized, getTrunkByUsername_apply hi]
    simp only [← same_usernames hplain hperm]
  · intro confd' tenantUuid
    refine ⟨_, _, congrArg Prod.fst (listLines_apply load_initialized tenantUuid),
      congrArg Prod.fst (listLines_apply hi tenantUuid), fun e => ?_⟩
    simp only [mem_listNamed, ← same_lines h hperm]
  · intro confd' tenantUuid
    refine ⟨_, _, congrArg Prod.fst (listTrunks_apply load_initialized tenantUuid),
      congrArg Prod.fst (listTrunks_apply hi tenantUuid), fun e => ?_⟩
    simp only [mem_listNamed, ← same_names h hperm]

end Shows

/-! ## When the answers are the same -/

section Same

variable {confd env : Confd} {status : StatusCache} {published : List StatusUpdated}
  {g g' : GivenTrunk}

/-- The caches give the same answers, whatever the order of the events. -/
def LoadedAsHandled (confd env : Confd) (status : StatusCache)
    (published : List StatusUpdated) : Prop :=
  ∀ events : List ConfdEvent, events.Perm confd.associations →
    SameAnswers confd.load (handleAll env events ⟨emptied, status, published⟩).confd

theorem LoadedAsHandled.registered (h : LoadedAsHandled confd env status published)
    {events : List ConfdEvent} (hperm : events.Perm confd.associations) (t : Techno)
    (u : Option String) :
    Endpoints.registered confd.load.trunks t u =
      Endpoints.registered (handleAll env events ⟨emptied, status, published⟩).confd.trunks
        t u := by
  have hi : (handleAll env events ⟨emptied, status, published⟩).confd.initialized = true :=
    handleAll_initialized (isAssociation_of_perm hperm) rfl
  have hsame := (h events hperm).trunkByUsername ⟨[], []⟩ t.word u
  rw [getTrunkByUsername_apply load_initialized, getTrunkByUsername_apply hi] at hsame
  simpa only [confdTechno_word, Option.bind_some, Except.ok.injEq] using hsame

/-- The loader registers every trunk that is associated. -/
theorem loaded_registered (hg : g ∈ confd.given) :
    (registered confd.load.trunks g.trunk.technology g.username).isSome := by
  have hassigns : Assigns
      (fun (c : ConfdCache) (k : Techno × Option String) => registered c.trunks k.1 k.2)
      ConfdCache.loadTrunk (fun trunk => trunk.given.map (·.usernameEntry)) confd.trunks :=
    loadTrunk_assigns_usernames
  obtain ⟨trunk, htrunk, hgiven⟩ := List.mem_filterMap.mp hg
  rw [load_trunks]
  refine hassigns.shown (k := (g.trunk.technology, g.username))
    (.inr ⟨trunk, htrunk, g.trunk, ?_⟩)
  rw [hgiven]
  rfl

/-- The events register only SIP trunks with a username. -/
theorem handled_registered {events : List ConfdEvent} (hperm : events.Perm confd.associations)
    {t : Techno} {u : Option String} {v : ConfdEndpoint}
    (h : registered (handleAll env events ⟨emptied, status, published⟩).confd.trunks t u =
      some v) : t = .sip ∧ truthy u = true := by
  have hassigns : Assigns
      (fun (s : Caches) (k : Techno × Option String) => registered s.confd.trunks k.1 k.2)
      (fun s e => (e.handle env s).2)
      (fun e => (e.trunk.filter (truthy ·.username)).map (·.usernameEntry)) events :=
    handle_assigns_usernames (isAssociation_of_perm hperm)
  rcases hassigns.source (k := (t, u)) h with hnone | ⟨e, he, hv⟩
  · cases hnone
  · obtain ⟨g, hg, hentry⟩ := Option.map_eq_some_iff.mp hv
    obtain ⟨htrunk, hu⟩ := Option.filter_eq_some_iff.mp hg
    obtain ⟨g', -, rfl⟩ := exists_trunk_iff.mp ⟨e, hperm.mem_iff.mp he, htrunk⟩
    obtain ⟨⟨rfl, rfl⟩, -⟩ := usernameEntry_iff.mp hentry
    refine ⟨?_, hu⟩
    by_contra ht
    have hnone : g'.announced.username = none := if_neg ht
    rw [hnone] at hu
    cases hu

variable (env status published) in
/-- The trunk whose event comes last is found by its username. -/
theorem handled_last (hg : g ∈ confd.given) (ht : g.trunk.technology = .sip)
    (hu : truthy g.username = true) : ∃ events : List ConfdEvent,
      events.Perm confd.associations ∧
        registered (handleAll env events ⟨emptied, status, published⟩).confd.trunks .sip
          g.username = some g.trunk := by
  obtain ⟨e, he, htrunk⟩ := exists_trunk_iff.mpr ⟨g, hg, rfl⟩
  have hannounced : g.announced = g := by
    unfold GivenTrunk.announced
    rw [if_pos ht]
  rw [hannounced] at htrunk
  have hperm : (confd.associations.erase e ++ [e]).Perm confd.associations :=
    (List.perm_append_singleton e _).trans (List.perm_cons_erase he).symm
  have hassigns : Assigns
      (fun (s : Caches) (k : Techno × Option String) => registered s.confd.trunks k.1 k.2)
      (fun s e => (e.handle env s).2)
      (fun e => (e.trunk.filter (truthy ·.username)).map (·.usernameEntry))
      (confd.associations.erase e ++ [e]) :=
    handle_assigns_usernames (isAssociation_of_perm hperm)
  have hentry : (e.trunk.filter (truthy ·.username)).map (·.usernameEntry) =
      some ((Techno.sip, g.username), g.trunk) := by
    have hfilter : (some g).filter (truthy ·.username) = some g :=
      Option.filter_eq_some_iff.mpr ⟨rfl, hu⟩
    rw [htrunk, hfilter, Option.map_some]
    exact congrArg some (usernameEntry_iff.mpr ⟨⟨ht, rfl⟩, rfl⟩)
  have hlast := hassigns.last (k := (Techno.sip, g.username))
    (s := ⟨emptied, status, published⟩) hentry
  exact ⟨_, hperm, hlast⟩

/-- Caches that give the same answers know only SIP trunks with a username of their own. -/
theorem LoadedAsHandled.plain (h : LoadedAsHandled confd env status published)
    (hd : confd.Distinct) : confd.Plain := by
  have hsip : ∀ g ∈ confd.given, g.trunk.technology = .sip ∧ truthy g.username = true := by
    intro g hg
    have hsome := loaded_registered hg
    rw [h.registered (.refl _)] at hsome
    obtain ⟨v, hv⟩ := Option.isSome_iff_exists.mp hsome
    exact handled_registered (.refl _) hv
  refine ⟨hsip, fun g hg g' hg' hu => ?_⟩
  obtain ⟨ht, htruthy⟩ := hsip g hg
  obtain ⟨ht', htruthy'⟩ := hsip g' hg'
  obtain ⟨events, hperm, hlast⟩ := handled_last env status published hg ht htruthy
  obtain ⟨events', hperm', hlast'⟩ := handled_last env status published hg' ht' htruthy'
  rw [← h.registered hperm] at hlast
  rw [← h.registered hperm', ← hu, hlast] at hlast'
  have htrunk : g.trunk = g'.trunk := Option.some.inj hlast'
  exact hd.eq_of_id hg hg' (congrArg (·.technology) htrunk) (congrArg (·.id) htrunk)

end Same

/-! ## Two lists of confd -/

/-- A SIP trunk that registers with a username, and a SIP line. -/
def sipConfd : Confd where
  trunks := [⟨1, some (.sip "trunk" [("client_uri", "alice")]), "tenant"⟩, ⟨2, none, "tenant"⟩]
  lines := [⟨1, .sip "line" [("username", "bob")], "tenant"⟩]

theorem sipConfd_plain : sipConfd.Plain where
  sip := by decide
  unshared := by decide

/-- An IAX trunk. -/
def iaxConfd : Confd where
  trunks := [⟨1, some (.iax "trunk"), "tenant"⟩]
  lines := []

end Calld.Endpoints
