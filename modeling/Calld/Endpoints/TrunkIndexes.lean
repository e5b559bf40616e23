/-
# The indexes of the trunks

Trunks are added, updated and deleted, in any order.  Beside the cache stands the list of
the live trunks, each as it was last given, with the latest one at the end.

A username can be shared, and then its index holds the trunk that was given it last.  To
delete that trunk, or to give it another username, takes the username out of the index, also
for the trunks that share it; and to add a live trunk again leaves what it was found under
before.
-/
import Calld.Effect.Machine
import Calld.Endpoints.ConfdCache

namespace Calld.Endpoints

open Effect

/-! ## The model -/

/-- A trunk as it is given to the cache, with its username. -/
structure GivenTrunk where
  trunk : ConfdEndpoint
  username : Option String
  deriving DecidableEq, Repr

/-- The trunk has this technology and this name. -/
abbrev GivenTrunk.HasName (g : GivenTrunk) (t : Techno) (name : String) : Prop :=
  g.trunk.technology = t ∧ g.trunk.name = name

/-- The trunk has this technology and this username. -/
abbrev GivenTrunk.HasUsername (g : GivenTrunk) (t : Techno) (username : String) : Prop :=
  g.trunk.technology = t ∧ g.username = some username

/-- An empty username is none. -/
def GivenTrunk.recorded (g : GivenTrunk) : GivenTrunk :=
  { g with username := g.username.filter (· ≠ "") }

/-- What the loader takes from the list of confd. -/
def ConfdTrunk.given (trunk : ConfdTrunk) : Option GivenTrunk :=
  match trunk.endpoint with
  | some (.sip name options) =>
    some ⟨⟨trunk.id, .sip, name, trunk.tenantUuid⟩, extractSipOption options "client_uri"⟩
  | some (.iax name) => some ⟨⟨trunk.id, .iax, name, trunk.tenantUuid⟩, some name⟩
  | some (.custom interface_) =>
    some ⟨⟨trunk.id, .custom, interface_, trunk.tenantUuid⟩, some interface_⟩
  | none => none

/-- The operations on the trunks. -/
inductive TrunkOp where
  | add (g : GivenTrunk)
  | update (g : GivenTrunk)
  | delete (trunkId : Int)
  deriving DecidableEq, Repr

/-- The trunk that the operation is about. -/
def TrunkOp.trunkId : TrunkOp → Int
  | .add g => g.trunk.id
  | .update g => g.trunk.id
  | .delete trunkId => trunkId

/-- The cache, and the live trunks as they were last given. -/
structure TrunkCache where
  cache : ConfdCache
  live : List GivenTrunk

/-- The last of the trunks that was given the username. -/
def lastWith (live : List GivenTrunk) (t : Techno) (username : String) : Option GivenTrunk :=
  live.reverse.find? fun g => g.HasUsername t username

/-- The live trunks once one of them is given. -/
def give (live : List GivenTrunk) (g : GivenTrunk) : List GivenTrunk :=
  live.filter (·.trunk.id ≠ g.trunk.id) ++ [g.recorded]

namespace TrunkCache

/-- The live trunks keep distinct names. -/
def Legal (s : TrunkCache) : TrunkOp → Prop
  | .add g | .update g =>
    ∀ o ∈ s.live, o.trunk.id ≠ g.trunk.id → ¬ o.HasName g.trunk.technology g.trunk.name
  | .delete _ => True

instance (s : TrunkCache) (op : TrunkOp) : Decidable (s.Legal op) := by
  cases op <;> unfold Legal <;> infer_instance

/-- The operation, on the cache and on the trunks. -/
def apply (s : TrunkCache) : TrunkOp → TrunkCache
  | .add g =>
    let e := g.trunk
    { cache := s.cache.addTrunk e.technology e.id e.name g.username e.tenantUuid
      live := give s.live g }
  | .update g =>
    let e := g.trunk
    { cache := s.cache.updateTrunk e.technology e.id e.name g.username e.tenantUuid
      live := give s.live g }
  | .delete trunkId =>
    { cache := s.cache.deleteTrunk trunkId
      live := s.live.filter (·.trunk.id ≠ trunkId) }

end TrunkCache

/-- Live trunks have distinct ids, and distinct names in a technology. -/
def Distinct (live : List GivenTrunk) : Prop :=
  live.Pairwise fun g g' => g.trunk.id ≠ g'.trunk.id ∧
    ¬ g'.HasName g.trunk.technology g.trunk.name

/-- The cache is filled from confd; then operations follow one another. -/
def trunkCache : Machine TrunkCache TrunkOp where
  init s := ∃ confd : Confd, Distinct (confd.trunks.filterMap (·.given)) ∧
    s = ⟨ConfdCache.fresh.initializeWith confd, confd.trunks.filterMap (·.given)⟩
  step op s := if s.Legal op then some (s.apply op) else none

namespace TrunkCache

variable (s : TrunkCache)

/-- A lookup answers with the live trunk that satisfies `P`, and with nothing if there is
none. -/
def AnswersThe (lookup : Lookup (Option ConfdEndpoint)) (P : GivenTrunk → Prop) : Prop :=
  ∀ confd, ∃ r, lookup confd s.cache = (.ok r, s.cache) ∧
    ∀ e, r = some e ↔ ∃ g ∈ s.live, P g ∧ g.trunk = e

/-- A lookup answers with a live trunk that satisfies `P`, if there is one. -/
def AnswersOne (lookup : Lookup (Option ConfdEndpoint)) (P : GivenTrunk → Prop) : Prop :=
  ∀ confd, ∃ r, lookup confd s.cache = (.ok r, s.cache) ∧
    (r.isSome ↔ ∃ g ∈ s.live, P g) ∧ ∀ e, r = some e → ∃ g ∈ s.live, P g ∧ g.trunk = e

/-- The indexes agree with the trunks. -/
structure Agrees : Prop where
  name : ∀ techno name, s.AnswersThe (getTrunk techno name) fun g =>
    confdTechno techno = some g.trunk.technology ∧ g.trunk.name = name
  id : ∀ i, s.AnswersThe (getTrunkById i) fun g => g.trunk.id = i
  username : ∀ techno username, s.AnswersOne (getTrunkByUsername techno (some username))
    fun g => confdTechno techno = some g.trunk.technology ∧ g.username = some username

/-- The trunk is found by its name, by its id and, if it has one, some trunk by its username. -/
def Finds (g : GivenTrunk) : Prop :=
  ∀ confd,
    getTrunk g.trunk.technology.word g.trunk.name confd s.cache = (.ok (some g.trunk), s.cache) ∧
    getTrunkById g.trunk.id confd s.cache = (.ok (some g.trunk), s.cache) ∧
    ∀ u ∈ g.username, ∃ e,
      getTrunkByUsername g.trunk.technology.word (some u) confd s.cache = (.ok (some e), s.cache)

/-- The trunk is not the one that the index of its username holds, or it alone has it. -/
def Unshared (o : GivenTrunk) (u : String) : Prop :=
  lastWith s.live o.trunk.technology u = some o →
    ∀ a ∈ s.live, a.HasUsername o.trunk.technology u → a = o

/-- A username is taken from a trunk only when no other live trunk was given it before; a
live trunk is added again only under its name, and with the username that its index holds. -/
def Kept : TrunkOp → Prop
  | .add g => ∀ o ∈ s.live, o.trunk.id = g.trunk.id →
    g.HasName o.trunk.technology o.trunk.name ∧
      ∀ u ∈ o.username, g.recorded.username ≠ some u →
        lastWith s.live o.trunk.technology u ≠ some o
  | .update g => ∀ o ∈ s.live, o.trunk.id = g.trunk.id →
    ∀ u ∈ o.username, ¬ g.recorded.HasUsername o.trunk.technology u → s.Unshared o u
  | .delete trunkId => ∀ o ∈ s.live, o.trunk.id = trunkId → ∀ u ∈ o.username, s.Unshared o u

instance (o : GivenTrunk) (u : String) : Decidable (s.Unshared o u) := by
  unfold Unshared
  infer_instance

instance (op : TrunkOp) : Decidable (s.Kept op) := by
  cases op <;> unfold Kept <;> infer_instance

end TrunkCache

/-! ## The last trunk with a username -/

section LastWith

variable {live : List GivenTrunk} {t : Techno} {u : String} {g o : GivenTrunk} {i : Int}

theorem lastWith_some (h : lastWith live t u = some g) : g ∈ live ∧ g.HasUsername t u := by
  have hmem := List.mem_of_find?_eq_some h
  have hp := List.find?_some h
  exact ⟨List.mem_reverse.mp hmem, of_decide_eq_true hp⟩

theorem lastWith_none (h : lastWith live t u = none) (hg : g ∈ live) :
    ¬ g.HasUsername t u := by
  have := List.find?_eq_none.mp h g (List.mem_reverse.mpr hg)
  simpa using this

theorem lastWith_isSome : (lastWith live t u).isSome ↔ ∃ g ∈ live, g.HasUsername t u := by
  constructor
  · intro h
    obtain ⟨g, hg⟩ := Option.isSome_iff_exists.mp h
    exact ⟨g, lastWith_some hg⟩
  · rintro ⟨g, hg, hu⟩
    cases h : lastWith live t u with
    | none => exact absurd hu (lastWith_none h hg)
    | some o => rfl

/-- The trunk that comes last has its username. -/
theorem lastWith_snoc :
    lastWith (live ++ [g]) t u = if g.HasUsername t u then some g else lastWith live t u := by
  unfold lastWith
  rw [List.reverse_append]
  show List.find? _ (g :: live.reverse) = _
  rw [List.find?_cons]
  by_cases h : g.HasUsername t u <;> simp [h]

/-- Deleting a trunk takes away its username, if no other trunk was given it. -/
theorem lastWith_filter
    (h : ∀ o, lastWith live t u = some o → o.trunk.id = i →
      ∀ a ∈ live, a.HasUsername t u → a = o) :
    lastWith (live.filter (·.trunk.id ≠ i)) t u =
      (lastWith live t u).filter (·.trunk.id ≠ i) := by
  cases hlast : lastWith live t u with
  | none =>
    apply List.find?_eq_none.mpr
    intro a ha
    have ha := (List.mem_filter.mp (List.mem_reverse.mp ha)).1
    simpa using lastWith_none hlast ha
  | some o =>
    by_cases hi : o.trunk.id = i
    · have hdrop : (some o).filter (fun g : GivenTrunk => g.trunk.id ≠ i) = none := by
        simp [Option.filter, hi]
      rw [hdrop]
      apply List.find?_eq_none.mpr
      intro a ha
      obtain ⟨ha, hne⟩ := List.mem_filter.mp (List.mem_reverse.mp ha)
      simp only [decide_eq_true_eq]
      intro hu
      have : a = o := h o hlast hi a ha hu
      simp [this, hi] at hne
    · have hkeep : (some o).filter (fun g : GivenTrunk => g.trunk.id ≠ i) = some o := by
        simp [Option.filter, hi]
      rw [hkeep]
      unfold lastWith at hlast ⊢
      rw [← List.filter_reverse, List.find?_filter]
      obtain ⟨hp, as, bs, heq, hno⟩ := List.find?_eq_some_iff_append.mp hlast
      refine List.find?_eq_some_iff_append.mpr ⟨by simpa [hi] using hp, as, bs, heq, ?_⟩
      intro a ha
      have := hno a ha
      simp only [Bool.not_eq_true', decide_eq_false_iff_not] at this
      simp [this]

end LastWith

/-! ## The invariant -/

/-- The indexes hold the live trunks; a username leads to the last one that was given it. -/
structure Shown (table : Dict Techno Indexes) (live : List GivenTrunk) : Prop where
  named : ∀ t name e, named table t name = some e ↔
    ∃ g ∈ live, g.HasName t name ∧ g.trunk = e
  identified : ∀ t i e, identified table t i = some e ↔
    ∃ g ∈ live, (g.trunk.technology = t ∧ g.trunk.id = i) ∧ g.trunk = e
  registered : ∀ t u, registered table t (some u) = (lastWith live t u).map (·.trunk)

/-- The cache is filled, and its indexes hold the live trunks, which are distinct. -/
structure TrunkCache.Indexed (s : TrunkCache) : Prop extends Shown s.cache.trunks s.live where
  initialized : s.cache.initialized = true
  distinct : Distinct s.live

section Step

variable {s s' : TrunkCache} {g o a : GivenTrunk} {i : Int} {op : TrunkOp}

/-- A live trunk is known by its id. -/
theorem Distinct.eq_of_id {live : List GivenTrunk} (h : Distinct live) (hg : g ∈ live)
    (ho : o ∈ live) (hid : g.trunk.id = o.trunk.id) : g = o := by
  by_contra hne
  have hsymm : Std.Symm fun g g' : GivenTrunk => g.trunk.id ≠ g'.trunk.id := ⟨fun _ _ => Ne.symm⟩
  exact (h.imp fun h => h.1).forall hg ho hne hid

/-- A live trunk is known by its technology and its name. -/
theorem Distinct.eq_of_name {live : List GivenTrunk} (h : Distinct live) (hg : g ∈ live)
    (ho : o ∈ live) (hname : g.HasName o.trunk.technology o.trunk.name) : g = o := by
  by_contra hne
  have hsymm : Std.Symm fun g g' : GivenTrunk =>
      ¬ g'.HasName g.trunk.technology g.trunk.name :=
    ⟨fun _ _ h h' => h ⟨h'.1.symm, h'.2.symm⟩⟩
  exact (h.imp fun h => h.2).forall ho hg (Ne.symm hne) hname

theorem Distinct.filter {live : List GivenTrunk} (h : Distinct live) (i : Int) :
    Distinct (live.filter (·.trunk.id ≠ i)) := h.sublist List.filter_sublist

theorem mem_filter_id {live : List GivenTrunk} :
    g ∈ live.filter (·.trunk.id ≠ i) ↔ g ∈ live ∧ g.trunk.id ≠ i := by
  simp [List.mem_filter]

theorem mem_give {live : List GivenTrunk} :
    o ∈ give live g ↔ o ∈ live ∧ o.trunk.id ≠ g.trunk.id ∨ o = g.recorded := by
  unfold give
  rw [List.mem_append, mem_filter_id, List.mem_singleton]

/-- To give a trunk keeps the live trunks distinct. -/
theorem Distinct.give {live : List GivenTrunk} (h : Distinct live)
    (hlegal : ∀ o ∈ live, o.trunk.id ≠ g.trunk.id →
      ¬ o.HasName g.trunk.technology g.trunk.name) : Distinct (give live g) := by
  refine List.pairwise_append.mpr ⟨h.filter _, List.pairwise_singleton .., ?_⟩
  intro o ho g' hg'
  obtain ⟨ho, hne⟩ := mem_filter_id.mp ho
  obtain rfl := List.mem_singleton.mp hg'
  refine ⟨hne, fun hname => hlegal o ho hne ⟨hname.1.symm, hname.2.symm⟩⟩

/-- What a lookup finds, once an id is deleted. -/
theorem filter_iff {r : Option ConfdEndpoint} {e : ConfdEndpoint} :
    r.filter (·.id ≠ i) = some e ↔ r = some e ∧ e.id ≠ i := by
  simp [Option.filter_eq_some_iff]

/-- Deleting a trunk, when no other was given its username before it. -/
theorem TrunkCache.Indexed.delete (h : s.Indexed) (hkept : s.Kept (.delete i)) :
    (s.apply (.delete i)).Indexed where
  initialized := h.initialized
  distinct := h.distinct.filter i
  named t name e := by
    show Endpoints.named (s.cache.deleteTrunk i).trunks t name = some e ↔ _
    rw [named_deleteTrunk, filter_iff, h.named]
    simp only [TrunkCache.apply, mem_filter_id]
    constructor
    · rintro ⟨⟨g, hg, hname, rfl⟩, hne⟩
      exact ⟨g, ⟨hg, hne⟩, hname, rfl⟩
    · rintro ⟨g, ⟨hg, hne⟩, hname, rfl⟩
      exact ⟨⟨g, hg, hname, rfl⟩, hne⟩
  identified t j e := by
    show Endpoints.identified (s.cache.deleteTrunk i).trunks t j = some e ↔ _
    rw [identified_deleteTrunk, filter_iff, h.identified]
    simp only [TrunkCache.apply, mem_filter_id]
    constructor
    · rintro ⟨⟨g, hg, hid, rfl⟩, hne⟩
      exact ⟨g, ⟨hg, hne⟩, hid, rfl⟩
    · rintro ⟨g, ⟨hg, hne⟩, hid, rfl⟩
      exact ⟨⟨g, hg, hid, rfl⟩, hne⟩
  registered t u := by
    show Endpoints.registered (s.cache.deleteTrunk i).trunks t (some u) = _
    rw [registered_deleteTrunk, h.registered]
    show _ = (lastWith (s.live.filter (·.trunk.id ≠ i)) t u).map (·.trunk)
    rw [lastWith_filter]
    · cases lastWith s.live t u with
      | none => rfl
      | some o => by_cases hi : o.trunk.id = i <;> simp [Option.filter, hi]
    · intro o hlast hi a ha hu
      obtain ⟨ho, rfl, hou⟩ := lastWith_some hlast
      exact hkept o ho hi u hou hlast a ha hu

/-- The recorded username is the one that `add_trunk` registers. -/
theorem recorded_hasUsername {t : Techno} {u : String} :
    g.recorded.HasUsername t u ↔
      t = g.trunk.technology ∧ some u = g.username ∧ truthy g.username = true := by
  unfold GivenTrunk.HasUsername GivenTrunk.recorded truthy
  cases g.username with
  | none => simp
  | some v =>
    simp only [Option.filter_eq_some_iff, Option.some.injEq, Option.any_some, decide_eq_true_eq]
    constructor
    · rintro ⟨rfl, rfl, hv⟩
      exact ⟨rfl, rfl, hv⟩
    · rintro ⟨rfl, rfl, hv⟩
      exact ⟨rfl, rfl, hv⟩

/-- Giving a trunk to the cache assigns its keys and takes away those it had before. -/
theorem TrunkCache.Indexed.give (h : s.Indexed) {c : ConfdCache} (hi : c.initialized = true)
    (hlegal : ∀ o ∈ s.live, o.trunk.id ≠ g.trunk.id →
      ¬ o.HasName g.trunk.technology g.trunk.name)
    (hnamed : ∀ t name, Endpoints.named c.trunks t name =
      if t = g.trunk.technology ∧ name = g.trunk.name then some g.trunk
      else (Endpoints.named s.cache.trunks t name).filter (·.id ≠ g.trunk.id))
    (hidentified : ∀ t i, Endpoints.identified c.trunks t i =
      if t = g.trunk.technology ∧ i = g.trunk.id then some g.trunk
      else (Endpoints.identified s.cache.trunks t i).filter (·.id ≠ g.trunk.id))
    (hregistered : ∀ t u, Endpoints.registered c.trunks t (some u) =
      if g.recorded.HasUsername t u then some g.trunk
      else (Endpoints.registered s.cache.trunks t (some u)).filter (·.id ≠ g.trunk.id))
    (hlast : ∀ t u, ¬ g.recorded.HasUsername t u → ∀ o, lastWith s.live t u = some o →
      o.trunk.id = g.trunk.id → ∀ a ∈ s.live, a.HasUsername t u → a = o) :
    TrunkCache.Indexed ⟨c, Endpoints.give s.live g⟩ where
  initialized := hi
  distinct := h.distinct.give hlegal
  named t name e := by
    rw [hnamed]
    simp only [mem_give]
    by_cases hkey : t = g.trunk.technology ∧ name = g.trunk.name
    · rw [if_pos hkey, Option.some.injEq]
      obtain ⟨rfl, rfl⟩ := hkey
      constructor
      · rintro rfl
        exact ⟨g.recorded, .inr rfl, ⟨rfl, rfl⟩, rfl⟩
      · rintro ⟨o, ⟨ho, hne⟩ | rfl, hname, rfl⟩
        · exact absurd hname (hlegal o ho hne)
        · rfl
    · rw [if_neg hkey, filter_iff, h.named]
      constructor
      · rintro ⟨⟨o, ho, hname, rfl⟩, hne⟩
        exact ⟨o, .inl ⟨ho, hne⟩, hname, rfl⟩
      · rintro ⟨o, ⟨ho, hne⟩ | rfl, hname, rfl⟩
        · exact ⟨⟨o, ho, hname, rfl⟩, hne⟩
        · exact absurd ⟨hname.1.symm, hname.2.symm⟩ hkey
  identified t i e := by
    rw [hidentified]
    simp only [mem_give]
    by_cases hkey : t = g.trunk.technology ∧ i = g.trunk.id
    · rw [if_pos hkey, Option.some.injEq]
      obtain ⟨rfl, rfl⟩ := hkey
      constructor
      · rintro rfl
        exact ⟨g.recorded, .inr rfl, ⟨rfl, rfl⟩, rfl⟩
      · rintro ⟨o, ⟨ho, hne⟩ | rfl, hid, rfl⟩
        · exact absurd hid.2 hne
        · rfl
    · rw [if_neg hkey, filter_iff, h.identified]
      constructor
      · rintro ⟨⟨o, ho, hid, rfl⟩, hne⟩
        exact ⟨o, .inl ⟨ho, hne⟩, hid, rfl⟩
      · rintro ⟨o, ⟨ho, hne⟩ | rfl, hid, rfl⟩
        · exact ⟨⟨o, ho, hid, rfl⟩, hne⟩
        · exact absurd ⟨hid.1.symm, hid.2.symm⟩ hkey
  registered t u := by
    rw [hregistered]
    unfold Endpoints.give
    rw [lastWith_snoc]
    by_cases hu : g.recorded.HasUsername t u
    · rw [if_pos hu, if_pos hu]
      rfl
    · rw [if_neg hu, if_neg hu, h.registered, lastWith_filter (hlast t u hu)]
      cases lastWith s.live t u with
      | none => rfl
      | some o => by_cases hi : o.trunk.id = g.trunk.id <;> simp [Option.filter, hi]

/-- Updating a trunk, when no other was given its old username before it. -/
theorem TrunkCache.Indexed.update (h : s.Indexed) (hlegal : s.Legal (.update g))
    (hkept : s.Kept (.update g)) : (s.apply (.update g)).Indexed := by
  refine h.give h.initialized hlegal (fun t name => ?_) (fun t i => ?_) (fun t u => ?_) ?_
  · exact named_addTrunk.trans (by rw [named_deleteTrunk])
  · exact identified_addTrunk.trans (by rw [identified_deleteTrunk])
  · refine registered_addTrunk.trans ?_
    rw [registered_deleteTrunk]
    simp only [recorded_hasUsername]
  · intro t u hu o hlast hid a ha hau
    obtain ⟨ho, rfl, hou⟩ := lastWith_some hlast
    exact hkept o ho hid u hou hu hlast a ha hau

theorem filter_self {r : Option ConfdEndpoint} (h : ∀ e, r = some e → e.id ≠ i) :
    r.filter (·.id ≠ i) = r := by
  cases r with
  | none => rfl
  | some e => simp [Option.filter, h e rfl]

/-- Adding a trunk, again only under its name and with the username that its index holds. -/
theorem TrunkCache.Indexed.add (h : s.Indexed) (hlegal : s.Legal (.add g))
    (hkept : s.Kept (.add g)) : (s.apply (.add g)).Indexed := by
  -- the trunk is not the last one that was given a username which it is not given again
  have hnot {t : Techno} {u : String} (hu : ¬ g.recorded.HasUsername t u) {o : GivenTrunk}
      (hlast : lastWith s.live t u = some o) : o.trunk.id ≠ g.trunk.id := by
    intro hid
    obtain ⟨ho, rfl, hou⟩ := lastWith_some hlast
    obtain ⟨hname, hkept⟩ := hkept o ho hid
    refine hkept u hou (fun hgu => hu ⟨hname.1, hgu⟩) hlast
  refine h.give h.initialized hlegal (fun t name => ?_) (fun t i => ?_) (fun t u => ?_) ?_
  · refine named_addTrunk.trans ?_
    by_cases hkey : t = g.trunk.technology ∧ name = g.trunk.name
    · rw [if_pos hkey, if_pos hkey]
    · rw [if_neg hkey, if_neg hkey, filter_self]
      intro e he hid
      obtain ⟨o, ho, ⟨rfl, rfl⟩, rfl⟩ := (h.named t name e).mp he
      have hname := (hkept o ho hid).1
      exact hkey ⟨hname.1.symm, hname.2.symm⟩
  · refine identified_addTrunk.trans ?_
    by_cases hkey : t = g.trunk.technology ∧ i = g.trunk.id
    · rw [if_pos hkey, if_pos hkey]
    · rw [if_neg hkey, if_neg hkey, filter_self]
      intro e he hid
      obtain ⟨o, ho, ⟨rfl, rfl⟩, rfl⟩ := (h.identified t i e).mp he
      exact hkey ⟨(hkept o ho hid).1.1.symm, hid⟩
  · refine registered_addTrunk.trans ?_
    rw [← if_congr recorded_hasUsername rfl rfl]
    by_cases hu : g.recorded.HasUsername t u
    · rw [if_pos hu, if_pos hu]
    · rw [if_neg hu, if_neg hu, filter_self]
      intro e he
      rw [h.registered] at he
      obtain ⟨o, hlast, rfl⟩ := Option.map_eq_some_iff.mp he
      exact hnot hu hlast
  · intro t u hu o hlast hid
    exact absurd hid (hnot hu hlast)

end Step

/-! ## The loader -/

section Load

variable {c : ConfdCache} {trunk : ConfdTrunk} {live : List GivenTrunk} {g : GivenTrunk}

/-- The loader takes the trunk with the username that it finds. -/
theorem loadTrunk_trunks : (c.loadTrunk trunk).trunks =
    match trunk.given with
    | none => c.trunks
    | some g => atTechno c.trunks g.trunk.technology fun ix => ix.loadTrunk g.trunk g.username := by
  unfold ConfdCache.loadTrunk ConfdTrunk.given
  rcases trunk.endpoint with _ | _ | _ | _ <;> rfl

/-- One more trunk in the indexes. -/
theorem Shown.load {table : Dict Techno Indexes} (h : Shown table live)
    (hnew : ∀ o ∈ live, o.trunk.id ≠ g.trunk.id ∧
      ¬ g.HasName o.trunk.technology o.trunk.name) :
    Shown (atTechno table g.trunk.technology fun ix => ix.loadTrunk g.trunk g.username)
      (live ++ [g]) where
  named t name e := by
    rw [named_atTechno g.trunk fun ix => rfl]
    simp only [List.mem_append, List.mem_singleton]
    by_cases hkey : t = g.trunk.technology ∧ name = g.trunk.name
    · rw [if_pos hkey, Option.some.injEq]
      obtain ⟨rfl, rfl⟩ := hkey
      constructor
      · rintro rfl
        exact ⟨g, .inr rfl, ⟨rfl, rfl⟩, rfl⟩
      · rintro ⟨o, ho | rfl, hname, rfl⟩
        · exact absurd ⟨hname.1.symm, hname.2.symm⟩ (hnew o ho).2
        · rfl
    · rw [if_neg hkey, h.named]
      constructor
      · rintro ⟨o, ho, hname⟩
        exact ⟨o, .inl ho, hname⟩
      · rintro ⟨o, ho | rfl, hname, rfl⟩
        · exact ⟨o, ho, hname, rfl⟩
        · exact absurd ⟨hname.1.symm, hname.2.symm⟩ hkey
  identified t i e := by
    rw [identified_atTechno g.trunk fun ix => rfl]
    simp only [List.mem_append, List.mem_singleton]
    by_cases hkey : t = g.trunk.technology ∧ i = g.trunk.id
    · rw [if_pos hkey, Option.some.injEq]
      obtain ⟨rfl, rfl⟩ := hkey
      constructor
      · rintro rfl
        exact ⟨g, .inr rfl, ⟨rfl, rfl⟩, rfl⟩
      · rintro ⟨o, ho | rfl, hid, rfl⟩
        · exact absurd hid.2 (hnew o ho).1
        · rfl
    · rw [if_neg hkey, h.identified]
      constructor
      · rintro ⟨o, ho, hid⟩
        exact ⟨o, .inl ho, hid⟩
      · rintro ⟨o, ho | rfl, hid, rfl⟩
        · exact ⟨o, ho, hid, rfl⟩
        · exact absurd ⟨hid.1.symm, hid.2.symm⟩ hkey
  registered t u := by
    rw [registered_atTechno g.trunk g.username fun ix => rfl, lastWith_snoc]
    by_cases hu : g.HasUsername t u
    · rw [if_pos hu, if_pos ⟨hu.1.symm, hu.2.symm⟩]
      rfl
    · rw [if_neg hu, if_neg fun hu' => hu ⟨hu'.1.symm, hu'.2.symm⟩, h.registered]

/-- The loader goes through the list of the trunks. -/
theorem shown_updateTrunkCache (trunks : List ConfdTrunk) (h : Shown c.trunks live)
    (hd : Distinct (live ++ trunks.filterMap (·.given))) :
    Shown (c.updateTrunkCache trunks).trunks (live ++ trunks.filterMap (·.given)) := by
  induction trunks generalizing c live with
  | nil =>
    show Shown c.trunks (live ++ [])
    rwa [List.append_nil]
  | cons trunk trunks ih =>
    show Shown ((c.loadTrunk trunk).updateTrunkCache trunks).trunks _
    have hload := @loadTrunk_trunks c trunk
    cases hgiven : trunk.given with
    | none =>
      simp only [List.filterMap_cons, hgiven] at hd ⊢ hload
      exact ih (hload ▸ h) hd
    | some g =>
      simp only [List.filterMap_cons, hgiven] at hd ⊢ hload
      rw [← List.singleton_append, ← List.append_assoc] at hd ⊢
      refine ih (hload ▸ h.load fun o ho => ?_) hd
      have hpair := (List.pairwise_append.mp hd).1
      exact (List.pairwise_append.mp hpair).2.2 o ho g (List.mem_singleton_self g)

/-- The loader of the lines leaves the trunks as they are. -/
theorem updateLineCache_trunks (lines : List ConfdLine) :
    (c.updateLineCache lines).trunks = c.trunks := by
  induction lines generalizing c with
  | nil => rfl
  | cons line lines ih => exact (ih (c := c.loadLine line))

theorem shown_fresh : Shown ConfdCache.fresh.trunks [] where
  named t name e := by
    show (none : Option Indexes).bind _ = some e ↔ _
    simp
  identified t i e := by
    show (none : Option Indexes).bind _ = some e ↔ _
    simp
  registered t u := rfl

/-- The cache that is filled from confd holds the trunks of confd. -/
theorem indexed_loaded {s : TrunkCache} (h : trunkCache.init s) : s.Indexed := by
  obtain ⟨confd, hd, rfl⟩ := h
  have hshown := shown_updateTrunkCache confd.trunks shown_fresh hd
  have htrunks : (ConfdCache.fresh.initializeWith confd).trunks =
      (ConfdCache.fresh.updateTrunkCache confd.trunks).trunks :=
    updateLineCache_trunks confd.lines
  exact { toShown := htrunks ▸ hshown, initialized := rfl, distinct := hd }

end Load

/-! ## Runs -/

section Runs

variable {s s' : TrunkCache} {op : TrunkOp} {g o : GivenTrunk}

/-- An operation under the condition keeps the indexes. -/
theorem TrunkCache.Indexed.apply (h : s.Indexed) (hlegal : s.Legal op) (hkept : s.Kept op) :
    (s.apply op).Indexed := by
  cases op with
  | add g => exact h.add hlegal hkept
  | update g => exact h.update hlegal hkept
  | delete i => exact h.delete hkept

theorem step_some (h : trunkCache.step op s = some s') : s.Legal op ∧ s' = s.apply op := by
  have h : (if s.Legal op then some (s.apply op) else none) = some s' := h
  split at h
  · next hlegal => exact ⟨hlegal, (Option.some.inj h).symm⟩
  · cases h

theorem indexed_of_reaches (h : trunkCache.Reaches TrunkCache.Kept s) : s.Indexed := by
  refine h.invariant (fun s => indexed_loaded) (fun s op s' hi hkept hstep => ?_)
  obtain ⟨hlegal, rfl⟩ := step_some hstep
  exact hi.apply hlegal hkept

/-- The lookups in indexes that hold the live trunks. -/
theorem TrunkCache.Indexed.agrees (h : s.Indexed) : s.Agrees where
  name techno name confd := by
    refine ⟨_, getTrunk_apply h.initialized, fun e => ?_⟩
    rw [Option.bind_eq_some_iff]
    constructor
    · rintro ⟨t, ht, he⟩
      obtain ⟨g, hg, ⟨rfl, rfl⟩, rfl⟩ := (h.named t name e).mp he
      exact ⟨g, hg, ⟨ht, rfl⟩, rfl⟩
    · rintro ⟨g, hg, ⟨ht, rfl⟩, rfl⟩
      exact ⟨_, ht, (h.named ..).mpr ⟨g, hg, ⟨rfl, rfl⟩, rfl⟩⟩
  id i confd := by
    refine ⟨_, getTrunkById_apply h.initialized i, fun e => ?_⟩
    constructor
    · intro he
      obtain ⟨t, ht⟩ := exists_of_findSome? he
      obtain ⟨g, hg, ⟨rfl, rfl⟩, rfl⟩ := (h.identified t i e).mp ht
      exact ⟨g, hg, rfl, rfl⟩
    · rintro ⟨g, hg, rfl, rfl⟩
      refine findSome?_of_unique (fun t' hne => ?_)
        ((h.identified ..).mpr ⟨g, hg, ⟨rfl, rfl⟩, rfl⟩)
      by_contra hsome
      obtain ⟨e, he⟩ := Option.ne_none_iff_exists'.mp hsome
      obtain ⟨o, ho, ⟨rfl, hid⟩, rfl⟩ := (h.identified ..).mp he
      exact hne (congrArg (·.trunk.technology) (h.distinct.eq_of_id ho hg hid))
  username techno u confd := by
    refine ⟨_, getTrunkByUsername_apply h.initialized (some u), ?_, fun e he => ?_⟩
    · constructor
      · intro hsome
        obtain ⟨e, he⟩ := Option.isSome_iff_exists.mp hsome
        obtain ⟨t, ht, he⟩ := Option.bind_eq_some_iff.mp he
        rw [h.registered] at he
        obtain ⟨g, hlast, -⟩ := Option.map_eq_some_iff.mp he
        obtain ⟨hg, rfl, hu⟩ := lastWith_some hlast
        exact ⟨g, hg, ht, hu⟩
      · rintro ⟨g, hg, ht, hu⟩
        rw [ht, Option.bind_some, h.registered, Option.isSome_map]
        exact lastWith_isSome.mpr ⟨g, hg, rfl, hu⟩
    · obtain ⟨t, ht, he⟩ := Option.bind_eq_some_iff.mp he
      rw [h.registered] at he
      obtain ⟨g, hlast, rfl⟩ := Option.map_eq_some_iff.mp he
      obtain ⟨hg, rfl, hu⟩ := lastWith_some hlast
      exact ⟨g, hg, ⟨ht, hu⟩, rfl⟩

/-- Indexes that agree with the trunks find every one of them. -/
theorem TrunkCache.Agrees.finds (h : s.Agrees) (hg : g ∈ s.live) : s.Finds g := by
  intro confd
  obtain ⟨r, hname, hr⟩ := h.name g.trunk.technology.word g.trunk.name confd
  obtain ⟨r', hid, hr'⟩ := h.id g.trunk.id confd
  obtain rfl : r = some g.trunk := (hr _).mpr ⟨g, hg, ⟨confdTechno_word _, rfl⟩, rfl⟩
  obtain rfl : r' = some g.trunk := (hr' _).mpr ⟨g, hg, rfl, rfl⟩
  refine ⟨hname, hid, fun u hu => ?_⟩
  obtain ⟨r'', huser, hsome, -⟩ := h.username g.trunk.technology.word u confd
  obtain ⟨e, rfl⟩ := Option.isSome_iff_exists.mp
    (hsome.mpr ⟨g, hg, confdTechno_word _, hu⟩)
  exact ⟨e, huser⟩

/-- What agreement says of the index of the usernames. -/
theorem TrunkCache.Agrees.registered (h : s.Agrees) (hi : s.cache.initialized = true)
    (t : Techno) (u : String) :
    ((Endpoints.registered s.cache.trunks t (some u)).isSome ↔
      ∃ g ∈ s.live, g.HasUsername t u) ∧
    ∀ e, Endpoints.registered s.cache.trunks t (some u) = some e →
      ∃ g ∈ s.live, g.HasUsername t u ∧ g.trunk = e := by
  obtain ⟨r, hr, hsome, hone⟩ := h.username t.word u ⟨[], []⟩
  rw [getTrunkByUsername_apply hi, confdTechno_word, Option.bind_some] at hr
  obtain rfl : _ = r := Except.ok.inj (congrArg Prod.fst hr)
  have hword (g : GivenTrunk) :
      confdTechno t.word = some g.trunk.technology ↔ g.trunk.technology = t := by
    rw [confdTechno_word, Option.some.injEq, eq_comm]
  simp only [hword] at hsome hone
  exact ⟨hsome, hone⟩

/-- What agreement says of the index of the names. -/
theorem TrunkCache.Agrees.named (h : s.Agrees) (hi : s.cache.initialized = true) {t : Techno}
    {name : String} {e : ConfdEndpoint} (he : Endpoints.named s.cache.trunks t name = some e) :
    ∃ g ∈ s.live, g.trunk = e := by
  obtain ⟨r, hr, hthe⟩ := h.name t.word name ⟨[], []⟩
  rw [getTrunk_apply hi, confdTechno_word, Option.bind_some] at hr
  obtain rfl : _ = r := Except.ok.inj (congrArg Prod.fst hr)
  obtain ⟨g, hg, -, hge⟩ := (hthe e).mp he
  exact ⟨g, hg, hge⟩

/-- A shared username whose trunk is taken out of the index is lost. -/
theorem unshared_of_agrees {u : String} {t : Techno} (h : s.Indexed) (h' : s'.Agrees)
    (hi : s'.cache.initialized = true)
    (hlive : ∀ a ∈ s.live, a.trunk.id ≠ o.trunk.id → a ∈ s'.live)
    (hdropped : Endpoints.registered s'.cache.trunks t (some u) =
      (Endpoints.registered s.cache.trunks t (some u)).filter (·.id ≠ o.trunk.id))
    (ho : o ∈ s.live) (hlast : lastWith s.live t u = some o) :
    ∀ a ∈ s.live, a.HasUsername t u → a = o := by
  intro a ha hau
  by_contra hne
  have hid : a.trunk.id ≠ o.trunk.id := fun hid => hne (h.distinct.eq_of_id ha ho hid)
  have hsome := (h'.registered hi t u).1.mpr ⟨a, hlive a ha hid, hau⟩
  rw [hdropped, h.registered, hlast] at hsome
  simp [Option.filter] at hsome

/-- An operation that breaks the condition breaks the agreement. -/
theorem TrunkCache.Indexed.kept (h : s.Indexed) (hlegal : s.Legal op)
    (h' : (s.apply op).Agrees) : s.Kept op := by
  cases op with
  | delete i =>
    rintro o ho rfl u hou hlast
    refine unshared_of_agrees h h' h.initialized (fun a ha hne => mem_filter_id.mpr ⟨ha, hne⟩)
      ?_ ho hlast
    exact registered_deleteTrunk
  | update g =>
    intro o ho hid u hou hgu hlast
    refine unshared_of_agrees h h' h.initialized
      (fun a ha hne => mem_give.mpr (.inl ⟨ha, hid ▸ hne⟩)) ?_ ho hlast
    refine registered_addTrunk.trans ?_
    rw [if_neg fun hu => hgu (recorded_hasUsername.mpr hu), registered_deleteTrunk, hid]
  | add g =>
    intro o ho hid
    -- what the trunk was found under before is found in the list only if it is given again
    have hfound {a : GivenTrunk} (ha : a ∈ (s.apply (.add g)).live) (hao : a.trunk = o.trunk) :
        a = g.recorded := by
      refine (h.distinct.give hlegal).eq_of_id ha (mem_give.mpr (.inr rfl)) ?_
      rw [hao]
      exact hid
    have hname : g.HasName o.trunk.technology o.trunk.name := by
      by_contra hne
      have hold : Endpoints.named (s.apply (.add g)).cache.trunks o.trunk.technology
          o.trunk.name = some o.trunk := by
        refine named_addTrunk.trans ?_
        rw [if_neg fun hkey => hne ⟨hkey.1.symm, hkey.2.symm⟩]
        exact (h.named ..).mpr ⟨o, ho, ⟨rfl, rfl⟩, rfl⟩
      obtain ⟨a, ha, hao⟩ := h'.named h.initialized hold
      have hga := congrArg (·.trunk) (hfound ha hao)
      have hgo : g.trunk = o.trunk := hga.symm.trans hao
      exact hne ⟨congrArg (·.technology) hgo, congrArg (·.name) hgo⟩
    refine ⟨hname, fun u hou hgu hlast => hgu ?_⟩
    have hold : Endpoints.registered (s.apply (.add g)).cache.trunks o.trunk.technology
        (some u) = some o.trunk := by
      refine registered_addTrunk.trans ?_
      rw [if_neg fun hu => hgu (recorded_hasUsername.mpr hu).2]
      exact (h.registered ..).trans (by rw [hlast]; rfl)
    obtain ⟨a, ha, hau, hao⟩ := (h'.registered h.initialized o.trunk.technology u).2 _ hold
    exact hfound ha hao ▸ hau.2

/-- **The trunk indexes agree with the trunks, up to the first operation that takes a shared
username out of its index or adds a live trunk under other keys.** -/
theorem trunk_indexes_agree (h : trunkCache.Reaches TrunkCache.Kept s) :
    s.Agrees ∧ ∀ op s', trunkCache.step op s = some s' →
      (s'.Agrees ↔ s.Kept op) ∧
      (s.Kept op → ∀ g ∈ s.live, g.trunk.id ≠ op.trunkId → s'.Finds g) := by
  have hindexed := indexed_of_reaches h
  refine ⟨hindexed.agrees, fun op s' hstep => ?_⟩
  obtain ⟨hlegal, rfl⟩ := step_some hstep
  refine ⟨⟨hindexed.kept hlegal, fun hkept => (hindexed.apply hlegal hkept).agrees⟩, ?_⟩
  intro hkept g hg hne
  refine (hindexed.apply hlegal hkept).agrees.finds ?_
  cases op with
  | add o => exact mem_give.mpr (.inl ⟨hg, hne⟩)
  | update o => exact mem_give.mpr (.inl ⟨hg, hne⟩)
  | delete i => exact mem_filter_id.mpr ⟨hg, hne⟩

end Runs

/-! ## Two trunks with one username -/

/-- A SIP trunk of a tenant. -/
def sipTrunk (i : Int) (name username : String) : GivenTrunk :=
  ⟨⟨i, .sip, name, "tenant"⟩, some username⟩

/-- The cache that is filled from an empty confd. -/
def noTrunks : TrunkCache := ⟨ConfdCache.fresh.initializeWith ⟨[], []⟩, []⟩

theorem noTrunks_init : trunkCache.init noTrunks :=
  ⟨⟨[], []⟩, List.Pairwise.nil, rfl⟩

/-- A trunk is renamed, and another one takes its name. -/
def renamedTrunks : TrunkCache :=
  ((noTrunks.apply (.add (sipTrunk 1 "trunk" "alice"))).apply
    (.update (sipTrunk 1 "other" "alice"))).apply (.add (sipTrunk 2 "trunk" "bob"))

theorem renamedTrunks_reaches : trunkCache.Reaches TrunkCache.Kept renamedTrunks := by
  have hkept : trunkCache.Meets TrunkCache.Kept [.add (sipTrunk 1 "trunk" "alice"),
      .update (sipTrunk 1 "other" "alice"), .add (sipTrunk 2 "trunk" "bob")] noTrunks := by
    decide
  exact Machine.Reaches.run (.init noTrunks_init) hkept rfl

/-- After a rename both trunks are found. -/
theorem trunk_indexes_agree_renamed :
    renamedTrunks.live.length = 2 ∧ renamedTrunks.Agrees ∧
      ∀ op s', trunkCache.step op renamedTrunks = some s' →
        (s'.Agrees ↔ renamedTrunks.Kept op) ∧
        (renamedTrunks.Kept op → ∀ g ∈ renamedTrunks.live, g.trunk.id ≠ op.trunkId →
          s'.Finds g) :=
  ⟨rfl, trunk_indexes_agree renamedTrunks_reaches⟩

/-- Two trunks are given one username, and the later one is deleted. -/
def sharedUsername : TrunkCache :=
  ((noTrunks.apply (.add (sipTrunk 1 "trunk" "alice"))).apply
    (.add (sipTrunk 2 "other" "alice"))).apply (.delete 2)

/-- The trunk that remains is not found by its username any more. -/
theorem shared_username_is_lost : ¬ ∀ s, trunkCache.Reachable s → s.Agrees := by
  intro hall
  have hrun : trunkCache.run [.add (sipTrunk 1 "trunk" "alice"),
      .add (sipTrunk 2 "other" "alice"), .delete 2] noTrunks = some sharedUsername := rfl
  have hagrees := hall sharedUsername (Machine.Reaches.reachable_run (.init noTrunks_init) hrun)
  have hsome := (hagrees.registered rfl .sip "alice").1.mpr
    ⟨sipTrunk 1 "trunk" "alice", by decide, rfl, rfl⟩
  have hnone : registered sharedUsername.cache.trunks .sip (some "alice") = none := by decide
  rw [hnone] at hsome
  cases hsome

end Calld.Endpoints
