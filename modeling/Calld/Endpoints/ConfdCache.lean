/-
# The cache of the lines and trunks of confd

`ConfdCache` knows the lines and the trunks by technology, and within a technology by name,
by id and by username.  The first lookup fills it from the lists of confd; from then on the
events of confd keep it up to date.  Events that are handled before write to it as well.

A lookup is a program: it reads the lists of confd and it may fill the cache.
-/
import Calld.Effect.Dict
import Calld.Effect.Rules

namespace Calld.Endpoints

open Effect Program

/-! ## Data -/

/-- The technologies of confd. -/
inductive Techno where
  | sip | iax | sccp | custom
  deriving DecidableEq, Repr

/-- The word of confd for a technology. -/
def Techno.word : Techno → String
  | .sip => "sip"
  | .iax => "iax"
  | .sccp => "sccp"
  | .custom => "custom"

/-- `_asterisk_to_confd_techno_map.get(techno, techno)`; the cache has no other keys. -/
def confdTechno : String → Option Techno
  | "PJSIP" => some .sip
  | "IAX2" => some .iax
  | "SCCP" => some .sccp
  | "sip" => some .sip
  | "iax" => some .iax
  | "sccp" => some .sccp
  | "custom" => some .custom
  | _ => none

@[simp] theorem confdTechno_word (t : Techno) : confdTechno t.word = some t := by
  cases t <;> rfl

/-- What the cache keeps of a line or of a trunk. -/
structure ConfdEndpoint where
  id : Int
  technology : Techno
  name : String
  tenantUuid : String
  deriving DecidableEq, Repr

/-- The options of a section of a SIP endpoint, in their order. -/
abbrev Options := List (String × String)

/-- `_extract_sip_option`: the first option of that name. -/
def extractSipOption (section_ : Options) (option : String) : Option String :=
  section_.lookup option

/-- The endpoint of a trunk, as confd shows it. -/
inductive TrunkEndpoint where
  | sip (name : String) (registrationSectionOptions : Options)
  | iax (name : String)
  | custom (interface_ : String)
  deriving DecidableEq, Repr

/-- A trunk of the list of confd; it need not be associated to an endpoint. -/
structure ConfdTrunk where
  id : Int
  endpoint : Option TrunkEndpoint
  tenantUuid : String
  deriving DecidableEq, Repr

/-- The endpoint of a line, as confd shows it; a SCCP line has a name of its own. -/
inductive LineEndpoint where
  | sip (name : String) (authSectionOptions : Options)
  | sccp (lineName : String)
  | custom (interface_ : String)
  deriving DecidableEq, Repr

/-- A line of the list of confd, which names it after its endpoint. -/
structure ConfdLine where
  id : Int
  endpoint : LineEndpoint
  tenantUuid : String
  deriving DecidableEq, Repr

/-- `line['protocol']`. -/
def ConfdLine.protocol (line : ConfdLine) : Techno :=
  match line.endpoint with
  | .sip .. => .sip
  | .sccp .. => .sccp
  | .custom .. => .custom

/-- `line['name']`. -/
def ConfdLine.name (line : ConfdLine) : String :=
  match line.endpoint with
  | .sip name _ => name
  | .sccp name => name
  | .custom interface_ => interface_

/-- The lists of confd. -/
structure Confd where
  trunks : List ConfdTrunk
  lines : List ConfdLine

/-- The three indexes of a technology; there is no index of the lines by id. -/
structure Indexes where
  id : Dict Int ConfdEndpoint
  name : Dict String ConfdEndpoint
  username : Dict (Option String) ConfdEndpoint

instance : EmptyCollection Indexes where
  emptyCollection := ⟨∅, ∅, ∅⟩

/-- The cache. -/
structure ConfdCache where
  trunks : Dict Techno Indexes
  lines : Dict Techno Indexes
  initialized : Bool

/-- The cache of a process that has just started. -/
def ConfdCache.fresh : ConfdCache := ⟨∅, ∅, false⟩

/-! ## Additions and deletions -/

/-- A username that is neither absent nor empty. -/
def truthy (username : Option String) : Bool := username.any (· ≠ "")

namespace Indexes

/-- The assignments of `add_trunk`. -/
def addTrunk (ix : Indexes) (value : ConfdEndpoint) (username : Option String) : Indexes where
  id := ix.id.set value.id value
  name := ix.name.set value.name value
  username := if truthy username then ix.username.set username value else ix.username

/-- The assignments of `add_line`. -/
def addLine (ix : Indexes) (value : ConfdEndpoint) (username : Option String) : Indexes where
  id := ix.id
  name := ix.name.set value.name value
  username := if truthy username then ix.username.set username value else ix.username

/-- The assignments of `_update_trunk_cache`. -/
def loadTrunk (ix : Indexes) (value : ConfdEndpoint) (username : Option String) : Indexes where
  id := ix.id.set value.id value
  name := ix.name.set value.name value
  username := ix.username.set username value

/-- The assignment of `_update_line_cache`. -/
def loadLine (ix : Indexes) (value : ConfdEndpoint) : Indexes :=
  { ix with name := ix.name.set value.name value }

/-- Remove what has the id from every index. -/
def delete (ix : Indexes) (i : Int) : Indexes where
  id := ix.id.filterMap fun _ e => if e.id = i then none else some e
  name := ix.name.filterMap fun _ e => if e.id = i then none else some e
  username := ix.username.filterMap fun _ e => if e.id = i then none else some e

end Indexes

/-- Change the indexes of a technology, which has empty ones to begin with. -/
def atTechno (table : Dict Techno Indexes) (techno : Techno) (f : Indexes → Indexes) :
    Dict Techno Indexes :=
  table.set techno (f ((table.get techno).getD ∅))

/-- Change the indexes of every technology. -/
def everywhere (table : Dict Techno Indexes) (f : Indexes → Indexes) : Dict Techno Indexes :=
  table.filterMap fun _ ix => some (f ix)

namespace ConfdCache

/-- `add_line`. -/
def addLine (c : ConfdCache) (techno : Techno) (lineId : Int) (name : String)
    (username : Option String) (tenantUuid : String) : ConfdCache :=
  let value := ⟨lineId, techno, name, tenantUuid⟩
  { c with lines := atTechno c.lines techno fun ix => ix.addLine value username }

/-- `add_trunk`. -/
def addTrunk (c : ConfdCache) (techno : Techno) (trunkId : Int) (name : String)
    (username : Option String) (tenantUuid : String) : ConfdCache :=
  let value := ⟨trunkId, techno, name, tenantUuid⟩
  { c with trunks := atTechno c.trunks techno fun ix => ix.addTrunk value username }

/-- `delete_line`. -/
def deleteLine (c : ConfdCache) (lineId : Int) : ConfdCache :=
  { c with lines := everywhere c.lines fun ix => ix.delete lineId }

/-- `delete_trunk`. -/
def deleteTrunk (c : ConfdCache) (trunkId : Int) : ConfdCache :=
  { c with trunks := everywhere c.trunks fun ix => ix.delete trunkId }

/-- `update_line`. -/
def updateLine (c : ConfdCache) (techno : Techno) (lineId : Int) (name : String)
    (username : Option String) (tenantUuid : String) : ConfdCache :=
  (c.deleteLine lineId).addLine techno lineId name username tenantUuid

/-- `update_trunk`. -/
def updateTrunk (c : ConfdCache) (techno : Techno) (trunkId : Int) (name : String)
    (username : Option String) (tenantUuid : String) : ConfdCache :=
  (c.deleteTrunk trunkId).addTrunk techno trunkId name username tenantUuid

/-! ## The loader -/

/-- One round of `_update_line_cache`. -/
def loadLine (c : ConfdCache) (line : ConfdLine) : ConfdCache :=
  let value := ⟨line.id, line.protocol, line.name, line.tenantUuid⟩
  { c with lines := atTechno c.lines line.protocol fun ix => ix.loadLine value }

/-- `_update_line_cache`. -/
def updateLineCache (c : ConfdCache) (lines : List ConfdLine) : ConfdCache :=
  lines.foldl loadLine c

/-- `update` of `_update_trunk_cache`. -/
def loadTrunk (c : ConfdCache) (trunk : ConfdTrunk) : ConfdCache :=
  let load techno name username :=
    let value := ⟨trunk.id, techno, name, trunk.tenantUuid⟩
    { c with trunks := atTechno c.trunks techno fun ix => ix.loadTrunk value username }
  match trunk.endpoint with
  | some (.sip name options) => load .sip name (extractSipOption options "client_uri")
  | some (.iax name) => load .iax name (some name)
  | some (.custom interface_) => load .custom interface_ (some interface_)
  -- a trunk which is not associated to an endpoint is ignored
  | none => c

/-- `_update_trunk_cache`. -/
def updateTrunkCache (c : ConfdCache) (trunks : List ConfdTrunk) : ConfdCache :=
  trunks.foldl loadTrunk c

/-- `_initialize`. -/
def initializeWith (c : ConfdCache) (confd : Confd) : ConfdCache :=
  if c.initialized then c
  else { (c.updateTrunkCache confd.trunks).updateLineCache confd.lines with initialized := true }

end ConfdCache

/-! ## Lookups -/

/-- What a lookup raises. -/
inductive LookupError where
  /-- `RuntimeError`: dictionary changed size during iteration -/
  | runtimeError
  deriving DecidableEq, Repr

/-- A lookup reads the lists of confd when it fills the cache. -/
abbrev Lookup := Program Confd ConfdCache LookupError

/-- `if not self._initialized: self._initialize()`. -/
def initializeOnce : Lookup Unit := do
  let confd ← ask id
  change (·.initializeWith confd)

/-- `_get_endpoint_by_index`. -/
def getEndpointByIndex (techno : String) (endpoints : ConfdCache → Dict Techno Indexes)
    (index : Indexes → Option ConfdEndpoint) : Lookup (Option ConfdEndpoint) := do
  initializeOnce
  look fun c => (confdTechno techno).bind fun t => ((endpoints c).get t).bind index

/-- `get_line`. -/
def getLine (techno name : String) : Lookup (Option ConfdEndpoint) :=
  getEndpointByIndex techno (·.lines) (·.name.get name)

/-- `get_trunk`. -/
def getTrunk (techno name : String) : Lookup (Option ConfdEndpoint) :=
  getEndpointByIndex techno (·.trunks) (·.name.get name)

/-- `get_trunk_by_username`. -/
def getTrunkByUsername (techno : String) (username : Option String) :
    Lookup (Option ConfdEndpoint) :=
  getEndpointByIndex techno (·.trunks) (·.username.get username)

/-- The loop of `get_trunk_by_id` over the keys of a dictionary that had `size` keys: the
iterator looks at the size again whenever it is asked for the next key. -/
def eachTechno (trunkId : Int) (size : ℕ) : List Techno → Lookup (Option ConfdEndpoint)
  | [] => do
    if (← look (·.trunks.keys.length)) ≠ size then throw .runtimeError
    return none
  | techno :: rest => do
    if (← look (·.trunks.keys.length)) ≠ size then throw .runtimeError
    match ← getEndpointByIndex techno.word (·.trunks) (·.id.get trunkId) with
    | some trunk => return some trunk
    | none => eachTechno trunkId size rest

/-- `get_trunk_by_id`. -/
def getTrunkById (trunkId : Int) : Lookup (Option ConfdEndpoint) := do
  let keys ← look (·.trunks.keys)
  eachTechno trunkId keys.length keys

/-- What the dictionaries of names hold, one technology after the other. -/
def listNamed (table : Dict Techno Indexes) (tenantUuid : String) : List ConfdEndpoint :=
  table.keys.flatMap fun techno =>
    let names := ((table.get techno).getD ∅).name
    (names.keys.filterMap names.get).filter fun e => e.tenantUuid = tenantUuid

/-- `list_lines`. -/
def listLines (tenantUuid : String) : Lookup (List ConfdEndpoint) := do
  initializeOnce
  look fun c => listNamed c.lines tenantUuid

/-- `list_trunks`. -/
def listTrunks (tenantUuid : String) : Lookup (List ConfdEndpoint) := do
  initializeOnce
  look fun c => listNamed c.trunks tenantUuid

/-! ## What the indexes hold -/

/-- What a table holds under a name. -/
def named (table : Dict Techno Indexes) (t : Techno) (name : String) : Option ConfdEndpoint :=
  (table.get t).bind (·.name.get name)

/-- What a table holds under an id. -/
def identified (table : Dict Techno Indexes) (t : Techno) (i : Int) : Option ConfdEndpoint :=
  (table.get t).bind (·.id.get i)

/-- What a table holds under a username. -/
def registered (table : Dict Techno Indexes) (t : Techno) (username : Option String) :
    Option ConfdEndpoint :=
  (table.get t).bind (·.username.get username)

section Holds

variable {table : Dict Techno Indexes} {t t' : Techno} {f : Indexes → Indexes}
  {e : ConfdEndpoint} {u : Option String} {name tenantUuid : String} {i : Int}

/-- The indexes of a technology after a change of a technology. -/
theorem get_atTechno :
    (atTechno table t f).get t' =
      if t' = t then some (f ((table.get t).getD ∅)) else table.get t' :=
  Dict.get_set ..

theorem get_everywhere : (everywhere table f).get t = (table.get t).map f := by
  show (table.get t).bind (fun ix => some (f ix)) = _
  cases table.get t <;> rfl

/-- A technology whose indexes are missing holds nothing. -/
theorem look_getD (table : Dict Techno Indexes) (t : Techno)
    (look : Indexes → Option ConfdEndpoint) (hlook : look ∅ = none) :
    look ((table.get t).getD ∅) = (table.get t).bind look := by
  cases table.get t with
  | none => exact hlook
  | some ix => rfl

/-- Looking into an index in which a change of a technology has assigned a key. -/
theorem bind_atTechno {κ : Type} [DecidableEq κ] {index : Indexes → Dict κ ConfdEndpoint}
    {value : ConfdEndpoint} {k k' : κ} (hempty : index ∅ = ∅)
    (hf : ∀ ix, index (f ix) = (index ix).set k value) :
    ((atTechno table t f).get t').bind (fun ix => (index ix).get k') =
      if t' = t ∧ k' = k then some value
      else (table.get t').bind fun ix => (index ix).get k' := by
  rw [get_atTechno]
  by_cases ht : t' = t
  · subst ht
    have hlook := look_getD table t' (fun ix => (index ix).get k') (by rw [hempty]; rfl)
    simp only [if_true, true_and, Option.bind_some, hf, Dict.get_set, hlook]
  · simp only [ht, if_false, false_and]

/-- A change of a technology assigns a name. -/
theorem named_atTechno (value : ConfdEndpoint)
    (hf : ∀ ix, (f ix).name = ix.name.set value.name value) :
    named (atTechno table t f) t' name =
      if t' = t ∧ name = value.name then some value else named table t' name :=
  bind_atTechno rfl hf

/-- A change of a technology assigns an id. -/
theorem identified_atTechno (value : ConfdEndpoint)
    (hf : ∀ ix, (f ix).id = ix.id.set value.id value) :
    identified (atTechno table t f) t' i =
      if t' = t ∧ i = value.id then some value else identified table t' i :=
  bind_atTechno rfl hf

/-- A change of a technology assigns a username. -/
theorem registered_atTechno (value : ConfdEndpoint) (username : Option String)
    (hf : ∀ ix, (f ix).username = ix.username.set username value) :
    registered (atTechno table t f) t' u =
      if t' = t ∧ u = username then some value else registered table t' u :=
  bind_atTechno rfl hf

/-- A change of a technology leaves the usernames as they are. -/
theorem registered_atTechno_same (hf : ∀ ix, (f ix).username = ix.username) :
    registered (atTechno table t f) t' u = registered table t' u := by
  unfold registered
  rw [get_atTechno]
  by_cases ht : t' = t
  · subst ht
    simp only [if_true, Option.bind_some, hf]
    exact look_getD table t' (·.username.get u) rfl
  · simp only [ht, if_false]

/-- What remains in an index when an id is deleted. -/
theorem get_without {κ : Type} {d : Dict κ ConfdEndpoint} {k : κ} :
    (d.filterMap fun _ e => if e.id = i then none else some e).get k =
      (d.get k).filter (·.id ≠ i) := by
  rw [Dict.get_filterMap]
  cases d.get k with
  | none => rfl
  | some e => by_cases h : e.id = i <;> simp [h, Option.filter]

/-- Looking into an index from which an id is deleted. -/
theorem bind_everywhere {κ : Type} {index : Indexes → Dict κ ConfdEndpoint} {k : κ}
    (hf : ∀ ix, index (ix.delete i) =
      (index ix).filterMap fun _ e => if e.id = i then none else some e) :
    ((everywhere table (·.delete i)).get t).bind (fun ix => (index ix).get k) =
      ((table.get t).bind fun ix => (index ix).get k).filter (·.id ≠ i) := by
  rw [get_everywhere]
  cases table.get t with
  | none => rfl
  | some ix =>
    simp only [Option.map_some, Option.bind_some, hf]
    exact get_without

/-- The list of a tenant is what is found under a name. -/
theorem mem_listNamed :
    e ∈ listNamed table tenantUuid ↔
      e.tenantUuid = tenantUuid ∧ ∃ t name, named table t name = some e := by
  simp only [listNamed, List.mem_flatMap, List.mem_filter, List.mem_filterMap,
    decide_eq_true_eq]
  constructor
  · rintro ⟨t, -, ⟨name, -, he⟩, htenant⟩
    refine ⟨htenant, t, name, ?_⟩
    rwa [look_getD table t (·.name.get name) rfl] at he
  · rintro ⟨htenant, t, name, he⟩
    obtain ⟨ix, hix, hname⟩ := Option.bind_eq_some_iff.mp he
    have hget : ((table.get t).getD ∅).name.get name = some e := by
      rw [hix]
      exact hname
    exact ⟨t, Dict.mem_keys_of_get hix, ⟨name, Dict.mem_keys_of_get hget, hget⟩, htenant⟩

/-- Some technology holds an id when it is found by going through the technologies. -/
theorem exists_of_findSome? (h : table.keys.findSome? (identified table · i) = some e) :
    ∃ t, identified table t i = some e := by
  obtain ⟨t, -, ht⟩ := List.exists_of_findSome?_eq_some h
  exact ⟨t, ht⟩

/-- An id that one technology alone holds is found by going through the technologies. -/
theorem findSome?_of_unique
    (hunique : ∀ t', t' ≠ t → identified table t' i = none)
    (h : identified table t i = some e) :
    table.keys.findSome? (identified table · i) = some e := by
  obtain ⟨ix, hix, -⟩ := Option.bind_eq_some_iff.mp h
  cases hfind : table.keys.findSome? (identified table · i) with
  | none =>
    have := List.findSome?_eq_none_iff.mp hfind t (Dict.mem_keys_of_get hix)
    rw [h] at this
    cases this
  | some e' =>
    obtain ⟨t', ht'⟩ := exists_of_findSome? hfind
    by_cases hne : t' = t
    · subst hne
      exact ht'.symm.trans h
    · rw [hunique t' hne] at ht'
      cases ht'

/-- When no other technology holds the id, going through the technologies asks that one. -/
theorem findSome?_identified (hunique : ∀ t', t' ≠ t → identified table t' i = none) :
    table.keys.findSome? (identified table · i) = identified table t i := by
  cases h : identified table t i with
  | some e => exact findSome?_of_unique hunique h
  | none =>
    cases hfind : table.keys.findSome? (identified table · i) with
    | none => rfl
    | some e =>
      obtain ⟨t', ht'⟩ := exists_of_findSome? hfind
      by_cases hne : t' = t
      · rw [hne, h] at ht'
        cases ht'
      · rw [hunique t' hne] at ht'
        cases ht'

end Holds

/-! ## What the operations change -/

section Operations

variable {c : ConfdCache} {techno t : Techno} {i j : Int} {name n : String}
  {username u : Option String} {tenantUuid : String} {line : ConfdLine}

theorem addTrunk_trunks :
    (c.addTrunk techno i name username tenantUuid).trunks =
      atTechno c.trunks techno fun ix => ix.addTrunk ⟨i, techno, name, tenantUuid⟩ username := rfl

theorem addLine_lines :
    (c.addLine techno i name username tenantUuid).lines =
      atTechno c.lines techno fun ix => ix.addLine ⟨i, techno, name, tenantUuid⟩ username := rfl

theorem loadLine_lines :
    (c.loadLine line).lines = atTechno c.lines line.protocol fun ix =>
      ix.loadLine ⟨line.id, line.protocol, line.name, line.tenantUuid⟩ := rfl

theorem named_addTrunk :
    named (c.addTrunk techno i name username tenantUuid).trunks t n =
      if t = techno ∧ n = name then some ⟨i, techno, name, tenantUuid⟩
      else named c.trunks t n := by
  rw [addTrunk_trunks]
  refine named_atTechno ⟨i, techno, name, tenantUuid⟩ ?_
  exact fun ix => rfl

theorem identified_addTrunk :
    identified (c.addTrunk techno i name username tenantUuid).trunks t j =
      if t = techno ∧ j = i then some ⟨i, techno, name, tenantUuid⟩
      else identified c.trunks t j := by
  rw [addTrunk_trunks]
  refine identified_atTechno ⟨i, techno, name, tenantUuid⟩ ?_
  exact fun ix => rfl

/-- The username is registered, if there is one. -/
theorem registered_addTrunk :
    registered (c.addTrunk techno i name username tenantUuid).trunks t u =
      if t = techno ∧ u = username ∧ truthy username then some ⟨i, techno, name, tenantUuid⟩
      else registered c.trunks t u := by
  rw [addTrunk_trunks]
  by_cases hu : truthy username
  · rw [registered_atTechno ⟨i, techno, name, tenantUuid⟩ username fun ix => if_pos hu]
    simp only [hu, and_true]
  · rw [registered_atTechno_same fun ix => if_neg hu]
    simp only [hu, and_false, Bool.false_eq_true, if_false]

theorem named_addLine :
    named (c.addLine techno i name username tenantUuid).lines t n =
      if t = techno ∧ n = name then some ⟨i, techno, name, tenantUuid⟩
      else named c.lines t n := by
  rw [addLine_lines]
  refine named_atTechno ⟨i, techno, name, tenantUuid⟩ ?_
  exact fun ix => rfl

theorem named_loadLine :
    named (c.loadLine line).lines t n =
      if t = line.protocol ∧ n = line.name then
        some ⟨line.id, line.protocol, line.name, line.tenantUuid⟩
      else named c.lines t n := by
  rw [loadLine_lines]
  refine named_atTechno ⟨line.id, line.protocol, line.name, line.tenantUuid⟩ ?_
  exact fun ix => rfl

theorem named_deleteTrunk :
    named (c.deleteTrunk i).trunks t n = (named c.trunks t n).filter (·.id ≠ i) :=
  bind_everywhere fun _ => rfl

theorem identified_deleteTrunk :
    identified (c.deleteTrunk i).trunks t j = (identified c.trunks t j).filter (·.id ≠ i) :=
  bind_everywhere fun _ => rfl

theorem registered_deleteTrunk :
    registered (c.deleteTrunk i).trunks t u = (registered c.trunks t u).filter (·.id ≠ i) :=
  bind_everywhere fun _ => rfl

theorem named_deleteLine :
    named (c.deleteLine i).lines t n = (named c.lines t n).filter (·.id ≠ i) :=
  bind_everywhere fun _ => rfl

end Operations

/-! ## Lookups in a cache that is filled -/

section Initialized

variable {confd : Confd} {c : ConfdCache} {techno name : String} {t : Techno}

theorem ConfdCache.initializeWith_initialized (h : c.initialized = true) :
    c.initializeWith confd = c := if_pos h

theorem initializeOnce_apply : initializeOnce confd c = (.ok (), c.initializeWith confd) := rfl

/-- A lookup in a cache that is filled leaves it as it is. -/
theorem getEndpointByIndex_apply (h : c.initialized = true)
    (endpoints : ConfdCache → Dict Techno Indexes) (index : Indexes → Option ConfdEndpoint) :
    getEndpointByIndex techno endpoints index confd c =
      (.ok ((confdTechno techno).bind fun t => ((endpoints c).get t).bind index), c) := by
  unfold getEndpointByIndex
  rw [bind_of_ok initializeOnce_apply, ConfdCache.initializeWith_initialized h]
  rfl

theorem getLine_apply (h : c.initialized = true) :
    getLine techno name confd c =
      (.ok ((confdTechno techno).bind fun t => named c.lines t name), c) :=
  getEndpointByIndex_apply h ..

theorem getTrunk_apply (h : c.initialized = true) :
    getTrunk techno name confd c =
      (.ok ((confdTechno techno).bind fun t => named c.trunks t name), c) :=
  getEndpointByIndex_apply h ..

theorem getTrunkByUsername_apply (h : c.initialized = true) (username : Option String) :
    getTrunkByUsername techno username confd c =
      (.ok ((confdTechno techno).bind fun t => registered c.trunks t username), c) :=
  getEndpointByIndex_apply h ..

/-- Going through the technologies of a cache that is filled, the iterator never raises. -/
theorem eachTechno_apply (h : c.initialized = true) (i : Int) (technos : List Techno) :
    eachTechno i c.trunks.keys.length technos confd c =
      (.ok (technos.findSome? (identified c.trunks · i)), c) := by
  induction technos with
  | nil =>
    unfold eachTechno
    simp [bind_apply]
  | cons t rest ih =>
    unfold eachTechno
    have hlookup : getEndpointByIndex t.word (·.trunks) (·.id.get i) confd c = _ :=
      getEndpointByIndex_apply h (·.trunks) (·.id.get i)
    simp only [confdTechno_word, Option.bind_some] at hlookup
    simp only [bind_apply, look_apply, ne_eq, not_true_eq_false, if_false, hlookup,
      List.findSome?_cons, identified]
    cases (c.trunks.get t).bind fun ix => ix.id.get i with
    | none => exact ih
    | some e => rfl

theorem getTrunkById_apply (h : c.initialized = true) (i : Int) :
    getTrunkById i confd c =
      (.ok (c.trunks.keys.findSome? (identified c.trunks · i)), c) :=
  eachTechno_apply h i _

theorem listLines_apply (h : c.initialized = true) (tenantUuid : String) :
    listLines tenantUuid confd c = (.ok (listNamed c.lines tenantUuid), c) := by
  unfold listLines
  rw [bind_of_ok initializeOnce_apply, ConfdCache.initializeWith_initialized h]
  rfl

theorem listTrunks_apply (h : c.initialized = true) (tenantUuid : String) :
    listTrunks tenantUuid confd c = (.ok (listNamed c.trunks tenantUuid), c) := by
  unfold listTrunks
  rw [bind_of_ok initializeOnce_apply, ConfdCache.initializeWith_initialized h]
  rfl

end Initialized

end Calld.Endpoints
