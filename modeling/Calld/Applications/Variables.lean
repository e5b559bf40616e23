/-
# The variables of a call

The variables of a call of an application are those of its channel whose names start with
`X_WAZO_`, without this prefix.  They are read from the lines `NAME=value` of a console
command.  The prefix is deleted wherever it stands in a line: in the rest of the name and in
the value, too.
-/
import Calld.Effect.Assignments
import Calld.Effect.Dict
import Calld.Effect.Texts

namespace Calld.Applications

open Effect

/-! ## Reading the variables -/

/-- What `get_channel_variables` raises. -/
inductive VariablesExn where
  /-- the request to amid has failed -/
  | requestFailed
  /-- a line of a variable has no `=` -/
  | valueError
  deriving DecidableEq, Repr

def variablePrefix : String := "X_WAZO_"

/-- `line.startswith(prefix)`. -/
def isExposed (line : String) : Bool := variablePrefix.toList <+: line.toList

/-- `text.replace(prefix, '')`. -/
def unprefixed (text : String) : String :=
  String.ofList (deleteAll variablePrefix.toList text.toList)

/-- `text.split('=', 1)`. -/
def splitVariable (text : String) : String × Option String :=
  (String.ofList (splitFirst '=' text.toList).1, (splitFirst '=' text.toList).2.map String.ofList)

/-- `_extract_variables`. -/
def extractVariables (lines : List String) : List (String × Option String) :=
  (lines.filter isExposed).map fun line => splitVariable (unprefixed line)

/-- `{var: val for var, val in …}`. -/
def variablesDict (pairs : List (String × Option String)) :
    Except VariablesExn (Effect.Dict String String) :=
  pairs.foldlM (fun d (var, val) =>
    match val with
    | some val => pure (d.set var val)
    | none => throw .valueError) ∅

/-- `get_channel_variables` of the channel of a name; `command` is the request to amid, which
answers the lines of the response. -/
def getChannelVariables (command : String → Except VariablesExn (List String))
    (channelName : String) : Except VariablesExn (Effect.Dict String String) := do
  let response ← command ("core show channel " ++ channelName)
  variablesDict (extractVariables response)

/-! ## The dump of a channel -/

/-- A variable with its value. -/
abbrev Variable : Type := String × String

/-- The line of a variable. -/
def Variable.line (v : Variable) : String := v.1 ++ "=" ++ v.2

/-- Channel variables: no two have one name, and the names are without `=`. -/
structure Dumpable (vars : List Variable) : Prop where
  nodup : (vars.map Prod.fst).Nodup
  plain : ∀ v ∈ vars, '=' ∉ v.1.toList

/-- The dictionary has the variables with the prefix, without it, and each of them apart. -/
structure Recovers (vars : List Variable) (d : Effect.Dict String String) : Prop where
  exact : ∀ name value, d.get name = some value ↔ (variablePrefix ++ name, value) ∈ vars
  apart : d.keys.length = (vars.filter fun v => isExposed v.1).length

/-- The prefix stands somewhere in the text. -/
def HasPrefixInside (text : String) : Prop := variablePrefix.toList <:+: text.toList

instance (text : String) : Decidable (HasPrefixInside text) :=
  inferInstanceAs (Decidable (_ <:+: _))

/-! ## One line -/

section Lines

variable {name value rest : String} {v w : Variable}

theorem unprefixed_of_not (h : ¬ HasPrefixInside value) : unprefixed value = value := by
  unfold unprefixed
  rw [deleteAll_eq_self h, String.ofList_toList]

theorem length_unprefixed_le (value : String) : (unprefixed value).length ≤ value.length := by
  unfold unprefixed
  rw [String.length_ofList, ← String.length_toList]
  exact length_deleteAll_le _ _

theorem length_unprefixed_lt (h : HasPrefixInside value) :
    (unprefixed value).length < value.length := by
  unfold unprefixed
  rw [String.length_ofList, ← String.length_toList]
  exact length_deleteAll_lt (by decide) h

theorem unprefixed_append (rest : String) :
    unprefixed (variablePrefix ++ rest) = unprefixed rest := by
  unfold unprefixed
  rw [String.toList_append, deleteAll_append (by decide)]

theorem isExposed_iff : isExposed name = true ↔ ∃ rest, name = variablePrefix ++ rest := by
  unfold isExposed
  rw [decide_eq_true_iff]
  constructor
  · rintro ⟨l, hl⟩
    refine ⟨String.ofList l, ?_⟩
    rw [← String.toList_inj, String.toList_append, String.toList_ofList, hl]
  · rintro ⟨rest, rfl⟩
    rw [String.toList_append]
    exact List.prefix_append _ _

theorem line_toList (v : Variable) : v.line.toList = v.1.toList ++ '=' :: v.2.toList := by
  unfold Variable.line
  simp

/-- A line starts with the prefix when its name does. -/
theorem isExposed_line (v : Variable) : isExposed v.line = isExposed v.1 := by
  unfold isExposed
  rw [line_toList]
  exact decide_eq_decide.mpr (prefix_append_cons_iff (by decide))

/-- Name and value lose the prefix apart. -/
theorem splitVariable_line (h : '=' ∉ v.1.toList) :
    splitVariable (unprefixed v.line) = (unprefixed v.1, some (unprefixed v.2)) := by
  have hname : '=' ∉ deleteAll variablePrefix.toList v.1.toList :=
    fun hmem => h (mem_of_mem_deleteAll hmem)
  unfold splitVariable unprefixed
  rw [String.toList_ofList, line_toList, deleteAll_append_cons (by decide) (by decide),
    splitFirst_append hname]
  rfl

end Lines

/-! ## The dictionary -/

section Dictionary

variable {vars : List Variable} {header : List String} {d : Effect.Dict String String}

/-- The lines without the prefix are left out, and each of the others gives its variable. -/
theorem extractVariables_dump (hheader : ∀ line ∈ header, isExposed line = false)
    (hvars : Dumpable vars) :
    extractVariables (header ++ vars.map Variable.line) =
      (vars.filter fun v => isExposed v.1).map fun v =>
        (unprefixed v.1, some (unprefixed v.2)) := by
  unfold extractVariables
  have hnone : header.filter isExposed = [] := by
    rw [List.filter_eq_nil_iff]
    intro line hline
    simp [hheader line hline]
  rw [List.filter_append, hnone, List.nil_append, List.filter_map, List.map_map]
  have hexposed : isExposed ∘ Variable.line = fun v => isExposed v.1 := funext isExposed_line
  rw [hexposed]
  refine List.map_congr_left fun v hv => ?_
  exact splitVariable_line (hvars.plain v (List.mem_of_mem_filter hv))

/-- A dictionary of pairs, the last one of a key. -/
def ofPairs (pairs : List Variable) : Effect.Dict String String :=
  pairs.foldl (fun d p => d.set p.1 p.2) ∅

theorem variablesDict_some (pairs : List Variable) :
    variablesDict (pairs.map fun p => (p.1, some p.2)) = .ok (ofPairs pairs) := by
  unfold variablesDict ofPairs
  generalize (∅ : Effect.Dict String String) = d
  induction pairs generalizing d with
  | nil => rfl
  | cons p pairs ih => exact ih (d.set p.1 p.2)

theorem assigns_set (pairs : List Variable) :
    Assigns (fun d : Effect.Dict String String => d.get) (fun d p => d.set p.1 p.2) some pairs :=
  fun d p _ k => d.get_set p.1 k p.2

/-- What a dictionary of pairs has is one of the pairs. -/
theorem mem_of_ofPairs {pairs : List Variable} {name value : String}
    (h : (ofPairs pairs).get name = some value) : (name, value) ∈ pairs := by
  rcases (assigns_set pairs).source (s := ∅) h with hempty | ⟨p, hp, heq⟩
  · cases hempty
  · rw [← Option.some.inj heq]
    exact hp

/-- It has all of them when no two have one key. -/
theorem ofPairs_iff {pairs : List Variable} (hnodup : (pairs.map Prod.fst).Nodup)
    {name value : String} : (ofPairs pairs).get name = some value ↔ (name, value) ∈ pairs := by
  have hagree : ∀ p ∈ pairs, ∀ q ∈ pairs, ∀ v w, some p = some (name, v) →
      some q = some (name, w) → v = w := by
    rintro p hp q hq v w hpv hqw
    obtain rfl := Option.some.inj hpv
    obtain rfl := Option.some.inj hqw
    exact congrArg Prod.snd (List.inj_on_of_nodup_map hnodup hp hq rfl)
  rw [ofPairs, (assigns_set pairs).shows_iff (s := ∅) rfl hagree]
  simp

/-- The variables that are exposed, with what is left of their names and values. -/
def exposedPairs (vars : List Variable) : List Variable :=
  (vars.filter fun v => isExposed v.1).map fun v => (unprefixed v.1, unprefixed v.2)

theorem getChannelVariables_dump {command : String → Except VariablesExn (List String)}
    {channelName : String} (hvars : Dumpable vars)
    (hheader : ∀ line ∈ header, isExposed line = false)
    (hdump : command ("core show channel " ++ channelName) =
      .ok (header ++ vars.map Variable.line)) :
    getChannelVariables command channelName = .ok (ofPairs (exposedPairs vars)) := by
  unfold getChannelVariables
  rw [hdump]
  show variablesDict (extractVariables (header ++ vars.map Variable.line)) = _
  rw [extractVariables_dump hheader hvars, ← variablesDict_some, exposedPairs, List.map_map]
  rfl

/-- The prefix stands neither behind the prefix of the name nor in the value. -/
def Clean (v : Variable) : Prop :=
  ∀ rest, v.1 = variablePrefix ++ rest → ¬ HasPrefixInside rest ∧ ¬ HasPrefixInside v.2

theorem prefix_append_inj {name rest : String}
    (h : variablePrefix ++ name = variablePrefix ++ rest) : name = rest := by
  rw [← String.toList_inj, String.toList_append, String.toList_append] at h
  exact String.toList_inj.mp (List.append_cancel_left h)

/-- Of a clean variable the prefix is deleted, and nothing else. -/
theorem mem_exposedPairs_of_clean (hclean : ∀ v ∈ vars, Clean v) {name value : String} :
    (name, value) ∈ exposedPairs vars ↔ (variablePrefix ++ name, value) ∈ vars := by
  unfold exposedPairs
  rw [List.mem_map]
  constructor
  · rintro ⟨v, hv, heq⟩
    obtain ⟨hmem, hexposed⟩ := List.mem_filter.mp hv
    obtain ⟨rest, hrest⟩ := isExposed_iff.mp hexposed
    obtain ⟨hname, hvalue⟩ := hclean v hmem rest hrest
    rw [hrest, unprefixed_append, unprefixed_of_not hname, unprefixed_of_not hvalue] at heq
    rw [← (Prod.mk.inj heq).1, ← (Prod.mk.inj heq).2, ← hrest]
    exact hmem
  · intro hmem
    have hexposed : isExposed (variablePrefix ++ name) = true := isExposed_iff.mpr ⟨name, rfl⟩
    obtain ⟨hname, hvalue⟩ := hclean _ hmem name rfl
    refine ⟨_, List.mem_filter.mpr ⟨hmem, hexposed⟩, ?_⟩
    rw [unprefixed_append, unprefixed_of_not hname, unprefixed_of_not hvalue]

theorem nodup_exposedPairs (hnodup : (vars.map Prod.fst).Nodup)
    (hclean : ∀ v ∈ vars, Clean v) : ((exposedPairs vars).map Prod.fst).Nodup := by
  unfold exposedPairs
  rw [List.map_map]
  have hvars : vars.Nodup := hnodup.of_map
  refine (hvars.filter _).map_on fun v hv w hw heq => ?_
  obtain ⟨hv, hv'⟩ := List.mem_filter.mp hv
  obtain ⟨hw, hw'⟩ := List.mem_filter.mp hw
  obtain ⟨rest, hrest⟩ := isExposed_iff.mp hv'
  obtain ⟨rest', hrest'⟩ := isExposed_iff.mp hw'
  have heq : unprefixed v.1 = unprefixed w.1 := heq
  rw [hrest, hrest', unprefixed_append, unprefixed_append,
    unprefixed_of_not (hclean v hv rest hrest).1,
    unprefixed_of_not (hclean w hw rest' hrest').1] at heq
  have hname : v.1 = w.1 := by rw [hrest, hrest', heq]
  exact List.inj_on_of_nodup_map hnodup hv hw hname

/-- A dictionary with exactly the exposed variables has a key for each. -/
theorem length_keys (hnodup : (vars.map Prod.fst).Nodup)
    (hexact : ∀ name value, d.get name = some value ↔ (variablePrefix ++ name, value) ∈ vars) :
    d.keys.length = (vars.filter fun v => isExposed v.1).length := by
  have hkeys : (d.keys.map (variablePrefix ++ ·)).Nodup :=
    d.nodup.map fun _ _ => prefix_append_inj
  have hnames : ((vars.filter fun v => isExposed v.1).map Prod.fst).Nodup :=
    hnodup.sublist (List.filter_sublist.map _)
  have hperm := (List.perm_ext_iff_of_nodup hkeys hnames).mpr ?_
  · simpa using hperm.length_eq
  · intro name
    simp only [List.mem_map, List.mem_filter, Prod.exists, exists_and_right, exists_eq_right]
    constructor
    · rintro ⟨key, hkey, rfl⟩
      obtain ⟨value, hvalue⟩ := Option.isSome_iff_exists.mp ((d.mem_keys key).mp hkey)
      exact ⟨⟨value, (hexact key value).mp hvalue⟩, isExposed_iff.mpr ⟨key, rfl⟩⟩
    · rintro ⟨⟨value, hmem⟩, hexposed⟩
      obtain ⟨rest, rfl⟩ := isExposed_iff.mp hexposed
      exact ⟨rest, Effect.Dict.mem_keys_of_get ((hexact rest value).mpr hmem), rfl⟩

/-- No variable that is not clean is recovered with all the others: the longest of them would
have to come from a longer one. -/
theorem clean_of_recovers (h : ∀ name value, (variablePrefix ++ name, value) ∈ vars →
      (name, value) ∈ exposedPairs vars) : ∀ v ∈ vars, Clean v := by
  classical
  by_contra hdirty
  push Not at hdirty
  obtain ⟨v₀, hv₀, hclean₀⟩ := hdirty
  let dirty := vars.toFinset.filter fun v => ¬ Clean v
  have hne : dirty.Nonempty := ⟨v₀, by simp [dirty, hv₀, hclean₀]⟩
  obtain ⟨v, hv, hmax⟩ := dirty.exists_max_image (fun v => v.1.length + v.2.length) hne
  obtain ⟨hv, hnot⟩ : v ∈ vars ∧ ¬ Clean v := by simpa [dirty] using hv
  unfold Clean at hnot
  push Not at hnot
  obtain ⟨rest, hrest, hinside⟩ := hnot
  have hmem : (rest, v.2) ∈ exposedPairs vars := h rest v.2 (by rw [← hrest]; exact hv)
  obtain ⟨w, hw, heq⟩ := List.mem_map.mp hmem
  obtain ⟨hw, hexposed⟩ := List.mem_filter.mp hw
  obtain ⟨rest', hrest'⟩ := isExposed_iff.mp hexposed
  have hname : unprefixed rest' = rest := by
    rw [← unprefixed_append, ← hrest']
    exact (Prod.mk.inj heq).1
  have hvalue : unprefixed w.2 = v.2 := (Prod.mk.inj heq).2
  by_cases hw' : HasPrefixInside rest' ∨ HasPrefixInside w.2
  · have hdirty : w ∈ dirty := by
      have hnot : ¬ Clean w := by
        intro hclean
        obtain ⟨h₁, h₂⟩ := hclean rest' hrest'
        exact hw'.elim h₁ h₂
      simp [dirty, hw, hnot]
    have hle := hmax w hdirty
    rw [hrest, hrest', String.length_append, String.length_append] at hle
    have hrestle := length_unprefixed_le rest'
    have hvaluele := length_unprefixed_le w.2
    rw [hname] at hrestle
    rw [hvalue] at hvaluele
    rcases hw' with hinside' | hinside'
    · have hlt := length_unprefixed_lt hinside'
      rw [hname] at hlt
      omega
    · have hlt := length_unprefixed_lt hinside'
      rw [hvalue] at hlt
      omega
  · rw [not_or] at hw'
    rw [unprefixed_of_not hw'.1] at hname
    rw [unprefixed_of_not hw'.2] at hvalue
    rw [hname] at hw'
    exact hw'.2 (hvalue ▸ hinside hw'.1)

/-- The variables of a call are those of the channel with the prefix, without it, exactly when
the prefix stands nowhere else in such a variable. -/
theorem variables_recovered_iff {command : String → Except VariablesExn (List String)}
    {channelName : String} (hvars : Dumpable vars)
    (hheader : ∀ line ∈ header, isExposed line = false)
    (hdump : command ("core show channel " ++ channelName) =
      .ok (header ++ vars.map Variable.line)) :
    (∃ d, getChannelVariables command channelName = .ok d ∧ Recovers vars d) ↔
      ∀ v ∈ vars, Clean v := by
  rw [getChannelVariables_dump hvars hheader hdump]
  constructor
  · rintro ⟨d, hd, hrecovers⟩
    obtain rfl := Except.ok.inj hd
    exact clean_of_recovers fun name value hmem =>
      mem_of_ofPairs ((hrecovers.exact name value).mpr hmem)
  · intro hclean
    have hexact (name value : String) : (ofPairs (exposedPairs vars)).get name = some value ↔
        (variablePrefix ++ name, value) ∈ vars := by
      rw [ofPairs_iff (nodup_exposedPairs hvars.nodup hclean), mem_exposedPairs_of_clean hclean]
    exact ⟨_, rfl, hexact, length_keys hvars.nodup hexact⟩

/-- What amid answers for the channel of a name, with these lines. -/
def respond (channelName : String) (lines : List String) (command : String) :
    Except VariablesExn (List String) :=
  if command = "core show channel " ++ channelName then .ok lines else .error .requestFailed

theorem respond_apply (channelName : String) (lines : List String) :
    respond channelName lines ("core show channel " ++ channelName) = .ok lines :=
  if_pos rfl

/-- Two variables, one of them exposed; its value has a `=`. -/
def exposedOnce : List Variable := [("X_WAZO_FOO", "a=b"), ("BAR", "X_WAZO_")]

theorem variables_recovered_iff_exposed :
    ∃ d, getChannelVariables
        (respond "PJSIP/1" (["Variables:"] ++ exposedOnce.map Variable.line)) "PJSIP/1" = .ok d ∧
      Recovers exposedOnce d := by
  refine (variables_recovered_iff ⟨by decide, by decide⟩ (by decide)
    (respond_apply _ _)).mpr ?_
  intro v hv rest hrest
  rcases List.mem_pair.mp hv with rfl | rfl
  · obtain rfl : "FOO" = rest := prefix_append_inj hrest
    decide
  · have hexposed : isExposed "BAR" = true := isExposed_iff.mpr ⟨rest, hrest⟩
    exact absurd hexposed (by decide)

/-- One variable has the prefix twice, and once in its value. -/
def repeated : List Variable := [("X_WAZO_FOO", "1"), ("X_WAZO_X_WAZO_FOO", "X_WAZO_2")]

/-- Of two variables one is left, with another value. -/
theorem repeated_prefix_lost :
    getChannelVariables (respond "PJSIP/1" ([] ++ repeated.map Variable.line)) "PJSIP/1" =
        .ok (ofPairs [("FOO", "1"), ("FOO", "2")]) ∧
      (ofPairs [("FOO", "1"), ("FOO", "2")]).items = [("FOO", "2")] := by
  have hvars : Dumpable repeated := ⟨by decide, by decide⟩
  have hpairs : exposedPairs repeated = [("FOO", "1"), ("FOO", "2")] := by decide
  rw [getChannelVariables_dump hvars (by simp) (respond_apply _ _), hpairs]
  exact ⟨rfl, by decide⟩

end Dictionary

end Calld.Applications
