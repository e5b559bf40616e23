/-
# The files of the voicemail messages

Asterisk writes what is known of a message in a file, one line `key=value` for a field, with a
section header and comments.  The parser splits a line at every `=` and strips the parts, so
that spaces around the first `=` do not matter; those around another `=`, in the value, are
lost too.
-/
import Calld.Effect.Texts
import Calld.Voicemails.Storage

namespace Calld.Voicemails

open Effect

/-! ## Bytes -/

abbrev Bytes := List UInt8

/-- The spaces of `bytes.strip`. -/
def isSpace (b : UInt8) : Bool := b = 32 || (9 ≤ b && b ≤ 13)

def newline : UInt8 := 10

def equals : UInt8 := 61

def encodeUtf8 (text : String) : Bytes := text.toByteArray.data.toList

/-- `value.decode('utf-8')`. -/
def decodeUtf8 (value : Bytes) : Option String := String.fromUTF8? ⟨value.toArray⟩

/-- `value.decode('ascii')`. -/
def decodeAscii (value : Bytes) : Option String :=
  if value.all (· < 128) then decodeUtf8 value else none

/-- The digits of an `int`, at most 4300 of them; an underscore stands between two digits. -/
def parseDigits (digits : Bytes) : Option ℕ :=
  let groups := digits.splitOn 95
  if groups.all (fun group => group ≠ [] && group.all fun b => 48 ≤ b && b ≤ 57) ∧
      groups.flatten.length ≤ 4300 then
    some (groups.flatten.foldl (fun n b => 10 * n + (b.toNat - 48)) 0)
  else none

/-- `int(value)`. -/
def parseInt (value : Bytes) : Option ℤ :=
  match strip isSpace value with
  | 45 :: digits => (parseDigits digits).map fun n => -n
  | 43 :: digits => (parseDigits digits).map fun n => n
  | digits => (parseDigits digits).map fun n => n

/-- The lines of a binary file, each with its end. -/
def readLines : Bytes → List Bytes
  | [] => []
  | b :: bs =>
    if b = newline then [b] :: readLines bs
    else match readLines bs with
      | [] => [[b]]
      | line :: lines => (b :: line) :: lines

/-! ## The parser -/

/-- The functions of `xivo.caller_id`. -/
structure CallerIdLib where
  isCompleteCallerId : String → Bool
  extractDisplayname : String → String
  extractNumber : String → String

/-- The fields of `_parse_table`. -/
inductive Field where
  | callerid | msgId | origtime | duration
  deriving DecidableEq, Repr

def parseTable : List Field := [.callerid, .msgId, .origtime, .duration]

def Field.key : Field → Bytes
  | .callerid => encodeUtf8 "callerid"
  | .msgId => encodeUtf8 "msg_id"
  | .origtime => encodeUtf8 "origtime"
  | .duration => encodeUtf8 "duration"

/-- The prefix of the field in the table. -/
def Field.start (field : Field) : Bytes := field.key ++ [equals]

inductive ParserExn where
  | unicodeDecodeError
  | valueError
  /-- `no line starting with ..` -/
  | missing (field : Field)
  deriving DecidableEq

/-- The dictionary `result`: what is `none` has no key yet. -/
structure InfoResult where
  callerIdName : Option (Option String) := none
  callerIdNum : Option (Option String) := none
  id : Option String := none
  timestamp : Option ℤ := none
  duration : Option ℤ := none
  empty : Option Bool := none
  deriving DecidableEq

/-- The name and the number that `_parse_callerid` sets. -/
def callerIdOf (lib : CallerIdLib) (value : String) : Option String × Option String :=
  if value = "Unknown" then (none, none)
  else if lib.isCompleteCallerId value then
    (some (lib.extractDisplayname value), some (lib.extractNumber value))
  else (none, some value)

/-- `_parse_callerid`, `_parse_msg_id`, `_parse_origtime` and `_parse_duration`. -/
def Field.parse (lib : CallerIdLib) (field : Field) (value : Bytes) (result : InfoResult) :
    Except ParserExn InfoResult :=
  match field with
  | .callerid =>
    match decodeUtf8 value with
    | none => throw .unicodeDecodeError
    | some value =>
      let (name, number) := callerIdOf lib value
      pure { result with callerIdName := some name, callerIdNum := some number }
  | .msgId =>
    match decodeAscii value with
    | none => throw .unicodeDecodeError
    | some value => pure { result with id := some value }
  | .origtime =>
    match parseInt value with
    | none => throw .valueError
    | some n => pure { result with timestamp := some n }
  | .duration =>
    match parseInt value with
    | none => throw .valueError
    | some n => pure { result with duration := some n, empty := some (n = 0) }

/-- `_extract_value`. -/
def extractValue (line : Bytes) : Bytes := rstrip isSpace (line.dropWhile (· ≠ equals)).tail

/-- What the loop of the parser has so far. -/
structure ParserState where
  result : InfoResult := {}
  parsed : List Field := []

/-- What is done with a line. -/
def parseLine (lib : CallerIdLib) (s : ParserState) (line : Bytes) :
    Except ParserExn ParserState :=
  let line := stripParts isSpace equals line
  parseTable.foldlM (fun s field => do
    if field.start <+: line then
      let result ← field.parse lib (extractValue line) s.result
      pure ⟨result, field :: s.parsed⟩
    else pure s) s

/-- The check that everything was parsed. -/
def ParserState.check (s : ParserState) : Except ParserExn InfoResult :=
  match parseTable.find? (· ∉ s.parsed) with
  | some field => throw (.missing field)
  | none => pure s.result

/-- `_MessageInfoParser.parse`. -/
def parseInfo (lib : CallerIdLib) (fobj : Bytes) : Except ParserExn InfoResult := do
  let s ← (readLines fobj).foldlM (parseLine lib) {}
  s.check

/-! ## What reaches the parsers of the fields -/

/-- The texts that a line gives to the parsers of the fields. -/
def lineCalls (line : Bytes) : List (Field × Bytes) :=
  let line := stripParts isSpace equals line
  (parseTable.filter fun field => field.start <+: line).map fun field => (field, extractValue line)

/-- The texts that reach the parsers of the fields, in their order. -/
def reached (fobj : Bytes) : List (Field × Bytes) := (readLines fobj).flatMap lineCalls

/-- A parser of a field gets a text. -/
def ParserState.call (lib : CallerIdLib) (s : ParserState) (arg : Field × Bytes) :
    Except ParserExn ParserState := do
  let result ← arg.1.parse lib arg.2 s.result
  pure ⟨result, arg.1 :: s.parsed⟩

section Calls

variable {lib : CallerIdLib} {s s' : ParserState} {line fobj v : Bytes} {f g : Field}
  {args : List (Field × Bytes)} {result r r' : InfoResult}

theorem parseLine_eq : parseLine lib s line = (lineCalls line).foldlM (ParserState.call lib) s := by
  unfold parseLine lineCalls
  rw [List.foldlM_map, List.foldlM_filter]
  simp only [decide_eq_true_eq]
  rfl

/-- The parser does nothing but call those of the fields. -/
theorem parseInfo_eq : parseInfo lib fobj =
    (reached fobj).foldlM (ParserState.call lib) {} >>= ParserState.check := by
  have hlines (lines : List Bytes) (s : ParserState) : lines.foldlM (parseLine lib) s =
      (lines.flatMap lineCalls).foldlM (ParserState.call lib) s := by
    induction lines generalizing s with
    | nil => rfl
    | cons line lines ih =>
      rw [List.foldlM_cons, List.flatMap_cons, List.foldlM_append, parseLine_eq]
      exact bind_congr fun s' => ih s'
  unfold parseInfo reached
  rw [hlines]

/-- What a result has of a field. -/
def InfoResult.only (r : InfoResult) : Field → InfoResult
  | .callerid => { callerIdName := r.callerIdName, callerIdNum := r.callerIdNum }
  | .msgId => { id := r.id }
  | .origtime => { timestamp := r.timestamp }
  | .duration => { duration := r.duration, empty := r.empty }

/-- The parser of a field sets this field as it would in an empty result. -/
theorem Field.parse_only (h : f.parse lib v r = .ok r') : f.parse lib v {} = .ok (r'.only f) := by
  unfold Field.parse at h ⊢
  cases f with
  | callerid =>
    rcases hdecode : decodeUtf8 v with _ | text <;> rw [hdecode] at h <;> cases h
    rfl
  | msgId =>
    rcases hdecode : decodeAscii v with _ | text <;> rw [hdecode] at h <;> cases h
    rfl
  | origtime =>
    rcases hint : parseInt v with _ | n <;> rw [hint] at h <;> cases h
    rfl
  | duration =>
    rcases hint : parseInt v with _ | n <;> rw [hint] at h <;> cases h
    rfl

/-- It leaves the other fields as they are. -/
theorem Field.parse_frame (h : f.parse lib v r = .ok r') (hne : g ≠ f) :
    r'.only g = r.only g := by
  unfold Field.parse at h
  cases f with
  | callerid =>
    rcases hdecode : decodeUtf8 v with _ | text <;> rw [hdecode] at h <;> cases h
    cases g <;> first | rfl | exact absurd rfl hne
  | msgId =>
    rcases hdecode : decodeAscii v with _ | text <;> rw [hdecode] at h <;> cases h
    cases g <;> first | rfl | exact absurd rfl hne
  | origtime =>
    rcases hint : parseInt v with _ | n <;> rw [hint] at h <;> cases h
    cases g <;> first | rfl | exact absurd rfl hne
  | duration =>
    rcases hint : parseInt v with _ | n <;> rw [hint] at h <;> cases h
    cases g <;> first | rfl | exact absurd rfl hne

theorem ParserState.call_ok (h : s.call lib (f, v) = .ok s') :
    f.parse lib v s.result = .ok s'.result ∧ s'.parsed = f :: s.parsed := by
  unfold ParserState.call at h
  rcases hparse : f.parse lib v s.result with e | r <;> rw [hparse] at h <;> cases h
  exact ⟨rfl, rfl⟩

/-- A field whose parser gets nothing is left as it is. -/
theorem calls_frame (h : args.foldlM (ParserState.call lib) s = .ok s')
    (hargs : args.filter (·.1 = f) = []) : s'.result.only f = s.result.only f := by
  induction args generalizing s with
  | nil =>
    cases h
    rfl
  | cons arg args ih =>
    obtain ⟨g, v⟩ := arg
    rw [List.filter_eq_nil_iff, List.forall_mem_cons] at hargs
    have hne : f ≠ g := by
      rintro rfl
      simp at hargs
    rw [List.foldlM_cons] at h
    rcases hcall : s.call lib (g, v) with e | s₁ <;> rw [hcall] at h
    · cases h
    · rw [ih h (List.filter_eq_nil_iff.mpr hargs.2)]
      exact Field.parse_frame (ParserState.call_ok hcall).1 hne

/-- A field whose parser gets one text is read from this text. -/
theorem calls_only (h : args.foldlM (ParserState.call lib) s = .ok s')
    (hargs : args.filter (·.1 = f) = [(f, v)]) :
    f.parse lib v {} = .ok (s'.result.only f) := by
  induction args generalizing s with
  | nil => cases hargs
  | cons arg args ih =>
    obtain ⟨g, w⟩ := arg
    rw [List.foldlM_cons] at h
    rcases hcall : s.call lib (g, w) with e | s₁ <;> rw [hcall] at h
    · cases h
    by_cases hg : g = f
    · subst hg
      rw [List.filter_cons_of_pos (by simp)] at hargs
      obtain ⟨hw, hrest⟩ := List.cons.inj hargs
      cases hw
      rw [calls_frame h hrest]
      exact Field.parse_only (ParserState.call_ok hcall).1
    · rw [List.filter_cons_of_neg (by simpa using hg)] at hargs
      exact ih h hargs

theorem check_ok (h : s.check = .ok result) : s.result = result ∧ ∀ f, f ∈ s.parsed := by
  unfold ParserState.check at h
  rcases hfind : parseTable.find? (· ∉ s.parsed) with _ | f <;> rw [hfind] at h <;> cases h
  refine ⟨rfl, fun f => ?_⟩
  have hf : f ∈ parseTable := by cases f <;> decide
  simpa using List.find?_eq_none.mp hfind f hf

/-- What the parser makes of a field that gets one text. -/
theorem parseInfo_only (h : parseInfo lib fobj = .ok result)
    (hargs : (reached fobj).filter (·.1 = f) = [(f, v)]) :
    f.parse lib v {} = .ok (result.only f) := by
  rw [parseInfo_eq] at h
  rcases hcalls : (reached fobj).foldlM (ParserState.call lib) {} with e | s <;> rw [hcalls] at h
  · cases h
  · obtain ⟨rfl, -⟩ := check_ok h
    exact calls_only hcalls hargs

end Calls

/-! ## A result is complete -/

/-- The result of a parser that has parsed everything. -/
def InfoResult.toParseResult (r : InfoResult) : Option ParseResult := do
  pure ⟨← r.callerIdName, ← r.callerIdNum, ← r.id, ← r.timestamp, ← r.duration, ← r.empty⟩

/-- What a directory has for a file with these bytes: the result, if it can be parsed. -/
def fileContent (lib : CallerIdLib) (fobj : Bytes) : Option ParseResult :=
  match parseInfo lib fobj with
  | .ok result => result.toParseResult
  | .error _ => none

section Complete

variable {lib : CallerIdLib} {s s' : ParserState} {fobj : Bytes} {args : List (Field × Bytes)}
  {result : InfoResult}

/-- Every field that was parsed is in the result, as its parser has set it. -/
def ParserState.Set (lib : CallerIdLib) (s : ParserState) : Prop :=
  ∀ f ∈ s.parsed, ∃ v, f.parse lib v {} = .ok (s.result.only f)

theorem ParserState.Set.call {arg : Field × Bytes} (hset : s.Set lib)
    (h : s.call lib arg = .ok s') : s'.Set lib := by
  obtain ⟨g, w⟩ := arg
  obtain ⟨hparse, hparsed⟩ := ParserState.call_ok h
  intro f hf
  by_cases hg : f = g
  · subst hg
    exact ⟨w, Field.parse_only hparse⟩
  · rw [hparsed] at hf
    rw [Field.parse_frame hparse hg]
    exact hset f (List.mem_of_ne_of_mem hg hf)

theorem ParserState.Set.calls (hset : s.Set lib)
    (h : args.foldlM (ParserState.call lib) s = .ok s') : s'.Set lib := by
  induction args generalizing s with
  | nil =>
    cases h
    exact hset
  | cons arg args ih =>
    rw [List.foldlM_cons] at h
    rcases hcall : s.call lib arg with e | s₁ <;> rw [hcall] at h
    · cases h
    · exact ih (hset.call hcall) h

/-- **A file that is accepted gives every field of a message**, and the message is empty when
its duration is null. -/
theorem parseInfo_complete (h : parseInfo lib fobj = .ok result) :
    ∃ p : ParseResult, fileContent lib fobj = some p ∧ result.toParseResult = some p ∧
      p.empty = decide (p.duration = 0) := by
  have hset : ∀ f : Field, ∃ v, f.parse lib v {} = .ok (result.only f) := by
    rw [parseInfo_eq] at h
    rcases hcalls : (reached fobj).foldlM (ParserState.call lib) {} with e | s <;>
      rw [hcalls] at h
    · cases h
    · obtain ⟨rfl, hparsed⟩ := check_ok h
      have hinit : ParserState.Set lib {} := by
        intro f hf
        cases hf
      exact fun f => hinit.calls hcalls f (hparsed f)
  have hcontent : fileContent lib fobj = result.toParseResult := by
    unfold fileContent
    rw [h]
  obtain ⟨callerIdName, callerIdNum, id, timestamp, duration, empty⟩ := result
  obtain ⟨v, hcallerid⟩ := hset .callerid
  obtain ⟨v₁, hid⟩ := hset .msgId
  obtain ⟨v₂, htimestamp⟩ := hset .origtime
  obtain ⟨v₃, hduration⟩ := hset .duration
  unfold Field.parse at hcallerid hid htimestamp hduration
  rcases hdecode : decodeUtf8 v with _ | name <;> rw [hdecode] at hcallerid <;> cases hcallerid
  rcases hascii : decodeAscii v₁ with _ | text <;> rw [hascii] at hid <;> cases hid
  rcases hint : parseInt v₂ with _ | n <;> rw [hint] at htimestamp <;> cases htimestamp
  rcases hint' : parseInt v₃ with _ | m <;> rw [hint'] at hduration <;> cases hduration
  exact ⟨_, hcontent, rfl, rfl⟩

end Complete

/-! ## Rendered files -/

/-- A line of a message file: a field, or a line with no `=`, such as the section header and
the comments. -/
inductive InfoLine where
  | field (key value : Bytes)
  | other (text : Bytes)

namespace InfoLine

/-- A line is one line, and the first `=` of a field ends its key. -/
def Valid : InfoLine → Prop
  | .field key value => equals ∉ key ∧ newline ∉ key ∧ newline ∉ value
  | .other text => equals ∉ text ∧ newline ∉ text

instance : DecidablePred Valid
  | .field key value =>
    inferInstanceAs (Decidable (equals ∉ key ∧ newline ∉ key ∧ newline ∉ value))
  | .other text => inferInstanceAs (Decidable (equals ∉ text ∧ newline ∉ text))

/-- The key, with no spaces around it. -/
def key? : InfoLine → Option Bytes
  | .field key _ => some (strip isSpace key)
  | .other _ => none

/-- The line without its end. -/
def text : InfoLine → Bytes
  | .field key value => key ++ equals :: value
  | .other text => text

/-- The line is one of a field that is known. -/
def isKnown (line : InfoLine) : Bool :=
  parseTable.any fun field => line.key? = some field.key

end InfoLine

/-- The file with these lines. -/
def render (file : List InfoLine) : Bytes := file.flatMap fun line => line.text ++ [newline]

section Rendered

variable {lib : CallerIdLib} {file : List InfoLine} {line : InfoLine} {key value rest : Bytes}
  {f : Field}

theorem readLines_append (h : newline ∉ key) :
    readLines (key ++ newline :: rest) = (key ++ [newline]) :: readLines rest := by
  induction key with
  | nil => rfl
  | cons b bs ih =>
    obtain ⟨hb, hbs⟩ := not_or.mp (mt List.mem_cons.mpr h)
    rw [List.cons_append, readLines, if_neg (Ne.symm hb), ih hbs]
    rfl

theorem InfoLine.Valid.newline_notMem (h : line.Valid) : newline ∉ line.text := by
  cases line with
  | field key value =>
    obtain ⟨-, hkey, hvalue⟩ := h
    simp only [InfoLine.text, List.mem_append, List.mem_cons, not_or]
    exact ⟨hkey, by decide, hvalue⟩
  | other text => exact h.2

/-- The lines of a rendered file are read one by one. -/
theorem reached_render (valid : ∀ line ∈ file, line.Valid) :
    reached (render file) = file.flatMap fun line => lineCalls (line.text ++ [newline]) := by
  induction file with
  | nil => rfl
  | cons line file ih =>
    rw [List.forall_mem_cons] at valid
    have hlines : readLines (render (line :: file)) =
        (line.text ++ [newline]) :: readLines (render file) := by
      unfold render
      rw [List.flatMap_cons, List.append_assoc]
      exact readLines_append valid.1.newline_notMem
    unfold reached at ih ⊢
    rw [hlines, List.flatMap_cons, List.flatMap_cons, ih valid.2]

theorem notMem_key (f : Field) : equals ∉ f.key := by
  cases f <;> decide

theorem ne_equals_of_mem (h : equals ∉ key) : ∀ b ∈ key, decide (b ≠ equals) = true := by
  intro b hb
  rw [decide_eq_true_eq]
  rintro rfl
  exact h hb

theorem newline_space : ∀ b ∈ [newline], isSpace b := by
  intro b hb
  rw [List.mem_singleton.mp hb]
  rfl

/-- A line with a key starts with the prefix of a field when it is the key of the field. -/
theorem start_prefix_iff (h : equals ∉ key) : f.start <+: key ++ equals :: rest ↔ f.key = key := by
  unfold Field.start
  constructor
  · rintro ⟨t, ht⟩
    have hkeys := congrArg (List.takeWhile (· ≠ equals)) ht
    rw [List.append_assoc, List.singleton_append,
      List.takeWhile_append_of_pos (ne_equals_of_mem (notMem_key f)),
      List.takeWhile_append_of_pos (ne_equals_of_mem h)] at hkeys
    simpa using hkeys
  · rintro rfl
    exact ⟨rest, by simp⟩

/-- What the parser of a field gets of a value. -/
def passed (value : Bytes) : Bytes := rstrip isSpace (stripParts isSpace equals value)

theorem lineCalls_field (h : equals ∉ key) : lineCalls (key ++ equals :: value ++ [newline]) =
    (parseTable.filter fun g => g.key = strip isSpace key).map fun g => (g, passed value) := by
  have hkey : equals ∉ strip isSpace key := fun hmem => h (mem_of_mem_strip hmem)
  have hline : stripParts isSpace equals (key ++ equals :: value ++ [newline]) =
      strip isSpace key ++ equals :: stripParts isSpace equals value := by
    rw [stripParts_append_right rfl newline_space, stripParts_append h]
  have hvalue : extractValue (strip isSpace key ++ equals :: stripParts isSpace equals value) =
      passed value := by
    unfold extractValue passed
    rw [List.dropWhile_append_of_pos (ne_equals_of_mem hkey),
      List.dropWhile_cons_of_neg (by simp)]
    rfl
  unfold lineCalls
  rw [hline]
  dsimp only
  rw [hvalue]
  simp only [start_prefix_iff hkey]

theorem lineCalls_other (h : equals ∉ key) : lineCalls (key ++ [newline]) = [] := by
  have hline : equals ∉ stripParts isSpace equals (key ++ [newline]) := by
    rw [stripParts_append_right rfl newline_space, stripParts_of_not_mem h]
    exact fun hmem => h (mem_of_mem_strip hmem)
  unfold lineCalls
  rw [List.map_eq_nil_iff, List.filter_eq_nil_iff]
  intro g _ hprefix
  refine hline ((of_decide_eq_true hprefix).subset ?_)
  exact List.mem_append_right _ (List.mem_singleton_self _)

/-- A line with the key of a field reaches its parser. -/
theorem lineCalls_own (h : equals ∉ key) (hkey : strip isSpace key = f.key) :
    (lineCalls (key ++ equals :: value ++ [newline])).filter (·.1 = f) = [(f, passed value)] := by
  rw [lineCalls_field h, hkey]
  cases f <;> rfl

/-- A line with another key, or with none, does not. -/
theorem lineCalls_foreign (h : line.Valid) (hkey : line.key? ≠ some f.key) :
    (lineCalls (line.text ++ [newline])).filter (·.1 = f) = [] := by
  cases line with
  | other text =>
    rw [InfoLine.text, lineCalls_other h.1]
    rfl
  | field key value =>
    rw [InfoLine.text, lineCalls_field h.1, List.filter_eq_nil_iff]
    intro arg harg
    obtain ⟨g, hg, rfl⟩ := List.mem_map.mp harg
    have hgkey : g.key = strip isSpace key := of_decide_eq_true (List.mem_filter.mp hg).2
    rw [decide_eq_true_eq]
    rintro rfl
    exact hkey (congrArg some hgkey.symm)

/-- A line that no field has does not reach any parser. -/
theorem lineCalls_unknown (h : line.Valid) (hunknown : line.isKnown = false) :
    lineCalls (line.text ++ [newline]) = [] := by
  cases line with
  | other text => exact lineCalls_other h.1
  | field key value =>
    rw [InfoLine.text, lineCalls_field h.1, List.map_eq_nil_iff, List.filter_eq_nil_iff]
    intro g hg hkey
    simp only [InfoLine.isKnown, InfoLine.key?, List.any_eq_false] at hunknown
    exact hunknown g hg (by simpa using (of_decide_eq_true hkey).symm)

/-- A field with its own key is the only one that reaches its parser. -/
theorem reached_filter (valid : ∀ line ∈ file, line.Valid)
    (distinct : (file.filterMap InfoLine.key?).Nodup) (hmem : .field key value ∈ file)
    (hkey : strip isSpace key = f.key) :
    (reached (render file)).filter (·.1 = f) = [(f, passed value)] := by
  obtain ⟨before, after, rfl⟩ := List.append_of_mem hmem
  have hown : (InfoLine.field key value).key? = some f.key := congrArg some hkey
  have hother : ∀ line ∈ before ++ after, line.key? ≠ some f.key := by
    rw [List.filterMap_append, List.filterMap_cons_some hown] at distinct
    intro line hline hsame
    refine (List.nodup_middle.mp distinct).notMem ?_
    rw [← List.filterMap_append]
    exact List.mem_filterMap.mpr ⟨line, hline, hsame⟩
  have hnone (lines : List InfoLine) (hlines : ∀ line ∈ lines, line ∈ before ++ after) :
      (lines.flatMap fun line => (lineCalls (line.text ++ [newline])).filter (·.1 = f)) = [] := by
    rw [List.flatMap_eq_nil_iff]
    intro line hline
    refine lineCalls_foreign (valid line ?_) (hother line (hlines line hline))
    rcases List.mem_append.mp (hlines line hline) with h | h
    · exact List.mem_append_left _ h
    · exact List.mem_append_right _ (List.mem_cons_of_mem _ h)
  rw [reached_render valid, List.filter_flatMap, List.flatMap_append, List.flatMap_cons,
    hnone before fun line h => List.mem_append_left _ h,
    hnone after fun line h => List.mem_append_right _ h,
    InfoLine.text, lineCalls_own (valid _ hmem).1 hkey]
  rfl

/-- Lines that no field has may be left out. -/
theorem reached_known (valid : ∀ line ∈ file, line.Valid) :
    reached (render (file.filter InfoLine.isKnown)) = reached (render file) := by
  rw [reached_render valid, reached_render fun line h => valid line (List.mem_filter.mp h).1]
  induction file with
  | nil => rfl
  | cons line file ih =>
    rw [List.forall_mem_cons] at valid
    by_cases hknown : line.isKnown
    · rw [List.filter_cons_of_pos hknown, List.flatMap_cons, List.flatMap_cons, ih valid.2]
    · rw [List.filter_cons_of_neg hknown, List.flatMap_cons, ih valid.2,
        lineCalls_unknown valid.1 (by simpa using hknown)]
      rfl

/-- A value with no spaces next to a `=` is passed as it is, but for those around it. -/
theorem passed_eq (h : Tight isSpace equals (strip isSpace value)) :
    passed value = strip isSpace value := by
  unfold passed
  rw [stripParts_eq rfl h, rstrip_strip]

theorem decodeUtf8_eq_some_iff {text : String} :
    decodeUtf8 value = some text ↔ encodeUtf8 text = value := by
  unfold decodeUtf8 encodeUtf8 String.fromUTF8?
  constructor
  · intro h
    split at h
    · cases h
      rfl
    · cases h
  · rintro rfl
    rw [dif_pos text.isValidUTF8]
    rfl

end Rendered

/-- **The parser of a field gets the value of its line, stripped, and nothing else, where no `=`
in the value has a space next to it; lines that no field has change nothing.** -/
theorem info_values_kept (lib : CallerIdLib) (file : List InfoLine)
    (valid : ∀ line ∈ file, line.Valid) (distinct : (file.filterMap InfoLine.key?).Nodup) :
    (∀ f key value, .field key value ∈ file → strip isSpace key = f.key →
      Tight isSpace equals (strip isSpace value) →
        (reached (render file)).filter (·.1 = f) = [(f, strip isSpace value)] ∧
        ∀ result, parseInfo lib (render file) = .ok result →
          f.parse lib (strip isSpace value) {} = .ok (result.only f)) ∧
    (∀ key value text result, .field key value ∈ file →
      strip isSpace key = Field.callerid.key → Tight isSpace equals (strip isSpace value) →
      encodeUtf8 text = strip isSpace value → lib.isCompleteCallerId text = false →
      text ≠ "Unknown" → parseInfo lib (render file) = .ok result →
        result.callerIdName = some none ∧ result.callerIdNum = some (some text)) ∧
    parseInfo lib (render (file.filter InfoLine.isKnown)) = parseInfo lib (render file) := by
  have hkept (f : Field) (key value : Bytes) (hmem : .field key value ∈ file)
      (hkey : strip isSpace key = f.key) (htight : Tight isSpace equals (strip isSpace value)) :
      (reached (render file)).filter (·.1 = f) = [(f, strip isSpace value)] := by
    rw [reached_filter valid distinct hmem hkey, passed_eq htight]
  refine ⟨fun f key value hmem hkey htight => ⟨hkept f key value hmem hkey htight, ?_⟩, ?_, ?_⟩
  · exact fun result hresult => parseInfo_only hresult (hkept f key value hmem hkey htight)
  · intro key value text result hmem hkey htight htext hincomplete hunknown hresult
    have hparse := parseInfo_only hresult (hkept _ key value hmem hkey htight)
    have hcaller : callerIdOf lib text = (none, some text) := by
      unfold callerIdOf
      rw [if_neg hunknown, hincomplete]
      rfl
    unfold Field.parse at hparse
    rw [decodeUtf8_eq_some_iff.mpr htext] at hparse
    dsimp only at hparse
    rw [hcaller] at hparse
    have honly := Except.ok.inj hparse
    exact ⟨(congrArg InfoResult.callerIdName honly).symm,
      (congrArg InfoResult.callerIdNum honly).symm⟩
  · rw [parseInfo_eq, parseInfo_eq, reached_known valid]

/-! ## Values that are not kept -/

/-- The file of a message from a caller, as Asterisk writes it. -/
def messageFrom (callerid : String) : List InfoLine :=
  [.other (encodeUtf8 "; Message Information file"), .other (encodeUtf8 "[message]"),
    .field (encodeUtf8 "origmailbox") (encodeUtf8 "1001"),
    .field (encodeUtf8 "callerid") (encodeUtf8 callerid),
    .field (encodeUtf8 "origtime") (encodeUtf8 "10"),
    .field (encodeUtf8 "msg_id") (encodeUtf8 "10-0"),
    .field (encodeUtf8 "duration") (encodeUtf8 "0")]

/-- A library that knows the caller id of one caller. -/
def oneCaller : CallerIdLib where
  isCompleteCallerId text := text = "\"Etienne\" <101>"
  extractDisplayname _ := "Etienne"
  extractNumber _ := "101"

/-- **The spaces around a `=` in a caller id are lost**, and an unknown caller has no number by
design. -/
theorem inner_spaces_lost :
    (reached (render (messageFrom "a = b"))).filter (·.1 = .callerid) =
        [(.callerid, encodeUtf8 "a=b")] ∧
      parseInfo oneCaller (render (messageFrom "a = b")) =
        .ok ⟨some none, some (some "a=b"), some "10-0", some 10, some 0, some true⟩ ∧
      parseInfo oneCaller (render (messageFrom "Unknown")) =
        .ok ⟨some none, some none, some "10-0", some 10, some 0, some true⟩ :=
  ⟨by decide, by decide, by decide⟩

/-- A caller id with a `=` and no spaces is kept. -/
theorem info_values_kept_tight :
    ∃ result, parseInfo oneCaller (render (messageFrom "a=b")) = .ok result ∧
      result.callerIdName = some none ∧ result.callerIdNum = some (some "a=b") := by
  obtain ⟨result, hresult⟩ : ∃ result, parseInfo oneCaller (render (messageFrom "a=b")) =
      .ok result :=
    ⟨⟨some none, some (some "a=b"), some "10-0", some 10, some 0, some true⟩, by decide⟩
  have hvalue : strip isSpace (encodeUtf8 "a=b") = [97, 61, 98] := by decide
  have htight : Tight isSpace equals (strip isSpace (encodeUtf8 "a=b")) := by
    rw [hvalue]
    refine .of_not_space ?_
    simp only [List.forall_mem_cons]
    exact ⟨rfl, rfl, rfl, fun _ h => by cases h⟩
  refine ⟨result, hresult, ?_⟩
  exact (info_values_kept oneCaller (messageFrom "a=b") (by decide) (by decide)).2.1
    (encodeUtf8 "callerid") (encodeUtf8 "a=b") "a=b" result (by simp [messageFrom])
    (by decide) htight (by decide) (by decide) (by decide) hresult

end Calld.Voicemails
