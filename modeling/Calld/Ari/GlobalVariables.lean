/-
# The adapters of the global variables

Asterisk keeps strings in its global variables.  Adapters put a name in front of a variable,
fix its name, or keep JSON values in it, and they are stacked on each other.  For a variable
that is not set ARI answers the empty string, or it does not find the variable: each adapter
takes one of the two answers only for a variable that is not set.
-/
import Calld.Effect.Program
import Calld.Transfers.JsonText

namespace Calld.Ari

open Effect Effect.Program

/-! ## Asterisk -/

/-- What ARI answers for a variable that is not set. -/
inductive UnsetAnswer where
  | emptyString
  | notFound
  deriving DecidableEq, Repr

/-- The answers for the variables that are not set, and what Python takes for a float. -/
structure VariableEnv where
  unset : String → UnsetAnswer
  reprFloat : String → String

inductive VariableExn where
  | ariNotFound
  | keyError (variable_ : String)
  | valueError
  deriving DecidableEq, Repr

def VariableExn.isNotFound (e : VariableExn) : Bool := e = .ariNotFound

/-- The variables that are set. -/
abbrev SetVariables := String → Option String

abbrev VariableCode := Effect.Program VariableEnv SetVariables VariableExn

/-- `ari.asterisk.getGlobalVar(variable)['value']`. -/
def getGlobalVar (variable_ : String) : VariableCode String := do
  match ← look fun g : SetVariables => g variable_ with
  | some value => pure value
  | none =>
    match ← ask fun env : VariableEnv => env.unset variable_ with
    | .emptyString => pure ""
    | .notFound => throw .ariNotFound

/-! ## The protocols -/

/-- `GlobalVariableAdapterProtocol`; a default that is `None` is none. -/
structure GlobalVariables (α : Type) where
  get : String → Option α → VariableCode α
  set : String → α → VariableCode Unit
  unset : String → VariableCode Unit

/-- `GlobalVariableConstantAdapterProtocol`. -/
structure ConstantVariable (α : Type) where
  get : Option α → VariableCode α
  set : α → VariableCode Unit
  unset : VariableCode Unit

/-! ## The adapters -/

def globalVariableAdapter : GlobalVariables String where
  get variable_ default := do
    match ← catching VariableExn.isNotFound (getGlobalVar variable_) with
    | some value => pure value
    | none =>
      match default with
      | none => throw (.keyError variable_)
      | some default => pure default
  set variable_ value := change fun g => Function.update g variable_ (some value)
  -- `GLOBAL_DELETE`
  unset variable_ := change fun g => Function.update g variable_ none

def globalVariableJsonAdapter (globalVariables : GlobalVariables String) :
    GlobalVariables Json where
  get variable_ default := do
    -- the default is not passed on
    let value ← globalVariables.get variable_ none
    if value = "" then
      match default with
      | none | some .null => throw (.keyError variable_)
      | some default => pure default
    else
      match ← ask fun env : VariableEnv => Json.loads env.reprFloat value with
      | some v => pure v
      | none => throw .valueError
  set variable_ value := globalVariables.set variable_ value.dumps
  unset variable_ := globalVariables.unset variable_

/-- A format with one field: what is before it and what is behind it. -/
structure Format where
  before : String
  behind : String

/-- `format_.format(variable)`. -/
def Format.format (f : Format) (variable_ : String) : String := f.before ++ variable_ ++ f.behind

def globalVariableNameDecorator {α : Type} (globalVariables : GlobalVariables α)
    (variableNameFormat : Format) : GlobalVariables α where
  get variable_ default := globalVariables.get (variableNameFormat.format variable_) default
  set variable_ value := globalVariables.set (variableNameFormat.format variable_) value
  unset variable_ := globalVariables.unset (variableNameFormat.format variable_)

def globalVariableConstantNameAdapter {α : Type} (globalVariables : GlobalVariables α)
    (variableName : String) : ConstantVariable α where
  get default := globalVariables.get variableName default
  set value := globalVariables.set variableName value
  unset := globalVariables.unset variableName

/-! ## Stacks -/

/-- What the values of a stack are. -/
inductive ValueKind where
  | text
  | json
  deriving DecidableEq, Repr

@[reducible] def ValueKind.Value : ValueKind → Type
  | .text => String
  | .json => Json

/-- The value is `None`. -/
def ValueKind.IsNone : (k : ValueKind) → k.Value → Prop
  | .text, _ => False
  | .json, v => v = .null

/-- The value is one of Python. -/
def ValueKind.Valid (reprFloat : String → String) : (k : ValueKind) → k.Value → Prop
  | .text, _ => True
  | .json, v => v.Valid reprFloat

/-- A stack of adapters on the variables of Asterisk; JSON stands on texts. -/
inductive VariableStack : ValueKind → Type where
  | ari : VariableStack .text
  | json (stack : VariableStack .text) : VariableStack .json
  | named {k : ValueKind} (stack : VariableStack k) (format : Format) : VariableStack k

namespace VariableStack

/-- The adapter of a stack. -/
def adapter : {k : ValueKind} → VariableStack k → GlobalVariables k.Value
  | _, .ari => globalVariableAdapter
  | _, .json stack => globalVariableJsonAdapter stack.adapter
  | _, .named stack format => globalVariableNameDecorator stack.adapter format

/-- The variable of Asterisk that a stack reads and writes. -/
def variableName : {k : ValueKind} → VariableStack k → String → String
  | _, .ari, variable_ => variable_
  | _, .json stack, variable_ => stack.variableName variable_
  | _, .named stack format, variable_ => stack.variableName (format.format variable_)

end VariableStack

/-! ## The stacks of the plugins -/

def jsonStack : VariableStack .json := .json .ari

/-- The transfers of `StatePersistor`. -/
def transfersStack : VariableStack .json := .named jsonStack ⟨"XIVO_TRANSFERS_", ""⟩

/-- The index of `StatePersistor`. -/
def transfersIndex : ConstantVariable Json :=
  globalVariableConstantNameAdapter jsonStack.adapter "XIVO_TRANSFERS_INDEX"

/-- The channels of the calls. -/
def channelsStack : VariableStack .json := .named jsonStack ⟨"XIVO_CHANNELS_", ""⟩

/-- The variables of a bridge. -/
def bridgeStack (bridgeId : String) : VariableStack .text :=
  .named .ari ⟨"WAZO_BRIDGE_" ++ bridgeId ++ "_VARIABLE_", ""⟩

/-! ## What a stack reads -/

section Stacks

variable {k : ValueKind} {stack : VariableStack k} {variable_ : String} {env : VariableEnv}
  {g : SetVariables}

/-- The text of a value. -/
def ValueKind.write : (k : ValueKind) → k.Value → String
  | .text, s => s
  | .json, v => v.dumps

/-- What a stack gives for a variable that is not set: a value, or a `KeyError`. -/
def ValueKind.unsetResult : (k : ValueKind) → UnsetAnswer → Option k.Value → Option k.Value
  | .text, .emptyString, _ => some ""
  | .text, .notFound, default => default
  | .json, .emptyString, some .null => none
  | .json, .emptyString, default => default
  | .json, .notFound, _ => none

/-- The answer that a stack takes for a variable that is not set. -/
def ValueKind.unsetAnswer : ValueKind → UnsetAnswer
  | .text => .notFound
  | .json => .emptyString

/-- The value is returned, or a `KeyError` is raised; the variables are left as they are. -/
def Returns {α : Type} (g : SetVariables) (value : Option α)
    (r : Except VariableExn α × SetVariables) : Prop :=
  match value with
  | some v => r = (.ok v, g)
  | none => ∃ name, r = (.error (.keyError name), g)

theorem getGlobalVar_set {value : String} (h : g variable_ = some value) :
    getGlobalVar variable_ env g = (.ok value, g) := by
  simp [getGlobalVar, bind_apply, h]

theorem getGlobalVar_unset (h : g variable_ = none) : getGlobalVar variable_ env g =
    (match env.unset variable_ with
      | .emptyString => .ok ""
      | .notFound => .error .ariNotFound, g) := by
  rw [getGlobalVar, bind_apply, look_apply, h]
  show ((ask fun env : VariableEnv => env.unset variable_) >>= _ : VariableCode String) env g = _
  rw [bind_apply, ask_apply]
  cases env.unset variable_ <;> rfl

namespace VariableStack

/-- Setting a variable sets the one of Asterisk to the text of the value. -/
theorem adapter_set (stack : VariableStack k) (variable_ : String) (value : k.Value) :
    stack.adapter.set variable_ value env g =
      (.ok (), Function.update g (stack.variableName variable_) (some (k.write value))) := by
  induction stack generalizing variable_ with
  | ari => rfl
  | json stack ih => exact ih variable_ value.dumps
  | named stack format ih => exact ih (format.format variable_) value

/-- A variable that holds the text of a value is read as this value. -/
theorem adapter_get_stored {value : k.Value} (hv : k.Valid env.reprFloat value)
    (h : g (stack.variableName variable_) = some (k.write value)) (default : Option k.Value) :
    stack.adapter.get variable_ default env g = (.ok value, g) := by
  induction stack generalizing variable_ with
  | ari =>
    show (catching VariableExn.isNotFound (getGlobalVar variable_) >>= _ :
      VariableCode String) env g = _
    have hget : getGlobalVar variable_ env g = (.ok value, g) := getGlobalVar_set h
    rw [bind_apply, catching, hget]
    rfl
  | json stack ih =>
    have hget : stack.adapter.get variable_ none env g = (.ok (Json.dumps value), g) :=
      ih trivial h none
    show (stack.adapter.get variable_ none >>= _ : VariableCode Json) env g = _
    rw [bind_apply, hget]
    dsimp only
    rw [if_neg (Json.dumps_ne_empty hv), bind_apply, ask_apply, Json.loads_dumps hv]
    rfl
  | named stack format ih => exact ih hv h default

/-- What is read of a variable that is not set depends on what ARI answers, and on whether
the values are JSON. -/
theorem adapter_get_unset (h : g (stack.variableName variable_) = none)
    (default : Option k.Value) :
    Returns g (k.unsetResult (env.unset (stack.variableName variable_)) default)
      (stack.adapter.get variable_ default env g) := by
  induction stack generalizing variable_ with
  | ari =>
    show Returns g (ValueKind.unsetResult .text (env.unset variable_) default)
      ((catching VariableExn.isNotFound (getGlobalVar variable_) >>= _ :
        VariableCode String) env g)
    have hget : getGlobalVar variable_ env g = (_, g) := getGlobalVar_unset h
    rw [bind_apply, catching, hget]
    cases env.unset variable_ with
    | emptyString => rfl
    | notFound =>
      cases default with
      | none => exact ⟨variable_, rfl⟩
      | some default => rfl
  | json stack ih =>
    have hget := ih h none
    show Returns g (ValueKind.unsetResult .json (env.unset (stack.variableName variable_)) default)
      ((stack.adapter.get variable_ none >>= _ : VariableCode Json) env g)
    rw [bind_apply]
    cases hunset : env.unset (stack.variableName variable_) with
    | emptyString =>
      rw [hunset] at hget
      have hget : stack.adapter.get variable_ none env g = (.ok "", g) := hget
      rw [hget]
      dsimp only
      rw [if_pos rfl]
      match default with
      | none => exact ⟨variable_, rfl⟩
      | some .null => exact ⟨variable_, rfl⟩
      | some (.bool b) => rfl
      | some (.int n) => rfl
      | some (.float lexeme) => rfl
      | some (.str s) => rfl
      | some (.arr items) => rfl
      | some (.obj fields) => rfl
    | notFound =>
      rw [hunset] at hget
      obtain ⟨name, hget⟩ := hget
      rw [hget]
      exact ⟨name, rfl⟩
  | named stack format ih => exact ih h default

end VariableStack

/-- While the variable is not set, a default is returned, and a `KeyError` is raised without a
default; what is set is returned, whatever the default is. -/
structure Survives (get : Option k.Value → VariableCode k.Value)
    (set : k.Value → VariableCode Unit) (name : String) (env : VariableEnv) : Prop where
  default : ∀ g : SetVariables, g name = none → ∀ d, ¬ k.IsNone d →
    get (some d) env g = (.ok d, g)
  keyError : ∀ g : SetVariables, g name = none → ∃ key,
    get none env g = (.error (.keyError key), g)
  stored : ∀ (g : SetVariables) (v : k.Value), k.Valid env.reprFloat v → ∀ d,
    ((set v >>= fun _ => get d : VariableCode k.Value) env g).1 = .ok v

theorem survives_iff : Survives (stack.adapter.get variable_) (stack.adapter.set variable_)
      (stack.variableName variable_) env ↔
    env.unset (stack.variableName variable_) = k.unsetAnswer := by
  have hget (g : SetVariables) (h : g (stack.variableName variable_) = none)
      (default : Option k.Value) : Returns g
        (k.unsetResult (env.unset (stack.variableName variable_)) default)
        (stack.adapter.get variable_ default env g) :=
    VariableStack.adapter_get_unset h default
  constructor
  · rintro ⟨hdefault, hkeyError, -⟩
    cases hunset : env.unset (stack.variableName variable_) with
    | emptyString =>
      cases k with
      | text =>
        -- the empty string is returned without a default
        obtain ⟨key, hkey⟩ := hkeyError (fun _ => none) rfl
        have hnone := hget (fun _ => none) rfl none
        rw [hunset, hkey] at hnone
        cases congrArg Prod.fst hnone
      | json => rfl
    | notFound =>
      cases k with
      | text => rfl
      | json =>
        -- a `KeyError` is raised for a default
        have hsome := hget (fun _ => none) rfl (some (.str ""))
        rw [hunset, hdefault (fun _ => none) rfl (.str "") (by simp [ValueKind.IsNone])] at hsome
        obtain ⟨key, hkey⟩ := hsome
        cases congrArg Prod.fst hkey
  · intro hunset
    rw [hunset] at hget
    refine ⟨fun g h d hd => ?_, fun g h => ?_, fun g v hv d => ?_⟩
    · cases k with
      | text => exact hget g h (some d)
      | json =>
        have hsome := hget g h (some d)
        cases d with
        | null => exact absurd rfl hd
        | _ => exact hsome
    · cases k with
      | text => exact hget g h none
      | json => exact hget g h none
    · rw [bind_apply, VariableStack.adapter_set]
      dsimp only
      rw [VariableStack.adapter_get_stored hv (Function.update_self ..)]

/-- The defaults survive a stack, with a constant name on top or without, exactly when ARI
answers for a variable that is not set as the stack takes it: the empty string below JSON, and
otherwise that it is not found. -/
theorem defaults_survive_iff (stack : VariableStack k) (variable_ : String) (env : VariableEnv) :
    (Survives (stack.adapter.get variable_) (stack.adapter.set variable_)
        (stack.variableName variable_) env ↔
      env.unset (stack.variableName variable_) = k.unsetAnswer) ∧
    (Survives (globalVariableConstantNameAdapter stack.adapter variable_).get
        (globalVariableConstantNameAdapter stack.adapter variable_).set
        (stack.variableName variable_) env ↔
      env.unset (stack.variableName variable_) = k.unsetAnswer) :=
  ⟨survives_iff, survives_iff⟩

/-- The index of the transfers is not found, and its default is lost. -/
theorem default_lost : (transfersIndex.get (some (.arr [])) ⟨fun _ => .notFound, id⟩
    fun _ => none).1 = .error (.keyError "XIVO_TRANSFERS_INDEX") := rfl

end Stacks

end Calld.Ari
