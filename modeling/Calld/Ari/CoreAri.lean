/-
# The stasis applications of calld

`CoreARI` keeps the list of the stasis applications that calld has registered: an application
is subscribed to, and its registration callbacks are run; when Asterisk has restarted, all of
them are registered anew.  The list is written before Asterisk has accepted the subscription.

The environment of an operation says which subscriptions Asterisk accepts, and what becomes
of the callbacks, which the ARI client runs.
-/
import Calld.Effect.Machine
import Calld.Effect.Rules

namespace Calld.Ari

open Effect Effect.Program

/-! ## The model -/

abbrev AppName := String

/-- What the operations raise. -/
inductive RegistrationError where
  /-- `AsteriskARINotInitialized` -/
  | notInitialized
  /-- Asterisk refuses, or does not answer -/
  | requestException
  /-- an exception of a callback that the client does not handle -/
  | callbackException
  deriving DecidableEq, Repr

/-- The list of `CoreARI`, the applications that the client takes for registered, and what
has come of the last subscription and of the registration callbacks of each. -/
structure Registrations where
  apps : List AppName
  registeredApp : Finset AppName
  initialized : Bool
  accepted : AppName → Bool
  called : AppName → Bool

/-- Before anything has happened. -/
def Registrations.initial : Registrations where
  apps := []
  registeredApp := ∅
  initialized := false
  accepted := fun _ => false
  called := fun _ => false

/-- How Asterisk and the callbacks answer. -/
structure RegistrationEnv where
  subscribe : AppName → Except RegistrationError Unit
  unsubscribe : AppName → Except RegistrationError Unit
  registeredCallbacks : List AppName → Except RegistrationError Unit
  deregisteredCallbacks : List AppName → Except RegistrationError Unit

/-- The code of `CoreARI`. -/
abbrev RegistrationCode := Program RegistrationEnv Registrations RegistrationError

/-- It answers, without an exception. -/
def answers {ε α : Type} : Except ε α → Bool
  | .ok _ => true
  | .error _ => false

/-- Ask the outside, and note how it has answered. -/
def attempt (answer : RegistrationEnv → Except RegistrationError Unit)
    (noted : Bool → Registrations → Registrations) : RegistrationCode Unit :=
  fun env r => (answer env, noted (answers (answer env)) r)

/-- `client.amqp.stasisSubscribe`. -/
def stasisSubscribe (app : AppName) : RegistrationCode Unit := do
  if ← look (·.initialized) then
    attempt (·.subscribe app) fun ok r =>
      { r with accepted := Function.update r.accepted app ok }
  else throw .notInitialized

/-- `client.amqp.stasisUnsubscribe`. -/
def stasisUnsubscribe (app : AppName) : RegistrationCode Unit := do
  if ← look (·.initialized) then
    attempt (·.unsubscribe app) fun ok r =>
      { r with accepted := Function.update r.accepted app (r.accepted app && !ok) }
  else throw .notInitialized

/-- `client.execute_app_registered_callbacks`. -/
def executeAppRegisteredCallbacks (apps : List AppName) : RegistrationCode Unit := do
  change fun r => { r with registeredApp := r.registeredApp ∪ apps.toFinset }
  attempt (·.registeredCallbacks apps) fun ok r =>
    { r with called := fun app => r.called app || (app ∈ apps && ok) }

/-- `client.execute_app_deregistered_callbacks`. -/
def executeAppDeregisteredCallbacks (apps : List AppName) : RegistrationCode Unit := do
  change fun r => { r with registeredApp := r.registeredApp \ apps.toFinset }
  attempt (·.deregisteredCallbacks apps) fun _ r =>
    { r with called := fun app => r.called app && app ∉ apps }

/-- `register_application`. -/
def registerApplication (app : AppName) : RegistrationCode Unit := do
  if ← look fun r => decide (app ∈ r.apps) then pure ()
  else do
    change fun r => { r with apps := r.apps ++ [app] }
    stasisSubscribe app
    executeAppRegisteredCallbacks [app]

/-- `deregister_application`. -/
def deregisterApplication (app : AppName) : RegistrationCode Unit := do
  if ← look fun r => decide (app ∈ r.apps) then do
    change fun r => { r with apps := r.apps.erase app }
    executeAppDeregisteredCallbacks [app]
    stasisUnsubscribe app
  else pure ()

/-- `reregister_applications`. -/
def reregisterApplications : RegistrationCode Unit := do
  let apps ← look (·.apps)
  executeAppDeregisteredCallbacks apps
  apps.forM stasisSubscribe
  executeAppRegisteredCallbacks apps

/-- `on_application_registered`: the callback is run now, if the application is registered. -/
def Registrations.runsNow (r : Registrations) (app : AppName) : Bool := app ∈ r.registeredApp

/-- The applications that `provide_status` expects. -/
def expectedApps : List AppName := ["adhoc_conference", "callcontrol", "dial_mobile"]

/-- `provide_status`. -/
def Registrations.statusOk (r : Registrations) : Bool :=
  r.initialized && expectedApps.all (· ∈ r.apps)

/-! ## The machine -/

/-- An operation, or the connection with ARI. -/
inductive RegistrationLabel where
  | connect
  | register (app : AppName) (env : RegistrationEnv)
  | deregister (app : AppName) (env : RegistrationEnv)
  | reregister (env : RegistrationEnv)

/-- The state after an operation, however it ends. -/
def registrationStep : RegistrationLabel → Registrations → Registrations
  | .connect, r => { r with initialized := true }
  | .register app env, r => (registerApplication app env r).2
  | .deregister app env, r => (deregisterApplication app env r).2
  | .reregister env, r => (reregisterApplications env r).2

/-- Any sequence of operations. -/
def registration : Machine Registrations RegistrationLabel where
  init r := r = Registrations.initial
  step a r := some (registrationStep a r)

/-- The list holds the applications whose last subscription has succeeded and whose
registration callbacks have run. -/
def Registrations.Truthful (r : Registrations) : Prop :=
  ∀ app, app ∈ r.apps ↔ r.accepted app ∧ r.called app

/-- Asterisk accepts the subscriptions that an operation asks for, and the callbacks do not
raise. -/
def Subscribes (r : Registrations) : RegistrationLabel → Prop
  | .register app env => app ∈ r.apps ∨
      r.initialized ∧ answers (env.subscribe app) ∧ answers (env.registeredCallbacks [app])
  | .reregister env => r.apps = [] ∨ answers (env.deregisteredCallbacks r.apps) ∧
      (∀ app ∈ r.apps, r.initialized ∧ answers (env.subscribe app)) ∧
      answers (env.registeredCallbacks r.apps)
  | .connect | .deregister .. => True

/-! ## The operations, evaluated -/

section Operations

variable {env : RegistrationEnv} {r : Registrations} {app : AppName} {apps : List AppName}

/-- Asterisk can be asked for an application, and accepts it. -/
def Accepts (env : RegistrationEnv) (r : Registrations) (app : AppName) : Prop :=
  r.initialized ∧ answers (env.subscribe app)

instance : Decidable (Accepts env r app) := inferInstanceAs (Decidable (_ ∧ _))

theorem answers_iff {ε : Type} {x : Except ε Unit} : answers x ↔ x = .ok () := by
  cases x <;> simp [answers]

@[simp] theorem attempt_apply (answer : RegistrationEnv → Except RegistrationError Unit)
    (noted : Bool → Registrations → Registrations) :
    attempt answer noted env r = (answer env, noted (answers (answer env)) r) := rfl

/-- A subscription is accepted, or raises. -/
theorem stasisSubscribe_cases (env : RegistrationEnv) (app : AppName) :
    (Accepts env r app ∧ stasisSubscribe app env r =
      (.ok (), { r with accepted := Function.update r.accepted app true })) ∨
    (¬ Accepts env r app ∧ ∃ e r', stasisSubscribe app env r = (.error e, r') ∧
      r'.apps = r.apps ∧ r'.called = r.called) := by
  unfold stasisSubscribe Accepts
  rw [bind_apply]
  simp only [look_apply]
  cases hinit : r.initialized with
  | false => exact .inr ⟨by simp, _, _, rfl, rfl, rfl⟩
  | true =>
    cases hsub : env.subscribe app with
    | ok _ =>
      refine .inl ⟨⟨rfl, rfl⟩, ?_⟩
      simp [hsub, answers, hinit]
    | error e =>
      refine .inr ⟨by simp [answers], e, { r with
        accepted := Function.update r.accepted app false }, ?_, rfl, rfl⟩
      simp [hsub, answers]

/-- The subscriptions of a list are all accepted, or one of them raises. -/
theorem subscribeAll_cases (env : RegistrationEnv) (apps : List AppName) (r : Registrations) :
    ((∀ app ∈ apps, Accepts env r app) ∧ apps.forM stasisSubscribe env r =
      (.ok (), { r with accepted := fun app => r.accepted app || app ∈ apps })) ∨
    (¬ (∀ app ∈ apps, Accepts env r app) ∧ ∃ e r', apps.forM stasisSubscribe env r =
      (.error e, r') ∧ r'.apps = r.apps ∧ r'.called = r.called) := by
  induction apps generalizing r with
  | nil => exact .inl ⟨by simp, by simp⟩
  | cons app apps ih =>
    have hcons : (app :: apps).forM stasisSubscribe =
        (do stasisSubscribe app; apps.forM stasisSubscribe : RegistrationCode Unit) := rfl
    rw [hcons, bind_apply]
    obtain ⟨hacc, hrun⟩ | ⟨hacc, e, r', hrun, happs, hcalled⟩ :=
      stasisSubscribe_cases env (r := r) app
    · rw [hrun]
      dsimp only
      obtain ⟨hall, hrest⟩ | ⟨hall, e, r', hrest, happs, hcalled⟩ :=
        ih { r with accepted := Function.update r.accepted app true }
      · refine .inl ⟨?_, ?_⟩
        · intro a ha
          rcases List.mem_cons.mp ha with rfl | ha
          · exact hacc
          · exact hall a ha
        · rw [hrest]
          congr 3
          funext a
          by_cases ha : a = app
          · subst ha
            simp
          · simp [ha]
      · refine .inr ⟨fun h => hall fun a ha => h a (List.mem_cons_of_mem _ ha), e, r', hrest,
          happs, hcalled⟩
    · rw [hrun]
      exact .inr ⟨fun h => hacc (h app List.mem_cons_self), e, r', rfl, happs, hcalled⟩

/-- Whether the application is still subscribed to does not matter. -/
theorem stasisUnsubscribe_snd (env : RegistrationEnv) (app : AppName) :
    ∃ b, (stasisUnsubscribe app env r).2 =
      { r with accepted := Function.update r.accepted app b } := by
  unfold stasisUnsubscribe
  rw [bind_apply]
  simp only [look_apply]
  by_cases hinit : r.initialized
  · rw [if_pos hinit]
    exact ⟨_, rfl⟩
  · rw [if_neg hinit]
    refine ⟨r.accepted app, ?_⟩
    rw [Function.update_eq_self]
    rfl

/-- The registration callbacks run, or raise. -/
theorem registeredCallbacks_apply (apps : List AppName) :
    executeAppRegisteredCallbacks apps env r = (env.registeredCallbacks apps,
      { r with
        registeredApp := r.registeredApp ∪ apps.toFinset
        called := fun app => r.called app ||
          (app ∈ apps && answers (env.registeredCallbacks apps)) }) := rfl

theorem deregisteredCallbacks_apply (apps : List AppName) :
    executeAppDeregisteredCallbacks apps env r = (env.deregisteredCallbacks apps,
      { r with
        registeredApp := r.registeredApp \ apps.toFinset
        called := fun app => r.called app && app ∉ apps }) := rfl

end Operations

/-! ## One operation -/

/-- The list is truthful, and the callbacks of no other application have run. -/
structure Registrations.Sound (r : Registrations) : Prop where
  nodup : r.apps.Nodup
  truthful : r.Truthful
  called : ∀ app, r.called app → app ∈ r.apps

section Steps

variable {env : RegistrationEnv} {r : Registrations} {app : AppName}

/-- An operation that leaves an application of the list without its callbacks is a lie. -/
theorem not_truthful (app : String) (h : app ∈ r.apps) (hcalled : r.called app = false) : ¬ r.Truthful := by
  intro htrue
  have := ((htrue app).mp h).2
  simp [hcalled] at this

/-- The callbacks of an application that is not in the list have not run. -/
theorem Registrations.Sound.not_called (h : r.Sound) (happ : app ∉ r.apps) :
    r.called app = false := by
  cases hcalled : r.called app with
  | false => rfl
  | true => exact absurd (h.called app hcalled) happ

/-- A registration keeps the list truthful, when Asterisk accepts it and the callbacks run;
otherwise the application is in the list all the same. -/
theorem register_sound (h : r.Sound) :
    (Subscribes r (.register app env) → (registerApplication app env r).2.Sound) ∧
      (¬ Subscribes r (.register app env) → ¬ (registerApplication app env r).2.Truthful) := by
  unfold registerApplication Subscribes
  rw [bind_apply]
  simp only [look_apply]
  by_cases happ : app ∈ r.apps
  · simp only [happ, decide_true, if_true, pure_apply, true_or, forall_const, not_true_eq_false,
      false_implies, and_true]
    exact h
  · simp only [happ, decide_false, Bool.false_eq_true, if_false, false_or]
    rw [bind_apply]
    simp only [change_apply]
    rw [bind_apply]
    have hnot := h.not_called happ
    obtain ⟨hacc, hrun⟩ | ⟨hacc, e, r', hrun, happs, hcalled⟩ :=
      stasisSubscribe_cases env (r := { r with apps := r.apps ++ [app] }) app
    · rw [hrun]
      dsimp only
      rw [registeredCallbacks_apply]
      constructor
      · rintro ⟨-, -, hcall⟩
        refine ⟨List.nodup_append.mpr ⟨h.nodup, List.nodup_singleton app, ?_⟩, fun a => ?_,
          fun a ha => ?_⟩
        · rintro a ha b hb rfl
          exact happ (List.mem_singleton.mp hb ▸ ha)
        · by_cases ha : a = app
          · subst ha
            simp [hcall]
          · have := h.truthful a
            simpa [Function.update_of_ne ha, ha] using this
        · by_cases heq : a = app
          · simp [heq]
          · have hold : r.called a := by simpa [heq] using ha
            simp [h.called a hold]
      · intro hfail
        have hcall : answers (env.registeredCallbacks [app]) = false := by
          simpa [hacc.1, hacc.2] using fun h => hfail ⟨hacc.1, hacc.2, h⟩
        exact not_truthful app (by simp) (by simp [hnot, hcall])
    · rw [hrun]
      refine ⟨fun hok => absurd ⟨hok.1, hok.2.1⟩ hacc, fun _ => ?_⟩
      refine not_truthful app ?_ ?_
      · show app ∈ r'.apps
        rw [happs]
        simp
      · show r'.called app = false
        rw [hcalled]
        exact hnot

/-- After a deregistration the application is not in the list, and its callbacks have been
called off. -/
theorem deregister_sound (h : r.Sound) : (deregisterApplication app env r).2.Sound := by
  have hgone : ∀ b, Registrations.Sound { r with
      apps := r.apps.erase app
      registeredApp := r.registeredApp \ [app].toFinset
      accepted := Function.update r.accepted app b
      called := fun a => r.called a && a ∉ [app] } := by
    refine fun b => ⟨h.nodup.erase app, fun a => ?_, fun a ha => ?_⟩
    · by_cases heq : a = app
      · subst heq
        simp [h.nodup.mem_erase_iff]
      · have := h.truthful a
        simpa [h.nodup.mem_erase_iff, Function.update_of_ne heq, heq] using this
    · have hold : r.called a ∧ a ≠ app := by simpa using ha
      simp [h.nodup.mem_erase_iff, hold.2, h.called a hold.1]
  unfold deregisterApplication
  rw [bind_apply]
  simp only [look_apply]
  by_cases happ : app ∈ r.apps
  · simp only [happ, decide_true, if_true]
    rw [bind_apply]
    simp only [change_apply]
    rw [bind_apply, deregisteredCallbacks_apply]
    cases env.deregisteredCallbacks [app] with
    | error e =>
      have := hgone (r.accepted app)
      rwa [Function.update_eq_self] at this
    | ok _ =>
      dsimp only
      obtain ⟨b, hb⟩ := stasisUnsubscribe_snd env (r := { r with
        apps := r.apps.erase app
        registeredApp := r.registeredApp \ [app].toFinset
        called := fun a => r.called a && a ∉ [app] }) app
      rw [hb]
      exact hgone b
  · simp only [happ, decide_false, Bool.false_eq_true, if_false]
    exact h

/-- A new registration of all the applications keeps the list truthful when Asterisk accepts
them all and the callbacks run. -/
theorem reregister_sound (h : r.Sound) :
    (Subscribes r (.reregister env) → (reregisterApplications env r).2.Sound) ∧
      (¬ Subscribes r (.reregister env) → ¬ (reregisterApplications env r).2.Truthful) := by
  unfold reregisterApplications Subscribes
  rw [bind_apply]
  simp only [look_apply]
  rw [bind_apply, deregisteredCallbacks_apply]
  set r₁ : Registrations := { r with
    registeredApp := r.registeredApp \ r.apps.toFinset
    called := fun app => r.called app && app ∉ r.apps } with hr₁
  have hnone : ∀ a, r₁.called a = false := by
    intro a
    by_cases ha : a ∈ r.apps
    · simp [hr₁, ha]
    · simp [hr₁, h.not_called ha]
  have hempty : r.apps = [] → ∀ r' : Registrations, r'.apps = r.apps →
      (∀ a, r'.called a = false) → r'.Sound := by
    intro hnil r' happs hcalled
    refine ⟨by simp [happs, hnil], fun a => by simp [happs, hnil, hcalled a], fun a ha => ?_⟩
    simp [hcalled a] at ha
  have hlie : r.apps ≠ [] → ∀ r' : Registrations, r'.apps = r.apps →
      (∀ a, r'.called a = false) → ¬ r'.Truthful := by
    intro hne r' happs hcalled
    obtain ⟨a, ha⟩ := List.exists_mem_of_ne_nil _ hne
    exact not_truthful a (happs ▸ ha) (hcalled a)
  cases hdereg : env.deregisteredCallbacks r.apps with
  | error e =>
    refine ⟨fun hok => ?_, fun hfail => hlie (fun hnil => hfail (.inl hnil)) r₁ rfl hnone⟩
    rcases hok with hnil | ⟨hok, -⟩
    · exact hempty hnil r₁ rfl hnone
    · simp [answers] at hok
  | ok _ =>
    dsimp only
    rw [bind_apply]
    obtain ⟨hall, hrun⟩ | ⟨hall, e, r', hrun, happs, hcalled⟩ :=
      subscribeAll_cases env r.apps r₁
    · rw [hrun]
      dsimp only
      rw [registeredCallbacks_apply]
      refine ⟨fun hok => ?_, fun hfail => ?_⟩
      · rcases hok with hnil | ⟨-, -, hcall⟩
        · exact hempty hnil _ rfl fun a => by simp [hnone a, hnil]
        · refine ⟨h.nodup, fun a => ?_, fun a ha => ?_⟩
          · show a ∈ r.apps ↔ _
            simp only [hnone a, hcall, Bool.false_or, Bool.or_eq_true, Bool.and_true,
              decide_eq_true_eq]
            constructor
            · intro ha
              exact ⟨.inr ha, ha⟩
            · rintro ⟨-, ha⟩
              exact ha
          · show a ∈ r.apps
            simpa [hnone a, hcall] using ha
      · have hcall : answers (env.registeredCallbacks r.apps) = false := by
          cases hcall : answers (env.registeredCallbacks r.apps) with
          | false => rfl
          | true => exact absurd (.inr ⟨rfl, hall, hcall⟩) hfail
        exact hlie (fun hnil => hfail (.inl hnil)) _ rfl fun a => by simp [hnone a, hcall]
    · rw [hrun]
      refine ⟨fun hok => ?_, fun hfail => hlie (fun hnil => hfail (.inl hnil)) r' happs
        fun a => by rw [hcalled]; exact hnone a⟩
      rcases hok with hnil | ⟨-, hok, -⟩
      · exact absurd (fun a ha => by simp [hnil] at ha) hall
      · exact absurd hok hall

end Steps

/-! ## Runs -/

theorem sound_initial : Registrations.initial.Sound :=
  ⟨List.nodup_nil, fun _ => by simp [Registrations.initial], fun _ ha => by cases ha⟩

/-- An operation that is answered well keeps the list truthful, and no other does. -/
theorem step_sound {r : Registrations} {a : RegistrationLabel} (h : r.Sound) :
    (Subscribes r a → (registrationStep a r).Sound) ∧
      (¬ Subscribes r a → ¬ (registrationStep a r).Truthful) := by
  cases a with
  | connect => exact ⟨fun _ => ⟨h.nodup, h.truthful, h.called⟩, fun hfail => absurd trivial hfail⟩
  | register app env => exact register_sound h
  | deregister app env => exact ⟨fun _ => deregister_sound h, fun hfail => absurd trivial hfail⟩
  | reregister env => exact reregister_sound h

theorem sound_of_reaches {r : Registrations} (h : registration.Reaches Subscribes r) : r.Sound := by
  refine Machine.Reaches.invariant (I := Registrations.Sound) ?_ ?_ h
  · rintro r rfl
    exact sound_initial
  · intro r a r' hr hC hstep
    cases hstep
    exact (step_sound hr).1 hC

/-- **The list of applications is truthful**: in every run of operations in which Asterisk
accepts the subscriptions and the callbacks do not raise, the list holds the applications
whose last subscription has succeeded and whose registration callbacks have run, and the
status is not reported as ok without those it expects.  One operation that is not answered so
makes the list untruthful. -/
theorem registrations_truthful {r : Registrations} (h : registration.Reaches Subscribes r) :
    r.Truthful ∧
      (r.statusOk → ∀ app ∈ expectedApps, r.accepted app ∧ r.called app) ∧
      ∀ a, (registrationStep a r).Truthful ↔ Subscribes r a := by
  have hsound := sound_of_reaches h
  refine ⟨hsound.truthful, fun hok app happ => ?_, fun a => ⟨fun htrue => ?_, fun hC => ?_⟩⟩
  · have hall : ∀ app ∈ expectedApps, app ∈ r.apps := by
      have := (Bool.and_eq_true_iff.mp hok).2
      simpa using this
    exact (hsound.truthful app).mp (hall app happ)
  · by_contra hfail
    exact (step_sound hsound).2 hfail htrue
  · exact ((step_sound hsound).1 hC).truthful

instance (r : Registrations) (a : RegistrationLabel) : Decidable (Subscribes r a) := by
  cases a <;> unfold Subscribes <;> infer_instance

/-- Everything is accepted. -/
def accepting : RegistrationEnv where
  subscribe := fun _ => .ok ()
  unsubscribe := fun _ => .ok ()
  registeredCallbacks := fun _ => .ok ()
  deregisteredCallbacks := fun _ => .ok ()

/-- Two applications are registered, and anew after Asterisk has restarted. -/
def registrations : List RegistrationLabel :=
  [.connect, .register "callcontrol" accepting, .register "dial_mobile" accepting,
    .reregister accepting]

/-- Where a list of operations leads. -/
def registered (as : List RegistrationLabel) : Registrations :=
  (registration.run as Registrations.initial).getD Registrations.initial

theorem registrations_accepted :
    "callcontrol" ∈ (registered registrations).apps ↔
      (registered registrations).accepted "callcontrol" ∧
        (registered registrations).called "callcontrol" := by
  have run : registration.run registrations Registrations.initial =
      some (registered registrations) := rfl
  have meets : registration.Meets Subscribes registrations Registrations.initial := by
    decide
  exact (registrations_truthful (Machine.Reaches.run (.init rfl) meets run)).1 "callcontrol"

/-- Asterisk refuses a subscription. -/
def refusing : RegistrationEnv := { accepting with subscribe := fun _ => .error .requestException }

/-- The subscription of the last application that is expected is refused. -/
def refusedRegistration : List RegistrationLabel :=
  [.connect, .register "adhoc_conference" accepting, .register "callcontrol" accepting,
    .register "dial_mobile" refusing]

/-- **An application that Asterisk refuses is registered all the same**: the registration
raises, the status is ok, and a new one does not subscribe. -/
theorem refused_is_registered :
    (registerApplication "dial_mobile" refusing
      (registered (refusedRegistration.take 3))).1 = .error .requestException ∧
    "dial_mobile" ∈ (registered refusedRegistration).apps ∧
    (registered refusedRegistration).accepted "dial_mobile" = false ∧
    (registered refusedRegistration).statusOk ∧
    (registered (refusedRegistration ++ [.register "dial_mobile" accepting])).accepted
      "dial_mobile" = false :=
  ⟨rfl, by decide, by decide, by decide, by decide⟩

end Calld.Ari
