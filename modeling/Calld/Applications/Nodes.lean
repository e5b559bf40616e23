/-
# Destination nodes

The bridge of an application whose destination is a node is made when the application comes or
gets this destination, and goes when it loses it.  Here the events of confd are handled one
after the other, with the cache there; of the registrations and of the bridges everything is
kept that the handlers look at.
-/
import Calld.Applications.Services

namespace Calld.Applications

open Effect Effect.Interactive Calld.Ari

/-! ## Asterisk and the registrations -/

/-- How Asterisk answers while an event is handled: the requests that fail, and the calls that
are gone. -/
structure NodeEnv where
  fails : Request → Bool
  gone : String → Bool

/-- The cache, the applications that `CoreARI` lists, those that the ARI client takes for
registered, their callbacks, and the bridges with the id of an application. -/
structure NodeWorld where
  cache : Dict String Application
  apps : List AppName
  registered : AppName → Bool
  callbacks : AppName → ℕ
  bridges : Dict String (List String)

/-- The requests that Asterisk answers. -/
def Request.Asterisk : Request → Bool
  | .stasisSubscribe _ => true
  | .stasisUnsubscribe _ => true
  | .getBridge _ => true
  | .createWithId _ _ _ => true
  | .subscribe _ _ => true
  | .destroy _ => true
  | .hangup _ => true
  | .destinationNodeCreated _ => true
  | _ => false

/-- The answer to a request that does not fail, and what it does. -/
def NodeWorld.succeed (env : NodeEnv) (w : NodeWorld) :
    (r : Request) → Except Exn r.Reply × NodeWorld
  | .acquire => (.ok (), w)
  | .release => (.ok (), w)
  | .isNone => (.ok false, w)
  | .confdList => (.error .requestException, w)
  | .setCache _ => (.ok (), w)
  | .entry uuid => (.ok (w.cache.get uuid), w)
  | .entries => (.ok (w.cache.items.map Prod.snd), w)
  | .setEntry app => (.ok (), { w with cache := w.cache.set app.uuid app })
  | .popEntry uuid => (.ok (), { w with cache := w.cache.pop uuid })
  | .addCallback name =>
    (.ok (), { w with callbacks := Function.update w.callbacks name (w.callbacks name + 1) })
  | .popCallbacks name => (.ok (), { w with callbacks := Function.update w.callbacks name 0 })
  | .callbacks name => (.ok (w.callbacks name), w)
  | .isRegistered name => (.ok (w.registered name), w)
  | .addRegistered name =>
    (.ok (), { w with registered := Function.update w.registered name true })
  | .discardRegistered name =>
    (.ok (), { w with registered := Function.update w.registered name false })
  | .isListed name => (.ok (decide (name ∈ w.apps)), w)
  | .append name => (.ok (), { w with apps := w.apps ++ [name] })
  | .remove name => (.ok (), { w with apps := w.apps.erase name })
  | .stasisSubscribe _ => (.ok (), w)
  | .stasisUnsubscribe _ => (.ok (), w)
  | .getBridge bridgeId =>
    match w.bridges.get bridgeId with
    | some channels => (.ok channels, w)
    | none => (.error .ariNotFound, w)
  | .createWithId bridgeId _ _ => (.ok (), { w with bridges := w.bridges.set bridgeId [] })
  | .subscribe _ _ => (.ok (), w)
  | .destroy bridgeId =>
    match w.bridges.get bridgeId with
    | some _ => (.ok (), { w with bridges := w.bridges.pop bridgeId })
    | none => (.error .ariNotFound, w)
  | .hangup callId => if env.gone callId then (.error .ariNotFound, w) else (.ok (), w)
  | .destinationNodeCreated _ => (.ok (), w)
  | .ack => (.ok (), w)

/-- The answer to a request of a handler. -/
def NodeWorld.answer (env : NodeEnv) (w : NodeWorld) (r : Request) :
    Except Exn r.Reply × NodeWorld :=
  if r.Asterisk && env.fails r then (.error .requestException, w) else w.succeed env r

/-- An event, and how Asterisk answers while it is handled. -/
structure Handled where
  event : AppEvent
  env : NodeEnv

/-- The destination of the application is a node. -/
def Application.ToNode (app : Application) : Prop := app.destination = some "node"

instance (app : Application) : Decidable app.ToNode := inferInstanceAs (Decidable (_ = _))

/-- The application has this uuid in the cache, and its destination is a node. -/
def NodeWorld.ToNode (w : NodeWorld) (uuid : String) : Prop :=
  ∃ app ∈ w.cache.get uuid, app.ToNode

instance (w : NodeWorld) (uuid : String) : Decidable (w.ToNode uuid) :=
  inferInstanceAs (Decidable (∃ app ∈ w.cache.get uuid, _))

/-- The application has this uuid in the cache, and it has no destination. -/
def NodeWorld.ToNothing (w : NodeWorld) (uuid : String) : Prop :=
  ∃ app ∈ w.cache.get uuid, app.destination = none

instance (w : NodeWorld) (uuid : String) : Decidable (w.ToNothing uuid) :=
  inferInstanceAs (Decidable (∃ app ∈ w.cache.get uuid, _))

/-- The bridges are those of the applications whose destination is a node. -/
def NodeWorld.Match (w : NodeWorld) : Prop :=
  ∀ uuid, (w.bridges.get uuid).isSome ↔ w.ToNode uuid

/-- The events, from a state in which the bridges are those that are due. -/
def nodes : Machine NodeWorld Handled where
  init w := Keyed Application.uuid w.cache.get ∧ w.Match
  step e w := some (exec (NodeWorld.answer e.env) (handle e.event) w).2

/-! ## The parts of a handler -/

section Parts

variable {env : NodeEnv} {w : NodeWorld}

/-- No request to Asterisk fails. -/
def NodeEnv.Answers (env : NodeEnv) : Prop := ∀ r, env.fails r = false

theorem exec_ask (h : env.Answers) (r : Request) :
    exec (NodeWorld.answer env) (ask r) w = w.succeed env r := by
  unfold ask
  rw [exec_request, NodeWorld.answer, h r, Bool.and_false, if_neg (by simp)]

theorem exec_applications (h : env.Answers) :
    exec (NodeWorld.answer env) applications w = (.ok (), w) := by
  unfold applications
  rw [exec_bind, exec_ask h]
  simp only [NodeWorld.succeed]
  rw [exec_ensuring, exec_bind, exec_ask h]
  simp only [NodeWorld.succeed]
  rw [exec_ask h]
  rfl

theorem exec_list (h : env.Answers) :
    exec (NodeWorld.answer env) list w = (.ok (w.cache.items.map Prod.snd), w) := by
  unfold list
  rw [exec_bind, exec_applications h]
  exact exec_ask h _

theorem exec_isInitialized (h : env.Answers) :
    exec (NodeWorld.answer env) isInitialized w = (.ok true, w) := by
  unfold isInitialized
  rw [exec_bind, exec_ask h]
  simp only [NodeWorld.succeed]
  rw [exec_ensuring, exec_bind, exec_ask h]
  simp only [NodeWorld.succeed, exec_pure]
  rw [exec_ask h]
  rfl

/-- `create_destination_node`. -/
theorem exec_createDestinationNode (h : env.Answers) (app : Application) :
    exec (NodeWorld.answer env) (createDestinationNode app) w =
      if (w.bridges.get app.uuid).isSome then (.ok (), w)
      else if app.type.isSome then (.ok (), { w with bridges := w.bridges.set app.uuid [] })
      else (.error .keyError, w) := by
  unfold createDestinationNode
  rw [exec_tryCatch, exec_bind, exec_ask h]
  cases hbridge : w.bridges.get app.uuid with
  | some channels => simp [NodeWorld.succeed, hbridge]
  | none =>
    simp only [NodeWorld.succeed, hbridge]
    cases htype : app.type with
    | none => simp
    | some bridgeType =>
      simp only [Option.isSome_none, Bool.false_eq_true, if_false, Option.isSome_some, if_true]
      rw [exec_bind, exec_ask h]
      simp only [NodeWorld.succeed]
      rw [exec_bind, exec_ask h]
      simp only [NodeWorld.succeed]
      rw [exec_ask h]
      rfl

/-- `delete_destination_node`, whatever the calls do. -/
theorem exec_deleteDestinationNode (h : env.Answers) (app : Application) :
    exec (NodeWorld.answer env) (deleteDestinationNode app) w =
      (.ok (), if (w.bridges.get app.uuid).isSome then
        { w with bridges := w.bridges.pop app.uuid } else w) := by
  have hcall (callId : String) : exec (NodeWorld.answer env)
      (ignoring Exn.isNoSuchCall (deleteCall callId)) w = (.ok (), w) := by
    unfold deleteCall
    rw [exec_ignoring, exec_tryCatch, exec_ask h]
    by_cases hgone : env.gone callId <;> simp [NodeWorld.succeed, hgone, Exn.isNoSuchCall]
  have hcalls (channels : List String) : exec (NodeWorld.answer env)
      (List.forM channels fun callId => ignoring Exn.isNoSuchCall (deleteCall callId)) w =
        (.ok (), w) := by
    induction channels with
    | nil => rfl
    | cons callId channels ih =>
      change exec _ (ignoring Exn.isNoSuchCall (deleteCall callId) >>= fun _ =>
        List.forM channels _) w = _
      rw [exec_bind, hcall]
      exact ih
  unfold deleteDestinationNode
  rw [exec_bind, exec_catching, exec_ask h]
  cases hbridge : w.bridges.get app.uuid with
  | none => simp [NodeWorld.succeed, hbridge, Exn.isNotFound]
  | some channels =>
    simp only [NodeWorld.succeed, hbridge, Option.isSome_some, if_true]
    rw [exec_bind, hcalls]
    dsimp only
    rw [exec_ignoring, exec_ask h]
    simp [NodeWorld.succeed, hbridge]

/-- One application of `_create_destinations`. -/
theorem exec_createDestinations_cons (b : Application) (l : List Application) :
    exec (NodeWorld.answer env) (createDestinations (b :: l)) w =
      match exec (NodeWorld.answer env)
        (if b.destination = some "node" then createDestinationNode b else pure ()) w with
      | (.ok _, w') => exec (NodeWorld.answer env) (createDestinations l) w'
      | (.error e, w') => (.error e, w') := by
  change exec _ ((if b.destination = some "node" then createDestinationNode b else pure ()) >>=
    fun _ => createDestinations l) w = _
  rw [exec_bind]
  rcases exec (NodeWorld.answer env) _ w with ⟨e | u, w'⟩ <;> rfl

/-- Nothing is made when every bridge is there. -/
theorem exec_createDestinations_there (h : env.Answers) {l : List Application}
    (hl : ∀ b ∈ l, b.ToNode → (w.bridges.get b.uuid).isSome) :
    exec (NodeWorld.answer env) (createDestinations l) w = (.ok (), w) := by
  induction l with
  | nil => rfl
  | cons b l ih =>
    have hrest := ih fun b' hb' => hl b' (by simp [hb'])
    rw [exec_createDestinations_cons]
    by_cases hb : b.destination = some "node"
    · rw [if_pos hb, exec_createDestinationNode h, if_pos (hl b (by simp) hb)]
      exact hrest
    · rw [if_neg hb]
      exact hrest

/-- The bridge of the application is made, if it is due and can be. -/
def NodeWorld.filled (w : NodeWorld) (app : Application) : NodeWorld :=
  if app.ToNode ∧ ¬ (w.bridges.get app.uuid).isSome ∧ app.type.isSome then
    { w with bridges := w.bridges.set app.uuid [] }
  else w

/-- Only the bridge of one application may be missing. -/
theorem exec_createDestinations (h : env.Answers) {app : Application} {l : List Application}
    (hl : ∀ b ∈ l, b.ToNode → b = app ∨ (w.bridges.get b.uuid).isSome) (happ : app ∈ l) :
    (exec (NodeWorld.answer env) (createDestinations l) w).2 = w.filled app := by
  by_cases hmissing : app.ToNode ∧ ¬ (w.bridges.get app.uuid).isSome
  swap
  · have hthere (b : Application) (hb : b ∈ l) (hnode : b.ToNode) :
        (w.bridges.get b.uuid).isSome := by
      rcases hl b hb hnode with rfl | hsome
      · by_contra hnot
        exact hmissing ⟨hnode, hnot⟩
      · exact hsome
    rw [exec_createDestinations_there h hthere, NodeWorld.filled]
    rw [if_neg fun hdue => hmissing ⟨hdue.1, hdue.2.1⟩]
  induction l with
  | nil => cases happ
  | cons b l ih =>
    rw [exec_createDestinations_cons]
    by_cases hb : b = app
    · subst hb
      have hnode : b.destination = some "node" := hmissing.1
      rw [if_pos hnode, exec_createDestinationNode h, if_neg hmissing.2, NodeWorld.filled]
      by_cases htype : b.type.isSome
      · rw [if_pos htype, if_pos ⟨hmissing.1, hmissing.2, htype⟩]
        dsimp only
        rw [exec_createDestinations_there h]
        intro b' hb' hnode
        change ((w.bridges.set b.uuid []).get b'.uuid).isSome
        rw [Dict.get_set]
        split
        · rfl
        · rcases hl b' (by simp [hb']) hnode with rfl | hsome
          · next hne => exact absurd rfl hne
          · exact hsome
      · rw [if_neg htype, if_neg fun hdue => htype hdue.2.2]
    · have hrest := ih (fun b' hb' => hl b' (by simp [hb']))
        ((List.mem_cons.mp happ).resolve_left (Ne.symm hb))
      by_cases hnode : b.destination = some "node"
      · have hsome := (hl b (by simp) hnode).resolve_left hb
        rw [if_pos hnode, exec_createDestinationNode h, if_pos hsome]
        exact hrest
      · rw [if_neg hnode]
        exact hrest

/-- The application is in the cache, and the bridges of the others are those that are due. -/
structure Near (w : NodeWorld) (app : Application) : Prop where
  keyed : Keyed Application.uuid w.cache.get
  cached : w.cache.get app.uuid = some app
  others : ∀ uuid, uuid ≠ app.uuid → ((w.bridges.get uuid).isSome ↔ w.ToNode uuid)

/-- `_on_application_registered`. -/
theorem exec_onApplicationRegistered (h : env.Answers) {app : Application} (hn : Near w app) :
    exec (NodeWorld.answer env) onApplicationRegistered w = (.ok (), w.filled app) := by
  have hitems (b : Application) (hb : b ∈ w.cache.items.map Prod.snd) :
      w.cache.get b.uuid = some b := by
    obtain ⟨⟨uuid, b'⟩, hmem, rfl⟩ := List.mem_map.mp hb
    have hget := Dict.mem_items.mp hmem
    rw [hn.keyed uuid b' hget]
    exact hget
  have hcreated : (exec (NodeWorld.answer env) (createDestinations (w.cache.items.map Prod.snd))
      w).2 = w.filled app := exec_createDestinations h (fun b hb hnode => ?_) ?_
  · unfold onApplicationRegistered
    rw [exec_ignoring, exec_bind, exec_list h]
    dsimp only
    rcases hrun : exec (NodeWorld.answer env) (createDestinations (w.cache.items.map Prod.snd)) w
      with ⟨e | u, w'⟩ <;> rw [hrun] at hcreated <;> simp [← hcreated]
  · by_cases huuid : b.uuid = app.uuid
    · have hget := hitems b hb
      rw [huuid, hn.cached] at hget
      exact .inl (Option.some.inj hget).symm
    · exact .inr ((hn.others b.uuid huuid).mpr ⟨b, hitems b hb, hnode⟩)
  · exact List.mem_map.mpr ⟨(app.uuid, app), Dict.mem_items.mpr hn.cached, rfl⟩

@[simp] theorem filled_cache (app : Application) : (w.filled app).cache = w.cache := by
  unfold NodeWorld.filled
  split <;> rfl

/-- The bridge of the application after it has been filled. -/
theorem isSome_filled (app : Application) (uuid : String) :
    ((w.filled app).bridges.get uuid).isSome ↔ (w.bridges.get uuid).isSome ∨
      uuid = app.uuid ∧ app.ToNode ∧ app.type.isSome := by
  unfold NodeWorld.filled
  split
  · next hdue =>
    simp only [Dict.get_set]
    by_cases huuid : uuid = app.uuid <;> simp [huuid, hdue]
  · next hnot =>
    constructor
    · exact .inl
    · rintro (hsome | ⟨rfl, hnode, htype⟩)
      · exact hsome
      · by_contra hmissing
        exact hnot ⟨hnode, hmissing, htype⟩

/-- To fill it once more changes nothing. -/
theorem filled_filled (app : Application) : (w.filled app).filled app = w.filled app := by
  have hiff := isSome_filled (w := w) app app.uuid
  rw [NodeWorld.filled, if_neg]
  rintro ⟨hnode, hmissing, htype⟩
  exact hmissing (hiff.mpr (.inr ⟨rfl, hnode, htype⟩))

theorem Near.filled {app : Application} (hn : Near w app) : Near (w.filled app) app where
  keyed := by rw [filled_cache]; exact hn.keyed
  cached := by rw [filled_cache]; exact hn.cached
  others uuid huuid := by
    rw [isSome_filled]
    unfold NodeWorld.ToNode
    rw [filled_cache]
    have hother : ¬ (uuid = app.uuid ∧ app.ToNode ∧ app.type.isSome) := fun h => huuid h.1
    rw [or_iff_left hother]
    exact hn.others uuid huuid

/-- The callbacks of an application. -/
theorem exec_callbacks (h : env.Answers) {app : Application} (hn : Near w app) (callbacks : ℕ) :
    exec (NodeWorld.answer env) (List.forM (List.replicate callbacks ()) fun _ =>
      onApplicationRegistered) w = (.ok (), if callbacks = 0 then w else w.filled app) := by
  induction callbacks generalizing w with
  | zero => rfl
  | succ n ih =>
    change exec _ (onApplicationRegistered >>= fun _ => List.forM (List.replicate n ()) _) w = _
    rw [exec_bind, exec_onApplicationRegistered h hn]
    dsimp only
    rw [ih hn.filled, filled_filled, ite_self, if_neg (Nat.succ_ne_zero n)]

/-- Only the registrations have changed. -/
structure Reregistered (w w' : NodeWorld) : Prop where
  cache : w'.cache = w.cache
  bridges : w'.bridges = w.bridges

theorem Reregistered.near {w' : NodeWorld} {app : Application} (hw : Reregistered w w')
    (hn : Near w app) : Near w' app := by
  refine ⟨by rw [hw.cache]; exact hn.keyed, by rw [hw.cache]; exact hn.cached, fun uuid huuid => ?_⟩
  unfold NodeWorld.ToNode
  rw [hw.bridges, hw.cache]
  exact hn.others uuid huuid

theorem Reregistered.filled {w' : NodeWorld} (hw : Reregistered w w') (app : Application) :
    Reregistered (w.filled app) (w'.filled app) := by
  refine ⟨by rw [filled_cache, filled_cache, hw.cache], ?_⟩
  unfold NodeWorld.filled
  rw [hw.bridges]
  split
  · rfl
  · exact hw.bridges

/-- `register_application`. -/
theorem exec_registerApplication (h : env.Answers) {app : Application} (hn : Near w app)
    {name : AppName} (hcallbacks : w.callbacks name ≠ 0) :
    ∃ w', exec (NodeWorld.answer env) (registerApplication name) w = (.ok (), w') ∧
      Reregistered (if name ∈ w.apps then w else w.filled app) w' := by
  unfold registerApplication
  rw [exec_bind, exec_ask h]
  simp only [NodeWorld.succeed]
  by_cases hlisted : name ∈ w.apps
  · simp only [hlisted, decide_true, Bool.not_true, Bool.false_eq_true, if_false, if_true]
    exact ⟨w, rfl, rfl, rfl⟩
  · simp only [hlisted, decide_false, Bool.not_false, if_true, if_false]
    rw [exec_bind, exec_ask h]
    simp only [NodeWorld.succeed]
    rw [exec_bind, exec_ask h]
    simp only [NodeWorld.succeed]
    unfold executeAppRegisteredCallbacks
    rw [exec_bind, exec_ask h]
    simp only [NodeWorld.succeed]
    rw [exec_bind, exec_ask h]
    simp only [NodeWorld.succeed]
    have hregistered : Reregistered w { w with
        apps := w.apps ++ [name], registered := Function.update w.registered name true } :=
      ⟨rfl, rfl⟩
    refine ⟨_, exec_callbacks h (hregistered.near hn) _, ?_⟩
    rw [if_neg hcallbacks]
    exact hregistered.filled app

/-- The callback of an application is run when it is added. -/
def NodeWorld.Runs (w : NodeWorld) (app : Application) : Prop :=
  w.registered (toName app.uuid) = true ∨ toName app.uuid ∉ w.apps

instance (w : NodeWorld) (app : Application) : Decidable (w.Runs app) :=
  inferInstanceAs (Decidable (_ ∨ _))

/-- `add_ari_application`. -/
theorem exec_addAriApplication (h : env.Answers) {app : Application} (hn : Near w app) :
    ∃ w', exec (NodeWorld.answer env) (addAriApplication app) w = (.ok (), w') ∧
      Reregistered (if w.Runs app then w.filled app else w) w' := by
  unfold addAriApplication callOnApplicationRegistered
  rw [exec_bind, exec_bind, exec_ask h]
  obtain ⟨w₁, hadd, hw₁, happs, hregistered, hcallbacks⟩ : ∃ w₁,
      w.succeed env (.addCallback (toName app.uuid)) = (.ok (), w₁) ∧ Reregistered w w₁ ∧
      w₁.apps = w.apps ∧ w₁.registered = w.registered ∧ w₁.callbacks (toName app.uuid) ≠ 0 :=
    ⟨_, rfl, ⟨rfl, rfl⟩, rfl, rfl, by simp⟩
  rw [hadd]
  dsimp only
  rw [exec_bind, exec_ask h]
  simp only [NodeWorld.succeed, hregistered]
  have hn₁ := hw₁.near hn
  cases hrun : w.registered (toName app.uuid) with
  | true =>
    have hruns : w.Runs app := .inl hrun
    simp only [if_true]
    rw [exec_onApplicationRegistered h hn₁, if_pos hruns]
    dsimp only
    have hcalled : (w₁.filled app).callbacks (toName app.uuid) ≠ 0 := by
      unfold NodeWorld.filled
      split <;> exact hcallbacks
    obtain ⟨w', hw', hregister⟩ := exec_registerApplication h hn₁.filled hcalled
    refine ⟨w', hw', ?_⟩
    rw [filled_filled, ite_self] at hregister
    have hfilled := hw₁.filled app
    exact ⟨hregister.cache.trans hfilled.cache, hregister.bridges.trans hfilled.bridges⟩
  | false =>
    simp only [Bool.false_eq_true, if_false, exec_pure]
    obtain ⟨w', hw', hregister⟩ := exec_registerApplication h hn₁ hcallbacks
    refine ⟨w', hw', ?_⟩
    rw [happs] at hregister
    by_cases hlisted : toName app.uuid ∈ w.apps
    · have hruns : ¬ w.Runs app := by
        rintro (h | h)
        · rw [hrun] at h
          cases h
        · exact h hlisted
      rw [if_pos hlisted] at hregister
      rw [if_neg hruns]
      exact ⟨hregister.cache.trans hw₁.cache, hregister.bridges.trans hw₁.bridges⟩
    · have hruns : w.Runs app := .inr hlisted
      have hfilled := hw₁.filled app
      rw [if_neg hlisted] at hregister
      rw [if_pos hruns]
      exact ⟨hregister.cache.trans hfilled.cache, hregister.bridges.trans hfilled.bridges⟩

/-- `remove_ari_application`. -/
theorem exec_removeAriApplication (h : env.Answers) (app : Application) :
    ∃ w', exec (NodeWorld.answer env) (removeAriApplication app) w = (.ok (), w') ∧
      Reregistered w w' := by
  unfold removeAriApplication deregisterApplication
  rw [exec_bind, exec_ask h]
  simp only [NodeWorld.succeed]
  rw [exec_bind, exec_ask h]
  simp only [NodeWorld.succeed]
  by_cases hlisted : toName app.uuid ∈ w.apps
  · simp only [hlisted, decide_true, if_true]
    rw [exec_bind, exec_ask h]
    simp only [NodeWorld.succeed]
    rw [exec_bind, exec_ask h]
    simp only [NodeWorld.succeed]
    rw [exec_ask h]
    exact ⟨_, rfl, rfl, rfl⟩
  · simp only [hlisted, decide_false, Bool.false_eq_true, if_false, exec_pure]
    exact ⟨_, rfl, rfl, rfl⟩

end Parts

/-! ## Events -/

/-- The bridges stay those that are due.  An application that comes as one that the cache has
already must not lose its node; an edited one must be in the cache, and go between no
destination and a node; and one that is deleted must have no node. -/
def Fits (w : NodeWorld) (event : AppEvent) : Prop :=
  match event.kind with
  | .created => (w.ToNode event.app.uuid → event.app.ToNode) ∧
      (event.app.ToNode → w.ToNode event.app.uuid ∨ w.Runs event.app ∧ event.app.type.isSome)
  | .edited =>
      (w.ToNode event.app.uuid → event.app.ToNode ∨ event.app.destination = none) ∧
      (event.app.ToNode → w.ToNode event.app.uuid ∨
        w.ToNothing event.app.uuid ∧ event.app.type.isSome)
  | .deleted => ¬ w.ToNode event.app.uuid

instance (w : NodeWorld) (event : AppEvent) : Decidable (Fits w event) := by
  unfold Fits
  split <;> infer_instance

section Events

variable {env : NodeEnv} {w w' : NodeWorld} {app : Application}

/-- The world with the application stored. -/
def NodeWorld.stored (w : NodeWorld) (app : Application) : NodeWorld :=
  { w with cache := w.cache.set app.uuid app }

/-- The application is stored, and the others are as they were. -/
theorem near_stored (hkeyed : Keyed Application.uuid w.cache.get) (hmatch : w.Match) :
    Near (w.stored app) app where
  keyed uuid b hb := by
    simp only [NodeWorld.stored, Dict.get_set] at hb
    split at hb
    · next heq => rw [← Option.some.inj hb, heq]
    · exact hkeyed uuid b hb
  cached := Dict.get_set_self ..
  others uuid huuid := by
    unfold NodeWorld.ToNode NodeWorld.stored
    rw [Dict.get_set_of_ne _ huuid]
    exact hmatch uuid

theorem exec_applicationCreated (h : env.Answers) (hn : Near (w.stored app) app) :
    Reregistered (if w.Runs app then (w.stored app).filled app else w.stored app)
      (exec (NodeWorld.answer env) (applicationCreated app) w).2 := by
  unfold applicationCreated
  rw [exec_bind, exec_isInitialized h]
  simp only [if_true]
  rw [exec_bind, exec_applications h]
  dsimp only
  rw [exec_bind, exec_ask h]
  obtain ⟨w', hrun, hw'⟩ := exec_addAriApplication h hn
  change Reregistered _ (exec _ (addAriApplication app) (w.stored app)).2
  rw [hrun]
  exact hw'

theorem exec_applicationUpdated (h : env.Answers) :
    (exec (NodeWorld.answer env) (applicationUpdated app) w).2 =
      (exec (NodeWorld.answer env) (updateDestinationNode (w.cache.get app.uuid) app)
        (w.stored app)).2 := by
  unfold applicationUpdated
  rw [exec_bind, exec_isInitialized h]
  simp only [if_true]
  rw [exec_bind, exec_applications h]
  dsimp only
  rw [exec_bind, exec_ask h]
  simp only [NodeWorld.succeed]
  rw [exec_bind, exec_applications h]
  dsimp only
  rw [exec_bind, exec_ask h]
  rfl

theorem exec_applicationDeleted (h : env.Answers) :
    Reregistered { w with cache := w.cache.pop app.uuid }
      (exec (NodeWorld.answer env) (applicationDeleted app) w).2 := by
  unfold applicationDeleted
  rw [exec_bind, exec_isInitialized h]
  simp only [if_true]
  rw [exec_bind, exec_applications h]
  dsimp only
  rw [exec_bind, exec_ask h]
  simp only [NodeWorld.succeed]
  obtain ⟨w', hrun, hw'⟩ := exec_removeAriApplication h app
    (w := { w with cache := w.cache.pop app.uuid })
  rw [hrun]
  exact hw'

/-- Only the bridge of the application of the event has to be looked at. -/
theorem match_iff (uuid : String) (hmatch : w.Match)
    (hcache : ∀ u, u ≠ uuid → w'.cache.get u = w.cache.get u)
    (hbridges : ∀ u, u ≠ uuid → ((w'.bridges.get u).isSome ↔ (w.bridges.get u).isSome)) :
    w'.Match ↔ ((w'.bridges.get uuid).isSome ↔ w'.ToNode uuid) := by
  constructor
  · intro h
    exact h uuid
  · intro h u
    by_cases hu : u = uuid
    · rw [hu]
      exact h
    · unfold NodeWorld.ToNode
      rw [hbridges u hu, hcache u hu]
      exact hmatch u

theorem toNode_stored : (w.stored app).ToNode app.uuid ↔ app.ToNode := by
  unfold NodeWorld.ToNode NodeWorld.stored
  rw [Dict.get_set_self]
  simp

theorem match_created (h : env.Answers) (hkeyed : Keyed Application.uuid w.cache.get)
    (hmatch : w.Match) :
    (exec (NodeWorld.answer env) (applicationCreated app) w).2.Match ↔
      Fits w ⟨.created, app⟩ := by
  have hstored : Near (w.stored app) app := near_stored hkeyed hmatch
  obtain ⟨hcache, hbridges⟩ := exec_applicationCreated h hstored
  set w' := (exec (NodeWorld.answer env) (applicationCreated app) w).2
  have hsome (uuid : String) : (w'.bridges.get uuid).isSome ↔ (w.bridges.get uuid).isSome ∨
      w.Runs app ∧ uuid = app.uuid ∧ app.ToNode ∧ app.type.isSome := by
    rw [hbridges]
    by_cases hruns : w.Runs app
    · rw [if_pos hruns, isSome_filled]
      simp only [hruns, true_and]
      rfl
    · rw [if_neg hruns]
      simp only [hruns, false_and, or_false]
      rfl
  have hcache' : w'.cache = (w.stored app).cache := by
    rw [hcache]
    split
    · exact filled_cache app
    · rfl
  rw [match_iff app.uuid hmatch (fun u hu => ?_) fun u hu => ?_]
  · have hnode : w'.ToNode app.uuid ↔ app.ToNode := by
      unfold NodeWorld.ToNode
      rw [hcache']
      exact toNode_stored
    rw [hsome, hnode, hmatch app.uuid]
    simp only [Fits]
    clear hcache hbridges hsome hcache' hnode
    tauto
  · rw [hcache']
    exact Dict.get_set_of_ne _ hu _
  · rw [hsome]
    simp [hu]

theorem match_deleted (h : env.Answers) (hmatch : w.Match) :
    (exec (NodeWorld.answer env) (applicationDeleted app) w).2.Match ↔
      Fits w ⟨.deleted, app⟩ := by
  obtain ⟨hcache, hbridges⟩ := @exec_applicationDeleted env w app h
  set w' := (exec (NodeWorld.answer env) (applicationDeleted app) w).2
  rw [match_iff app.uuid hmatch (fun u hu => ?_) fun u _ => by rw [hbridges]]
  · have hnode : ¬ w'.ToNode app.uuid := by
      unfold NodeWorld.ToNode
      rw [hcache, Dict.get_pop_self]
      simp
    rw [hbridges, iff_false_right hnode]
    exact not_congr (hmatch app.uuid)
  · rw [hcache]
    exact Dict.get_pop_of_ne _ hu

/-- What an edited application does to its bridge. -/
theorem exec_updateDestinationNode (h : env.Answers) (old : Option Application) :
    (exec (NodeWorld.answer env) (updateDestinationNode old app) w).2.cache = w.cache ∧
      ∀ uuid, ((exec (NodeWorld.answer env) (updateDestinationNode old app) w).2.bridges.get
          uuid).isSome ↔
        if uuid = app.uuid ∧ (∃ o ∈ old, o.destination = none) ∧ app.ToNode then
          (w.bridges.get uuid).isSome ∨ app.type.isSome
        else (w.bridges.get uuid).isSome ∧
          ¬ (uuid = app.uuid ∧ (∃ o ∈ old, o.ToNode) ∧ app.destination = none) := by
  cases old with
  | none => simp [updateDestinationNode]
  | some o =>
    unfold updateDestinationNode
    dsimp only
    by_cases hmake : o.destination = none ∧ app.destination = some "node"
    · have hnode : app.ToNode := hmake.2
      rw [if_pos hmake, exec_createDestinationNode h]
      by_cases hsome : (w.bridges.get app.uuid).isSome
      · rw [if_pos hsome]
        refine ⟨rfl, fun uuid => ?_⟩
        by_cases huuid : uuid = app.uuid
        · simp [huuid, hmake.1, hnode, hsome]
        · simp [huuid]
      · rw [if_neg hsome]
        by_cases htype : app.type.isSome
        · rw [if_pos htype]
          refine ⟨rfl, fun uuid => ?_⟩
          by_cases huuid : uuid = app.uuid
          · simp [huuid, hmake.1, hnode, htype]
          · simp [huuid, Dict.get_set]
        · rw [if_neg htype]
          refine ⟨rfl, fun uuid => ?_⟩
          by_cases huuid : uuid = app.uuid
          · simp [huuid, hmake.1, hnode, htype]
          · simp [huuid]
    · have hmake' : ¬ ((∃ o' ∈ some o, o'.destination = none) ∧ app.ToNode) := by
        rintro ⟨⟨o', ho', hnone⟩, hnode⟩
        obtain rfl := Option.some.inj ho'
        exact hmake ⟨hnone, hnode⟩
      rw [if_neg hmake]
      by_cases hdrop : o.destination = some "node" ∧ app.destination = none
      · have hnode : o.ToNode := hdrop.1
        rw [if_pos hdrop, exec_deleteDestinationNode h]
        dsimp only
        by_cases hsome : (w.bridges.get app.uuid).isSome
        · rw [if_pos hsome]
          refine ⟨rfl, fun uuid => ?_⟩
          rw [if_neg fun hall => hmake' hall.2]
          by_cases huuid : uuid = app.uuid
          · simp [huuid, hnode, hdrop.2]
          · simp [huuid, Dict.get_pop]
        · rw [if_neg hsome]
          refine ⟨rfl, fun uuid => ?_⟩
          rw [if_neg fun hall => hmake' hall.2]
          by_cases huuid : uuid = app.uuid
          · simp [huuid, hsome]
          · simp [huuid]
      · rw [if_neg hdrop]
        refine ⟨rfl, fun uuid => ?_⟩
        have hdrop' : ¬ ((∃ o' ∈ some o, o'.ToNode) ∧ app.destination = none) := by
          rintro ⟨⟨o', ho', hnode⟩, hnone⟩
          obtain rfl := Option.some.inj ho'
          exact hdrop ⟨hnode, hnone⟩
        rw [if_neg fun hall => hmake' hall.2, and_iff_left fun hall => hdrop' hall.2]
        rfl

theorem match_edited (h : env.Answers) (hmatch : w.Match) :
    (exec (NodeWorld.answer env) (applicationUpdated app) w).2.Match ↔
      Fits w ⟨.edited, app⟩ := by
  rw [exec_applicationUpdated h]
  obtain ⟨hcache, hbridges⟩ := @exec_updateDestinationNode env (w.stored app) app h
    (w.cache.get app.uuid)
  set w' := (exec (NodeWorld.answer env) (updateDestinationNode (w.cache.get app.uuid) app)
    (w.stored app)).2
  rw [match_iff app.uuid hmatch (fun u hu => ?_) fun u hu => ?_]
  · have hnode : w'.ToNode app.uuid ↔ app.ToNode := by
      unfold NodeWorld.ToNode
      rw [hcache]
      exact toNode_stored
    have hbridge : ((w.stored app).bridges.get app.uuid).isSome ↔ w.ToNode app.uuid :=
      hmatch app.uuid
    -- a destination is a node or none, and not both
    have hold : w.ToNode app.uuid → ¬ w.ToNothing app.uuid := by
      rintro ⟨o, ho, hto⟩ ⟨o', ho', hnone⟩
      obtain rfl : o = o' := Option.some.inj (ho.symm.trans ho')
      have hto' : o.destination = some "node" := hto
      rw [hnone] at hto'
      cases hto'
    have hnew : app.ToNode → app.destination ≠ none := by
      intro hto hnone
      have hto' : app.destination = some "node" := hto
      rw [hnone] at hto'
      cases hto'
    rw [hbridges, hnode, hbridge]
    change ((if _ then _ else _ ∧ ¬ (_ ∧ w.ToNode app.uuid ∧ _)) ↔ _) ↔ _
    simp only [Fits, true_and]
    clear hbridges hcache hnode hbridge
    split
    · next hmake =>
      replace hmake : w.ToNothing app.uuid ∧ app.ToNode := hmake
      tauto
    · next hmake =>
      replace hmake : ¬ (w.ToNothing app.uuid ∧ app.ToNode) := hmake
      tauto
  · rw [hcache]
    exact Dict.get_set_of_ne _ hu _
  · rw [hbridges]
    simp only [hu, false_and, if_false, not_false_eq_true, and_true]
    rfl

/-- An event whose requests are answered keeps the bridges exactly when it fits. -/
theorem match_step {e : Handled} (h : e.env.Answers)
    (hkeyed : Keyed Application.uuid w.cache.get) (hmatch : w.Match)
    (hs : nodes.step e w = some w') : w'.Match ↔ Fits w e.event := by
  obtain rfl := Option.some.inj hs
  obtain ⟨⟨kind, app⟩, env⟩ := e
  cases kind with
  | created => exact match_created h hkeyed hmatch
  | edited => exact match_edited h hmatch
  | deleted => exact match_deleted h hmatch

/-- Every application stays under its uuid. -/
theorem keyed_step {e : Handled} (h : e.env.Answers)
    (hkeyed : Keyed Application.uuid w.cache.get) (hmatch : w.Match)
    (hs : nodes.step e w = some w') : Keyed Application.uuid w'.cache.get := by
  obtain rfl := Option.some.inj hs
  obtain ⟨⟨kind, app⟩, env⟩ := e
  have hstored : Near (w.stored app) app := near_stored hkeyed hmatch
  cases kind with
  | created =>
    obtain ⟨hcache, -⟩ := exec_applicationCreated h hstored
    change Keyed _ (exec (NodeWorld.answer env) (applicationCreated app) w).2.cache.get
    rw [hcache]
    split
    · rw [filled_cache]
      exact hstored.keyed
    · exact hstored.keyed
  | edited =>
    change Keyed _ (exec (NodeWorld.answer env) (applicationUpdated app) w).2.cache.get
    rw [exec_applicationUpdated h, (exec_updateDestinationNode h _).1]
    exact hstored.keyed
  | deleted =>
    obtain ⟨hcache, -⟩ := @exec_applicationDeleted env w app h
    change Keyed _ (exec (NodeWorld.answer env) (applicationDeleted app) w).2.cache.get
    rw [hcache]
    intro uuid b hb
    simp only [Dict.get_pop] at hb
    split at hb
    · cases hb
    · exact hkeyed uuid b hb

/-- **In every run of events that are answered and that fit, the bridges are those of the
applications whose destination is a node; and an event that is answered keeps them so exactly
when it fits.** -/
theorem nodes_match (h : nodes.Reaches (fun w e => e.env.Answers ∧ Fits w e.event) w) :
    w.Match ∧ ∀ e w', e.env.Answers → nodes.step e w = some w' →
      (w'.Match ↔ Fits w e.event) := by
  have hw : Keyed Application.uuid w.cache.get ∧ w.Match := by
    refine h.invariant (I := fun w => Keyed Application.uuid w.cache.get ∧ w.Match)
      (fun w hw => hw) fun w e w' ⟨hkeyed, hmatch⟩ ⟨hanswers, hfits⟩ hs => ?_
    exact ⟨keyed_step hanswers hkeyed hmatch hs,
      (match_step hanswers hkeyed hmatch hs).mpr hfits⟩
  exact ⟨hw.2, fun e w' hanswers hs => match_step hanswers hw.1 hw.2 hs⟩

end Events

/-! ## An application that comes, and one that goes -/

/-- Asterisk answers, and no call is gone. -/
def answering : NodeEnv := ⟨fun _ => false, fun _ => false⟩

/-- No application, and no bridge. -/
def noNodes : NodeWorld := ⟨∅, [], fun _ => false, fun _ => 0, ∅⟩

theorem noNodes_init : nodes.init noNodes := by
  refine ⟨fun uuid app h => (by cases h), fun uuid => ?_⟩
  simp [noNodes, NodeWorld.ToNode]

/-- An application with a node. -/
def withNode : Application := ⟨"a", some "node", some "mixing"⟩

/-- After an event of the application. -/
def nodesAfter (kind : EventKind) (w : NodeWorld) : NodeWorld :=
  (exec (NodeWorld.answer answering) (handle ⟨kind, withNode⟩) w).2

theorem step_nodesAfter (kind : EventKind) (w : NodeWorld) :
    nodes.step ⟨⟨kind, withNode⟩, answering⟩ w = some (nodesAfter kind w) := rfl

theorem created_reaches : nodes.Reaches (fun w e => e.env.Answers ∧ Fits w e.event)
    (nodesAfter .created noNodes) := by
  refine (Machine.Reaches.init noNodes_init).step ⟨fun _ => rfl, ?_⟩ (step_nodesAfter .created _)
  decide

/-- An application that comes has its bridge. -/
theorem nodes_match_created : (nodesAfter .created noNodes).Match ∧
    ((nodesAfter .created noNodes).bridges.get "a").isSome := by
  have hmatch := (nodes_match created_reaches).1
  exact ⟨hmatch, (hmatch "a").mpr (by decide)⟩

/-- When it is deleted, its bridge stays. -/
theorem deleted_keeps_node : ¬ ∀ w, nodes.Reachable w → w.Match := by
  intro hall
  have hcreated : nodes.Reachable (nodesAfter .created noNodes) :=
    created_reaches.mono fun _ _ _ => trivial
  have hdeleted := hcreated.step (a := ⟨⟨.deleted, withNode⟩, answering⟩) trivial
    (step_nodesAfter .deleted _)
  have hanswers : answering.Answers := fun _ => rfl
  have hkeyed : Keyed Application.uuid (nodesAfter .created noNodes).cache.get :=
    keyed_step (e := ⟨⟨.created, withNode⟩, answering⟩) hanswers noNodes_init.1 noNodes_init.2
      (step_nodesAfter .created _)
  have hfits := (match_step (e := ⟨⟨.deleted, withNode⟩, answering⟩) hanswers hkeyed
    (hall _ hcreated) (step_nodesAfter .deleted _)).mp (hall _ hdeleted)
  exact hfits (by decide)

end Calld.Applications
