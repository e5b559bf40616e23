/-
# Runs of calld

A run is a sequence of requests and events, each handled in an environment of its own,
and of restarts.  A handler runs as a whole, except that its look-up of a transfer may
have been made earlier than the part that holds the state machine lock: the operations
`late…` are these parts, on any transfer.

`Reaches` is the run relation and `Reachable` what can be reached with nothing stored at
first.  Every run is a sequence of moves (`Reaches.moves`).
-/
import Calld.Transfers.Creation

namespace Calld.Transfers

open Effect Effect.Program

/-! ## Operations -/

/-- The requests of the API, the events from Asterisk, the recovery at the registration of
the stasis application, and the restart of the process. -/
inductive Op where
  | create (r : CreateRequest)
  | createFromUser (initiatorCall : ChannelId) (exten : String) (flow : Flow)
      (timeout : Option ℤ) (userUuid : UserUuid)
  | complete (id : TransferId)
  | completeFromUser (id : TransferId) (userUuid : UserUuid)
  | cancel (id : TransferId)
  | cancelFromUser (id : TransferId) (userUuid : UserUuid)
  | stasisStart (c : ChannelId) (args : List String)
  | hangup (c : ChannelId)
  | mohStop (c : ChannelId)
  | channelLeftBridge (application : String) (b : BridgeId)
  | bridgeDestroyed (b : BridgeId)
  | channelCallerId (c : ChannelId)
  | processLostHangups
  | processAnsweredCalls
  | lateHangup (role : Role) (t : Transfer)
  | lateJoin (role : Role) (t : Transfer)
  | lateMohStop (t : Transfer)
  | lateLostHangups (t : Transfer)
  | lateAnsweredCall (t : Transfer)
  | restart

namespace Op

open TransfersService TransfersStasis in
/-- What calld runs. -/
def code : Op → Code Unit
  | create r => do let _ ← TransfersService.create r
  | createFromUser c exten flow timeout uuid => do
    let _ ← TransfersService.createFromUser c exten flow timeout uuid
  | complete id => TransfersService.complete id
  | completeFromUser id uuid => TransfersService.completeFromUser id uuid
  | cancel id => TransfersService.cancel id
  | cancelFromUser id uuid => TransfersService.cancelFromUser id uuid
  | stasisStart c args => TransfersStasis.stasisStart c args
  | hangup c => TransfersStasis.hangup c
  | mohStop c => TransfersStasis.mohStop c
  | channelLeftBridge application b => cleanBridge application b
  | bridgeDestroyed b => cleanBridgeVariables b
  | channelCallerId c => updateTransferCallerId c
  | processLostHangups => TransfersStasis.processLostHangups
  | processAnsweredCalls => TransfersStasis.processAnsweredCalls
  | lateHangup role t => publish (partyHangup role t)
  | lateJoin role t => publish (StateFactory.make t.id (joined role))
  | lateMohStop t => StateFactory.make t.id fun state => do
    let _ ← call .transferredMohStop state
  | lateLostHangups t => lostHangups t
  | lateAnsweredCall t => answeredCall t
  | restart => change fun s => { s with lockedCalls := ∅, stateMachineLocked := false }

end Op

/-! ## Runs -/

/-- Nothing has been stored, locked or recorded yet. -/
def System.Initial (s : System) : Prop :=
  s.memory = ⟨fun _ => none, [], ∅, []⟩ ∧ s.stateMachineLocked = false

/-- `uuid4` gives an id that has not been used. -/
def Env.FreshIn (env : Env) (s : System) : Prop := .stored env.uuid4 ∉ s.trace

instance (env : Env) (s : System) : Decidable (env.FreshIn s) :=
  inferInstanceAs (Decidable (_ ∉ s.trace))

/-- What an operation records. -/
def Op.events (op : Op) (env : Env) (s : System) : List Event :=
  (op.code env s).2.trace.drop s.trace.length

/-- A condition on the operations of a run, in the state in which they are done. -/
abbrev Allowed := Env → Op → System → Prop

/-- One operation, of those that are allowed. -/
def Step (A : Allowed) (s s' : System) : Prop :=
  ∃ env op, env.FreshIn s ∧ A env op s ∧ s' = (op.code env s).2

/-- A run of allowed operations. -/
abbrev Reaches (A : Allowed) : System → System → Prop := Relation.ReflTransGen (Step A)

/-- What runs of allowed operations can lead to. -/
def Reachable (A : Allowed) (s : System) : Prop := ∃ s₀, s₀.Initial ∧ Reaches A s₀ s

/-- ARI accepts the writes of global variables. -/
def Env.AcceptsWrites (env : Env) : Prop :=
  ∀ n a w, env.ari n a (.setGlobalVar w) = .ok ()

/-- The runs in which the writes of global variables succeed. -/
abbrev GlobalsWritten : Allowed := fun env _ _ => env.AcceptsWrites

/-! ## The moves of a run -/

variable {env : Env} {s s' : System}

theorem Acting.mono {I J : Set TransferId} (hIJ : I ⊆ J) {α : Type} {q : Code α}
    (h : Acting env I q) : Acting env J q := by
  refine fun s => ⟨fun hs => ?_, fun _ _ => trivial⟩
  obtain ⟨acts, hw⟩ := (h s).1 hs
  refine ⟨Relation.ReflTransGen.mono (fun m m' ha => ?_) _ _ acts, hw⟩
  obtain ⟨id, hid, ha⟩ := ha
  exact ⟨id, hIJ hid, ha⟩

open TransfersService TransfersStasis in
/-- All but the creations and the restart act on behalf of transfers. -/
theorem Op.acting (op : Op) :
    Acting env Set.univ op.code ∨ op = .restart ∨ (∃ r, op = .create r) ∨
      ∃ c exten flow timeout uuid, op = .createFromUser c exten flow timeout uuid := by
  have univ {id : TransferId} {q : Code Unit} (h : Acting env {id} q) : Acting env Set.univ q :=
    h.mono (Set.subset_univ _)
  cases op with
  | create r => exact .inr (.inr (.inl ⟨r, rfl⟩))
  | createFromUser c exten flow timeout uuid =>
    exact .inr (.inr (.inr ⟨c, exten, flow, timeout, uuid, rfl⟩))
  | complete id => exact .inl (univ (complete_acting id))
  | completeFromUser id uuid => exact .inl (univ (completeFromUser_acting id uuid))
  | cancel id => exact .inl (univ (cancel_acting id))
  | cancelFromUser id uuid => exact .inl (univ (cancelFromUser_acting id uuid))
  | stasisStart c args => exact .inl (stasisStart_acting c args)
  | hangup c => exact .inl (hangup_acting c)
  | mohStop c => exact .inl (mohStop_acting c)
  | channelLeftBridge application b => exact .inl (cleanBridge_acting application b)
  | bridgeDestroyed b => exact .inl (cleanBridgeVariables_acting b)
  | channelCallerId c => exact .inl (updateTransferCallerId_acting c)
  | processLostHangups => exact .inl processLostHangups_acting
  | processAnsweredCalls => exact .inl processAnsweredCalls_acting
  | lateHangup role t => exact .inl (publish_acting (partyHangup_acting role trivial))
  | lateJoin role t =>
    exact .inl (publish_acting (make_acting trivial fun _ t _ => joined_triple role t))
  | lateMohStop t => exact .inl (make_call_acting (Set.mem_univ _) _)
  | lateLostHangups t => exact .inl (lostHangups_acting trivial)
  | lateAnsweredCall t => exact .inl (answeredCall_acting t)
  | restart => exact .inr (.inl rfl)

/-- **Every operation is a sequence of moves.** -/
theorem Op.moves (op : Op) (hs : WellStored s.memory) (fresh : env.FreshIn s) :
    Moves env.RefusesDeletion (op = .restart) s.memory (op.code env s).2.memory := by
  have lift {m : Memory} (h : Moves env.RefusesDeletion False s.memory m) :
      Moves env.RefusesDeletion (op = .restart) s.memory m := h.mono id False.elim
  have acting := @Op.acting env op
  rcases acting with h | rfl | ⟨r, rfl⟩ | ⟨c, exten, flow, timeout, uuid, rfl⟩
  · exact lift ((h s).1 hs).acts.moves
  · exact .single (.restarted rfl)
  · exact lift (Triple.final ((create_triple hs fresh).bind fun _ => Triple.pure fun _ => id) rfl)
  · exact lift (Triple.final ((createFromUser_triple hs fresh exten flow timeout uuid).bind
      fun _ => Triple.pure fun _ => id) rfl)

/-- An operation adds to the trace what it records. -/
theorem Op.trace (op : Op) (hs : WellStored s.memory) (fresh : env.FreshIn s) :
    (op.code env s).2.trace = s.trace ++ op.events env s := by
  obtain ⟨evs, h⟩ := (op.moves hs fresh).trace
  have h : s.trace ++ evs = (op.code env s).2.trace := h
  rw [Op.events, ← h, List.drop_left]

theorem System.Initial.wellStored (h : s.Initial) : WellStored s.memory := by
  rw [h.1]
  exact ⟨fun h => by simp at h, fun h => by simp at h, List.nodup_nil⟩

variable {A B : Allowed}

/-- A run of operations without some of the hazards is a sequence of moves without them. -/
theorem Reaches.moves {refusal crash : Prop}
    (hr : ∀ env op s, A env op s → env.RefusesDeletion → refusal)
    (hc : ∀ env s, A env .restart s → crash) (hs : WellStored s.memory) (h : Reaches A s s') :
    Moves refusal crash s.memory s'.memory := by
  induction h with
  | refl => exact .refl
  | tail _ hstep ih =>
    obtain ⟨env, op, fresh, ha, rfl⟩ := hstep
    refine ih.trans ((op.moves (ih.wellStored hs) fresh).mono (hr env op _ ha) ?_)
    rintro rfl
    exact hc env _ ha

theorem Reaches.wellStored (hs : WellStored s.memory) (h : Reaches A s s') :
    WellStored s'.memory := by
  have moves : Moves True True s.memory s'.memory :=
    h.moves (fun _ _ _ _ _ => trivial) (fun _ _ _ => trivial) hs
  exact moves.wellStored hs

/-- In every run the stored transfers are well-formed. -/
theorem Reachable.wellStored (h : Reachable A s) : WellStored s.memory := by
  obtain ⟨s₀, h₀, hr⟩ := h
  exact hr.wellStored h₀.wellStored

/-- With more operations allowed more can be reached. -/
theorem Reachable.mono (hAB : ∀ env op s, A env op s → B env op s) (h : Reachable A s) :
    Reachable B s := by
  obtain ⟨s₀, h₀, hr⟩ := h
  refine ⟨s₀, h₀, Relation.ReflTransGen.mono (fun s s' hstep => ?_) _ _ hr⟩
  obtain ⟨env, op, fresh, ha, hs⟩ := hstep
  exact ⟨env, op, fresh, hAB env op s ha, hs⟩

/-! ## Runs given as lists -/

/-- The operations of the list, one after the other. -/
def run : List (Env × Op) → System → System
  | [], s => s
  | (env, op) :: ops, s => run ops (op.code env s).2

/-- The operations of the list are allowed, and every new id is fresh. -/
def Admissible (A : Allowed) : List (Env × Op) → System → Prop
  | [], _ => True
  | (env, op) :: ops, s => env.FreshIn s ∧ A env op s ∧ Admissible A ops (op.code env s).2

theorem run_reaches {ops : List (Env × Op)} (h : Admissible A ops s) :
    Reaches A s (run ops s) := by
  induction ops generalizing s with
  | nil => exact .refl
  | cons x ops ih =>
    obtain ⟨env, op⟩ := x
    obtain ⟨fresh, ha, hops⟩ := h
    exact .head ⟨env, op, fresh, ha, rfl⟩ (ih hops)

/-- The system before anything has happened. -/
def System.start : System where
  asterisk := ⟨fun _ => none, [], fun _ => [], fun _ _ => none⟩
  lockedCalls := ∅
  stateMachineLocked := false
  tick := 0
  trace := []

theorem run_reachable {ops : List (Env × Op)} (h : Admissible A ops .start) :
    Reachable A (run ops .start) := ⟨.start, ⟨rfl, rfl⟩, run_reaches h⟩

/-! ## Environments and channels for runs on fixed inputs -/

/-- An environment in which every request succeeds: the dialplan has an extension, `uuid4`
gives `id`, and the recipient of a new transfer is `recipient`. -/
def Env.calm (id : TransferId) (recipient : ChannelId) : Env where
  ari _ a r :=
    match r with
    | .channelsGet (some c) => .ok ⟨c, "PJSIP/" ++ c.name, "Up", "", "", []⟩
    | .channelsGet none => .error .notFound
    | .channelsDo _ _ => .ok ()
    | .channelsGetVar c name => .ok ((a.channelVariables c name).getD "user")
    | .channelsSetVar _ _ _ => .ok ()
    | .channelsOriginate _ => .ok recipient
    | .bridgesList => .ok []
    | .bridgesGet b => .ok ⟨b, "mixing", []⟩
    | .bridgesCreate _ => .ok ()
    | .bridgesAddChannel _ _ => .ok ()
    | .bridgesDestroy _ => .ok ()
    | .getGlobalVar _ => .ok ()
    | .setGlobalVar _ => .ok ()
  ami _ r :=
    match r with
    | .showDialplan _ _ => .ok [⟨"ListDialplan", "1"⟩]
    | .setvar _ _ _ => .ok ()
    | .redirect _ _ _ _ => .ok ()
    | .playBeep _ _ => .ok ()
    | .mohShowClasses => .ok ["default"]
  confd _ r :=
    match r with
    | .usersGet _ => .ok ⟨"tenant", [1]⟩
    | .linesGet _ => .ok "default"
  bus _ := true
  uuid4 := id
  setOrder ids := ids
  setOrder_perm _ := .refl _
  dumps _ := "{}"
  loads _ := some (.object [])

/-- The channels are not in stasis. -/
def Env.outside (env : Env) : Env :=
  { env with
    ari := fun n a r =>
      match r with
      | .channelsSetVar c name v =>
        if name = "WAZO_TEST_STASIS" then .error .notInStasis
        else env.ari n a (.channelsSetVar c name v)
      | r => env.ari n a r }

/-- The channel that a request is about. -/
def AriRequest.channel? : AriRequest → Option ChannelId
  | .channelsGet c => c
  | .channelsDo _ c | .channelsGetVar c _ | .channelsSetVar c _ _ | .bridgesAddChannel _ c => some c
  | _ => none

/-- The channels of the list are gone. -/
def Env.without (env : Env) (gone : List ChannelId) : Env :=
  { env with
    ari := fun n a r =>
      if r.channel?.any (· ∈ gone) then .error .notFound else env.ari n a r }

/-- ARI fails to originate a recipient. -/
def Env.refusing (env : Env) : Env :=
  { env with
    ari := fun n a r =>
      match r with
      | .channelsOriginate _ => .error .other
      | r => env.ari n a r }

namespace Scene

theorem alice_nonempty : "alice" ≠ "" := by decide

theorem bob_nonempty : "bob" ≠ "" := by decide

def alice : ChannelId := ⟨"alice", alice_nonempty⟩
def bob : ChannelId := ⟨"bob", bob_nonempty⟩
def carol : ChannelId := ⟨"carol", by decide⟩
def dave : ChannelId := ⟨"dave", by decide⟩

/-- A request to transfer a channel. -/
def request (transferred initiator : ChannelId) (flow : Flow) : CreateRequest :=
  ⟨transferred, initiator, "default", "1000", flow, .object [], none⟩

end Scene

theorem Env.AcceptsWrites.deletes (h : env.AcceptsWrites) : ¬ env.RefusesDeletion := by
  rintro ⟨n, a, id, e, he⟩
  rw [h] at he
  cases he

theorem Env.calm_writes (id : TransferId) (recipient : ChannelId) :
    (Env.calm id recipient).AcceptsWrites := fun _ _ _ => rfl

theorem Env.calm_deletes (id : TransferId) (recipient : ChannelId) :
    ¬ (Env.calm id recipient).RefusesDeletion := (Env.calm_writes id recipient).deletes

end Calld.Transfers
