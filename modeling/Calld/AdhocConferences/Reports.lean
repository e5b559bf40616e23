/-
# What the dialogue of an operation shows

An operation on ad hoc conferences is a dialogue with Asterisk, its manager and the bus, of
which any request may fail.  The report of a dialogue has what has been asked of the channels,
and what became of the failures: an error that nothing deals with leaves the operation, others
give up a channel and are logged, or make the operation refuse.

The contracts of the methods say how the report changes, whatever the answers are.
-/
import Calld.AdhocConferences.Services
import Calld.Effect.Dialogues

namespace Calld.AdhocConferences

open Effect Effect.Interactive

/-! ## Reports -/

/-- Asterisk does not raise the errors of its manager, nor the manager those of Asterisk. -/
def Raisable : Request → Failure → Prop
  | .redirect _, f => f = .wazoAmidError ∨ f = .other
  | .created .., f => f = .other
  | _, f => f ≠ .wazoAmidError

/-- What a request can be answered with. -/
def Possible (r : Request) : Except Exn r.Reply → Prop
  | .ok _ => True
  | .error e => ∃ f, e = .raised f ∧ Raisable r f

inductive Operation where
  | createFromUser
  | deleteFromUser
  | addParticipantFromUser
  | removeParticipantFromUser
  deriving DecidableEq, Repr

/-- What has been seen of an operation.  The conference was `created` on the bus, and its host is
`known` from the variable of its bridge.  Channels were `marked` with the id of the conference,
and `asked` to move to it; `peer` is the channel that the first look-up has found, and `reader`
the one whose bridge is looked for.

A failure was `missed` when a channel was given up and the operation has gone on; an error
`escaped`; the operation has refused because of a failure, `late`, when a channel had been asked,
or `early`, when none had. -/
structure Report where
  created : Bool
  known : Bool
  marked : List String
  asked : List String
  peer : Option String
  reader : Option String
  missed : Bool
  escaped : Bool
  early : Bool
  late : Bool
  deriving DecidableEq, Repr

/-- Nothing has been seen. -/
def Report.blank : Report where
  created := false
  known := false
  marked := []
  asked := []
  peer := none
  reader := none
  missed := false
  escaped := false
  early := false
  late := false

/-- The channels that a redirection sends to the conference they are marked with. -/
def Redirect.toConference (d : Redirect) : List RestChannel :=
  let goes (context exten : String) : Bool :=
    context = "convert_to_stasis" && exten = "adhoc_conference"
  (if goes d.context d.exten then [d.channel] else []) ++
    if goes (d.extraContext.getD d.context) (d.extraExten.getD d.exten) then [d.extraChannel]
    else []

/-- The errors of Asterisk that are `ARIException`s. -/
def Failure.isARI (f : Failure) : Bool := (Exn.raised f).isARIException

/-- The errors that an operation deals with, by the request that raises them. -/
def Operation.handles (op : Operation) (k : Report) : Request → Failure → Bool
  | .channelsGet _, f | .getChannelVar .., f => f = .ariNotFound
  | .setChannelVar _ _ none _, f => f = .ariNotInStasis
  | .setChannelVar _ _ (some _) _, f | .move .., f | .bridgesList (.bridge _), f
  | .bridgesDestroy _, f => f.isARI
  | .hangup _, f =>
    match op with
    | .createFromUser | .addParticipantFromUser => f.isARI
    | .deleteFromUser | .removeParticipantFromUser => f = .ariNotFound
  | .bridgesGet _, f =>
    match op with
    -- the members of a conference whose host is known are read without a guard
    | .addParticipantFromUser | .removeParticipantFromUser => f = .ariNotFound && !k.known
    | .createFromUser | .deleteFromUser => f = .ariNotFound
  | .redirect _, f => f = .wazoAmidError
  | .bridgesList (.connectedChannels _), _ | .getGlobalVar _, _ | .created .., _ => false

namespace Report

/-- What a request shows, whatever it is answered. -/
def asking (k : Report) (conferenceId : String) : Request → Report
  | .move channelId app appArgs =>
    if app = stasisApp ∧ appArgs = [conferenceId] then { k with asked := channelId :: k.asked }
    else k
  | .redirect d =>
    { k with asked := (d.toConference.map (·.id)).filter (· ∈ k.marked) ++ k.asked }
  | .bridgesList (.bridge channelId) => { k with reader := some channelId }
  | _ => k

def escape (k : Report) : Report := { k with escaped := true }

/-- A peer is not found: when the conference has been created, nothing expects that. -/
def unfound (k : Report) : Report := if k.created then k.escape else k

/-- What an answer shows. -/
def hears (k : Report) (conferenceId : String) : (r : Request) → r.Reply → Report
  | .setChannelVar channelId variable_ value _, _ =>
    if variable_ = "WAZO_ADHOC_CONFERENCE_ID" ∧ value = some conferenceId then
      { k with marked := channelId :: k.marked }
    else k
  | .bridgesList (.connectedChannels channelId), bridges =>
    match connectedIn channelId bridges with
    | [peer] => { k with peer := k.peer.or (some peer) }
    | _ => k.unfound
  | .getGlobalVar _, _ => { k with known := true }
  | .created .., _ => { k with created := true }
  | _, _ => k

/-- A channel is given up. -/
def giveUp (k : Report) (channelId : String) : Report :=
  if channelId ∈ k.asked then k else { k with missed := true }

/-- The peer of the host is given up. -/
def giveUpPeer (k : Report) : Report := k.peer.elim k k.giveUp

/-- The operation refuses because a channel is gone. -/
def refuse (k : Report) : Report :=
  if k.created then
    if k.asked = [] then { k with early := true } else { k with late := true }
  else k

/-- What a failure that is dealt with shows. -/
def fails (k : Report) : Request → Failure → Report
  | .channelsGet _, _ => k.refuse
  | .setChannelVar channelId _ (some _) _, _ => k.giveUp channelId
  | .bridgesList (.bridge channelId), f => if f = .ariNotFound then k else k.giveUp channelId
  | .bridgesDestroy _, f => if f = .ariNotFound then k else k.reader.elim k k.giveUp
  -- when the host has not moved, its peer is not asked to
  | .move .., _ => k.giveUpPeer
  | .redirect _, _ => { k with late := true }
  | _, _ => k

/-- The report after an answer. -/
def note (op : Operation) (conferenceId : String) (k : Report) (r : Request) :
    Except Exn r.Reply → Report
  | .ok a => (k.asking conferenceId r).hears conferenceId r a
  | .error (.raised f) =>
    if op.handles k r f then (k.asking conferenceId r).fails r f
    else (k.asking conferenceId r).escape
  | .error _ => k

end Report

/-- The report of a dialogue. -/
def report (op : Operation) (conferenceId : String)
    (l : List (Exchange Request Request.Reply Exn)) : Report :=
  heard (Report.note op conferenceId) .blank l

/-! ## Contracts -/

/-- The errors that are those of the API, or of the manager. -/
def Exn.isReported : Exn → Bool
  | .api _ | .raised .wazoAmidError => true
  | _ => false

/-- An error that nothing deals with. -/
def Escapes (k : Report) (e : Exn) : Prop := k.escaped = true ∧ e.isReported = false

/-- An error that is not of Asterisk: it passes every handler. -/
def Crashes (k : Report) (e : Exn) : Prop := k.escaped = true ∧ e = .raised .other

theorem Crashes.escapes {k : Report} {e : Exn} (h : Crashes k e) : Escapes k e := by
  obtain ⟨hk, rfl⟩ := h
  exact ⟨hk, rfl⟩

/-- The contract of a method of an operation on a conference, for every possible dialogue. -/
abbrev Tells (op : Operation) (conferenceId : String) {α : Type} (Q : Report → α → Prop)
    (E : Report → Exn → Prop) (k : Report) (p : Code α) : Prop :=
  Ends Possible (Report.note op conferenceId) Q E k p

section Contracts

variable {op : Operation} {id : String} {k : Report} {c : String} {α : Type}

/-- One request. -/
theorem tells_send {r : Request} {Q : Report → r.Reply → Prop} {E : Report → Exn → Prop}
    (hok : ∀ a, Q ((k.asking id r).hears id r a) a)
    (hhandled : ∀ f, Raisable r f → op.handles k r f = true →
      E ((k.asking id r).fails r f) (.raised f))
    (hescape : ∀ f, Raisable r f → op.handles k r f = false →
      E (k.asking id r).escape (.raised f)) : Tells op id Q E k (send r) := by
  refine Ends.request (fun a _ => hok a) fun e he => ?_
  obtain ⟨f, rfl, hf⟩ := he
  cases hh : op.handles k r f with
  | true => simpa [Report.note, hh] using hhandled f hf hh
  | false => simpa [Report.note, hh] using hescape f hf hh

/-- `channels.get`: only a channel that is gone is dealt with. -/
theorem tells_channelsGet : Tells op id (fun k' channel => k' = k ∧ channel.id = c)
    (fun k' e => Escapes k' e ∧ e.isARINotFound = false ∨
      e.isARINotFound = true ∧ k' = k.refuse) k (channelsGet c) := by
  refine Ends.after (Q := fun k' _ => k' = k) (tells_send (fun _ => rfl) ?_ ?_)
    (fun k' name hk' => Ends.pure ⟨hk', rfl⟩) fun _ _ he => he
  · intro f _ hh
    obtain rfl : f = .ariNotFound := by simpa [Operation.handles] using hh
    exact .inr ⟨rfl, rfl⟩
  · intro f hf hh
    refine .inl ⟨⟨rfl, ?_⟩, ?_⟩
    · cases f <;> first | rfl | exact absurd rfl hf
    · cases f <;> first | rfl | simp [Operation.handles] at hh

/-- A loop; the first list of the invariant is what it is through with, the second what is left. -/
theorem tells_forM {I : List String → List String → Report → Prop} {E : Report → Exn → Prop}
    {g : String → Code Unit} {l : List String}
    (hg : ∀ done b rest k, I done (b :: rest) k →
      Tells op id (fun k' _ => I (b :: done) rest k') E k (g b)) (h : I [] l k) :
    Tells op id (fun k' _ => I l.reverse [] k') E k (l.forM g) := by
  simpa using Ends.forM hg h

/-! ### Reads -/

/-- Before the conference is created, a channel that is gone shows nothing. -/
theorem refuse_of_not_created (hk : k.created = false) : k.refuse = k := by
  simp [Report.refuse, hk]

theorem tells_exists (hk : k.created = false) :
    Tells op id (fun k' _ => k' = k) Escapes k (exists_ c) := by
  refine Ends.bind (Ends.catching ?_)
  refine tells_channelsGet.mono (fun k' _ h => h.1) fun k' e he => ?_
  rcases he with ⟨he, hfound⟩ | ⟨hfound, rfl⟩
  · simpa [hfound] using he
  · rw [if_pos hfound, refuse_of_not_created hk]
    exact Ends.pure rfl

theorem tells_isLocal (hk : k.created = false) :
    Tells op id (fun k' _ => k' = k) Escapes k (isLocal c) := by
  refine Ends.bind (Ends.catching ?_)
  refine tells_channelsGet.mono (fun k' _ h => h.1) fun k' e he => ?_
  rcases he with ⟨he, hfound⟩ | ⟨hfound, rfl⟩
  · simpa [hfound] using he
  · rw [if_pos hfound, refuse_of_not_created hk]
    exact Ends.pure rfl

theorem tells_getVar {variable_ : String} :
    Tells op id (fun k' _ => k' = k) Escapes k (getVar c variable_) := by
  refine Ends.catching (tells_send (fun _ => rfl) ?_ ?_)
  · intro f _ hh
    obtain rfl : f = .ariNotFound := by simpa [Operation.handles] using hh
    rfl
  · intro f hf hh
    have hfound : (Exn.raised f).isARINotFound = false := by
      cases f <;> first | rfl | simp [Operation.handles] at hh
    rw [if_neg (by simp [hfound])]
    refine ⟨rfl, ?_⟩
    cases f <;> first | rfl | exact absurd rfl hf

theorem tells_user (hk : k.created = false) :
    Tells op id (fun k' _ => k' = k) Escapes k (user c) := by
  refine (tells_isLocal hk).after (fun k' isLocal hk' => ?_) fun _ _ he => he
  subst hk'
  cases isLocal with
  | true => exact tells_getVar
  | false => exact tells_getVar

/-- The channel that is found is another one. -/
theorem ne_of_connectedIn {bridges : List Ari.Bridge} {channelId : String}
    (h : connectedIn c bridges = [channelId]) : channelId ≠ c := by
  rintro rfl
  have hnot : channelId ∉ connectedIn channelId bridges := (List.nodup_dedup _).not_mem_erase
  simp [h] at hnot

/-- The report after the look-up of a peer that has found one. -/
def Report.found (k : Report) (peer : String) : Report := { k with peer := k.peer.or (some peer) }

/-- `_find_peer_channel`: another number of channels is an error that only the checks expect. -/
theorem tells_findPeerChannel :
    Tells op id (fun k' peer => k' = k.found peer ∧ peer ≠ c)
      (fun k' e => (∃ f, f ≠ .wazoAmidError ∧ e = .raised f) ∧ k'.escaped = true ∨
        (e = .notEnoughChannels ∨ ∃ l, e = .tooManyChannels l) ∧
          k' = k.unfound) k (findPeerChannel c) := by
  unfold findPeerChannel
  refine Ends.bind (tells_send (fun bridges => ?_) ?_ ?_)
  · rcases hl : connectedIn c bridges with _ | ⟨p, _ | ⟨q, l⟩⟩
    · refine Ends.throw (.inr ⟨.inl rfl, ?_⟩)
      simp [Report.hears, Report.asking, hl]
    · refine Ends.pure ⟨?_, ne_of_connectedIn hl⟩
      simp [Report.hears, Report.asking, hl, Report.found]
    · refine Ends.throw (.inr ⟨.inr ⟨_, rfl⟩, ?_⟩)
      simp [Report.hears, Report.asking, hl]
  · intro f _ hh
    simp [Operation.handles] at hh
  · intro f hf _
    exact .inl ⟨⟨f, hf, rfl⟩, rfl⟩

theorem tells_findPeerOr {notEnough tooMany : ApiError} (hk : k.created = false) :
    Tells op id (fun k' peer => k' = k.found peer ∧ peer ≠ c)
      (fun k' e => Escapes k' e ∨ (∃ a, e = .api a) ∧ k' = k) k
      (findPeerOr c notEnough tooMany) := by
  refine Ends.tryCatch (tells_findPeerChannel.mono (fun _ _ h => h) fun k' e he => ?_)
  rcases he with ⟨⟨f, hf, rfl⟩, hk'⟩ | ⟨rfl | ⟨l, rfl⟩, hk'⟩
  · refine Ends.throw (.inl ⟨hk', ?_⟩)
    cases f <;> first | rfl | exact absurd rfl hf
  · exact Ends.throw (.inr ⟨⟨_, rfl⟩, by simpa [Report.unfound, hk] using hk'⟩)
  · exact Ends.throw (.inr ⟨⟨_, rfl⟩, by simpa [Report.unfound, hk] using hk'⟩)

/-! ### Redirections -/

/-- Around a part that raises errors of Asterisk in phases of `P`. -/
theorem tells_catching {Q : Report → α → Prop} {P : Report → Prop} {p : Code α}
    (hp : Tells op id Q (fun k' e => Crashes k' e ∨ e.isARIException = true ∧ P k') k p) :
    Tells op id (fun k' o => o.elim (P k') (Q k')) Crashes k (catching Exn.isARIException p) := by
  refine Ends.catching (hp.mono (fun _ _ h => h) fun k' e he => ?_)
  rcases he with ⟨hk', rfl⟩ | ⟨hari, hk'⟩
  · exact ⟨hk', rfl⟩
  · rw [if_pos hari]
    exact hk'

theorem tells_ignoring {P : Report → Prop} {p : Code α}
    (hp : Tells op id (fun k' _ => P k')
      (fun k' e => Crashes k' e ∨ e.isARIException = true ∧ P k') k p) :
    Tells op id (fun k' _ => P k') Crashes k (ignoring Exn.isARIException p) := by
  refine Ends.ignoring (hp.mono (fun _ _ h => h) fun k' e he => ?_)
  rcases he with ⟨hk', rfl⟩ | ⟨hari, hk'⟩
  · exact ⟨hk', rfl⟩
  · rw [if_pos hari]
    exact hk'

/-- A request of which every error of Asterisk is dealt with. -/
theorem tells_ari {r : Request} {Q : Report → r.Reply → Prop}
    (hr : ∀ f, Raisable r f → f ≠ .wazoAmidError) (hh : ∀ f, op.handles k r f = f.isARI)
    (hok : ∀ a, Q ((k.asking id r).hears id r a) a) :
    Tells op id Q (fun k' e => Crashes k' e ∨
      ∃ f, f.isARI = true ∧ e = .raised f ∧ k' = (k.asking id r).fails r f) k (send r) := by
  refine tells_send hok (fun f _ hf => .inr ⟨f, ?_, rfl, rfl⟩) fun f hf hnot => .inl ⟨rfl, ?_⟩
  · rwa [hh] at hf
  · rw [hh] at hnot
    have hne := hr f hf
    cases f <;> first | rfl | exact absurd rfl hne | cases hnot

theorem tells_setVar {channel : RestChannel} {variable_ value : String} :
    Tells op id
      (fun k' _ => k' = k.hears id (.setChannelVar channel.id variable_ (some value) true) ())
      (fun k' e => Crashes k' e ∨ e.isARIException = true ∧ k' = k.giveUp channel.id) k
      (setVar channel variable_ value) := by
  refine (tells_ari (r := .setChannelVar channel.id variable_ (some value) true) (fun _ h => h)
    (fun _ => rfl) fun _ => rfl).mono (fun _ _ h => h) fun k' e he => ?_
  rcases he with hcrash | ⟨f, hf, rfl, rfl⟩
  · exact .inl hcrash
  · exact .inr ⟨hf, rfl⟩

theorem tells_isInStasis : Tells op id (fun k' _ => k' = k) Escapes k (isInStasis c) := by
  have hset : Tells op id (fun k' _ => k' = k) (fun k' e =>
      if e.isARINotInStasis = true then k' = k else Escapes k' e) k
      (send (.setChannelVar c "WAZO_TEST_STASIS" none false)) := by
    refine tells_send (fun _ => by simp [Report.hears, Report.asking]) ?_ ?_
    · intro f _ hh
      obtain rfl : f = .ariNotInStasis := by simpa [Operation.handles] using hh
      rfl
    · intro f hf hh
      have hstasis : (Exn.raised f).isARINotInStasis = false := by
        cases f <;> first | rfl | simp [Operation.handles] at hh
      rw [if_neg (by simp [hstasis])]
      refine ⟨rfl, ?_⟩
      cases f <;> first | rfl | exact absurd rfl hf
  refine (Ends.catching (Q := fun k' _ => k' = k) hset).after (fun k' _ hk' => ?_) fun _ _ he => he
  exact Ends.pure hk'

theorem tells_channelsAreInStasis {channelIds : List String} :
    Tells op id (fun k' _ => k' = k) Escapes k (channelsAreInStasis channelIds) := by
  induction channelIds with
  | nil => exact Ends.pure rfl
  | cons c channelIds ih =>
    refine tells_isInStasis.after (fun k' found hk' => ?_) fun _ _ he => he
    subst hk'
    cases found with
    | true => exact ih
    | false => exact Ends.pure rfl

/-- The bridge of a channel is looked for. -/
def Report.reads (k : Report) (channelId : String) : Report := { k with reader := some channelId }

def Report.ask (k : Report) (channelId : String) : Report :=
  { k with asked := channelId :: k.asked }

/-- How a look at the bridge of a channel fails: what is not found gives up nothing. -/
def Unbridged (k : Report) (c : String) (k' : Report) (e : Exn) : Prop :=
  Crashes k' e ∨ e.isNotFound = true ∧ k' = k.reads c ∨
    e.isNotFound = false ∧ e.isARIException = true ∧ k' = (k.reads c).giveUp c

theorem unbridged_of_fails {k' : Report} {e : Exn} (h : Crashes k' e ∨ ∃ f, f.isARI = true ∧
      e = .raised f ∧ k' = if f = .ariNotFound then k.reads c else (k.reads c).giveUp c) :
    Unbridged k c k' e := by
  rcases h with hcrash | ⟨f, hari, rfl, rfl⟩
  · exact .inl hcrash
  · cases f with
    | ariNotFound => exact .inr (.inl ⟨rfl, rfl⟩)
    | ariNotInStasis => exact .inr (.inr ⟨rfl, rfl, rfl⟩)
    | ari => exact .inr (.inr ⟨rfl, rfl, rfl⟩)
    | wazoAmidError => cases hari
    | other => cases hari

theorem tells_bridgeOf :
    Tells op id (fun k' _ => k' = k.reads c) (Unbridged k c) k (bridgeOf c) := by
  refine Ends.after (Q := fun k' _ => k' = k.reads c)
    (tells_ari (r := .bridgesList (.bridge c)) (fun _ h => h) (fun _ => rfl) fun _ => rfl)
    (fun k' bridges hk' => ?_) fun k' e he => unbridged_of_fails he
  subst hk'
  cases bridges.find? (c ∈ ·.channels) with
  | some bridge => exact Ends.pure rfl
  | none => exact Ends.throw (.inr (.inl ⟨rfl, rfl⟩))

/-- The part of `_ari_redirect` before the move. -/
theorem tells_leaveBridge :
    Tells op id (fun k' _ => k' = k.reads c)
      (fun k' e => Crashes k' e ∨ e.isARIException = true ∧ k' = (k.reads c).giveUp c) k
      (ignoring Exn.isNotFound do
        let bridge ← bridgeOf c
        if bridge.channels.length ≤ 2 then send (.bridgesDestroy bridge.id) else pure ()) := by
  have hdestroy : ∀ bridge : Ari.Bridge, Tells op id (fun k' _ => k' = k.reads c)
      (Unbridged k c) (k.reads c) (if bridge.channels.length ≤ 2 then
        send (.bridgesDestroy bridge.id) else pure ()) := by
    intro bridge
    by_cases hlast : bridge.channels.length ≤ 2
    · rw [if_pos hlast]
      refine (tells_ari (r := .bridgesDestroy bridge.id) (fun _ h => h) (fun _ => rfl)
        fun _ => rfl).mono (fun _ _ h => h) fun k' e he => unbridged_of_fails he
    · rw [if_neg hlast]
      exact Ends.pure rfl
  refine Ends.ignoring ((tells_bridgeOf.after (E := Unbridged k c) (fun k' bridge hk' => ?_)
    fun _ _ he => he).mono (fun _ _ h => h) fun k' e he => ?_)
  · subst hk'
    exact hdestroy bridge
  · rcases he with ⟨hk', rfl⟩ | ⟨hfound, hk'⟩ | ⟨hfound, hari, hk'⟩
    · exact .inl ⟨hk', rfl⟩
    · rwa [if_pos hfound]
    · rw [if_neg (by simp [hfound])]
      exact .inr ⟨hari, hk'⟩

/-- `_ari_redirect` to the conference: the channel is given up before the move, or asked. -/
theorem tells_ariRedirect :
    Tells op id (fun k' _ => k' = (k.reads c).ask c)
      (fun k' e => Crashes k' e ∨ e.isARIException = true ∧
        (k' = (k.reads c).giveUp c ∨ k' = ((k.reads c).ask c).giveUpPeer)) k
      (ariRedirect c stasisApp [id]) := by
  have hask : ∀ k : Report, k.asking id (.move c stasisApp [id]) = k.ask c := fun k => by
    simp [Report.asking, Report.ask]
  refine tells_leaveBridge.after (fun k' _ hk' => ?_) fun k' e he => ?_
  · subst hk'
    refine (tells_ari (r := .move c stasisApp [id]) (fun _ h => h) (fun _ => rfl)
      fun _ => hask _).mono (fun _ _ h => h) fun k' e he => ?_
    rcases he with hcrash | ⟨f, hf, rfl, rfl⟩
    · exact .inl hcrash
    · exact .inr ⟨hf, .inr (by rw [hask]; rfl)⟩
  · rcases he with hcrash | ⟨hari, hk'⟩
    · exact .inl hcrash
    · exact .inr ⟨hari, .inl hk'⟩

/-- `channels.get` of a channel that may be gone, which makes the operation refuse. -/
theorem tells_getOrFail {message : String} :
    Tells op id (fun k' channel => k' = k ∧ channel.id = c)
      (fun k' e => Escapes k' e ∨ (∃ a, e = .api a) ∧ k' = k.refuse) k (getOrFail c message) := by
  refine Ends.bind (Ends.catching ?_)
  refine tells_channelsGet.mono (fun k' channel h => Ends.pure h) fun k' e he => ?_
  rcases he with ⟨he, hfound⟩ | ⟨hfound, rfl⟩
  · rw [if_neg (by simp [hfound])]
    exact .inl he
  · rw [if_pos hfound]
    exact Ends.throw (.inr ⟨⟨_, rfl⟩, rfl⟩)

/-- How the redirection of a pair of channels ends when it raises, for a conference that has been
`created`, or has not. -/
def Breaks (created : Bool) (k : Report) (e : Exn) : Prop :=
  Escapes k e ∨
  (∃ a, e = .api a) ∧ k.escaped = false ∧ k.created = created ∧
    (created = false → k.late = false) ∧
    (created = true → k.asked = [] ∧ k.early = true ∨
      k.asked ≠ [] ∧ k.early = false ∧ k.late = true) ∨
  e = .raised .wazoAmidError ∧ k.escaped = false ∧ k.early = false ∧ k.late = true ∧ k.asked ≠ []

/-- Nothing has gone wrong so far that the caller is told. -/
structure Report.Calm (k : Report) : Prop where
  escaped : k.escaped = false
  early : k.early = false
  late : k.late = false

/-- `channels.get` refuses. -/
theorem breaks_refuse (hk : k.Calm) {a : ApiError} : Breaks k.created k.refuse (.api a) := by
  obtain ⟨hescaped, hearly, hlate⟩ := hk
  refine .inr (.inl ⟨⟨a, rfl⟩, ?_⟩)
  unfold Report.refuse
  by_cases hc : k.created = true
  · by_cases ha : k.asked = []
    · simp [hc, ha, hescaped]
    · simp [hc, ha, hescaped, hearly]
  · simp [hc, hescaped, hlate]

/-- The participant has been asked, or has been given up. -/
structure Brought (c : String) (k k' : Report) : Prop where
  created : k'.created = k.created
  peer : k'.peer = k.peer
  escaped : k'.escaped = k.escaped
  early : k'.early = k.early
  late : k'.late = k.late
  asked : k'.asked = k.asked ∨ k'.asked = c :: k.asked
  kept : k.missed = true → k'.missed = true
  given : c ∉ k'.asked → k'.missed = true
  missed : k'.missed = true → k.missed = true ∨ c ∉ k'.asked ∨ ∃ p ∈ k.peer, p ∉ k'.asked

/-- The report with other marks, and another reader. -/
def Report.seen (k : Report) (marked : List String) (reader : Option String) : Report :=
  { k with marked := marked, reader := reader }

theorem brought_giveUp {m : List String} {r : Option String} :
    Brought c k ((k.seen m r).giveUp c) := by
  unfold Report.giveUp Report.seen
  by_cases hc : c ∈ k.asked
  · rw [if_pos hc]
    exact ⟨rfl, rfl, rfl, rfl, rfl, .inl rfl, id, fun h => absurd hc h, .inl⟩
  · rw [if_neg hc]
    exact ⟨rfl, rfl, rfl, rfl, rfl, .inl rfl, fun _ => rfl, fun _ => rfl, fun _ => .inr (.inl hc)⟩

theorem brought_ask {m : List String} {r : Option String} :
    Brought c k ((k.seen m r).ask c) where
  created := rfl
  peer := rfl
  escaped := rfl
  early := rfl
  late := rfl
  asked := .inr rfl
  kept h := h
  given h := absurd (List.mem_cons_self ..) h
  missed h := .inl h

/-- The peer is given up when it is there and has not been asked. -/
theorem giveUpPeer_cases : k.giveUpPeer = k ∨
    (∃ p ∈ k.peer, p ∉ k.asked) ∧ k.giveUpPeer = { k with missed := true } := by
  unfold Report.giveUpPeer Report.giveUp
  cases hp : k.peer with
  | none => exact .inl rfl
  | some p =>
    by_cases hmem : p ∈ k.asked
    · exact .inl (if_pos hmem)
    · exact .inr ⟨⟨p, rfl, hmem⟩, if_neg hmem⟩

theorem brought_giveUpPeer {m : List String} {r : Option String} :
    Brought c k ((k.seen m r).ask c).giveUpPeer := by
  rcases giveUpPeer_cases (k := (k.seen m r).ask c) with h | ⟨hpeer, h⟩
  · rw [h]
    exact brought_ask
  · rw [h]
    exact ⟨rfl, rfl, rfl, rfl, rfl, .inr rfl, fun _ => rfl, fun _ => rfl,
      fun _ => .inr (.inr hpeer)⟩

/-- A redirection that the manager refuses. -/
theorem breaks_amid (hk : k.Calm) (ha : k.asked ≠ []) :
    Breaks k.created { k with late := true } (.raised .wazoAmidError) :=
  .inr (.inr ⟨rfl, hk.escaped, hk.early, rfl, ha⟩)

theorem tells_redirect {d : Redirect} {l : List String} {Q : Report → Unit → Prop}
    (hk : k.Calm) (hd : k.asking id (.redirect d) = { k with asked := l }) (hl : l ≠ [])
    (hQ : Q { k with asked := l } ()) :
    Tells op id Q (Breaks k.created) k (send (.redirect d)) := by
  refine tells_send (fun _ => ?_) (fun f _ hh => ?_) fun f hf hh => ?_
  · rw [hd]
    exact hQ
  · obtain rfl : f = .wazoAmidError := by simpa [Operation.handles] using hh
    rw [hd]
    exact breaks_amid (k := { k with asked := l }) ⟨hk.escaped, hk.early, hk.late⟩ hl
  · obtain rfl | rfl := hf
    · cases hh
    · exact .inl ⟨rfl, rfl⟩

theorem hears_host {value : String} {bypassStasis : Bool} :
    k.hears id (.setChannelVar c "WAZO_IS_ADHOC_CONFERENCE_HOST" (some value) bypassStasis) () =
      k := by
  simp [Report.hears]

theorem hears_mark {bypassStasis : Bool} :
    k.hears id (.setChannelVar c "WAZO_ADHOC_CONFERENCE_ID" (some id) bypassStasis) () =
      { k with marked := c :: k.marked } := by
  simp [Report.hears]

theorem tells_trySetVar {channel : RestChannel} {variable_ value : String} :
    Tells op id
      (fun k' o => o.elim (k' = k.giveUp channel.id) fun _ =>
        k' = k.hears id (.setChannelVar channel.id variable_ (some value) true) ())
      Crashes k (catching Exn.isARIException (setVar channel variable_ value)) :=
  tells_catching tells_setVar

/-- The two channels of the host's call are given a variable. -/
theorem tells_trySetVars {host peer : RestChannel} {variable_ value value' : String} :
    Tells op id
      (fun k' o => o.elim
        (k' = k.giveUp host.id ∨
          k' = (k.hears id (.setChannelVar host.id variable_ (some value) true) ()).giveUp peer.id)
        fun _ => k' = (k.hears id (.setChannelVar host.id variable_ (some value) true) ()).hears id
          (.setChannelVar peer.id variable_ (some value') true) ())
      Crashes k (catching Exn.isARIException do
        setVar host variable_ value
        setVar peer variable_ value') := by
  refine tells_catching (tells_setVar.after (fun k₁ _ hk₁ => ?_) fun k' e he => ?_)
  · subst hk₁
    exact tells_setVar.mono (fun _ _ h => h) fun k' e he => he.imp_right fun h => ⟨h.1, .inr h.2⟩
  · exact he.imp_right fun h => ⟨h.1, .inl h.2⟩

/-- `channels.hangup` of the discarded channel. -/
theorem tells_discard (hop : op = .createFromUser ∨ op = .addParticipantFromUser) :
    Tells op id (fun k' _ => k' = k) (fun k' e => Crashes k' e ∨ e.isARIException = true ∧ k' = k)
      k (send (.hangup c)) := by
  have hh : ∀ f, op.handles k (.hangup c) f = f.isARI := by
    intro f
    rcases hop with rfl | rfl <;> rfl
  refine (tells_ari (r := .hangup c) (fun _ h => h) hh fun _ => rfl).mono (fun _ _ h => h)
    fun k' e he => ?_
  rcases he with hcrash | ⟨f, hf, rfl, rfl⟩
  · exact .inl hcrash
  · exact .inr ⟨hf, rfl⟩

/-- The participant's part in stasis. -/
theorem tells_moveParticipant {discarded : String} {m : List String} {r : Option String}
    (hop : op = .createFromUser ∨ op = .addParticipantFromUser) :
    Tells op id (fun k' _ => Brought c k k') Crashes (k.seen m r)
      (ignoring Exn.isARIException do
        ariRedirect c stasisApp [id]
        send (.hangup discarded)) := by
  refine tells_ignoring (tells_ariRedirect.after (fun k' _ hk' => ?_) fun k' e he => ?_)
  · subst hk'
    refine (tells_discard hop).mono (fun k' _ hk' => ?_) fun k' e he => ?_
    · subst hk'
      exact brought_ask (m := m) (r := some c)
    · refine he.imp_right fun h => ⟨h.1, ?_⟩
      rw [h.2]
      exact brought_ask (m := m) (r := some c)
  · refine he.imp_right fun h => ⟨h.1, ?_⟩
    rcases h.2 with hk' | hk' <;> rw [hk']
    · exact brought_giveUp (m := m) (r := some c)
    · exact brought_giveUpPeer (m := m) (r := some c)

/-- `_redirect_participant`. -/
theorem tells_redirectParticipant {discarded : String}
    (hop : op = .createFromUser ∨ op = .addParticipantFromUser) (hk : k.Calm) :
    Tells op id (fun k' _ => Brought c k k') (Breaks k.created) k
      (redirectParticipant c discarded id) := by
  have hbreaks : ∀ k' e, Escapes k' e ∨ (∃ a, e = .api a) ∧ k' = k.refuse →
      Breaks k.created k' e := by
    intro k' e he
    rcases he with he | ⟨⟨a, rfl⟩, rfl⟩
    · exact .inl he
    · exact breaks_refuse hk
  have hcrash : ∀ k' e, Crashes k' e → Breaks k.created k' e := fun k' e he => .inl he.escapes
  refine tells_getOrFail.after (fun k' discardedHost hk' => ?_) hbreaks
  obtain ⟨rfl, rfl⟩ := hk'
  refine tells_getOrFail.after (fun k' participant hk' => ?_) hbreaks
  obtain ⟨rfl, rfl⟩ := hk'
  refine tells_trySetVar.after (fun k₁ o hk₁ => ?_) hcrash
  cases o with
  | none => exact Ends.pure (hk₁ ▸ brought_giveUp (m := k'.marked) (r := k'.reader))
  | some u =>
  obtain rfl : k₁ = k' := hk₁.trans hears_host
  refine tells_trySetVar.after (fun k₂ o hk₂ => ?_) hcrash
  cases o with
  | none => exact Ends.pure (hk₂ ▸ brought_giveUp (m := k₁.marked) (r := k₁.reader))
  | some u =>
  obtain rfl : k₂ = k₁.seen (participant.id :: k₁.marked) k₁.reader := hk₂.trans hears_mark
  refine tells_channelsAreInStasis.after (fun k₃ inStasis hk₃ => ?_) fun _ _ he => .inl he
  subst hk₃
  cases inStasis with
  | true => exact (tells_moveParticipant hop).mono (fun _ _ h => h) hcrash
  | false =>
    refine tells_trySetVar.after (fun k₄ o hk₄ => ?_) hcrash
    cases o with
    | none =>
      exact Ends.pure (hk₄ ▸ brought_giveUp (m := participant.id :: k₁.marked) (r := k₁.reader))
    | some u =>
      obtain rfl : k₄ = k₁.seen (participant.id :: participant.id :: k₁.marked) k₁.reader :=
        hk₄.trans hears_mark
      refine tells_redirect (k := k₁.seen (participant.id :: participant.id :: k₁.marked) k₁.reader)
        (l := participant.id :: k₁.asked) ⟨hk.escaped, hk.early, hk.late⟩ ?_ (by simp)
        (brought_ask (r := k₁.reader))
      simp [Report.asking, Redirect.toConference, Report.seen]

/-- The host and its peer have been asked, or the peer has been given up. -/
structure Hosted (h p : String) (k k' : Report) : Prop where
  created : k'.created = k.created
  peer : k'.peer = k.peer
  escaped : k'.escaped = k.escaped
  early : k'.early = k.early
  late : k'.late = k.late
  only : ∀ c ∈ k'.asked, c = h ∨ c = p
  all : k'.missed = false → h ∈ k'.asked ∧ p ∈ k'.asked
  missed : k'.missed = true → p ∉ k'.asked

section Host

variable {h p : String} {m l : List String} {r : Option String}

theorem hosted_missed (hl : ∀ c ∈ l, c = h) (hp : p ≠ h) :
    Hosted h p k { k.seen m r with asked := l, missed := true } where
  created := rfl
  peer := rfl
  escaped := rfl
  early := rfl
  late := rfl
  only c hc := .inl (hl c hc)
  all h := by cases h
  missed _ hmem := hp (hl p hmem)

theorem hosted_all (hk : k.missed = false) :
    Hosted h p k { k.seen m r with asked := [p, h] } where
  created := rfl
  peer := rfl
  escaped := rfl
  early := rfl
  late := rfl
  only c hc := by
    rcases List.mem_cons.mp hc with rfl | hc
    · exact .inr rfl
    · exact .inl (List.mem_singleton.mp hc)
  all _ := by simp
  missed h := by
    have hf : k.missed = true := h
    rw [hk] at hf
    cases hf

/-- A channel is given up when none has been asked. -/
theorem hosted_giveUp (ha : k.asked = []) (hp : p ≠ h) :
    Hosted h p k ((k.seen m r).giveUp c) := by
  have hgive : (k.seen m r).giveUp c = { k.seen m r with asked := [], missed := true } := by
    simp [Report.giveUp, Report.seen, ha]
  rw [hgive]
  exact hosted_missed (by simp) hp

/-- The peer is given up when only the host has been asked. -/
theorem hosted_giveUp_peer (ha : k.asked = []) (hp : p ≠ h) :
    Hosted h p k (((k.seen m r).ask h).giveUp p) := by
  have hgive : ((k.seen m r).ask h).giveUp p =
      { k.seen m r with asked := [h], missed := true } := by
    simp [Report.giveUp, Report.ask, Report.seen, ha, hp]
  rw [hgive]
  exact hosted_missed (by simp) hp

/-- The host and the peer in stasis. -/
theorem tells_moveHost (ha : k.asked = []) (hm : k.missed = false) (hpeer : k.peer = some p)
    (hp : p ≠ h) :
    Tells op id (fun k' _ => Hosted h p k k') Crashes k
      (ignoring Exn.isARIException do
        ariRedirect h stasisApp [id]
        ariRedirect p stasisApp [id]) := by
  have hall : ((k.seen k.marked (some p)).ask h).ask p =
      { k.seen k.marked (some p) with asked := [p, h] } := by
    simp [Report.ask, Report.seen, ha]
  refine tells_ignoring (tells_ariRedirect.after (fun k' _ hk' => ?_) fun k' e he => ?_)
  · subst hk'
    refine tells_ariRedirect.mono (fun k' _ hk' => ?_) fun k' e he => ?_
    · rw [hk']
      exact hall ▸ hosted_all hm
    · refine he.imp_right fun h' => ⟨h'.1, ?_⟩
      rcases h'.2 with hk' | hk' <;> rw [hk']
      · exact hosted_giveUp_peer (m := k.marked) (r := some p) ha hp
      · rcases giveUpPeer_cases (k := ((k.seen k.marked (some p)).ask h).ask p) with hg | ⟨hg, -⟩
        · exact hg.symm ▸ hall ▸ hosted_all hm
        · -- the peer has just been asked
          obtain ⟨q, hq, hnot⟩ := hg
          obtain rfl : p = q := Option.some.inj (hpeer.symm.trans hq)
          exact absurd (List.mem_cons_self ..) hnot
  · refine he.imp_right fun h' => ⟨h'.1, ?_⟩
    rcases h'.2 with hk' | hk' <;> rw [hk']
    · exact hosted_giveUp (m := k.marked) (r := some h) ha hp
    · have hpeer' : ((k.reads h).ask h).giveUpPeer =
          ((k.seen k.marked (some h)).ask h).giveUp p := by
        simp [Report.giveUpPeer, Report.reads, Report.ask, Report.seen, hpeer]
      rw [hpeer']
      exact hosted_giveUp_peer ha hp

/-- `_redirect_host`. -/
theorem tells_redirectHost (hk : k.Calm) (ha : k.asked = []) (hm : k.missed = false)
    (hpeer : k.peer = some p) (hp : p ≠ h) :
    Tells op id (fun k' _ => Hosted h p k k') (Breaks k.created) k (redirectHost h p id) := by
  have hbreaks : ∀ k' e, Escapes k' e ∨ (∃ a, e = .api a) ∧ k' = k.refuse →
      Breaks k.created k' e := by
    intro k' e he
    rcases he with he | ⟨⟨a, rfl⟩, rfl⟩
    · exact .inl he
    · exact breaks_refuse hk
  have hcrash : ∀ k' e, Crashes k' e → Breaks k.created k' e := fun k' e he => .inl he.escapes
  refine tells_getOrFail.after (fun k' host hk' => ?_) hbreaks
  obtain ⟨rfl, rfl⟩ := hk'
  refine tells_getOrFail.after (fun k' peer hk' => ?_) hbreaks
  obtain ⟨rfl, rfl⟩ := hk'
  refine tells_trySetVars.after (fun k₁ o hk₁ => ?_) hcrash
  cases o with
  | none =>
    refine Ends.pure ?_
    rcases hk₁ with rfl | rfl
    · exact hosted_giveUp (m := k'.marked) (r := k'.reader) ha hp
    · rw [hears_host]
      exact hosted_giveUp (m := k'.marked) (r := k'.reader) ha hp
  | some u =>
  obtain rfl : k₁ = k' := hk₁.trans (by rw [hears_host, hears_host])
  refine tells_channelsAreInStasis.after (fun k₂ inStasis hk₂ => ?_) fun _ _ he => .inl he
  subst hk₂
  cases inStasis with
  | true => exact (tells_moveHost ha hm hpeer hp).mono (fun _ _ h => h) hcrash
  | false =>
    refine tells_trySetVars.after (fun k₃ o hk₃ => ?_) hcrash
    cases o with
    | none =>
      refine Ends.pure ?_
      rcases hk₃ with rfl | rfl
      · exact hosted_giveUp (m := k₂.marked) (r := k₂.reader) ha hp
      · rw [hears_mark]
        exact hosted_giveUp (m := host.id :: k₂.marked) (r := k₂.reader) ha hp
    | some u =>
      obtain rfl : k₃ = k₂.seen (peer.id :: host.id :: k₂.marked) k₂.reader :=
        hk₃.trans (by rw [hears_mark, hears_mark]; rfl)
      refine tells_redirect (k := k₂.seen (peer.id :: host.id :: k₂.marked) k₂.reader)
        (l := [peer.id, host.id]) ⟨hk.escaped, hk.early, hk.late⟩ ?_ (by simp)
        (hosted_all (r := k₂.reader) hm)
      simp [Report.asking, Redirect.toConference, Report.seen, ha]

end Host

end Contracts

end Calld.AdhocConferences
