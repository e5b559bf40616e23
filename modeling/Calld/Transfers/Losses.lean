/-
# Losing a channel between two requests

A channel may be gone from any request on: `Env.LosesAt` is ARI when it has lost a channel at the
request number `k`, and nothing else fails.  `Sends` is the contract of a piece of code that
sends a known number of requests: what it does when the channel is there for all of them, and
when the channel is lost on the way.
-/
import Calld.Transfers.Graph
import Calld.Transfers.Run

namespace Calld.Transfers

open Effect Effect.Program TransferState
open AriHelpers (StartArgs)

/-! ## The loss -/

/-- The channel on which a request operates; to bridge a channel or to originate another one
for it is no operation on the channel. -/
def AriRequest.about? : AriRequest → Option ChannelId
  | .channelsGet c => c
  | .channelsDo _ c | .channelsGetVar c _ | .channelsSetVar c _ _ => some c
  | _ => none

/-- The channel is gone from the request number `k` on, and everything else is answered:
ARI finds the channel no more and refuses to originate a channel for it.  What becomes of the
bridge of the channel and of a redirection of the channel is left open. -/
structure Env.LosesAt (env : Env) (c : ChannelId) (k : ℕ) : Prop where
  before : ∀ {n} (a : Asterisk) {r : AriRequest}, n < k → r ≠ .channelsGet none →
    ∃ x, env.ari n a r = .ok x
  gone : ∀ {n} (a : Asterisk) {r : AriRequest}, k ≤ n → r.about? = some c →
    env.ari n a r = .error .notFound
  originator : ∀ {n} (a : Asterisk) {args : Originate}, k ≤ n → args.originator = c →
    ∃ e, env.ari n a (.channelsOriginate args) = .error e
  others : ∀ {n c'} (a : Asterisk) {r : AriRequest}, r.about? = some c' → c' ≠ c →
    ∃ x, env.ari n a r = .ok x
  bridges : ∀ n a, ∃ x, env.ari n a .bridgesList = .ok x
  reads : ∀ n a x, env.ari n a (.getGlobalVar x) = .ok ()
  writes : env.AcceptsWrites
  ami : ∀ n (r : AmiRequest), (n < k ∨ ∀ x context exten, r ≠ .redirect x context exten c) →
    ∃ y, env.ami n r = .ok y
  bus : ∀ n, env.bus n = true

/-! ## Counting requests -/

variable {env : Env} {k n m : ℕ} {α β : Type} {p : Code α} {f : α → Code β} {Φ Φ' : α → Prop}
  {Ψ : β → Prop} {L L' : Except Exn α → Prop} {M : Except Exn β → Prop}

/-- Before the request number `k` the code can send its `n` requests, and returns. -/
def Kept (env : Env) (k n : ℕ) (p : Code α) (Φ : α → Prop) : Prop :=
  ∀ s, s.tick + n ≤ k → ∃ a s', p env s = (.ok a, s') ∧ s'.tick = s.tick + n ∧ Φ a

/-- The request number `k` has been sent before, or the code comes to it: its outcome is one
of `L`. -/
def Lost (env : Env) (k n : ℕ) (p : Code α) (L : Except Exn α → Prop) : Prop :=
  ∀ s, k < s.tick + n → ∃ r s', p env s = (r, s') ∧ k < s'.tick ∧ L r

/-- The code sends `n` requests, unless the channel is lost before the last one. -/
structure Sends (env : Env) (k n : ℕ) (p : Code α) (Φ : α → Prop) (L : Except Exn α → Prop) :
    Prop where
  kept : Kept env k n p Φ
  lost : Lost env k n p L

/-- The outcomes of code that goes on without the channel. -/
def Returned (r : Except Exn α) : Prop := ∃ a, r = .ok a

/-- The outcome of a request that does not find the channel. -/
def Missing (r : Except Exn α) : Prop := r = .error (.ari .notFound)

/-- An exception that is no `TransferCreationError`. -/
def Stray (r : Except Exn α) : Prop := ∃ e, r = .error e ∧ e.isTransferCreationError = false

namespace Sends

theorem weaken (h : Sends env k n p Φ L) (hΦ : ∀ a, Φ a → Φ' a) (hL : ∀ r, L r → L' r) :
    Sends env k n p Φ' L' := by
  refine ⟨fun s hs => ?_, fun s hs => ?_⟩
  · obtain ⟨a, s', hp, htick, ha⟩ := h.kept s hs
    exact ⟨a, s', hp, htick, hΦ a ha⟩
  · obtain ⟨r, s', hp, htick, hr⟩ := h.lost s hs
    exact ⟨r, s', hp, htick, hL r hr⟩

theorem count (h : Sends env k m p Φ L) (hm : m = n) : Sends env k n p Φ L := hm ▸ h

protected theorem pure {a : α} (hΦ : Φ a) (hL : L (.ok a)) :
    Sends env k 0 (pure a : Code α) Φ L :=
  ⟨fun s _ => ⟨a, s, rfl, rfl, hΦ⟩, fun s hs => ⟨.ok a, s, rfl, hs, hL⟩⟩

/-- One piece of code after the other. -/
protected theorem bind (hp : Sends env k n p Φ L) (hf : ∀ a, Φ a → Sends env k m (f a) Ψ M)
    (hok : ∀ a, L (.ok a) → Lost env k m (f a) M) (herror : ∀ e, L (.error e) → M (.error e)) :
    Sends env k (n + m) (p >>= f) Ψ M := by
  refine ⟨fun s hs => ?_, fun s hs => ?_⟩
  · obtain ⟨a, s₁, hp, htick, ha⟩ := hp.kept s (by omega)
    obtain ⟨b, s₂, hb, htick', hΨ⟩ := (hf a ha).kept s₁ (by omega)
    exact ⟨b, s₂, by rw [bind_apply, hp]; exact hb, by omega, hΨ⟩
  · by_cases hkept : s.tick + n ≤ k
    · -- the channel is lost in the second piece
      obtain ⟨a, s₁, hp, htick, ha⟩ := hp.kept s hkept
      obtain ⟨r, s₂, hr, htick', hM⟩ := (hf a ha).lost s₁ (by omega)
      exact ⟨r, s₂, by rw [bind_apply, hp]; exact hr, htick', hM⟩
    · obtain ⟨r, s₁, hp, htick, hr⟩ := hp.lost s (by omega)
      cases r with
      | error e => exact ⟨.error e, s₁, by rw [bind_apply, hp], htick, herror e hr⟩
      | ok a =>
        obtain ⟨r, s₂, hr', htick', hM⟩ := hok a hr s₁ (by omega)
        exact ⟨r, s₂, by rw [bind_apply, hp]; exact hr', htick', hM⟩

/-- First code that goes on without the channel. -/
theorem after (hp : Sends env k n p Φ Returned) (hf : ∀ a, Sends env k m (f a) Ψ M) :
    Sends env k (n + m) (p >>= f) Ψ M :=
  hp.bind (fun a _ => hf a) (fun a _ => (hf a).lost) fun _ he => nomatch he

/-- First code that raises without the channel. -/
theorem raising (hp : Sends env k n p Φ L) (hraise : ∀ a, ¬ L (.ok a))
    (herror : ∀ e, L (.error e) → M (.error e)) (hf : ∀ a, Φ a → Sends env k m (f a) Ψ M) :
    Sends env k (n + m) (p >>= f) Ψ M :=
  hp.bind hf (fun a ha => absurd ha (hraise a)) herror

/-- First the requests, and then code that sends none. -/
theorem silent (hp : Sends env k n p Φ L)
    (hf : ∀ a s, ∃ r s', f a env s = (r, s') ∧ s'.tick = s.tick ∧
      (Φ a → ∃ b, r = .ok b ∧ Ψ b) ∧ (L (.ok a) → M r))
    (herror : ∀ e, L (.error e) → M (.error e)) : Sends env k n (p >>= f) Ψ M := by
  refine ⟨fun s hs => ?_, fun s hs => ?_⟩
  · obtain ⟨a, s₁, hp, htick, ha⟩ := hp.kept s hs
    obtain ⟨r, s₂, hr, htick', hΨ, -⟩ := hf a s₁
    obtain ⟨b, rfl, hb⟩ := hΨ ha
    exact ⟨b, s₂, by rw [bind_apply, hp]; exact hr, by omega, hb⟩
  · obtain ⟨r, s₁, hp, htick, hr⟩ := hp.lost s hs
    cases r with
    | error e => exact ⟨.error e, s₁, by rw [bind_apply, hp], htick, herror e hr⟩
    | ok a =>
      obtain ⟨r, s₂, hr', htick', -, hM⟩ := hf a s₁
      exact ⟨r, s₂, by rw [bind_apply, hp]; exact hr', by omega, hM hr⟩

/-- Code that may go on or not find the channel. -/
theorem both (hp : Sends env k n p Φ fun r => Returned r ∨ Missing r)
    (hf : ∀ a, Sends env k m (f a) Ψ fun r => Returned r ∨ Missing r) :
    Sends env k (n + m) (p >>= f) Ψ fun r => Returned r ∨ Missing r := by
  refine hp.bind (fun a _ => hf a) (fun a _ => (hf a).lost) fun e he => ?_
  rcases he with ⟨a, ha⟩ | he
  · cases ha
  · exact .inr (congrArg Except.error (Except.error.inj he))

/-- `try: p  except C: …`. -/
theorem catching {C : Exn → Bool} (hp : Sends env k n p Φ L) :
    Sends env k n (Program.catching C p) (fun r => ∃ a, r = some a ∧ Φ a) fun r =>
      (∃ a, r = .ok (some a) ∧ L (.ok a)) ∨ ∃ e, L (.error e) ∧
        r = if C e = true then .ok none else .error e := by
  refine ⟨fun s hs => ?_, fun s hs => ?_⟩
  · obtain ⟨a, s', hp, htick, ha⟩ := hp.kept s hs
    exact ⟨some a, s', by simp only [Program.catching, hp], htick, a, rfl, ha⟩
  · obtain ⟨r, s', hp, htick, hr⟩ := hp.lost s hs
    cases r with
    | ok a => exact ⟨_, s', by simp only [Program.catching, hp], htick, .inl ⟨a, rfl, hr⟩⟩
    | error e =>
      refine ⟨if C e = true then .ok none else .error e, s', ?_, htick, .inr ⟨e, hr, rfl⟩⟩
      simp only [Program.catching, hp]
      split <;> rfl

/-- `try: p  except ARINotFound: …`, around code that finds the channel or not. -/
theorem found (hp : Sends env k n p Φ fun r => Returned r ∨ Missing r) :
    Sends env k n (Program.catching Exn.isARINotFound p) (fun r => ∃ a, r = some a ∧ Φ a)
      Returned := by
  refine hp.catching.weaken (fun _ h => h) fun r hr => ?_
  rcases hr with ⟨a, rfl, -⟩ | ⟨e, he, rfl⟩
  · exact ⟨_, rfl⟩
  · rcases he with ⟨a, ha⟩ | he
    · cases ha
    · rw [Except.error.inj he]
      exact ⟨none, rfl⟩

/-- `try: p  except ARINotFound: …`, around code that cannot do without the channel. -/
theorem missed (hp : Sends env k n p Φ Missing) :
    Sends env k n (Program.catching Exn.isARINotFound p) (fun r => ∃ a, r = some a ∧ Φ a)
      (· = .ok none) := by
  refine hp.catching.weaken (fun _ h => h) fun r hr => ?_
  rcases hr with ⟨a, -, ha⟩ | ⟨e, he, rfl⟩
  · cases ha
  · rw [Except.error.inj he]
    rfl

/-- `try: p  except ARINotFound: pass`. -/
theorem ignoring (hp : Sends env k n p Φ fun r => Returned r ∨ Missing r) :
    Sends env k n (Program.ignoring Exn.isARINotFound p) (fun _ => True) Returned :=
  hp.found.after fun _ => .pure trivial ⟨(), rfl⟩

end Sends

/-! ## Requests -/

/-- What is missing strays. -/
theorem stray_of_missing {γ δ : Type} (e : Exn) (he : Missing (.error e : Except Exn γ)) :
    Stray (.error e : Except Exn δ) := by
  rw [Except.error.inj he]
  exact ⟨_, rfl, rfl⟩

section Requests

variable {c c' : ChannelId} {t : Transfer} (hl : env.LosesAt c k)
include hl

/-- A request about some channel, be it the one that is lost. -/
theorem ari_sends {r : AriRequest} (hr : r.about? = some c') :
    Sends env k 1 (ari r) (fun _ => True) fun a => Returned a ∨ Missing a := by
  refine ⟨fun s hs => ?_, fun s hs => ?_⟩
  · obtain ⟨x, hx⟩ := hl.before s.asterisk (r := r) (n := s.tick) (by omega)
      (by rintro rfl; cases hr)
    refine ⟨x, _, by simp only [ari, hx]; rfl, rfl, trivial⟩
  · by_cases hc : c' = c
    · have hgone := hl.gone s.asterisk (n := s.tick) (by omega) (hc ▸ hr)
      exact ⟨_, _, by simp only [ari, hgone]; rfl, by dsimp only; omega, .inr rfl⟩
    · obtain ⟨x, hx⟩ := hl.others s.asterisk (n := s.tick) hr hc
      exact ⟨_, _, by simp only [ari, hx]; rfl, by dsimp only; omega, .inl ⟨x, rfl⟩⟩

/-- A request about the channel that is lost. -/
theorem ari_missing {r : AriRequest} (hr : r.about? = some c) :
    Sends env k 1 (ari r) (fun x => ∃ n a, env.ari n a r = .ok x) Missing := by
  refine ⟨fun s hs => ?_, fun s hs => ?_⟩
  · obtain ⟨x, hx⟩ := hl.before s.asterisk (r := r) (n := s.tick) (by omega)
      (by rintro rfl; cases hr)
    exact ⟨x, _, by simp only [ari, hx]; rfl, rfl, _, _, hx⟩
  · have hgone := hl.gone s.asterisk (n := s.tick) (by omega) hr
    exact ⟨_, _, by simp only [ari, hgone]; rfl, by dsimp only; omega, rfl⟩

theorem originate_sends {args : Originate} (ha : args.originator = c) :
    Sends env k 1 (ari (.channelsOriginate args)) (fun _ => True) Stray := by
  refine ⟨fun s hs => ?_, fun s hs => ?_⟩
  · obtain ⟨x, hx⟩ := hl.before s.asterisk (r := .channelsOriginate args) (n := s.tick) (by omega)
      nofun
    exact ⟨x, _, by simp only [ari, hx]; rfl, rfl, trivial⟩
  · obtain ⟨e, he⟩ := hl.originator s.asterisk (n := s.tick) (by omega) ha
    exact ⟨_, _, by simp only [ari, he]; rfl, by dsimp only; omega, _, rfl, rfl⟩

theorem request_sends {r : AmiRequest} (hr : ∀ x context exten, r ≠ .redirect x context exten c) :
    Sends env k 1 (Ami.request r) (fun _ => True) Returned := by
  have answered (s : System) :
      ∃ y s', Ami.request r env s = (.ok y, s') ∧ s'.tick = s.tick + 1 := by
    obtain ⟨y, hy⟩ := hl.ami s.tick r (.inr hr)
    exact ⟨y, _, by simp only [Ami.request, ami, hy]; rfl, rfl⟩
  refine ⟨fun s hs => ?_, fun s hs => ?_⟩
  · obtain ⟨y, s', hy, htick⟩ := answered s
    exact ⟨y, s', hy, htick, trivial⟩
  · obtain ⟨y, s', hy, htick⟩ := answered s
    exact ⟨_, s', hy, by omega, y, rfl⟩

/-! ## Calling the recipient -/

theorem hold_sends (c' : ChannelId) :
    Sends env k 4 (AriHelpers.holdTransferredCall c') (fun _ => True)
      fun a => Returned a ∨ Missing a := by
  have act (action : ChannelAction) :
      Sends env k 1 (channelsDo action c') (fun _ => True) fun a => Returned a ∨ Missing a :=
    ari_sends hl rfl
  have mohClassExists : Sends env k 1
      (Program.catching Exn.isWazoAmidError (Ami.mohClassExists "default")) (fun _ => True)
      Returned := by
    have classes : Sends env k 1 (Ami.mohClassExists "default") (fun _ => True) Returned :=
      (request_sends hl (r := .mohShowClasses) fun _ _ _ => nofun).after fun _ =>
        .pure trivial ⟨_, rfl⟩
    refine classes.catching.weaken (fun _ _ => trivial) fun r hr => ?_
    rcases hr with ⟨a, rfl, -⟩ | ⟨e, ⟨a, ha⟩, -⟩
    · exact ⟨_, rfl⟩
    · cases ha
  unfold AriHelpers.holdTransferredCall
  have rest : Sends env k 2 (do
      let mohClassExists ← Program.catching Exn.isWazoAmidError (Ami.mohClassExists "default")
      if mohClassExists.getD false then
        channelsDo (.startMoh "default") c'
      else
        channelsDo .startSilence c') (fun _ => True) fun a => Returned a ∨ Missing a := by
    refine (mohClassExists.after fun b => ?_).count (m := 1 + 1) rfl
    split <;> exact act _
  exact ((act _).both fun _ => (act _).both fun _ => rest).count rfl

theorem getVar_found (c' : ChannelId) (name : String) :
    Sends env k 1 (Program.catching Exn.isARINotFound (Channel.getVar c' name)) (fun _ => True)
      Returned := by
  have read : Sends env k 1 (Channel.getVar c' name) (fun _ => True)
      fun a => Returned a ∨ Missing a := ari_sends hl rfl
  exact read.found.weaken (fun _ _ => trivial) fun _ h => h

/-- The end of `originate_recipient`, which sends its last request. -/
theorem originated_sends {args : Originate} (ha : args.originator = c) (id : TransferId) :
    Sends env k 1 (do
      let recipientCall ← ari (.channelsOriginate args)
      record (.originated id recipientCall)
      return recipientCall) (fun _ => True) Stray := by
  refine (originate_sends hl ha).silent (fun x s => ?_) fun e he => ?_
  · refine ⟨.ok x, _, rfl, rfl, fun _ => ⟨x, rfl, trivial⟩, fun hx => ?_⟩
    obtain ⟨e, he, -⟩ := hx
    cases he
  · obtain ⟨e', he', hstray⟩ := he
    cases he'
    exact ⟨e, rfl, hstray⟩

/-- The initiator is needed to call the recipient. -/
theorem originateRecipient_sends {args : StartArgs} {vars : Variables}
    (hargs : args.vars = .object vars) (id : TransferId) :
    Sends env k 5 (originateRecipient c args id) (fun _ => True) Stray := by
  unfold originateRecipient
  rw [hargs]
  refine ((ari_missing hl rfl).raising (fun _ => nofun) stray_of_missing fun channel _ => ?_).count
    (m := 1 + 4) rfl
  simp only [Decoded.toDict, pure_bind]
  refine ((ari_missing hl rfl).raising (fun _ => nofun) stray_of_missing fun language _ => ?_).count
    (m := 1 + 3) rfl
  refine ((getVar_found hl c _).after fun userId => ?_).count (m := 1 + 2) rfl
  refine ((getVar_found hl c _).after fun userUuid => ?_).count (m := 1 + 1) rfl
  exact originated_sends hl rfl id

/-- `_start_attended`, up to its notification. -/
theorem startAttended_sends {args : StartArgs} {vars : Variables} (hc : t.initiatorCall = c)
    (hargs : args.vars = .object vars) :
    Sends env k 10 (do
      holdTransferredCall t
      Program.ignoring Exn.isARINotFound (channelsDo .ring t.initiatorCall)
      Program.catching Exn.isTransferCreationError (originateRecipient t.initiatorCall args t.id))
      (fun r => r.isSome = true) Stray := by
  have ring : Sends env k 1 (channelsDo .ring t.initiatorCall) (fun _ => True)
      fun a => Returned a ∨ Missing a := ari_sends hl rfl
  have called : Sends env k 5 (Program.catching Exn.isTransferCreationError
      (originateRecipient t.initiatorCall args t.id)) (fun r => r.isSome = true) Stray := by
    rw [hc]
    refine (originateRecipient_sends hl hargs t.id).catching.weaken (fun r hr => ?_) fun r hr => ?_
    · obtain ⟨a, rfl, -⟩ := hr
      rfl
    · rcases hr with ⟨a, -, e, he, -⟩ | ⟨e, ⟨e', he, hstray⟩, rfl⟩
      · cases he
      · cases he
        rw [hstray]
        exact ⟨e, rfl, hstray⟩
  exact ((hold_sends hl t.transferredCall).ignoring.after fun _ => ring.ignoring.after
    fun _ => called).count rfl

end Requests

end Calld.Transfers
