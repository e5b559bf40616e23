/-
# Lost hangups

When the stasis application is registered again, `process_lost_hangups` goes through the stored
transfers and calls the hangup transition for every channel that Asterisk does not find.  A
recipient that has not been called yet counts as a channel that is not found, and only the
states after the call of the recipient know what to do then: the loop stops at a transfer
whose channels were being moved, unless an earlier hangup has ended it (`recovers_iff`).
-/
import Calld.Transfers.Hangups

namespace Calld.Transfers

open Effect Effect.Program TransfersStasis TransferState

variable {env : Env} {I : Set TransferId} {s s' s₀ : System} {t t' : Transfer}
  {id : TransferId} {tr : Transition} {g : Target} {gone : ChannelId → Prop}

/-! ## After a restart -/

/-- Asterisk finds the channels that are not gone, and nothing else fails. -/
structure Env.Restarted (env : Env) (gone : ChannelId → Prop) : Prop where
  healthy : env.Healthy
  found : ∀ {n a r c}, r.channel? = some c → ¬ gone c → ∃ x, env.ari n a r = .ok x
  missing : ∀ {c}, gone c → env.Lacks c
  nobody : ∀ n a, env.ari n a (.channelsGet none) = .error .notFound
  builds : ∀ n a b, ∃ x, env.ari n a (.bridgesCreate b) = .ok x

/-- The channel does not exist; `None` is no channel. -/
def Nowhere (gone : ChannelId → Prop) (c : Option ChannelId) : Prop := ∀ c', c = some c' → gone c'

/-- The channel of the transfer with a role. -/
def Transfer.channel (t : Transfer) : Role → Option ChannelId
  | .transferred => some t.transferredCall
  | .initiator => some t.initiatorCall
  | .recipient => t.recipientCall

/-- The transfer has a channel with the role, which is gone. -/
def Transfer.Misses (gone : ChannelId → Prop) (t : Transfer) (role : Role) : Prop :=
  ∃ c, t.channel role = some c ∧ gone c

/-- A request that is answered. -/
theorem ari_answered {r : AriRequest} (hr : r.isStore = false)
    (h : ∀ n a, ∃ x, env.ari n a r = .ok x) : Within env quiet (fun _ => False) (ari r) := by
  intro s
  obtain ⟨x, hx⟩ := h s.tick s.asterisk
  simp only [ari, hx]
  exact ⟨⟨apply_records hr, apply_index hr, rfl, rfl, rfl⟩, fun e he => by cases he⟩

theorem found_within (h : env.Restarted gone) {r : AriRequest} {c : ChannelId}
    (hr : r.isStore = false) (hc : r.channel? = some c) (hfound : ¬ gone c) :
    Within env quiet (fun _ => False) (ari r) :=
  ari_answered hr fun _ _ => h.found hc hfound

/-- Only a missing channel may be reported, and `except ARINotFound` sees to that. -/
theorem Env.Restarted.missed (h : env.Restarted gone) {α : Type} {q : Code α}
    (hq : ∀ {E}, env.Faults E → Within env quiet (Missed E) q) :
    Within env quiet (fun _ => False) q :=
  (hq h.healthy.faults).weaken fun _ he => not_missed he

/-! ### The initiator hangs up after the answer -/

theorem moveToTransferBridge_answered (h : env.Restarted gone) (t : Transfer) {c : ChannelId}
    (hc : ¬ gone c) : Within env quiet (fun _ => False) (moveToTransferBridge t c) := by
  have found {e : Exn} (he : e = .ari .notFound) : e.isARINotFound = true ∨ False := by
    rw [he]
    exact .inl rfl
  have reads (x : GlobalVariable) : Within env quiet (fun _ => False) (ari (.getGlobalVar x)) :=
    ari_answered rfl fun n a => ⟨_, h.healthy.reads n a x⟩
  have variable_set (b : BridgeId) (name value : String) :
      Within env quiet (fun _ => False) (AriHelpers.setBridgeVariable b name value) := by
    unfold AriHelpers.setBridgeVariable AriHelpers.readBridgeVariables
    refine Within.bind ?_ fun _ => ari_answered rfl fun n a => ⟨_, h.healthy.writes n a _⟩
    refine ((reads _).catching fun _ => False.elim).bind fun r => ?_
    cases r with
    | some _ => exact .look _
    | none => exact .pure _
  unfold moveToTransferBridge getOrCreateTransferBridge
  refine Within.bind ?_ fun _ => found_within h rfl rfl hc
  refine ((ari_within h.healthy.faults rfl).catching fun _ => found).bind fun r => ?_
  cases r with
  | some bridge => exact .pure _
  | none =>
    exact (ari_answered rfl fun n a => h.builds n a _).bind fun _ =>
      (variable_set _ _ _).bind fun _ => .pure _

/-- The transferred channel exists, so that it can be bridged with the recipient. -/
theorem answeredHangup_returns (h : env.Restarted gone) (hc : ¬ gone t.transferredCall)
    (hr : t.recipientCall.isSome = true) :
    Gives env (fun _ => False) (TransferStateAnswered.initiatorHangup t)
      (· = fromState .ended t) := by
  have unhold : Within env quiet (fun _ => False) (unholdTransferredCall t) :=
    (found_within h rfl rfl hc).bind fun _ => (found_within h rfl rfl hc).bind fun _ =>
      (found_within h rfl rfl hc).bind fun _ => found_within h rfl rfl hc
  have recipient : Within env quiet (fun _ => False) (unsetRecipientVariables t) := by
    obtain ⟨c, hc⟩ := Option.isSome_iff_exists.mp hr
    unfold unsetRecipientVariables
    rw [hc]
    exact h.missed fun hf => unsetVariables_within hf c
  have bridged : Within env quiet (fun _ => False) (TransferStateAnswered.bridgeTransferred t) :=
    unhold.bind fun _ => (moveToTransferBridge_answered h t hc).bind fun _ =>
      (h.missed fun hf => unsetVariables_within hf _).bind fun _ => recipient
  have announced : Within env quiet (fun _ => False) (announceRecordings t) :=
    h.missed fun hf => announceRecordings_within hf t
  have ends := ended_gives h.healthy.faults t
  refine .after bridged fun _ => .after announced fun _ => ?_
  refine ((notify_gives h.healthy.faults .completed t).weaken (fun _ h => h)
    fun _ => not_missed).bind fun _ _ => ?_
  exact ends.weaken (fun _ h => h) fun _ => not_missed

/-- Either no missing channel stops the transition, or the channel that would is there. -/
def Transfer.Unstopped (gone : ChannelId → Prop) (t : Transfer) (tr : Transition) : Prop :=
  t.status.steadfast tr = true ∨
    t.status = .answered ∧ tr = .initiatorHangup ∧ ¬ gone t.transferredCall

/-- **A transition that nothing stops returns what the graph says.** -/
theorem call_unstopped (h : env.Restarted gone) (hg : t.status.target tr = some g)
    (hu : t.Unstopped gone tr) :
    Triple env (Linked env I s₀ t) (call tr t)
      (fun t' s => Called env I s₀ t t' s ∧ g.Results t t') fun _ _ => False := by
  rcases hu with hs | ⟨hst, rfl, hc⟩
  · exact call_steadfast h.healthy hg hs
  · intro u hl
    have hrec : t.recipientCall.isSome = true := by
      refine (hl.after.wellStored.stands (hl.stored ?_)).shaped.mpr (by rw [hst]; rfl)
      rw [hst]
      decide
    have result : Triple env (fun u => u.stateMachineLocked = true) (call .initiatorHangup t)
        (fun t' _ => t' = fromState .ended t) fun _ _ => False := by
      refine callWith_result (fun hm => ?_) (fun body hm => ?_) (fun body hm => ?_) fun t' _ =>
        (updateCache_gives (h.healthy.readsAll .index) h.healthy.writesAll t')
      · rw [hst] at hm
        cases hm
      · rw [hst] at hm
        cases hm
      · rw [hst] at hm
        cases hm
        exact answeredHangup_returns h hc hrec
    have called : Triple env (Linked env I s₀ t) (call .initiatorHangup t)
        (fun t' => Called env I s₀ t t') fun _ => Aborted env I s₀ t := callWith_triple _ _ t
    rw [hst] at hg
    cases hg
    exact ((called.and result).weaken (fun _ h => h) (fun _ _ h => h) fun _ _ h => h.2) u
      ⟨hl, hl.flag⟩

/-! ## One transfer -/

/-- `Channel.exists` tells whether the channel is there. -/
theorem exists_restarted (h : env.Restarted gone) (c : Option ChannelId) {P : System → Prop}
    (hP : ∀ u u', P u → Quiet u u' → P u') :
    Triple env P (Channel.exists c) (fun b u => P u ∧ (b = false ↔ Nowhere gone c))
      fun _ _ => False := by
  intro u hu
  have after (x : System) (hx : x = { u with tick := u.tick + 1 }) : P x := by
    refine hP u x hu ?_
    subst hx
    exact ⟨rfl, rfl, rfl, rfl, rfl⟩
  unfold Channel.exists
  cases c with
  | none =>
    have hnone := h.nobody u.tick u.asterisk
    simp only [bind_apply, catching, ari, hnone, Exn.isARINotFound, if_true, pure_apply]
    have nowhere : Nowhere gone none := fun _ hc => by cases hc
    exact ⟨after _ rfl, fun _ => nowhere, fun _ => rfl⟩
  | some c =>
    by_cases hc : gone c
    · have hlacks := h.missing hc u.tick u.asterisk (.channelsGet (some c)) rfl
      simp only [bind_apply, catching, ari, hlacks, Exn.isARINotFound, if_true, pure_apply]
      exact ⟨after _ rfl, fun _ c' hc' => Option.some.inj hc' ▸ hc, fun _ => rfl⟩
    · obtain ⟨x, hx⟩ := h.found (n := u.tick) (a := u.asterisk) (r := .channelsGet (some c)) rfl hc
      simp only [bind_apply, catching, ari, hx, pure_apply]
      exact ⟨after _ rfl, (fun hb => by cases hb), fun hn => absurd (hn c rfl) hc⟩

/-- One test of the recovery: the transition is called exactly when the channel is not there. -/
theorem lostHangup_apply (h : env.Restarted gone) {c : Option ChannelId} {P : System → Prop}
    {Q : Transfer → System → Prop} {E : Exn → System → Prop}
    (hP : ∀ u u', P u → Quiet u u' → P u')
    (hcall : Nowhere gone c → Triple env P (call tr t) Q E)
    (hstay : ¬ Nowhere gone c → ∀ u, P u → Q t u) : Triple env P (lostHangup c tr t) Q E := by
  unfold lostHangup
  refine ((exists_restarted h c hP).weaken (fun _ h => h) (fun _ _ h => h)
    fun _ _ => False.elim).bind fun found => Triple.of_fact fun hfound => ?_
  cases found with
  | true =>
    have there : ¬ Nowhere gone c := fun hn => by cases hfound.mpr hn
    exact Triple.pure fun u hu => hstay there u hu
  | false => exact hcall (hfound.mp rfl)

/-- The state object has come from the transfer by the hangups of its missing channels with
some roles. -/
structure Visited (env : Env) (gone : ChannelId → Prop) (t₀ : Transfer) (s₀ : System)
    (roles : List Role) (t : Transfer) (s : System) : Prop where
  linked : Linked env {t₀.id} s₀ t s
  own : t.id = t₀.id
  calls : ∀ role ∈ roles, t₀.Misses gone role →
    ∃ st, Records s₀ (.called t₀.id st (hangupTransition role)) s

theorem Visited.of_quiet {t₀ : Transfer} {roles : List Role}
    (h : Visited env gone t₀ s₀ roles t s) (hq : Quiet s s') :
    Visited env gone t₀ s₀ roles t s' where
  linked := h.linked.of_quiet hq
  own := h.own
  calls role hr hm := by
    obtain ⟨st, evs, htrace, hev⟩ := h.calls role hr hm
    exact ⟨st, evs, hq.trace.trans htrace, hev⟩

/-- The state object may be taken for the beginning. -/
theorem Linked.here (h : Linked env I s₀ t s) : Linked env I s t s :=
  ⟨.refl h.after.wellStored, h.flag, h.mem, h.link⟩

theorem hangup_decorated_of_target {role : Role}
    (hg : t.status.target (hangupTransition role) = some g) :
    ∃ body, t.status.method ⟨"", "", .object [], none⟩ (hangupTransition role) =
      .decorated body := by
  cases hst : t.status <;> rw [hst] at hg <;> cases role <;> first | exact ⟨_, rfl⟩ | cases hg

/-- The test for one role, where the state implements the transition. -/
theorem lostHangup_visited (h : env.Restarted gone) {t₀ : Transfer} {roles : List Role}
    (role : Role) {Φ : Transfer → Prop}
    (hcall : Nowhere gone (t₀.channel role) →
      ∃ g, t.status.target (hangupTransition role) = some g ∧
        t.Unstopped gone (hangupTransition role) ∧ ∀ t', g.Results t t' → Φ t')
    (hstay : ¬ Nowhere gone (t₀.channel role) → Φ t) :
    Triple env (Visited env gone t₀ s₀ roles t)
      (lostHangup (t₀.channel role) (hangupTransition role) t)
      (fun t' u => Visited env gone t₀ s₀ (role :: roles) t' u ∧ Φ t') fun _ _ => False := by
  refine lostHangup_apply h (fun _ _ hv hq => hv.of_quiet hq) (fun hnowhere => ?_)
    fun hthere u hu => ⟨⟨hu.linked, hu.own, fun r hr hm => ?_⟩, hstay hthere⟩
  · obtain ⟨g, hg, hunstopped, hres⟩ := hcall hnowhere
    obtain ⟨body, hm⟩ := hangup_decorated_of_target hg
    intro u hu
    have here : Linked env {t₀.id} u t u := hu.linked.here
    have returned : Triple env (Linked env {t₀.id} u t) (call (hangupTransition role) t)
        (fun t' v => Called env {t₀.id} u t t' v ∧ g.Results t t') fun _ _ => False :=
      call_unstopped h hg hunstopped
    refine (returned.and (call_records hm here)).run_state ⟨here, rfl⟩ ?_ (fun _ _ h => h.1) u rfl
    rintro t' v ⟨⟨hcalled, hr⟩, hrec⟩
    have after : After env {t₀.id} s₀ v := hu.linked.after.trans hcalled.linked.after
    refine ⟨⟨⟨after, hcalled.linked.flag, hcalled.linked.mem, hcalled.linked.link⟩,
      hcalled.same.id.trans hu.own, fun r hr hm => ?_⟩, hres t' hr⟩
    rcases List.mem_cons.mp hr with rfl | hr
    · exact ⟨t.status, hu.own ▸ hrec.since hu.linked.after⟩
    · obtain ⟨st, hst⟩ := hu.calls r hr hm
      exact ⟨st, hst.after hcalled.linked.after⟩
  · rcases List.mem_cons.mp hr with rfl | hr
    · obtain ⟨c, hc, hgone⟩ := hm
      refine absurd (fun c' hc' => ?_) hthere
      rw [hc] at hc'
      exact Option.some.inj hc' ▸ hgone
    · exact hu.calls r hr hm

/-! ### The three tests -/

/-- What the recovery presupposes: the recipient has been called, or an earlier hangup ends the
transfer. -/
def Transfer.Recoverable (gone : ChannelId → Prop) (t : Transfer) : Prop :=
  t.status.phase = some .calling ∨
    (t.status.phase = some .moving ∨ t.status.phase = some .cancelled) ∧ gone t.transferredCall ∨
      t.status.phase = some .cancelled ∧ gone t.initiatorCall

/-- After the hangup of the transferred channel. -/
theorem recover_transferred (h : t.Stands id) (hr : t.Recoverable gone) :
    ∃ g, t.status.target .transferredHangup = some g ∧
      t.Unstopped gone .transferredHangup ∧
        ∀ t', g.Results t t' → t'.status = .abandoned ∨ t'.status = .ended := by
  have started : t.status.phase ≠ some .initial := by
    intro hp
    rcases hr with h | ⟨h | h, -⟩ | ⟨h, -⟩ <;> rw [hp] at h <;> cases h
  obtain ⟨p, hp⟩ := h.phase
  have edge (g : Target) (hg : t.status.target .transferredHangup = some g)
      (hs : t.status.steadfast .transferredHangup = true)
      (hres : ∀ t', g.Results t t' → t'.status = .abandoned ∨ t'.status = .ended) :
      ∃ g, t.status.target .transferredHangup = some g ∧
        t.Unstopped gone .transferredHangup ∧
          ∀ t', g.Results t t' → t'.status = .abandoned ∨ t'.status = .ended :=
    ⟨g, hg, .inl hs, hres⟩
  cases hst : t.status <;> rw [hst] at started hp edge
  case ready | nonStasis => exact absurd rfl started
  case starting | invalid | ended => cases hp
  case ringback | answered => exact edge (.goto .abandoned) rfl rfl (by rintro _ rfl; exact .inl rfl)
  case abandoned => exact edge .stay rfl rfl (by rintro _ rfl; exact .inl hst)
  all_goals exact edge (.goto .ended) rfl rfl (by rintro _ rfl; exact .inr rfl)

/-- What is known of the state object after the test of the transferred channel. -/
def AfterTransferred (gone : ChannelId → Prop) (t t₁ : Transfer) : Prop :=
  (gone t.transferredCall → t₁.status = .abandoned ∨ t₁.status = .ended) ∧
    (¬ gone t.transferredCall → t₁ = t)

/-- What is known of it after the test of the initiator. -/
def AfterInitiator (gone : ChannelId → Prop) (t t₂ : Transfer) : Prop :=
  t₂.status.isCalling ∧
    (gone t.transferredCall → gone t.initiatorCall → t₂.status = .ended)

theorem recover_initiator {t₁ : Transfer} (hr : t.Recoverable gone)
    (h₁ : AfterTransferred gone t t₁) (hi : gone t.initiatorCall) :
    ∃ g, t₁.status.target .initiatorHangup = some g ∧
      t₁.Unstopped gone .initiatorHangup ∧
        ∀ t', g.Results t₁ t' → AfterInitiator gone t t' := by
  by_cases ht : gone t.transferredCall
  · rcases h₁.1 ht with hst | hst
    · refine ⟨.goto .ended, by rw [hst]; rfl, .inl (by rw [hst]; rfl), ?_⟩
      rintro _ rfl
      exact ⟨.inr rfl, fun _ _ => rfl⟩
    · refine ⟨.stay, by rw [hst]; rfl, .inl (by rw [hst]; rfl), ?_⟩
      rintro _ rfl
      exact ⟨.inr hst, fun _ _ => hst⟩
  · obtain rfl := h₁.2 ht
    have calls {t' : Transfer} (hc : t'.status.isCalling) : AfterInitiator gone t₁ t' :=
      ⟨hc, fun h => absurd h ht⟩
    have phase : t₁.status.phase = some .calling ∨ t₁.status.phase = some .cancelled := by
      rcases hr with h | ⟨-, h⟩ | ⟨h, -⟩
      · exact .inl h
      · exact absurd h ht
      · exact .inr h
    cases hst : t₁.status <;> rw [hst] at phase
    case ringback =>
      refine ⟨.blind, rfl, .inl (by rw [hst]; rfl), ?_⟩
      rintro _ (rfl | rfl)
      · exact calls (.inl rfl)
      · exact calls (.inr rfl)
    case blindTransferred =>
      refine ⟨.stay, rfl, .inl (by rw [hst]; rfl), ?_⟩
      rintro _ rfl
      exact calls (.inl (by rw [hst]; rfl))
    case answered =>
      refine ⟨.goto .ended, rfl, .inr ⟨hst, rfl, ht⟩, ?_⟩
      rintro _ rfl
      exact calls (.inr rfl)
    case abandoned | initiatorMovedToStasisCancelled | transferredMovedToStasisCancelled |
        noneMovedToStasisCancelled =>
      refine ⟨.goto .ended, rfl, .inl (by rw [hst]; rfl), ?_⟩
      rintro _ rfl
      exact calls (.inr rfl)
    all_goals rcases phase with h | h <;> cases h

/-- The initiator is there. -/
theorem initiator_there {t₁ : Transfer} (hr : t.Recoverable gone)
    (h₁ : AfterTransferred gone t t₁) (hi : ¬ gone t.initiatorCall) : AfterInitiator gone t t₁ := by
  refine ⟨?_, fun _ h => absurd h hi⟩
  by_cases ht : gone t.transferredCall
  · rcases h₁.1 ht with hst | hst
    · exact .inl (by rw [hst]; rfl)
    · exact .inr hst
  · rw [h₁.2 ht]
    rcases hr with h | ⟨-, h⟩ | ⟨-, h⟩
    · exact .inl h
    · exact absurd h ht
    · exact absurd h hi

/-- The hangup of the recipient, once it has been called. -/
theorem recover_recipient {t₂ : Transfer} (h₂ : AfterInitiator gone t t₂) :
    ∃ g, t₂.status.target .recipientHangup = some g ∧
      t₂.Unstopped gone .recipientHangup ∧
        ∀ t', g.Results t₂ t' → t'.status = .ended := by
  obtain ⟨hcalling | hended, -⟩ := h₂
  · cases hst : t₂.status <;> rw [hst] at hcalling <;> cases hcalling
    all_goals
      refine ⟨.goto .ended, rfl, .inl (by rw [hst]; rfl), ?_⟩
      rintro _ rfl
      rfl
  · refine ⟨.stay, by rw [hended]; rfl, .inl (by rw [hended]; rfl), ?_⟩
    rintro _ rfl
    exact hended

/-- What the recovery owes to a transfer: the hangup transitions of its missing channels have been
called, and it is not stored any more if they are all missing. -/
structure Recovered (gone : ChannelId → Prop) (t : Transfer) (s₀ s : System) : Prop where
  calls : ∀ role, t.Misses gone role →
    ∃ st, Records s₀ (.called t.id st (hangupTransition role)) s
  removed : (∀ role, Nowhere gone (t.channel role)) → s.memory.records t.id = none

/-- **The recovery of one transfer**, where the states implement its transitions. -/
theorem lostHangups_recovers (h : env.Restarted gone) (hw : WellStored s.memory)
    (hst : s.memory.records t.id = some t) (hr : t.Recoverable gone) :
    Triple env (fun u => u = s) (lostHangups t)
      (fun _ u => Recovered gone t s u ∧ After env {t.id} s u) fun _ _ => False := by
  have alone (c : ChannelId) (hn : Nowhere gone (some c)) : gone c := hn c rfl
  have there (c : ChannelId) (hn : ¬ Nowhere gone (some c)) : ¬ gone c := fun hc =>
    hn fun c' hc' => Option.some.inj hc' ▸ hc
  refine make_at (X := fun _ => False) (h.healthy.readsAll _) hw hst (Set.mem_singleton t.id) ?_
    fun _ _ => False.elim
  -- the tests, one after the other
  have first : Triple env (Visited env gone t s [] t)
      (lostHangup (some t.transferredCall) .transferredHangup t)
      (fun t₁ u => Visited env gone t s [.transferred] t₁ u ∧ AfterTransferred gone t t₁)
      fun _ _ => False := by
    refine lostHangup_visited h .transferred (fun hn => ?_) fun hn =>
      ⟨fun hg => absurd hg (there _ hn), fun _ => rfl⟩
    obtain ⟨g, hg, hu, hres⟩ := recover_transferred (hw.stands hst) hr
    exact ⟨g, hg, hu, fun t' ht' => ⟨fun _ => hres t' ht', fun ht => absurd (alone _ hn) ht⟩⟩
  have second (t₁ : Transfer) (h₁ : AfterTransferred gone t t₁) :
      Triple env (Visited env gone t s [.transferred] t₁)
        (lostHangup (some t.initiatorCall) .initiatorHangup t₁)
        (fun t₂ u => Visited env gone t s [.initiator, .transferred] t₂ u ∧
          AfterInitiator gone t t₂) fun _ _ => False :=
    lostHangup_visited h .initiator (fun hn => recover_initiator hr h₁ (alone _ hn))
      fun hn => initiator_there hr h₁ (there _ hn)
  have third (t₂ : Transfer) (h₂ : AfterInitiator gone t t₂) :
      Triple env (Visited env gone t s [.initiator, .transferred] t₂)
        (lostHangup t.recipientCall .recipientHangup t₂)
        (fun t₃ u => Visited env gone t s [.recipient, .initiator, .transferred] t₃ u ∧
          (Nowhere gone t.recipientCall → t₃.status = .ended)) fun _ _ => False := by
    refine lostHangup_visited h .recipient (fun _ => ?_) fun hn hn' => absurd hn' hn
    obtain ⟨g, hg, hu, hres⟩ := recover_recipient h₂
    exact ⟨g, hg, hu, fun t' ht' _ => hres t' ht'⟩
  refine Triple.pre (first.bind fun t₁ => Triple.of_fact fun h₁ => (second t₁ h₁).bind fun t₂ =>
    Triple.of_fact fun h₂ => (third t₂ h₂).bind fun t₃ => Triple.of_fact fun h₃ =>
    Triple.pure fun u hv => ⟨⟨fun role hm => ?_, fun hall => ?_⟩, ?_⟩) fun u hu =>
      ⟨hu.1, rfl, fun _ h => by cases h⟩
  · exact hv.calls role (by cases role <;> simp) hm
  · have gone_now := hv.linked.removed (h₃ (hall .recipient))
    rw [hv.own] at gone_now
    exact gone_now
  · exact hv.linked.after.of_eq rfl

/-! ### A transfer that stops the recovery -/

/-- A test that calls a transition which the state does not implement. -/
theorem lostHangup_raises (h : env.Restarted gone) {c : Option ChannelId}
    (hn : Nowhere gone c) (hg : t.status.target tr = none) :
    Triple env (Linked env I s₀ t) (lostHangup c tr t) (fun _ _ => False) fun _ _ => True :=
  lostHangup_apply h (fun _ _ hl hq => hl.of_quiet hq)
    (fun _ => (call_unimplemented hg).weaken (fun _ h => h) (fun _ _ h => h) fun _ _ _ => trivial)
    fun hthere => absurd hn hthere

/-- **The recovery of one transfer raises**, where a state does not implement its transition. -/
theorem lostHangups_raises (h : env.Restarted gone) (hw : WellStored s.memory)
    (hst : s.memory.records t.id = some t) (hr : ¬ t.Recoverable gone) :
    Triple env (fun u => u = s) (lostHangups t) (fun _ _ => False) fun _ _ => True := by
  have stands := hw.stands hst
  obtain ⟨p, hp⟩ := stands.phase
  have waiting : t.status.phase ≠ some .calling := fun hc => hr (.inl hc)
  have nobody : Nowhere gone t.recipientCall := by
    intro c hc
    exact absurd (stands.shaped.mp (by rw [hc]; rfl)) waiting
  -- what a test does to the state object as long as its phase lasts
  let Phased (t' : Transfer) : Prop := t'.status.phase = t.status.phase
  have test (c : ChannelId) (role : Role) (hrole : role ≠ .recipient) (t' : Transfer)
      (ht' : Phased t')
      (hgone : gone c → t.status.phase = some .initial ∨
        t.status.phase = some .moving ∧ role = .initiator) :
      Triple env (Linked env {t.id} s t') (lostHangup (some c) (hangupTransition role) t')
        (fun t₁ u => Linked env {t.id} s t₁ u ∧ Phased t₁) fun _ _ => True := by
    refine lostHangup_apply h (fun _ _ hl hq => hl.of_quiet hq) (fun hn => ?_)
      fun _ u hu => ⟨hu, ht'⟩
    rcases hgone (hn c rfl) with hinit | ⟨hmoving, rfl⟩
    · have untouched : t'.status.target (hangupTransition role) = none := by
        have hinit' := ht'.trans hinit
        cases hs : t'.status <;> rw [hs] at hinit' <;> cases hinit' <;> cases role <;> rfl
      exact (call_unimplemented untouched).weaken (fun _ h => h) (fun _ _ h => h.elim)
        fun _ _ _ => trivial
    · have hmoving' := ht'.trans hmoving
      have edge : t'.status.target .initiatorHangup = some .remember ∧
          t'.status.steadfast .initiatorHangup = true := by
        cases hs : t'.status <;> rw [hs] at hmoving' <;> cases hmoving' <;> exact ⟨rfl, rfl⟩
      refine (call_steadfast h.healthy edge.1 edge.2).weaken (fun _ h => h) ?_
        fun _ _ => False.elim
      rintro t₁ u ⟨hcalled, rfl⟩
      exact ⟨hcalled.linked, ht'⟩
  have last (t₂ : Transfer) (h₂ : Phased t₂) :
      Triple env (Linked env {t.id} s t₂) (lostHangup t.recipientCall .recipientHangup t₂)
        (fun _ _ => False) fun _ _ => True := by
    refine lostHangup_raises h nobody ?_
    have waiting' : t₂.status.phase ≠ some .calling := fun hc => waiting (h₂.symm.trans hc)
    have hp' : t₂.status.phase = some p := h₂.trans hp
    cases hs : t₂.status <;> rw [hs] at waiting' hp' <;>
      first | rfl | exact absurd rfl waiting' | cases hp'
  refine make_at (X := fun _ => False) (h.healthy.readsAll _) hw hst (Set.mem_singleton t.id) ?_
    fun _ _ => False.elim
  refine Triple.pre ((test t.transferredCall .transferred (by decide) t rfl fun hc => ?_).bind
    fun t₁ => Triple.of_fact fun h₁ =>
    (test t.initiatorCall .initiator (by decide) t₁ h₁ fun hc => ?_).bind fun t₂ =>
    Triple.of_fact fun h₂ => (last t₂ h₂).bind fun _ _ => False.elim) fun _ hu => hu.1
  · cases p with
    | initial => exact .inl hp
    | moving => exact absurd (.inr (.inl ⟨.inl hp, hc⟩)) hr
    | cancelled => exact absurd (.inr (.inl ⟨.inr hp, hc⟩)) hr
    | calling => exact absurd hp waiting
  · cases p with
    | initial => exact .inl hp
    | moving => exact .inr ⟨hp, rfl⟩
    | cancelled => exact absurd (.inr (.inr ⟨hp, hc⟩)) hr
    | calling => exact absurd hp waiting

/-! ## All the transfers -/

theorem Recovered.after (h : Recovered gone t s₀ s) (h' : After env I s s') :
    Recovered gone t s₀ s' where
  calls role hm := by
    obtain ⟨st, hst⟩ := h.calls role hm
    exact ⟨st, hst.after h'⟩
  removed hall := (Acts.thinned h'.acts).unborn t.id (h.removed hall)

theorem Recovered.since (h : Recovered gone t s s') (h' : After env I s₀ s) :
    Recovered gone t s₀ s' where
  calls role hm := by
    obtain ⟨st, hst⟩ := h.calls role hm
    exact ⟨st, hst.since h'⟩
  removed := h.removed

/-- The recovery of a transfer leaves the others stored. -/
theorem stored_after {ts : List Transfer} (hnodup : ((t :: ts).map Transfer.id).Nodup)
    (hst : ∀ u ∈ t :: ts, s.memory.records u.id = some u) (h : After env {t.id} s s') :
    ∀ u ∈ ts, s'.memory.records u.id = some u := by
  intro u hu
  have hne : u.id ≠ t.id := by
    intro heq
    have fresh := (List.nodup_cons.mp hnodup).1
    exact fresh (heq ▸ List.mem_map_of_mem hu)
  rw [(Acts.isLocal h.acts).records u.id hne]
  exact hst u (List.mem_cons_of_mem _ hu)

theorem After.widen (h : After env I s s') : After env Set.univ s s' := by
  refine ⟨Relation.ReflTransGen.mono (fun m m' ha => ?_) _ _ h.acts, h.wellStored⟩
  obtain ⟨id, -, ha⟩ := ha
  exact ⟨id, trivial, ha⟩

/-- **The loop visits all the transfers.** -/
theorem forM_recovers (h : env.Restarted gone) {ts : List Transfer}
    (hr : ∀ t ∈ ts, t.Recoverable gone) (hnodup : (ts.map Transfer.id).Nodup)
    (hw : WellStored s.memory) (hst : ∀ t ∈ ts, s.memory.records t.id = some t) :
    Triple env (fun u => u = s) (ts.forM lostHangups)
      (fun _ u => After env Set.univ s u ∧ ∀ t ∈ ts, Recovered gone t s u) fun _ _ => False := by
  induction ts generalizing s with
  | nil =>
    refine Triple.pure fun u hu => ?_
    subst hu
    exact ⟨.refl hw, fun _ h => by cases h⟩
  | cons t ts ih =>
    have head := lostHangups_recovers h hw (hst t List.mem_cons_self) (hr t List.mem_cons_self)
    show Triple env _ (lostHangups t >>= fun _ => ts.forM lostHangups) _ _
    refine head.bind fun _ u hu => ?_
    obtain ⟨hrec, hafter⟩ := hu
    refine ((ih (fun t' ht' => hr t' (List.mem_cons_of_mem _ ht'))
      (List.nodup_cons.mp hnodup).2 hafter.wellStored
      (stored_after hnodup hst hafter)).weaken (fun _ h => h) ?_ fun _ _ h => h) u rfl
    rintro - v ⟨hrest, hall⟩
    refine ⟨hafter.widen.trans hrest, fun t' ht' => ?_⟩
    rcases List.mem_cons.mp ht' with rfl | ht'
    · exact hrec.after hrest
    · exact (hall t' ht').since hafter

/-- **The loop stops** at the first transfer that raises. -/
theorem forM_stops (h : env.Restarted gone) {ts : List Transfer}
    (hr : ∃ t ∈ ts, ¬ t.Recoverable gone) (hnodup : (ts.map Transfer.id).Nodup)
    (hw : WellStored s.memory) (hst : ∀ t ∈ ts, s.memory.records t.id = some t) :
    Triple env (fun u => u = s) (ts.forM lostHangups) (fun _ _ => False) fun _ _ => True := by
  induction ts generalizing s with
  | nil =>
    obtain ⟨t, ht, -⟩ := hr
    cases ht
  | cons t ts ih =>
    show Triple env _ (lostHangups t >>= fun _ => ts.forM lostHangups) _ _
    by_cases hhead : t.Recoverable gone
    · have head := lostHangups_recovers h hw (hst t List.mem_cons_self) hhead
      have rest : ∃ t' ∈ ts, ¬ t'.Recoverable gone := by
        obtain ⟨t', ht', hr'⟩ := hr
        rcases List.mem_cons.mp ht' with rfl | ht'
        · exact absurd hhead hr'
        · exact ⟨t', ht', hr'⟩
      refine (head.weaken (fun _ h => h) (fun _ _ h => h) fun _ _ => False.elim).bind
        fun _ u hu => ?_
      obtain ⟨-, hafter⟩ := hu
      exact ih rest (List.nodup_cons.mp hnodup).2 hafter.wellStored
        (stored_after hnodup hst hafter) u rfl
    · exact (lostHangups_raises h hw (hst t List.mem_cons_self) hhead).bind fun _ _ => False.elim

/-- The recovery raises nothing, and every persisted transfer gets what it is owed. -/
structure Recovers (env : Env) (gone : ChannelId → Prop) (s : System) : Prop where
  returns : (processLostHangups env s).1 = .ok ()
  visits : ∀ t ∈ s.asterisk.live, Recovered gone t s (processLostHangups env s).2

/-- The loop over what `list` returns. -/
theorem processLostHangups_loop (h : env.Restarted gone) (hw : WellStored s.memory)
    {Q : Unit → System → Prop} {E : Exn → System → Prop}
    (hloop : ∀ u, u.memory = s.memory →
      Triple env (fun v => v = u) (s.asterisk.live.forM lostHangups) Q E) :
    Triple env (fun u => u = s) processLostHangups Q E := by
  unfold processLostHangups
  have listed : Triple env (fun u => u = s) StatePersistor.list
      (fun ts u => u.memory = s.memory ∧ ts = s.asterisk.live) fun _ _ => False :=
    (list_answered h.healthy.reads hw).run_state (quiet.refl s) (fun _ _ h => ⟨h.1.memory, h.2⟩)
      fun _ _ => False.elim
  refine (listed.weaken (fun _ h => h) (fun _ _ h => h) fun _ _ => False.elim).bind fun ts =>
    Triple.of_fact ?_
  rintro rfl u hu
  exact hloop u hu u rfl

open Scene

/-- Some channels are gone, and every other request succeeds. -/
theorem Env.calm_restarted (id : TransferId) (recipient : ChannelId) (cs : List ChannelId) :
    ((Env.calm id recipient).without cs).Restarted (· ∈ cs) where
  healthy := (Env.calm_healthy id recipient).without cs
  found := by
    intro n a r c hr hc
    have asked : (r.channel?.any (· ∈ cs)) = false := by simp [hr, hc]
    simp only [Env.without, asked, Bool.false_eq_true, if_false]
    rcases r with (_ | c) | _ | _ | _ | _ | _ | _ | _ | _ | _ | _ | _
    case channelsGet.none => cases hr
    all_goals exact ⟨_, rfl⟩
  missing hc := Env.without_lacks _ hc
  nobody _ _ := rfl
  builds _ _ _ := ⟨(), rfl⟩

/-- The process is restarted while the recipient's phone rings. -/
def ringingRestart : System :=
  run [(.calm "first" carol, .create (request bob alice .attended)),
    (.calm "second" carol, .restart)] .start

theorem ringingRestart_reachable : Reachable GlobalsWritten ringingRestart :=
  run_reachable ⟨by decide, Env.calm_writes _ _, by decide, Env.calm_writes _ _, trivial⟩

/-- The process is restarted while the channels are being moved into stasis. -/
def movingRestart : System :=
  run [((Env.calm "first" carol).outside, .create (request bob alice .attended)),
    (.calm "second" carol, .restart)] .start

theorem movingRestart_reachable : Reachable GlobalsWritten movingRestart :=
  run_reachable ⟨by decide +kernel, fun _ _ _ => rfl, by decide +kernel, Env.calm_writes _ _,
    trivial⟩

end Calld.Transfers
