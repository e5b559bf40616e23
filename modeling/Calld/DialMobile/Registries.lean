/-
# The registries of the dialers

Four maps know the dialers: by bridge, by aor, the caller by bridge and the call by bridge.
Whatever the order of the sections, and whatever ARI answers, the first two hold the same
dialers, no aor has an empty set, and the last two have the keys of every dialer.

A dialer enters all four maps at once and leaves the first two before its call is pruned
from the last two; the tasks that will prune remember a bridge that no dialer has any more
and that no new dialer will get.
-/
import Calld.DialMobile.Sections

namespace Calld.DialMobile

open Effect Effect.Program

/-! ## Coherence -/

/-- The maps that know the dialers. -/
structure Registries where
  contactDialers : Effect.Dict BridgeUuid Dialer
  dialersByAor : Effect.Dict Aor (Finset Dialer)
  callerChannelLegByBridge : Effect.Dict BridgeUuid ChannelId
  originCallIdByBridgeUuid : Effect.Dict BridgeUuid CallId

/-- The registries of the service. -/
def World.registries (w : World) : Registries where
  contactDialers := w.contactDialers
  dialersByAor := w.dialersByAor
  callerChannelLegByBridge := w.callerChannelLegByBridge
  originCallIdByBridgeUuid := w.originCallIdByBridgeUuid

/-- The registries agree with one another. -/
structure Registries.Coherent (r : Registries) : Prop where
  /-- the dialers are the union of the sets by aor -/
  dialers : {dialer | ∃ b, r.contactDialers.get b = some dialer} =
    ⋃ aor, {dialer | ∃ dialers, r.dialersByAor.get aor = some dialers ∧ dialer ∈ dialers}
  nonempty : ∀ aor dialers, r.dialersByAor.get aor = some dialers → dialers ≠ ∅
  legs : ∀ b ∈ r.contactDialers.keys, b ∈ r.callerChannelLegByBridge.keys
  calls : ∀ b, b ∈ r.callerChannelLegByBridge.keys ↔ b ∈ r.originCallIdByBridgeUuid.keys

/-! ## The invariant -/

/-- Bridges whose dialer has been removed, and whose call will be pruned. -/
def Task.Removed (b : BridgeUuid) : Task → Prop
  | .joinAnswer _ b' _ | .joinCancel b' _ | .joinPrune b' | .goneFallback b' _ _
  | .gonePush b' _ _ | .gonePrune b' _ => b' = b
  | _ => False

/-- The registries agree, dialers have their own keys, and no key is a new uuid. -/
structure Registered (w : World) : Prop where
  nonempty : ∀ aor dialers, w.dialersByAor.get aor = some dialers → dialers ≠ ∅
  indexed : ∀ b dialer, w.contactDialers.get b = some dialer →
    ∃ aor dialers, w.dialersByAor.get aor = some dialers ∧ dialer ∈ dialers
  dialing : ∀ aor dialers dialer, w.dialersByAor.get aor = some dialers → dialer ∈ dialers →
    w.contactDialers.get dialer.futureBridgeUuid = some dialer
  own : ∀ b dialer, w.contactDialers.get b = some dialer → dialer.futureBridgeUuid = b
  legs : ∀ b, (w.contactDialers.get b).isSome → (w.callerChannelLegByBridge.get b).isSome
  calls : ∀ b,
    (w.callerChannelLegByBridge.get b).isSome ↔ (w.originCallIdByBridgeUuid.get b).isSome
  known : ∀ b, (w.callerChannelLegByBridge.get b).isSome → b ∈ w.uuids

/-- No dialer has the bridge of a task that will prune, and none will. -/
def Task.Settled (t : Task) (w : World) : Prop :=
  ∀ b, t.Removed b → w.contactDialers.get b = none ∧ b ∈ w.uuids

namespace Registered

variable {w : World} {b : BridgeUuid} {dialer : Dialer} {call : CallId}

theorem coherent (h : Registered w) : w.registries.Coherent where
  dialers := by
    ext dialer
    simp only [Set.mem_ofPred_eq, Set.mem_iUnion]
    constructor
    · rintro ⟨b, hb⟩
      exact h.indexed b dialer hb
    · rintro ⟨aor, dialers, ha, hm⟩
      exact ⟨_, h.dialing aor dialers dialer ha hm⟩
  nonempty := h.nonempty
  legs b hb := by
    rw [Effect.Dict.mem_keys] at hb ⊢
    exact h.legs b hb
  calls b := by
    rw [Effect.Dict.mem_keys, Effect.Dict.mem_keys]
    exact h.calls b

theorem initial : Registered World.initial where
  nonempty := by
    intro aor dialers h
    cases h
  indexed := by
    intro b dialer h
    cases h
  dialing := by
    intro aor dialers dialer h
    cases h
  own := by
    intro b dialer h
    cases h
  legs := by
    intro b h
    exact h
  calls := fun _ => Iff.rfl
  known := by
    intro b h
    cases h

/-! ## What the changes keep -/

/-- A new dialer has a new uuid. -/
theorem registered (h : Registered w) (call : CallId) (hb : dialer.futureBridgeUuid ∉ w.uuids) :
    Registered ((Change.registered dialer call).apply w) := by
  have hnone : w.contactDialers.get dialer.futureBridgeUuid = none := by
    by_contra hne
    exact hb (h.known _ (h.legs _ (Option.isSome_iff_ne_none.mpr hne)))
  constructor
  · intro aor dialers ha
    dsimp only [Change.apply] at ha
    rw [Effect.Dict.get_set] at ha
    split at ha
    · obtain rfl := Option.some.inj ha
      exact Finset.insert_ne_empty _ _
    · exact h.nonempty aor dialers ha
  · intro b d hd
    dsimp only [Change.apply] at hd ⊢
    rw [Effect.Dict.get_set] at hd
    split at hd
    · obtain rfl := Option.some.inj hd
      exact ⟨_, _, Effect.Dict.get_set_self .., Finset.mem_insert_self ..⟩
    · obtain ⟨aor, dialers, ha, hm⟩ := h.indexed b d hd
      by_cases haor : aor = dialer.aor
      · subst haor
        refine ⟨_, _, Effect.Dict.get_set_self .., Finset.mem_insert_of_mem ?_⟩
        rwa [ha]
      · exact ⟨aor, dialers, by rwa [Effect.Dict.get_set_of_ne _ haor], hm⟩
  · intro aor dialers d ha hm
    dsimp only [Change.apply] at ha ⊢
    have hold : (d ∈ (w.dialersByAor.get aor).getD ∅ ∨ d = dialer) := by
      rw [Effect.Dict.get_set] at ha
      split at ha
      · obtain rfl := Option.some.inj ha
        rename_i haor
        rw [Finset.mem_insert] at hm
        rw [haor]
        exact hm.symm
      · rw [ha]
        exact .inl hm
    rcases hold with hold | rfl
    · have hd : w.contactDialers.get d.futureBridgeUuid = some d := by
        cases hget : w.dialersByAor.get aor with
        | none =>
          rw [hget] at hold
          simp at hold
        | some dialers =>
          rw [hget] at hold
          exact h.dialing aor dialers d hget hold
      rw [Effect.Dict.get_set_of_ne, hd]
      intro heq
      rw [heq, hnone] at hd
      cases hd
    · exact Effect.Dict.get_set_self ..
  · intro b d hd
    dsimp only [Change.apply] at hd
    rw [Effect.Dict.get_set] at hd
    split at hd
    · obtain rfl := Option.some.inj hd
      exact Eq.symm ‹_›
    · exact h.own b d hd
  · intro b hd
    dsimp only [Change.apply] at hd ⊢
    rw [Effect.Dict.get_set] at hd ⊢
    split
    · rfl
    · rw [if_neg ‹_›] at hd
      exact h.legs b hd
  · intro b
    dsimp only [Change.apply]
    rw [Effect.Dict.get_set, Effect.Dict.get_set]
    split
    · exact Iff.rfl
    · exact h.calls b
  · intro b hb'
    dsimp only [Change.apply] at hb' ⊢
    rw [Effect.Dict.get_set] at hb'
    split at hb'
    · rename_i heq
      exact heq ▸ Finset.mem_insert_self ..
    · exact Finset.mem_insert_of_mem (h.known b hb')

/-- A dialer leaves both indexes. -/
theorem removed (h : Registered w) (hd : w.contactDialers.get b = some dialer) :
    Registered ((Change.removed b dialer).apply w) := by
  have hown : dialer.futureBridgeUuid = b := h.own b dialer hd
  have hby : ∀ aor dialers, ((Change.removed b dialer).apply w).dialersByAor.get aor = some dialers ↔
      ∃ old, w.dialersByAor.get aor = some old ∧ old.erase dialer = dialers ∧ dialers ≠ ∅ := by
    intro aor dialers
    show (w.dialersByAor.get aor).bind _ = _ ↔ _
    cases w.dialersByAor.get aor with
    | none => simp
    | some old =>
      simp only [Option.bind_some, Option.some.injEq, exists_eq_left']
      by_cases he : old.erase dialer = ∅
      · rw [if_pos he, he]
        simp [eq_comm]
      · rw [if_neg he]
        constructor
        · intro hs
          obtain rfl := Option.some.inj hs
          exact ⟨rfl, he⟩
        · rintro ⟨rfl, -⟩
          rfl
  constructor
  · intro aor dialers ha
    obtain ⟨_, _, _, hne⟩ := (hby aor dialers).mp ha
    exact hne
  · intro b' d hpop
    have hget : (w.contactDialers.pop b).get b' = some d := hpop
    rw [Effect.Dict.get_pop] at hget
    split at hget
    · cases hget
    · rename_i hne
      obtain ⟨aor, old, ha, hm⟩ := h.indexed b' d hget
      have hdne : d ≠ dialer := by
        rintro rfl
        exact hne ((h.own b' d hget).symm.trans hown)
      have hmem : d ∈ old.erase dialer := Finset.mem_erase.mpr ⟨hdne, hm⟩
      exact ⟨aor, _, (hby aor _).mpr ⟨old, ha, rfl, Finset.ne_empty_of_mem hmem⟩, hmem⟩
  · intro aor dialers d ha hm
    obtain ⟨old, hold, rfl, -⟩ := (hby aor dialers).mp ha
    obtain ⟨hne, hm⟩ := Finset.mem_erase.mp hm
    have hget := h.dialing aor old d hold hm
    show (w.contactDialers.pop b).get _ = _
    rw [Effect.Dict.get_pop_of_ne, hget]
    intro heq
    rw [heq, hd] at hget
    exact hne (Option.some.inj hget).symm
  · intro b' d hpop
    have hget : (w.contactDialers.pop b).get b' = some d := hpop
    rw [Effect.Dict.get_pop] at hget
    split at hget
    · cases hget
    · exact h.own b' d hget
  · intro b' hpop
    have hget : ((w.contactDialers.pop b).get b').isSome := hpop
    rw [Effect.Dict.get_pop] at hget
    split at hget
    · cases hget
    · exact h.legs b' hget
  · exact h.calls
  · exact h.known

/-- A call is pruned when no dialer has its bridge any more. -/
theorem pruned (h : Registered w) (call : CallId) (hb : w.contactDialers.get b = none) :
    Registered ((Change.pruned b call).apply w) := by
  refine ⟨h.nonempty, h.indexed, h.dialing, h.own, fun b' hd => ?_, fun b' => ?_, fun b' hl => ?_⟩
  · show ((w.callerChannelLegByBridge.pop b).get b').isSome
    have hget : (w.contactDialers.get b').isSome := hd
    rw [Effect.Dict.get_pop_of_ne]
    · exact h.legs b' hget
    · intro heq
      rw [heq, hb] at hget
      cases hget
  · show ((w.callerChannelLegByBridge.pop b).get b').isSome ↔
      ((w.originCallIdByBridgeUuid.pop b).get b').isSome
    rw [Effect.Dict.get_pop, Effect.Dict.get_pop]
    split
    · exact Iff.rfl
    · exact h.calls b'
  · have hl : ((w.callerChannelLegByBridge.pop b).get b').isSome := hl
    rw [Effect.Dict.get_pop] at hl
    split at hl
    · cases hl
    · exact h.known b' hl

/-- A bridge that has no call has no caller either. -/
theorem forgotten (h : Registered w) (ho : w.originCallIdByBridgeUuid.get b = none) :
    Registered ((Change.forgotten b).apply w) := by
  have hleg : w.callerChannelLegByBridge.get b = none := by
    have hcalls := (h.calls b).not
    rw [ho] at hcalls
    simpa using hcalls
  have hsame : ∀ b', (w.callerChannelLegByBridge.pop b).get b' =
      w.callerChannelLegByBridge.get b' := by
    intro b'
    rw [Effect.Dict.get_pop]
    split
    · rename_i heq
      rw [heq, hleg]
    · rfl
  refine ⟨h.nonempty, h.indexed, h.dialing, h.own, fun b' hd => ?_, fun b' => ?_, fun b' hl => ?_⟩
  · show ((w.callerChannelLegByBridge.pop b).get b').isSome
    rw [hsame b']
    exact h.legs b' hd
  · show ((w.callerChannelLegByBridge.pop b).get b').isSome ↔ _
    rw [hsame b']
    exact h.calls b'
  · have hl : ((w.callerChannelLegByBridge.pop b).get b').isSome := hl
    rw [hsame b'] at hl
    exact h.known b' hl

/-- The registries are as they were, and uuids are not forgotten. -/
theorem congr {w' : World} (h : Registered w) (hr : w'.registries = w.registries)
    (hu : w.uuids ⊆ w'.uuids) : Registered w' := by
  injection hr with hd ha hl hc
  refine ⟨?_, ?_, ?_, ?_, ?_, ?_, ?_⟩
  · rw [ha]
    exact h.nonempty
  · rw [ha, hd]
    exact h.indexed
  · rw [ha, hd]
    exact h.dialing
  · rw [hd]
    exact h.own
  · rw [hd, hl]
    exact h.legs
  · rw [hl, hc]
    exact h.calls
  · rw [hl]
    exact fun b hb => hu (h.known b hb)

end Registered

/-! ## What the sections keep -/

/-- No uuid is forgotten, and no dialer gets an old one. -/
structure Later (w w' : World) : Prop where
  uuids : w.uuids ⊆ w'.uuids
  removed : ∀ b ∈ w.uuids, w.contactDialers.get b = none → w'.contactDialers.get b = none

theorem Task.Settled.later {t : Task} {w w' : World} (h : t.Settled w) (hl : Later w w') :
    t.Settled w' := by
  intro b hb
  obtain ⟨hnone, hu⟩ := h b hb
  exact ⟨hl.removed b hu hnone, hl.uuids hu⟩

theorem Later.of_registries {w w' : World} (hr : w'.registries = w.registries)
    (hu : w.uuids ⊆ w'.uuids) : Later w w' := by
  refine ⟨hu, fun b _ hb => ?_⟩
  rw [show w'.contactDialers = w.contactDialers from congrArg Registries.contactDialers hr]
  exact hb

/-- The changes of the registries. -/
def Change.Registers : Change → Prop
  | registered .. | removed .. | pruned .. | forgotten _ => True
  | _ => False

theorem Change.registries_apply {k : Change} (h : ¬ k.Registers) (w : World) :
    (k.apply w).registries = w.registries := by
  cases k <;> first | rfl | exact absurd trivial h

theorem Change.uuids_apply (k : Change) (w : World) : w.uuids ⊆ (k.apply w).uuids := by
  cases k <;> first | exact Finset.Subset.refl _ | exact Finset.subset_insert ..

/-- The tasks that change the registries. -/
def Task.Registers : Task → Prop
  | .dialAllContacts .. | .joinPop .. | .joinPrune _ | .goneRemove _ | .gonePrune .. => True
  | _ => False

theorem Task.not_registers {t : Task} {k : Change} (h : ¬ t.Registers) (hk : t.May k) :
    ¬ k.Registers := by
  intro hr
  cases k <;> first | exact hr | skip
  all_goals cases t <;> first | exact hk | exact h trivial

theorem Task.uuids_code (t : Task) (env : Env) (w : World) : w.uuids ⊆ (t.code env w).2.uuids :=
  Changes.invariant (I := fun w' => w.uuids ⊆ w'.uuids)
    (fun w' k _ hw' => hw'.trans (k.uuids_apply w')) (t.madeOf_may env w).1 (Finset.Subset.refl _)

theorem Task.registries_code {t : Task} (h : ¬ t.Registers) (env : Env) (w : World) :
    (t.code env w).2.registries = w.registries :=
  Changes.untouched (fun w' _ hk => Change.registries_apply (t.not_registers h hk) w')
    (t.madeOf_may env w).1

/-- A task that will prune comes from one, or from one that has removed the dialer. -/
theorem Task.Leads.removed {t u : Task} {b : BridgeUuid} (h : t.Leads u) (hu : u.Removed b) :
    t.Removed b ∨ (∃ c call, t = .joinPop c b call) ∨ ∃ bs, t = .goneRemove (b :: bs) := by
  cases h <;> first
    | exact .inl hu
    | exact hu.elim
    | exact .inr (.inl ⟨_, _, by rw [show _ = b from hu]⟩)
    | exact .inr (.inr ⟨_, by rw [show _ = b from hu]⟩)

section Sections

variable {env : Env} {w : World} {b : BridgeUuid}

/-- The registries after a prune. -/
theorem prune_keeps (hW : Registered w) (hb : w.contactDialers.get b = none) :
    Registered (pruneCallState b env w).2 ∧ Later w (pruneCallState b env w).2 := by
  cases ho : w.originCallIdByBridgeUuid.get b with
  | some call =>
    rw [pruneCallState_some ho]
    exact ⟨(hW.pruned call hb).congr rfl (Finset.Subset.refl _),
      Finset.Subset.refl _, fun _ _ h => h⟩
  | none =>
    rw [pruneCallState_none ho]
    exact ⟨hW.forgotten ho, Finset.Subset.refl _, fun _ _ h => h⟩

/-- The registries after a dialer has been removed. -/
theorem removed_later (dialer : Dialer) : Later w ((Change.removed b dialer).apply w) := by
  refine ⟨Finset.Subset.refl _, fun b' _ hb' => ?_⟩
  show (w.contactDialers.pop b).get b' = none
  rw [Effect.Dict.get_pop]
  split
  · rfl
  · exact hb'

theorem removed_none (dialer : Dialer) :
    ((Change.removed b dialer).apply w).contactDialers.get b = none :=
  Effect.Dict.get_pop_self ..

theorem stop_registries : (stop b env w).2.registries = w.registries :=
  Changes.untouched (fun w' k hk => Change.registries_apply (by
    intro hr
    cases k <;> first | exact hr | exact hk) w') (madeOf_stop (K := Change.Stops) b (fun _ h => h) w).1

theorem stop_uuids (w : World) (b : BridgeUuid) (env : Env) : w.uuids ⊆ (stop b env w).2.uuids :=
  Changes.invariant (I := fun w' => w.uuids ⊆ w'.uuids)
    (fun w' k _ hw' => hw'.trans (k.uuids_apply w'))
    (madeOf_stop (K := fun _ => True) b (fun _ _ => trivial) w).1 (Finset.Subset.refl _)

/-- A dialer that is removed has a known bridge. -/
theorem Registered.known_dialer (hW : Registered w) {dialer : Dialer}
    (hd : w.contactDialers.get b = some dialer) : b ∈ w.uuids :=
  hW.known b (hW.legs b (by rw [hd]; rfl))

/-- What a section keeps. -/
theorem section_keeps (t : Task) (hW : Registered w) (hB : t.Settled w) (hp : env.Possible w) :
    Registered (t.code env w).2 ∧ Later w (t.code env w).2 := by
  by_cases hr : t.Registers
  case neg =>
    have hreg := t.registries_code hr env w
    have hu := t.uuids_code env w
    exact ⟨hW.congr hreg hu, .of_registries hreg hu⟩
  case pos =>
    cases t with
    | dialAllContacts caller origin aor =>
      rcases dialAllContacts_cases env (w := w) caller origin aor with
        ⟨r, h, -⟩ | ⟨dialer, hb, -, h⟩
      · show Registered (dialAllContacts caller origin aor env w).2 ∧
          Later w (dialAllContacts caller origin aor env w).2
        rw [h]
        exact ⟨hW, .of_registries rfl (Finset.Subset.refl _)⟩
      · show Registered (dialAllContacts caller origin aor env w).2 ∧
          Later w (dialAllContacts caller origin aor env w).2
        rw [h]
        have hnew : dialer.futureBridgeUuid ∉ w.uuids := hb ▸ hp.1
        refine ⟨(hW.registered origin hnew).congr rfl (Finset.Subset.refl _),
          Finset.subset_insert .., fun b hbu hnone => ?_⟩
        show (w.contactDialers.set _ _).get b = none
        rw [Effect.Dict.get_set_of_ne, hnone]
        rintro rfl
        exact hnew hbu
    | joinPop c b call =>
      show Registered (joinPop c b call env w).2 ∧ Later w (joinPop c b call env w).2
      cases hd : w.contactDialers.get b with
      | none =>
        rw [(joinPop_none env c call hd).1]
        exact ⟨hW.congr rfl (Finset.Subset.refl _), .of_registries rfl (Finset.Subset.refl _)⟩
      | some dialer =>
        rw [joinPop_some c call hd]
        refine ⟨(hW.removed hd).congr stop_registries (stop_uuids _ _ _),
          stop_uuids ((Change.removed b dialer).apply w) b env,
          fun b' hb' hnone => ?_⟩
        exact (Later.of_registries stop_registries (stop_uuids _ _ _)).removed b' hb'
          ((removed_later dialer).removed b' hb' hnone)
    | joinPrune b =>
      show Registered (joinPrune b env w).2 ∧ Later w (joinPrune b env w).2
      rw [show (joinPrune b env w).2 = (pruneCallState b env w).2 from after_pure_world _ _]
      exact prune_keeps hW (hB b rfl).1
    | goneRemove bs =>
      cases bs with
      | nil => exact ⟨hW, .of_registries rfl (Finset.Subset.refl _)⟩
      | cons b bs =>
        show Registered (goneRemove (b :: bs) env w).2 ∧ Later w (goneRemove (b :: bs) env w).2
        cases hd : w.contactDialers.get b with
        | none =>
          rw [goneRemove_none bs hd]
          exact ⟨hW, .of_registries rfl (Finset.Subset.refl _)⟩
        | some dialer =>
          rw [goneRemove_some bs hd]
          exact ⟨hW.removed hd, removed_later dialer⟩
    | gonePrune b bs =>
      show Registered (gonePrune b bs env w).2 ∧ Later w (gonePrune b bs env w).2
      rw [show (gonePrune b bs env w).2 = (pruneCallState b env w).2 from after_pure_world _ _]
      exact prune_keeps hW (hB b rfl).1
    | _ => exact hr.elim

/-- A task that will prune is handed a bridge without a dialer. -/
theorem section_settles (t : Task) (hW : Registered w) (hB : t.Settled w) (hp : env.Possible w) :
    ∀ u ∈ following (t.code env w).1, u.Settled (t.code env w).2 := by
  intro u hmem b hb
  have hlater := (section_keeps t hW hB hp).2
  rcases (Task.leads_of_mem hmem).removed hb with h | ⟨c, call, rfl⟩ | ⟨bs, rfl⟩
  · exact hB.later hlater b h
  · have hmem : u ∈ following (joinPop c b call env w).1 := hmem
    show (joinPop c b call env w).2.contactDialers.get b = none ∧ _
    cases hd : w.contactDialers.get b with
    | none =>
      rw [(joinPop_none env c call hd).2] at hmem
      simp at hmem
    | some dialer =>
      have hu := hlater.uuids (hW.known_dialer hd)
      refine ⟨?_, hu⟩
      rw [joinPop_some c call hd]
      rw [show (stop b env _).2.contactDialers = _ from
        congrArg Registries.contactDialers stop_registries]
      exact removed_none dialer
  · have hmem : u ∈ following (goneRemove (b :: bs) env w).1 := hmem
    show (goneRemove (b :: bs) env w).2.contactDialers.get b = none ∧ _
    cases hd : w.contactDialers.get b with
    | none =>
      rw [goneRemove_none bs hd] at hmem
      simp at hmem
    | some dialer =>
      have hu := hlater.uuids (hW.known_dialer hd)
      refine ⟨?_, hu⟩
      rw [goneRemove_some bs hd]
      exact removed_none dialer

end Sections

/-! ## The result -/

/-- In every reachable state the registries are known, and so are the tasks that prune. -/
theorem reachable_registered {s : Sys} (h : machine.Reachable s) :
    Holds Registered (fun t w => t.Settled w) s := by
  refine Machine.Reaches.invariant ?_ (fun s a s' hI _ hs => hI.step ?_ ?_ ?_ hs) h
  · rintro s rfl
    exact ⟨Registered.initial, by simp⟩
  · intro w t _ ht b hb
    cases t <;> first | exact ht.elim | exact hb.elim
  · intro w timer call hW _
    exact ⟨hW.congr rfl (Finset.Subset.refl _), fun t ht => ht, fun b hb => hb.elim⟩
  · intro w t env hW hB hp
    obtain ⟨hW', hl⟩ := section_keeps t hW hB hp
    exact ⟨hW', fun u hu => hu.later hl, section_settles t hW hB hp⟩

/-- **The registries of the dialers stay coherent**, after every section of every run. -/
theorem registries_coherent {s : Sys} (h : machine.Reachable s) :
    s.world.registries.Coherent :=
  (reachable_registered h).1.coherent

/-- A call is dialed, then the caller hangs up. -/
def dialedThenGone : List Label :=
  called (.dialAllContacts callerId callerId "aor") (.calm "b-1" mobileId) ++
    called (.channelDestroyed callerId) (.calm "b-2" mobileId) ++
    [.run (.goneScan callerId []) (.calm "b-2" mobileId),
      .run (.goneDialers callerId) (.calm "b-2" mobileId)]

theorem registries_coherent_dialed :
    (served dialedThenGone).world.contactDialers.keys = ["b-1"] ∧
      (served dialedThenGone).tasks = [.goneRemove ["b-1"]] ∧
      (served dialedThenGone).world.registries.Coherent :=
  ⟨by decide, by decide, registries_coherent (served_reachable _)⟩

end Calld.DialMobile
