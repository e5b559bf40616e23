/-
# The answers that there is no such parking

An id is invalid for ten seconds from the last time that a lookup of it has failed or has
found it invalid.  The clock only goes forward, so what a lookup finds after it has evicted
what was expired is not older than this.
-/
import Calld.Parkings.Lookups

namespace Calld.Parkings

open Effect Effect.Interactive

section Negative

variable {w w' : CacheWorld} {x : ConfdAnswer} {k : LookupPhase} {r : CacheRequest}
  {ph : ℕ → Option LookupPhase} {id : ℤ} {e : TTLEntry} {said : List Said}

/-- At a time a lookup of the id has failed, or has found it invalid. -/
def Negative (said : List Said) (id : ℤ) (time : ℕ) : Prop :=
  .failed id time ∈ said ∨ ∃ began, .hit id began time ∈ said

/-- A lookup fails only after confd has not found the lot; and one that finds its id invalid
began less than ten seconds after another had failed or found it so. -/
def Justified (past : List Said) : Said → Prop
  | .answered .. => True
  | .failed id time =>
    ∃ answer t, .answered id answer t ∈ past ∧ (answer.reply id).isOk = false ∧ t ≤ time
  | .hit id began time => ∃ t, Negative past id t ∧ began < t + toNsec 10 ∧ t ≤ time

/-- Where a lookup still may find an entry that had expired when it began. -/
def Stage.Pending (id : ℤ) : Stage → Prop
  | .evicting rest | .expired rest => id ∈ rest
  | .invalid | .valid => False
  | _ => True

@[simp] theorem pending_evicting {rest : List ℤ} :
    (Stage.evicting rest).Pending id ↔ id ∈ rest := Iff.rfl

@[simp] theorem pending_expired {rest : List ℤ} :
    (Stage.expired rest).Pending id ↔ id ∈ rest := Iff.rfl

/-- What is known of a lookup from what has been said. -/
def LookupPhase.Known (k : LookupPhase) (said : List Said) : Prop :=
  match k.stage with
  | .failed e | .recorded e => ∃ answer t, .answered k.parkingId answer t ∈ said ∧
      answer.reply k.parkingId = .error e ∧ k.began ≤ t
  | .refused => ∃ t, .hit k.parkingId k.began t ∈ said
  | .raised e => e = .keyError
  | _ => True

/-- The entries, the clock and the lookups agree with what has been said. -/
structure Dated (w : CacheWorld) (ph : ℕ → Option LookupPhase) : Prop where
  entries : ∀ id e, w.invalidIds.get id = some e →
    ∃ t, Negative w.said id t ∧ e.expiration = t + toNsec 10 ∧ t ≤ w.now
  past : ∀ said ∈ w.said, ∀ id answer t, said = .answered id answer t → t ≤ w.now
  justified : Always Justified w.said
  began : ∀ i k, ph i = some k → k.began ≤ w.now
  evicted : ∀ i k, ph i = some k → ∀ id e, w.invalidIds.get id = some e →
    e.expiration ≤ k.began → k.stage.Pending id
  known : ∀ i k, ph i = some k → k.Known w.said

theorem Negative.mono {said' : List Said} {time : ℕ} (h : Negative said id time)
    (hsub : said ⊆ said') : Negative said' id time := by
  rcases h with h | ⟨began, h⟩
  · exact .inl (hsub h)
  · exact .inr ⟨began, hsub h⟩

theorem LookupPhase.Known.mono {said' : List Said} (h : k.Known said) (hsub : said ⊆ said') :
    k.Known said' := by
  unfold LookupPhase.Known at h ⊢
  split at h
  · obtain ⟨answer, t, hmem, ha, ht⟩ := h
    exact ⟨answer, t, hsub hmem, ha, ht⟩
  · obtain ⟨answer, t, hmem, ha, ht⟩ := h
    exact ⟨answer, t, hsub hmem, ha, ht⟩
  · obtain ⟨t, hmem⟩ := h
    exact ⟨t, hsub hmem⟩
  · exact h
  · trivial

/-! ## What a step does -/

theorem now_after : (w.after x k r).now = w.now := by
  unfold CacheWorld.after
  split <;> try rfl
  split <;> rfl

/-- Nothing that has been said is taken back. -/
theorem said_after : w.said ⊆ (w.after x k r).said := by
  unfold CacheWorld.after
  split
  · exact fun _ => id
  · split
    · exact fun _ h => List.mem_append_left _ h
    · exact fun _ => id
  · exact fun _ h => List.mem_append_left _ h
  · exact fun _ => id
  · exact fun _ h => List.mem_append_left _ h
  · exact fun _ => id

/-- An entry after a step was there before, or it has ten seconds from now. -/
theorem entry_after (h : (w.after x k r).invalidIds.get id = some e) :
    w.invalidIds.get id = some e ∨ e.expiration = w.now + toNsec 10 ∧
      Negative (w.after x k r).said id w.now := by
  cases r with
  | evict index =>
    simp only [CacheWorld.after, Dict.get_pop] at h
    split at h
    · cases h
    · exact .inl h
  | refresh parkingId =>
    simp only [CacheWorld.after] at h ⊢
    cases hentry : w.invalidIds.get parkingId with
    | none =>
      rw [hentry] at h
      exact .inl h
    | some entry =>
      simp only [hentry, Dict.get_set] at h ⊢
      split at h
      · next heq =>
        cases h
        subst heq
        exact .inr ⟨rfl, .inr ⟨k.began, by simp⟩⟩
      · exact .inl h
  | addInvalid parkingId =>
    simp only [CacheWorld.after, Dict.get_set] at h ⊢
    split at h
    · next heq =>
      cases h
      subst heq
      exact .inr ⟨rfl, .inl (by simp)⟩
    · exact .inl h
  | _ => exact .inl h

/-- The lookup of a step after it: its clock is the one it has read. -/
theorem began_next (hbegan : k.began ≤ w.now) (reply : Except Exn r.Reply) :
    (k.next w r reply).began ≤ w.now := by
  unfold LookupPhase.next
  dsimp only
  split
  · exact le_rfl
  · exact hbegan

/-- What a step says is justified. -/
theorem justified_after (hd : Dated w ph) {i : ℕ} (hk : ph i = some k) (ht : k.takes r) :
    Always Justified (w.after x k r).said := by
  cases r with
  | refresh parkingId =>
    obtain ⟨hstage, rfl⟩ := ht
    simp only [CacheWorld.after]
    cases hentry : w.invalidIds.get k.parkingId with
    | none => exact hd.justified
    | some entry =>
      obtain ⟨t, hneg, hexp, hle⟩ := hd.entries _ _ hentry
      refine hd.justified.snoc ⟨t, hneg, ?_, hle⟩
      -- what had expired when the lookup began has been evicted
      by_contra hlate
      have hpending := hd.evicted i k hk _ _ hentry (by rw [hexp]; exact not_lt.mp hlate)
      rw [hstage] at hpending
      exact hpending
  | get parkingId => exact hd.justified.snoc trivial
  | addInvalid parkingId =>
    obtain ⟨⟨e, hstage⟩, rfl⟩ := ht
    have hknown := hd.known i k hk
    unfold LookupPhase.Known at hknown
    rw [hstage] at hknown
    obtain ⟨answer, t, hmem, ha, -⟩ := hknown
    refine hd.justified.snoc ⟨answer, t, hmem, ?_, hd.past _ hmem _ _ _ rfl⟩
    rw [ha]
    rfl
  | _ => exact hd.justified

/-- A lookup that has started has read the clock. -/
theorem began_of_ne {reply : Except Exn r.Reply} (h : k.stage ≠ .started) :
    (k.next w r reply).began = k.began := if_neg h

/-- What a lookup may still find after a step of its own. -/
theorem pending_next (hd : Dated w ph) {i : ℕ} (hk : ph i = some k) (ht : k.takes r)
    (he : (w.after x k r).invalidIds.get id = some e)
    (hexp : e.expiration ≤ (k.next w r (w.reply x r)).began) :
    (k.next w r (w.reply x r)).stage.Pending id := by
  cases r with
  | monotonicNs => trivial
  | invalidIds => exact Dict.mem_keys_of_get he
  | expiration index =>
    obtain ⟨rest, hstage⟩ := ht
    rw [began_of_ne (by rw [hstage]; simp)] at hexp
    have hpending := hd.evicted i k hk id e he hexp
    rw [hstage, pending_evicting] at hpending
    cases hentry : w.invalidIds.get index with
    | none => simp [LookupPhase.next, LookupPhase.nextStage, CacheWorld.reply, hentry, entry,
        Except.map, Stage.Pending]
    | some found =>
      by_cases hdue : found.expiration ≤ k.began
      · simpa [LookupPhase.next, LookupPhase.nextStage, CacheWorld.reply, hentry, entry,
          Except.map, hstage, Stage.checked, hdue] using hpending
      · have hne : id ≠ index := by
          rintro rfl
          have hsame : e = found := Option.some.inj (Eq.trans (Eq.symm he) hentry)
          exact hdue (hsame ▸ hexp)
        have hrest : id ∈ rest := (List.mem_cons.mp hpending).resolve_left hne
        simpa [LookupPhase.next, LookupPhase.nextStage, CacheWorld.reply, hentry, entry,
          Except.map, hstage, Stage.checked, hdue] using hrest
  | evict index =>
    obtain ⟨rest, hstage⟩ := ht
    rw [began_of_ne (by rw [hstage]; simp)] at hexp
    simp only [CacheWorld.after, Dict.get_pop] at he
    split at he
    · cases he
    · next hne =>
      have hpending := hd.evicted i k hk id e he hexp
      rw [hstage] at hpending
      have hrest : id ∈ rest := (List.mem_cons.mp hpending).resolve_left hne
      cases hentry : w.invalidIds.get index with
      | none => simp [LookupPhase.next, LookupPhase.nextStage, CacheWorld.reply, hentry, entry,
          Except.map, Stage.Pending]
      | some found =>
        simpa [LookupPhase.next, LookupPhase.nextStage, CacheWorld.reply, hentry, entry,
          Except.map, hstage, Stage.done] using hrest
  | isInvalid parkingId =>
    obtain ⟨hstage, -⟩ := ht
    rw [began_of_ne (by rw [hstage]; simp)] at hexp
    -- nothing that had expired is left
    have hpending := hd.evicted i k hk id e he hexp
    rw [hstage] at hpending
    cases hpending
  | refresh parkingId =>
    cases hentry : w.invalidIds.get parkingId <;>
      simp [LookupPhase.next, LookupPhase.nextStage, CacheWorld.reply, hentry, entry,
        Except.map, ht.1, Stage.done, Stage.Pending]
  | isCached parkingId =>
    cases hlot : w.cache.get parkingId <;>
      simp [LookupPhase.next, LookupPhase.nextStage, CacheWorld.reply, hlot, Stage.Pending]
  | get parkingId => cases x <;> trivial
  | store parking =>
    obtain ⟨version, hstage⟩ := ht
    simp [LookupPhase.next, LookupPhase.nextStage, CacheWorld.reply, hstage, Stage.done,
      Stage.Pending]
  | addInvalid parkingId =>
    obtain ⟨⟨e, hstage⟩, -⟩ := ht
    simp [LookupPhase.next, LookupPhase.nextStage, CacheWorld.reply, hstage, Stage.done,
      Stage.Pending]
  | cached parkingId =>
    cases hlot : w.cache.get parkingId <;>
      simp [LookupPhase.next, LookupPhase.nextStage, CacheWorld.reply, hlot, entry, Stage.Pending]

/-- What is known of a lookup after a step of its own. -/
theorem known_next (hd : Dated w ph) {i : ℕ} (hk : ph i = some k) (ht : k.takes r) :
    (k.next w r (w.reply x r)).Known (w.after x k r).said := by
  cases r with
  | monotonicNs => trivial
  | invalidIds => trivial
  | expiration index =>
    obtain ⟨rest, hstage⟩ := ht
    cases hentry : w.invalidIds.get index with
    | none => simp [LookupPhase.next, LookupPhase.nextStage, CacheWorld.reply, hentry, entry,
        Except.map, LookupPhase.Known]
    | some found =>
      by_cases hdue : found.expiration ≤ k.began <;>
        simp [LookupPhase.next, LookupPhase.nextStage, CacheWorld.reply, hentry, entry,
          Except.map, hstage, Stage.checked, hdue, LookupPhase.Known]
  | evict index =>
    obtain ⟨rest, hstage⟩ := ht
    cases hentry : w.invalidIds.get index <;>
      simp [LookupPhase.next, LookupPhase.nextStage, CacheWorld.reply, hentry, entry,
        Except.map, hstage, Stage.done, LookupPhase.Known]
  | isInvalid parkingId =>
    cases hentry : w.invalidIds.get parkingId <;>
      simp [LookupPhase.next, LookupPhase.nextStage, CacheWorld.reply, hentry, LookupPhase.Known]
  | refresh parkingId =>
    obtain ⟨hstage, rfl⟩ := ht
    cases hentry : w.invalidIds.get k.parkingId <;>
      simp [LookupPhase.next, LookupPhase.nextStage, CacheWorld.reply, CacheWorld.after, hentry,
        entry, Except.map, hstage, Stage.done, LookupPhase.Known]
  | isCached parkingId =>
    cases hlot : w.cache.get parkingId <;>
      simp [LookupPhase.next, LookupPhase.nextStage, CacheWorld.reply, hlot, LookupPhase.Known]
  | get parkingId =>
    obtain ⟨hstage, rfl⟩ := ht
    have hbegan := hd.began i k hk
    cases x with
    | found lot => trivial
    | status code =>
      refine ⟨.status code, w.now, List.mem_append_right _ (by simp [LookupPhase.next]), rfl, ?_⟩
      exact (began_of_ne (by rw [hstage]; simp)).trans_le hbegan
    | unreachable =>
      refine ⟨.unreachable, w.now, List.mem_append_right _ (by simp [LookupPhase.next]), rfl, ?_⟩
      exact (began_of_ne (by rw [hstage]; simp)).trans_le hbegan
  | store parking =>
    obtain ⟨version, hstage⟩ := ht
    simp [LookupPhase.next, LookupPhase.nextStage, CacheWorld.reply, hstage, Stage.done,
      LookupPhase.Known]
  | addInvalid parkingId =>
    obtain ⟨⟨e, hstage⟩, rfl⟩ := ht
    have hknown := (hd.known i k hk).mono (said_after (x := x) (k := k)
      (r := .addInvalid k.parkingId))
    unfold LookupPhase.Known at hknown ⊢
    rw [hstage] at hknown
    simpa [LookupPhase.next, LookupPhase.nextStage, CacheWorld.reply, hstage, Stage.done]
      using hknown
  | cached parkingId =>
    cases hlot : w.cache.get parkingId <;>
      simp [LookupPhase.next, LookupPhase.nextStage, CacheWorld.reply, hlot, entry,
        LookupPhase.Known]

/-! ## Runs -/

/-- A step of one lookup. -/
theorem Dated.answer (hd : Dated w ph) {i : ℕ} (hk : ph i = some k) (ht : k.takes r) :
    Dated (w.after x k r) (Function.update ph i (some (k.next w r (w.reply x r)))) where
  entries id e h := by
    obtain hold | ⟨hexp, hneg⟩ := entry_after h
    · obtain ⟨t, hneg, hexp, hle⟩ := hd.entries id e hold
      exact ⟨t, hneg.mono said_after, hexp, now_after.symm ▸ hle⟩
    · exact ⟨w.now, hneg, hexp, now_after.symm ▸ le_rfl⟩
  past said hmem id answer t heq := by
    rw [now_after]
    subst heq
    cases r with
    | refresh parkingId =>
      simp only [CacheWorld.after] at hmem
      split at hmem
      · rcases List.mem_append.mp hmem with hmem | hmem
        · exact hd.past _ hmem _ _ _ rfl
        · simp at hmem
      · exact hd.past _ hmem _ _ _ rfl
    | get parkingId =>
      rcases List.mem_append.mp hmem with hmem | hmem
      · exact hd.past _ hmem _ _ _ rfl
      · simp only [List.mem_singleton, Said.answered.injEq] at hmem
        exact hmem.2.2.le
    | addInvalid parkingId =>
      rcases List.mem_append.mp hmem with hmem | hmem
      · exact hd.past _ hmem _ _ _ rfl
      · simp at hmem
    | _ => exact hd.past _ hmem _ _ _ rfl
  justified := justified_after hd hk ht
  began := by
    refine System.forall_update (fun j k hj => ?_) ?_
    · exact now_after.symm ▸ hd.began j k hj
    · exact now_after.symm ▸ began_next (hd.began i k hk) _
  evicted := by
    refine System.forall_update (fun j k' hj id e he hexp => ?_) fun id e => pending_next hd hk ht
    obtain hold | ⟨hnew, -⟩ := entry_after he
    · exact hd.evicted j k' hj id e hold hexp
    · -- ten seconds from now are later than when the other lookup began
      have hbegan := hd.began j k' hj
      have hpos : 0 < toNsec 10 := by decide
      omega
  known := System.forall_update (fun j k' hj => (hd.known j k' hj).mono said_after)
    (known_next hd hk ht)

/-- The clock goes on, or an id is invalidated. -/
theorem Dated.outside (hd : Dated w ph) {event : CacheEvent}
    (h : cacheSystem.outside event w = some w') : Dated w' ph := by
  cases event with
  | tick nanoseconds =>
    obtain rfl := Option.some.inj h
    refine ⟨fun id e he => ?_, fun said hmem id answer t heq => ?_, hd.justified,
      fun i k hk => ?_, hd.evicted, hd.known⟩
    · obtain ⟨t, hneg, hexp, hle⟩ := hd.entries id e he
      exact ⟨t, hneg, hexp, Nat.le_add_right_of_le hle⟩
    · exact Nat.le_add_right_of_le (hd.past said hmem id answer t heq)
    · exact Nat.le_add_right_of_le (hd.began i k hk)
  | invalidate key =>
    obtain rfl := Option.some.inj h
    have hold (id : ℤ) (e : TTLEntry) (he : (w.invalidate key).invalidIds.get id = some e) :
        w.invalidIds.get id = some e := by
      simp only [CacheWorld.invalidate, Dict.get_pop] at he
      split at he
      · cases he
      · exact he
    exact ⟨fun id e he => hd.entries id e (hold id e he), hd.past, hd.justified, hd.began,
      fun i k hk id e he => hd.evicted i k hk id e (hold id e he), hd.known⟩

variable {s : CachePool}

/-- Every lookup of the system goes through its stages. -/
theorem lookup_launch_keeps (parkingId : ℤ) (w w' : CacheWorld) (k : LookupPhase)
    (p : Lookup ConfdParkingLot) (h : cacheSystem.launch parkingId w = some (w', k, p)) :
    cacheSystem.Keeps LookupPhase.Returns LookupPhase.Raises k p := by
  simp only [cacheSystem, Option.some.injEq, Prod.mk.injEq] at h
  obtain ⟨-, rfl, rfl⟩ := h
  exact getitem_keeps

theorem dated_of_reachable (h : cacheSystem.machine.Reachable s) : Dated s.world s.phases := by
  refine System.invariant_phases lookup_launch_keeps ?_ ?_ ?_ ?_ (System.reaches_of_reachable h)
  · rintro w ⟨-, hinvalid, hsaid⟩
    refine ⟨fun id e he => ?_, fun said hmem => ?_, ?_, fun _ _ hk => ?_, fun _ _ hk => ?_,
      fun _ _ hk => ?_⟩
    · rw [hinvalid] at he
      cases he
    · rw [hsaid] at hmem
      cases hmem
    · rw [hsaid]
      exact Always.nil
    all_goals cases hk
  · intro w ph i parkingId w' k p hd _ hl
    simp only [cacheSystem, Option.some.injEq, Prod.mk.injEq] at hl
    obtain ⟨rfl, rfl, -⟩ := hl
    exact ⟨hd.entries, hd.past, hd.justified, System.forall_update hd.began le_rfl,
      System.forall_update hd.evicted fun _ _ _ _ => trivial,
      System.forall_update hd.known trivial⟩
  · intro w ph i x k r y hd hk ht _ ha
    obtain rfl := Option.some.inj ha
    exact hd.answer hk ht
  · intro w ph event w' hd he
    exact hd.outside he

/-- **A lookup raises `NoSuchParking` only when confd has answered 404 to it, or when it has
found its id invalid; and it finds it so only less than ten seconds after another lookup of
the id had failed or found it so, the first of them after confd had not found the lot.** -/
theorem no_such_parking_said (h : cacheSystem.machine.Reachable s) :
    Always Justified s.world.said ∧
      ∀ i k id, s.tasks i = some (k, .error (.noSuchParking id)) →
        id = k.parkingId ∧
          ((∃ t, .answered id (.status 404) t ∈ s.world.said ∧ k.began ≤ t) ∨
            ∃ t, .hit id k.began t ∈ s.world.said) := by
  have hd := dated_of_reachable h
  refine ⟨hd.justified, fun i k id ht => ?_⟩
  have hraises : k.Raises (.noSuchParking id) :=
    System.keeps_of_reaches lookup_launch_keeps h i k _ ht
  have hknown := hd.known i k (by simp [Pool.phases, ht])
  unfold LookupPhase.Known at hknown
  obtain ⟨hstage, he⟩ | ⟨e, hstage, he⟩ | hstage := hraises
  · rw [hstage] at hknown
    obtain rfl := Exn.noSuchParking.inj he
    exact ⟨rfl, .inr hknown⟩
  · rw [hstage] at hknown
    obtain ⟨answer, t, hmem, hreply, hbegan⟩ := hknown
    cases answer with
    | found lot => cases hreply
    | status code =>
      obtain rfl := Except.error.inj hreply
      unfold fetchError at he
      dsimp only at he
      split at he
      · next hcode =>
        obtain rfl := Exn.noSuchParking.inj he
        subst hcode
        exact ⟨rfl, .inl ⟨t, hmem, hbegan⟩⟩
      · cases he
    | unreachable =>
      obtain rfl := Except.error.inj hreply
      cases he
  · rw [hstage] at hknown
    cases hknown

end Negative

/-! ## A parking lot that is asked for every nine seconds -/

/-- The cache before anything has happened. -/
def emptyCache : CachePool :=
  ⟨⟨∅, ∅, 0, fun _ => 0, fun _ => 0, []⟩, fun _ => none⟩

theorem emptyCache_init : cacheSystem.machine.init emptyCache :=
  ⟨⟨rfl, rfl, rfl⟩, fun _ => rfl⟩

/-- The state after a list of steps. -/
def cacheAfter (steps : List CacheLabel) : CachePool :=
  (cacheSystem.machine.run steps emptyCache).getD emptyCache

theorem cacheAfter_reaches {C : CachePool → CacheLabel → Prop} {steps : List CacheLabel}
    (h : cacheSystem.machine.Meets C steps emptyCache) :
    cacheSystem.machine.Reaches C (cacheAfter steps) := by
  unfold cacheAfter
  cases hrun : cacheSystem.machine.run steps emptyCache with
  | none => exact .init emptyCache_init
  | some s => exact Machine.Reaches.run (.init emptyCache_init) h hrun

/-- A lookup of the lot 1 begins, and so many of its steps are answered. -/
def looking (i : ℕ) (x : ConfdAnswer) (steps : ℕ) : List CacheLabel :=
  .start i 1 :: List.replicate steps (.answer i x)

/-- Confd answers 404 to the first lookup; the others come nine seconds after each other. -/
def polling : List CacheLabel :=
  looking 0 (.status 404) 6 ++ [.outside (.tick (toNsec 9))] ++ looking 1 .unreachable 5 ++
    [.outside (.tick (toNsec 9))] ++ looking 2 .unreachable 5

/-- The second lookup finds what the first has left. -/
theorem no_such_parking_polled :
    (cacheAfter polling).tasks 1 = some (⟨1, 0, toNsec 9, .refused⟩, .error (.noSuchParking 1)) ∧
      Always Justified (cacheAfter polling).world.said ∧
      ((∃ t, .answered 1 (.status 404) t ∈ (cacheAfter polling).world.said ∧ toNsec 9 ≤ t) ∨
        ∃ t, .hit 1 (toNsec 9) t ∈ (cacheAfter polling).world.said) :=
  have hreach : cacheSystem.machine.Reachable (cacheAfter polling) :=
    cacheAfter_reaches (Machine.meets_true _ _)
  ⟨rfl, (no_such_parking_said hreach).1, ((no_such_parking_said hreach).2 1 _ 1 rfl).2⟩

/-- Confd has answered 404 for every id that a lookup does not find, not more than ten seconds
before this lookup began. -/
def NotFoundRecently (s : CachePool) : Prop :=
  ∀ i k id, s.tasks i = some (k, .error (.noSuchParking id)) →
    ∃ t, .answered id (.status 404) t ∈ s.world.said ∧ k.began ≤ t + toNsec 10

/-- Eighteen seconds after the only answer of confd, the third lookup is still refused. -/
theorem polling_prolongs : ¬ ∀ s, cacheSystem.machine.Reachable s → NotFoundRecently s := by
  intro hall
  obtain ⟨t, hmem, ht⟩ := hall _ (cacheAfter_reaches (Machine.meets_true polling _)) 2
    ⟨1, 0, toNsec 18, .refused⟩ 1 rfl
  have hsaid : (cacheAfter polling).world.said =
      [.answered 1 (.status 404) 0, .failed 1 0, .hit 1 (toNsec 9) (toNsec 9),
        .hit 1 (toNsec 18) (toNsec 18)] := by
    rfl
  rw [hsaid] at hmem
  have hzero : t = 0 := by simpa using hmem
  subst hzero
  exact absurd ht (by decide)

end Calld.Parkings
