/-
# The lookups of a parking lot, step by step

What a lookup asks follows its stages, so what it returns or raises is known from the stage
that it has ended in.
-/
import Calld.Parkings.Cache

namespace Calld.Parkings

open Effect Effect.Interactive

section Stages

variable {k : LookupPhase} {parkingId : ℤ} {since began : ℕ}

/-- A step of a lookup, by its answer. -/
theorem send_keeps {r : CacheRequest} {Q : LookupPhase → r.Reply → Prop}
    {E : LookupPhase → Exn → Prop} (ht : k.takes r)
    (hok : ∀ x w a, w.reply x r = .ok a → Q (k.next w r (.ok a)) a)
    (herror : ∀ x w e, w.reply x r = .error e → E (k.next w r (.error e)) e) :
    cacheSystem.Keeps Q E k (send r) := by
  refine Service.Keeps.request ht fun x i w y hy => ?_
  obtain rfl := Option.some.inj hy
  cases h : w.reply x r with
  | error e => exact herror x w e h
  | ok a => exact hok x w a h

/-- A lookup that returns has the lot in hand. -/
def LookupPhase.Returns (k : LookupPhase) (lot : ConfdParkingLot) : Prop :=
  ∃ version, k.stage = .returned lot version

/-- What a lookup raises: it has found its id invalid, or recorded that it is, or a step of it
has raised. -/
def LookupPhase.Raises (k : LookupPhase) (e : Exn) : Prop :=
  (k.stage = .refused ∧ e = .noSuchParking k.parkingId) ∨
    (∃ e', k.stage = .recorded e' ∧ e = fetchError k.parkingId e') ∨ k.stage = .raised e

/-- The loop over what is invalid. -/
theorem evicting_keeps (keys : List ℤ) :
    cacheSystem.Keeps (fun k _ => k = ⟨parkingId, since, began, .evicting []⟩)
      LookupPhase.Raises ⟨parkingId, since, began, .evicting keys⟩
      (List.forM keys fun index => do
        let expiration ← send (.expiration index)
        if expiration ≤ began then
          send (.evict index)) := by
  induction keys with
  | nil => exact rfl
  | cons index keys ih =>
    change cacheSystem.Keeps _ _ _ ((send (.expiration index) >>= fun expiration =>
      if (expiration : ℕ) ≤ began then send (.evict index) else pure ()) >>= fun _ =>
        List.forM keys _)
    have hevicting : (⟨parkingId, since, began, .evicting (index :: keys)⟩ : LookupPhase).takes
      (.expiration index) := ⟨keys, rfl⟩
    refine Service.Keeps.bind (Service.Keeps.bind (send_keeps hevicting ?_ ?_))
    swap
    · exact fun _ _ _ _ => .inr (.inr rfl)
    intro x w expiration _
    by_cases hdue : expiration ≤ began
    · have hexpired : (LookupPhase.next ⟨parkingId, since, began, .evicting (index :: keys)⟩ w
          (.expiration index) (.ok expiration)) =
          ⟨parkingId, since, began, .expired (index :: keys)⟩ := by
        simp [LookupPhase.next, LookupPhase.nextStage, Stage.checked, hdue]
      rw [if_pos hdue, hexpired]
      exact send_keeps ⟨keys, rfl⟩ (fun _ _ _ _ => ih) fun _ _ _ _ => .inr (.inr rfl)
    · have hkept : (LookupPhase.next ⟨parkingId, since, began, .evicting (index :: keys)⟩ w
          (.expiration index) (.ok expiration)) =
          ⟨parkingId, since, began, .evicting keys⟩ := by
        simp [LookupPhase.next, LookupPhase.nextStage, Stage.checked, hdue]
      rw [if_neg hdue, hkept]
      exact ih

/-- `evict_expired` ends with nothing left to look at. -/
theorem evictExpired_keeps :
    cacheSystem.Keeps (fun k _ => ∃ began, k = ⟨parkingId, since, began, .evicting []⟩)
      LookupPhase.Raises ⟨parkingId, since, began, .started⟩ evictExpired := by
  unfold evictExpired
  refine Service.Keeps.bind (send_keeps rfl ?_ fun _ _ _ _ => .inr (.inr rfl))
  intro x w now hnow
  obtain rfl : w.now = now := Except.ok.inj hnow
  refine Service.Keeps.bind (send_keeps rfl ?_ fun _ _ _ _ => .inr (.inr rfl))
  intro x' w' keys _
  exact (evicting_keeps keys).mono (fun k _ hk => ⟨w.now, hk⟩) fun _ _ => id

/-- `_fetch_parking_lot`, with what is recorded when it raises. -/
theorem fetching_keeps :
    cacheSystem.Keeps LookupPhase.Returns LookupPhase.Raises
      ⟨parkingId, since, began, .missing⟩
      (tryCatch (fetchParkingLot parkingId) fun e => do
        send (.addInvalid parkingId)
        throw e) := by
  refine Service.Keeps.tryCatch ?_
  unfold fetchParkingLot
  refine Service.Keeps.bind (Service.Keeps.tryCatch (send_keeps ⟨rfl, rfl⟩ ?_ ?_))
  · intro x w lot _
    refine Service.Keeps.bind (send_keeps ⟨_, rfl⟩ (fun _ _ _ _ => ⟨_, rfl⟩) ?_)
    intro x w e he
    cases he
  · intro x w e _
    refine Service.Keeps.bind (send_keeps ⟨⟨e, rfl⟩, rfl⟩ (fun _ _ _ _ => ?_) ?_)
    · exact .inr (.inl ⟨e, rfl, rfl⟩)
    · exact fun _ _ _ _ => .inr (.inr rfl)

/-- A lookup goes through its stages. -/
theorem getitem_keeps :
    cacheSystem.Keeps LookupPhase.Returns LookupPhase.Raises
      ⟨parkingId, since, began, .started⟩ (getitem parkingId) := by
  unfold getitem
  refine evictExpired_keeps.after ?_ fun _ _ => id
  rintro k - ⟨began, rfl⟩
  refine Service.Keeps.bind (send_keeps ⟨rfl, rfl⟩ ?_ fun _ _ _ _ => .inr (.inr rfl))
  intro x w invalid _
  cases invalid with
  | true =>
    refine Service.Keeps.bind (send_keeps ⟨rfl, rfl⟩ (fun _ _ _ _ => ?_) ?_)
    · exact .inl ⟨rfl, rfl⟩
    · exact fun _ _ _ _ => .inr (.inr rfl)
  | false =>
    refine Service.Keeps.bind (send_keeps ⟨rfl, rfl⟩ ?_ fun _ _ _ _ => .inr (.inr rfl))
    intro x w present _
    cases present with
    | true => exact send_keeps ⟨rfl, rfl⟩ (fun _ _ _ _ => ⟨_, rfl⟩) fun _ _ _ _ => .inr (.inr rfl)
    | false => exact fetching_keeps

end Stages

end Calld.Parkings
