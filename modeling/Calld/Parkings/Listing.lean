/-
# The parking lots of a tenant

The listing goes over every lot that Asterisk knows, looks each of them up, and only then
looks at its tenant: a lookup that raises ends it, whoever has the lot.

Everything is looked up at one time here, so a lookup leaves the outcome of the others as it
is, and the listing is what the outcomes make of it.
-/
import Calld.Parkings.Services

namespace Calld.Parkings

open Effect Effect.Interactive

/-! ## One lookup alone -/

/-- The answer to a step of a lookup that nothing comes between. -/
def CacheWorld.answer (confd : ℤ → ConfdAnswer) (st : CacheWorld × LookupPhase)
    (r : CacheRequest) : Except Exn r.Reply × (CacheWorld × LookupPhase) :=
  let reply := st.1.reply (confd st.2.parkingId) r
  (reply, st.1.after (confd st.2.parkingId) st.2 r, st.2.next st.1 r reply)

/-- A lookup in the cache, with what it leaves. -/
def CacheWorld.lookup (confd : ℤ → ConfdAnswer) (w : CacheWorld) (parkingId : ℤ) :
    Except Exn ConfdParkingLot × CacheWorld :=
  let started : LookupPhase := ⟨parkingId, w.invalidations parkingId, w.now, .started⟩
  let (result, w', _) := exec (CacheWorld.answer confd) (getitem parkingId) (w, started)
  (result, w')

/-- The id is invalid, and is not expired. -/
def CacheWorld.Refuses (w : CacheWorld) (parkingId : ℤ) : Prop :=
  ∃ entry ∈ w.invalidIds.get parkingId, w.now < entry.expiration

instance (w : CacheWorld) (parkingId : ℤ) : Decidable (w.Refuses parkingId) :=
  inferInstanceAs (Decidable (∃ entry ∈ w.invalidIds.get parkingId, _))

/-- What a lookup returns or raises. -/
def CacheWorld.outcome (confd : ℤ → ConfdAnswer) (w : CacheWorld) (parkingId : ℤ) :
    Except Exn ConfdParkingLot :=
  if w.Refuses parkingId then .error (.noSuchParking parkingId)
  else match w.cache.get parkingId with
    | some lot => .ok lot
    | none => ((confd parkingId).reply parkingId).mapError (fetchError parkingId)

section Lookup

variable {confd : ℤ → ConfdAnswer} {w w' : CacheWorld} {k : LookupPhase} {parkingId : ℤ}

/-- What is expired is gone, and nothing else has changed. -/
structure Evicted (w w' : CacheWorld) : Prop where
  cache : w'.cache = w.cache
  now : w'.now = w.now
  invalidIds : ∀ id, w'.invalidIds.get id = (w.invalidIds.get id).filter (w.now < ·.expiration)

/-- One index. -/
theorem exec_evict_index {now : ℕ} {index : ℤ} {found : TTLEntry}
    (h : w.invalidIds.get index = some found) :
    ∃ k', exec (CacheWorld.answer confd) (do
        let expiration ← send (.expiration index)
        if expiration ≤ now then
          send (.evict index)) (w, k) = (.ok (), (if found.expiration ≤ now then
            { w with invalidIds := w.invalidIds.pop index } else w), k') ∧
      k'.parkingId = k.parkingId := by
  rw [exec_bind]
  unfold send
  rw [exec_request]
  simp only [CacheWorld.answer, CacheWorld.reply, h, entry, Except.map]
  by_cases hdue : found.expiration ≤ now
  · rw [if_pos hdue, if_pos hdue, exec_request]
    simp only [CacheWorld.answer, CacheWorld.reply, CacheWorld.after, h, entry, Except.map]
    exact ⟨_, rfl, rfl⟩
  · rw [if_neg hdue, if_neg hdue]
    exact ⟨_, rfl, rfl⟩

/-- The loop over what is invalid. -/
theorem exec_evicting {now : ℕ} {keys : List ℤ} (hnodup : keys.Nodup)
    (hkeys : ∀ id ∈ keys, (w.invalidIds.get id).isSome) :
    ∃ w' k', exec (CacheWorld.answer confd) (List.forM keys fun index => do
        let expiration ← send (.expiration index)
        if expiration ≤ now then
          send (.evict index)) (w, k) = (.ok (), w', k') ∧
      k'.parkingId = k.parkingId ∧ w'.cache = w.cache ∧ w'.now = w.now ∧
      ∀ id, w'.invalidIds.get id = if id ∈ keys then
        (w.invalidIds.get id).filter (now < ·.expiration) else w.invalidIds.get id := by
  induction keys generalizing w k with
  | nil => exact ⟨w, k, rfl, rfl, rfl, rfl, by simp⟩
  | cons index keys ih =>
    obtain ⟨hnotin, hnodup⟩ := List.nodup_cons.mp hnodup
    obtain ⟨found, hfound⟩ := Option.isSome_iff_exists.mp (hkeys index (by simp))
    obtain ⟨k₁, hfirst, hk₁⟩ := @exec_evict_index confd w k now index found hfound
    -- the other indexes are as they were
    have hrest (id : ℤ) (hid : id ≠ index) : (if found.expiration ≤ now then
        { w with invalidIds := w.invalidIds.pop index } else w).invalidIds.get id =
          w.invalidIds.get id := by
      split
      · exact Dict.get_pop_of_ne _ hid
      · rfl
    obtain ⟨w', k', hloop, hk', hcache, hnow, hget⟩ := ih (w := if found.expiration ≤ now then
        { w with invalidIds := w.invalidIds.pop index } else w) (k := k₁) hnodup fun id hid => by
      rw [hrest id fun heq => hnotin (heq ▸ hid)]
      exact hkeys id (by simp [hid])
    refine ⟨w', k', ?_, hk'.trans hk₁, ?_, ?_, fun id => ?_⟩
    · change exec _ ((send (.expiration index) >>= fun expiration =>
        if (expiration : ℕ) ≤ now then send (.evict index) else pure ()) >>= fun _ =>
          List.forM keys _) _ = _
      rw [exec_bind, hfirst]
      exact hloop
    · rw [hcache]
      split <;> rfl
    · rw [hnow]
      split <;> rfl
    · rw [hget]
      by_cases hid : id = index
      · subst hid
        rw [if_neg hnotin, if_pos List.mem_cons_self, hfound]
        by_cases hdue : found.expiration ≤ now
        · rw [if_pos hdue, Dict.get_pop_self, Option.filter_some, if_neg (by simpa using hdue)]
        · rw [if_neg hdue, hfound, Option.filter_some, if_pos (by simpa using hdue)]
      · rw [hrest id hid]
        simp [hid]

/-- `evict_expired`. -/
theorem exec_evictExpired : ∃ w' k', exec (CacheWorld.answer confd) evictExpired (w, k) =
    (.ok (), w', k') ∧ k'.parkingId = k.parkingId ∧ Evicted w w' := by
  unfold evictExpired send
  rw [exec_bind, exec_request]
  simp only [CacheWorld.answer, CacheWorld.reply, CacheWorld.after]
  rw [exec_bind, exec_request]
  simp only [CacheWorld.answer, CacheWorld.reply, CacheWorld.after]
  obtain ⟨w', k', hloop, hk', hcache, hnow, hget⟩ := @exec_evicting confd _ _ w.now _
    w.invalidIds.nodup fun id => (w.invalidIds.mem_keys id).mp
  refine ⟨w', k', hloop, hk', hcache, hnow, fun id => ?_⟩
  rw [hget]
  split
  · rfl
  · next hid =>
    have hnone : w.invalidIds.get id = none := by
      rw [w.invalidIds.mem_keys, Option.not_isSome_iff_eq_none] at hid
      exact hid
    rw [hnone]
    rfl

theorem Evicted.refuses (h : Evicted w w') (id : ℤ) :
    w.Refuses id ↔ (w'.invalidIds.get id).isSome := by
  rw [h.invalidIds]
  unfold CacheWorld.Refuses
  cases w.invalidIds.get id with
  | none => simp
  | some found =>
    by_cases hdue : w.now < found.expiration <;> simp [hdue]

/-- The outcomes depend on what is cached and on what is refused. -/
theorem outcome_congr (hcache : ∀ id, w'.cache.get id = w.cache.get id)
    (hrefuses : ∀ id, w'.Refuses id ↔ w.Refuses id) (id : ℤ) :
    w'.outcome confd id = w.outcome confd id := by
  unfold CacheWorld.outcome
  rw [hcache]
  by_cases h : w.Refuses id
  · rw [if_pos h, if_pos ((hrefuses id).mpr h)]
  · rw [if_neg h, if_neg (h ∘ (hrefuses id).mp)]

theorem Evicted.refuses_iff (h : Evicted w w') (id : ℤ) : w'.Refuses id ↔ w.Refuses id := by
  unfold CacheWorld.Refuses
  rw [h.now, h.invalidIds]
  simp only [Option.mem_def, Option.filter_eq_some_iff, decide_eq_true_eq]
  exact ⟨fun ⟨e, ⟨he, _⟩, hlt⟩ => ⟨e, he, hlt⟩, fun ⟨e, he, hlt⟩ => ⟨e, ⟨he, hlt⟩, hlt⟩⟩

/-- The part of a lookup that fetches the lot. -/
theorem exec_fetching (hk : k.parkingId = parkingId) :
    ∃ w' k', exec (CacheWorld.answer confd)
      (tryCatch (fetchParkingLot parkingId) fun e => do
        send (.addInvalid parkingId)
        throw e) (w, k) =
      (((confd parkingId).reply parkingId).mapError (fetchError parkingId), w', k') ∧
    ∀ lot, (confd parkingId).reply parkingId = .ok lot →
      w' = { w with cache := w.cache.set lot.id lot, version := w'.version, said := w'.said } := by
  subst hk
  unfold fetchParkingLot send
  rw [exec_tryCatch, exec_bind, exec_tryCatch, exec_request]
  simp only [CacheWorld.answer, CacheWorld.reply, CacheWorld.after]
  cases hreply : (confd k.parkingId).reply k.parkingId with
  | ok lot =>
    dsimp only
    rw [exec_bind, exec_request]
    simp only [CacheWorld.answer, CacheWorld.reply, CacheWorld.after, exec_pure, Except.mapError]
    refine ⟨_, _, rfl, ?_⟩
    rintro lot' ⟨⟩
    rfl
  | error e =>
    simp only [exec_throw]
    rw [exec_bind, exec_request]
    simp only [CacheWorld.answer, CacheWorld.reply, exec_throw, Except.mapError]
    exact ⟨_, _, rfl, fun lot h => by cases h⟩

/-- A lot that is fetched has the outcome that it has when it is cached. -/
theorem outcome_stored {lot : ConfdParkingLot} (hid : lot.id = parkingId)
    (h : w.outcome confd parkingId = .ok lot) (hrefuses : ∀ id, w'.Refuses id ↔ w.Refuses id)
    (hcache : w'.cache = w.cache.set lot.id lot) (id : ℤ) :
    w'.outcome confd id = w.outcome confd id := by
  have hnot : ¬ w.Refuses parkingId := by
    intro hr
    rw [CacheWorld.outcome, if_pos hr] at h
    cases h
  by_cases hother : id = parkingId
  · subst hother
    rw [h, CacheWorld.outcome, if_neg (hnot ∘ (hrefuses id).mp), hcache, hid, Dict.get_set_self]
  · unfold CacheWorld.outcome
    rw [hcache, hid, Dict.get_set_of_ne _ hother]
    by_cases hr : w.Refuses id
    · rw [if_pos hr, if_pos ((hrefuses id).mpr hr)]
    · rw [if_neg hr, if_neg (hr ∘ (hrefuses id).mp)]

/-- A lookup has its outcome; and when it returns, the outcomes stay what they were. -/
theorem lookup_spec : (w.lookup confd parkingId).1 = w.outcome confd parkingId ∧
    ∀ lot, w.outcome confd parkingId = .ok lot →
      ∀ id, (w.lookup confd parkingId).2.outcome confd id = w.outcome confd id := by
  unfold CacheWorld.lookup getitem send
  dsimp only
  obtain ⟨w₁, k₁, hevict, hk₁, hw₁⟩ := @exec_evictExpired confd w
    ⟨parkingId, w.invalidations parkingId, w.now, .started⟩
  obtain rfl : k₁.parkingId = parkingId := hk₁
  have hkeep (id : ℤ) : w₁.outcome confd id = w.outcome confd id :=
    outcome_congr (fun _ => by rw [hw₁.cache]) hw₁.refuses_iff id
  rw [exec_bind, hevict]
  dsimp only
  rw [exec_bind, exec_request]
  simp only [CacheWorld.answer, CacheWorld.reply, CacheWorld.after]
  cases hinvalid : (w₁.invalidIds.get k₁.parkingId) with
  | some found =>
    have hrefuses : w.Refuses k₁.parkingId := by
      rw [hw₁.refuses, hinvalid]
      rfl
    have houtcome : w.outcome confd k₁.parkingId = .error (.noSuchParking k₁.parkingId) :=
      if_pos hrefuses
    simp only [Option.isSome_some, if_true]
    rw [exec_bind, exec_request, houtcome]
    simp only [CacheWorld.answer, CacheWorld.reply, hinvalid, entry, Except.map]
    exact ⟨rfl, fun lot h => by cases h⟩
  | none =>
    have hrefuses : ¬ w.Refuses k₁.parkingId := by
      rw [hw₁.refuses, hinvalid]
      simp
    simp only [Option.isSome_none, Bool.false_eq_true, if_false]
    rw [exec_bind, exec_request]
    simp only [CacheWorld.answer, CacheWorld.reply, CacheWorld.after]
    cases hlot : w₁.cache.get k₁.parkingId with
    | some lot =>
      have houtcome : w.outcome confd k₁.parkingId = .ok lot := by
        rw [CacheWorld.outcome, if_neg hrefuses, ← hw₁.cache, hlot]
      simp only [Option.isSome_some, Bool.not_true, Bool.false_eq_true, if_false]
      rw [exec_request, houtcome]
      simp only [CacheWorld.answer, CacheWorld.reply, CacheWorld.after, hlot, entry]
      exact ⟨trivial, fun _ _ => hkeep⟩
    | none =>
      have houtcome : w.outcome confd k₁.parkingId =
          ((confd k₁.parkingId).reply k₁.parkingId).mapError (fetchError k₁.parkingId) := by
        rw [CacheWorld.outcome, if_neg hrefuses, ← hw₁.cache, hlot]
      simp only [Option.isSome_none, Bool.not_false, if_true]
      obtain ⟨w', k', hfetch, hstored⟩ := @exec_fetching confd w₁
        ((k₁.next w₁ (.isInvalid k₁.parkingId) (.ok false)).next w₁
          (.isCached k₁.parkingId) (.ok false)) k₁.parkingId rfl
      unfold send at hfetch
      rw [hfetch]
      refine ⟨houtcome.symm, fun lot hok => ?_⟩
      obtain ⟨hreply, hid⟩ : (confd k₁.parkingId).reply k₁.parkingId = .ok lot ∧
          lot.id = k₁.parkingId := by
        rw [houtcome] at hok
        cases hx : confd k₁.parkingId with
        | found found =>
          simp only [hx, ConfdAnswer.reply, Except.mapError, Except.ok.injEq] at hok ⊢
          exact ⟨hok, by rw [← hok]⟩
        | status code => simp [hx, ConfdAnswer.reply, Except.mapError] at hok
        | unreachable => simp [hx, ConfdAnswer.reply, Except.mapError] at hok
      have hw' := hstored lot hreply
      refine outcome_stored hid hok (fun id => ?_) ?_
      · rw [← hw₁.refuses_iff id, hw']
        exact Iff.rfl
      · rw [hw', ← hw₁.cache]

end Lookup

/-! ## The listing -/

/-- What `list_parkings` looks up. -/
def listedIds (results : List AmiEvent) : List ℤ :=
  results.filterMap fun
    | .parkinglot name => splitParkingIdFromName name
    | _ => none

/-- The lots of the tenant among these, or what the first lookup that fails raises. -/
def listed (outcome : ℤ → Except Exn ConfdParkingLot) (tenantUuid : String) :
    List ℤ → Except ServiceExn (List ConfdParkingLot)
  | [] => .ok []
  | parkingId :: parkingIds =>
    match outcome parkingId with
    | .error e => .error (.failure (.cache e))
    | .ok parking => (listed outcome tenantUuid parkingIds).map fun others =>
        if parking.tenantUuid = tenantUuid then parking :: others else others

/-- The first lookup that fails. -/
def firstFailure (outcome : ℤ → Except Exn ConfdParkingLot) : List ℤ → Option (ℤ × Exn)
  | [] => none
  | parkingId :: parkingIds =>
    match outcome parkingId with
    | .error e => some (parkingId, e)
    | .ok _ => firstFailure outcome parkingIds

/-- Asterisk with its list of the lots, confd with the lots that it serves and whose they are,
and the cache.  What is served or cached of a lot has the tenant of the lot. -/
structure Site where
  results : Except Failure (List AmiEvent)
  confd : ℤ → ConfdAnswer
  cache : CacheWorld
  owner : ℤ → Option String
  served : ∀ id lot, confd id = .found lot → owner id = some lot.tenantUuid
  stored : ∀ id lot, cache.cache.get id = some lot → owner id = some lot.tenantUuid

/-- The answer to the listing; it asks for nothing else. -/
def Site.answer (s : Site) (w : CacheWorld) : (r : Request) → Except ServiceExn r.Reply × CacheWorld
  | .parkinglots => (s.results.mapError .failure, w)
  | .parkings parkingId =>
    ((w.lookup s.confd parkingId).1.mapError fun e => .failure (.cache e),
      (w.lookup s.confd parkingId).2)
  | _ => (.error (.failure .requestException), w)

/-- What `list_parkings` returns or raises. -/
def Site.listParkings (s : Site) (tenantUuid : String) : Except ServiceExn (List ConfdParkingLot) :=
  (exec s.answer (Parkings.listParkings tenantUuid) s.cache).1

/-- What a lookup of the lot returns or raises. -/
def Site.outcome (s : Site) (parkingId : ℤ) : Except Exn ConfdParkingLot :=
  s.cache.outcome s.confd parkingId

/-- The lots of the tenant that Asterisk lists. -/
def Site.ownIds (s : Site) (tenantUuid : String) (results : List AmiEvent) : List ℤ :=
  (listedIds results).filter (s.owner · = some tenantUuid)

/-- Two states have the same lots of the tenant: Asterisk lists them alike, confd answers
alike, and the same of them are cached and refused. -/
structure Agree (tenantUuid : String) (s s' : Site) : Prop where
  owner : ∀ id, s.owner id = some tenantUuid ↔ s'.owner id = some tenantUuid
  results : s.results.map (s.ownIds tenantUuid) = s'.results.map (s'.ownIds tenantUuid)
  confd : ∀ id, s.owner id = some tenantUuid → s.confd id = s'.confd id
  cached : ∀ id, s.owner id = some tenantUuid → s.cache.cache.get id = s'.cache.cache.get id
  refuses : ∀ id, s.owner id = some tenantUuid → (s.cache.Refuses id ↔ s'.cache.Refuses id)

/-- The first lookup of the listing that fails is of a lot of the tenant, or fails as the first
one that is. -/
def Clear (tenantUuid : String) (s : Site) : Prop :=
  ∀ results, s.results = .ok results →
    ∀ id e, firstFailure s.outcome (listedIds results) = some (id, e) →
      s.owner id = some tenantUuid ∨
        ∃ id', firstFailure s.outcome (s.ownIds tenantUuid results) = some (id', e)

section Listing

variable {s s' : Site} {tenantUuid : String} {outcome outcome' : ℤ → Except Exn ConfdParkingLot}
  {ids : List ℤ} {e : Exn}

/-- What is returned has the tenant of its lot. -/
theorem owner_of_outcome {id : ℤ} {lot : ConfdParkingLot} (h : s.outcome id = .ok lot) :
    s.owner id = some lot.tenantUuid := by
  unfold Site.outcome CacheWorld.outcome at h
  split at h
  · cases h
  · cases hcached : s.cache.cache.get id with
    | some cached =>
      simp only [hcached, Except.ok.injEq] at h
      rw [← h]
      exact s.stored id cached hcached
    | none =>
      cases hconfd : s.confd id with
      | found found =>
        simp only [hcached, hconfd, ConfdAnswer.reply, Except.mapError, Except.ok.injEq] at h
        rw [← h]
        exact s.served id found hconfd
      | status code => simp [hcached, hconfd, ConfdAnswer.reply, Except.mapError] at h
      | unreachable => simp [hcached, hconfd, ConfdAnswer.reply, Except.mapError] at h

/-- The listing is made of the outcomes of its lookups, whatever those before have left. -/
theorem exec_parkingsOf {results : List AmiEvent} {w : CacheWorld}
    (hw : ∀ id, w.outcome s.confd id = outcome id) :
    (exec s.answer (parkingsOf tenantUuid results) w).1 =
      listed outcome tenantUuid (listedIds results) := by
  induction results generalizing w with
  | nil => rfl
  | cons result results ih =>
    cases result with
    | parkinglot name =>
      unfold parkingsOf
      cases hid : splitParkingIdFromName name with
      | none =>
        have hids : listedIds (.parkinglot name :: results) = listedIds results :=
          List.filterMap_cons_none hid
        rw [hids]
        exact ih hw
      | some parkingId =>
        have hids : listedIds (.parkinglot name :: results) = parkingId :: listedIds results :=
          List.filterMap_cons_some hid
        obtain ⟨hresult, hleft⟩ := @lookup_spec s.confd w parkingId
        dsimp only
        rw [hids, exec_bind, ask, exec_request]
        simp only [Site.answer, hresult, hw, listed]
        cases hlot : outcome parkingId with
        | error e => rfl
        | ok lot =>
          have hnext := ih fun id => (hleft lot (by rw [hw, hlot]) id).trans (hw id)
          simp only [Except.mapError]
          rw [exec_bind, ← hnext]
          rcases exec s.answer (parkingsOf tenantUuid results)
            (w.lookup s.confd parkingId).2 with ⟨e | others, w'⟩ <;> rfl
    | _ => exact ih hw

/-- `list_parkings`. -/
theorem listParkings_eq : s.listParkings tenantUuid =
    match s.results with
    | .error .requestException => .error .wazoAmidError
    | .error f => .error (.failure f)
    | .ok results => listed s.outcome tenantUuid (listedIds results) := by
  unfold Site.listParkings Parkings.listParkings amidAction ask
  rw [exec_bind, exec_tryCatch, exec_request]
  simp only [Site.answer]
  cases s.results with
  | error f => cases f <;> rfl
  | ok results => exact exec_parkingsOf fun _ => rfl

/-! ## The first lookup that fails -/

theorem listed_error_iff {x : ServiceExn} : listed outcome tenantUuid ids = .error x ↔
    ∃ id e, firstFailure outcome ids = some (id, e) ∧ x = .failure (.cache e) := by
  induction ids with
  | nil => simp [listed, firstFailure]
  | cons id ids ih =>
    unfold listed firstFailure
    cases outcome id with
    | error e => simp [eq_comm]
    | ok lot =>
      simp only [← ih]
      cases listed outcome tenantUuid ids <;> simp [Except.map]

theorem listed_congr (h : ∀ id ∈ ids, outcome id = outcome' id) :
    listed outcome tenantUuid ids = listed outcome' tenantUuid ids := by
  induction ids with
  | nil => rfl
  | cons id ids ih =>
    unfold listed
    rw [h id (by simp), ih fun id' hid' => h id' (by simp [hid'])]

theorem map_injective {α β : Type} {f : α → β} (hf : Function.Injective f)
    {x y : Except ServiceExn α} : x.map f = y.map f ↔ x = y := by
  cases x <;> cases y <;> simp [Except.map, hf.eq_iff]

/-- The listing is the one of the lots of the tenant alone exactly when no other lot fails
first, or it fails as the first of the tenant does. -/
theorem listed_own_iff {owner : ℤ → Option String}
    (howner : ∀ id lot, outcome id = .ok lot → owner id = some lot.tenantUuid) :
    listed outcome tenantUuid ids =
        listed outcome tenantUuid (ids.filter (owner · = some tenantUuid)) ↔
      ∀ id e, firstFailure outcome ids = some (id, e) → owner id = some tenantUuid ∨
        ∃ id', firstFailure outcome (ids.filter (owner · = some tenantUuid)) = some (id', e) := by
  induction ids with
  | nil => simp [firstFailure]
  | cons id ids ih =>
    by_cases hown : owner id = some tenantUuid
    · rw [List.filter_cons_of_pos (by simpa using hown)]
      unfold listed firstFailure
      cases hid : outcome id with
      | error e => simp
      | ok lot =>
        have htenant : lot.tenantUuid = tenantUuid := by
          have := (howner id lot hid).symm.trans hown
          exact Option.some.inj this
        simp only [htenant, if_true]
        rw [map_injective fun _ _ h => (List.cons.inj h).2]
        exact ih
    · rw [List.filter_cons_of_neg (by simpa using hown)]
      cases hid : outcome id with
      | error e =>
        have hfirst : firstFailure outcome (id :: ids) = some (id, e) := by
          simp [firstFailure, hid]
        have hlisted : listed outcome tenantUuid (id :: ids) = .error (.failure (.cache e)) := by
          simp [listed, hid]
        rw [hfirst, hlisted, eq_comm, listed_error_iff]
        simp [hown]
      | ok lot =>
        have htenant : lot.tenantUuid ≠ tenantUuid := by
          rintro rfl
          exact hown (howner id lot hid)
        have hfirst : firstFailure outcome (id :: ids) = firstFailure outcome ids := by
          simp [firstFailure, hid]
        have hlisted : listed outcome tenantUuid (id :: ids) = listed outcome tenantUuid ids := by
          simp only [listed, hid, if_neg htenant]
          cases listed outcome tenantUuid ids <;> rfl
        rw [hfirst, hlisted]
        exact ih

/-- The listing of the lots of the tenant alone. -/
def Site.listOwn (s : Site) (tenantUuid : String) : Except ServiceExn (List ConfdParkingLot) :=
  match s.results with
  | .error .requestException => .error .wazoAmidError
  | .error f => .error (.failure f)
  | .ok results => listed s.outcome tenantUuid (s.ownIds tenantUuid results)

theorem clear_iff : Clear tenantUuid s ↔ s.listParkings tenantUuid = s.listOwn tenantUuid := by
  rw [listParkings_eq]
  unfold Clear Site.listOwn
  cases hresults : s.results with
  | error f => cases f <;> simp
  | ok results =>
    have howner (id : ℤ) (lot : ConfdParkingLot) (hlot : s.outcome id = .ok lot) :
        s.owner id = some lot.tenantUuid := owner_of_outcome hlot
    have hiff := @listed_own_iff tenantUuid s.outcome (listedIds results) s.owner howner
    simp only [Except.ok.injEq, forall_eq']
    rw [Site.ownIds]
    exact hiff.symm

/-- States with the same lots of the tenant have the same listing of these alone. -/
theorem listOwn_congr (h : Agree tenantUuid s s') :
    s.listOwn tenantUuid = s'.listOwn tenantUuid := by
  have hresults := h.results
  unfold Site.listOwn
  cases hs : s.results with
  | error f =>
    cases hs' : s'.results with
    | error f' =>
      simp only [hs, hs', Except.map, Except.error.injEq] at hresults
      subst hresults
      cases f <;> rfl
    | ok results' => simp [hs, hs', Except.map] at hresults
  | ok results =>
    cases hs' : s'.results with
    | error f' => simp [hs, hs', Except.map] at hresults
    | ok results' =>
      simp only [hs, hs', Except.map, Except.ok.injEq] at hresults
      dsimp only
      rw [← hresults]
      apply listed_congr
      intro id hid
      have hown : s.owner id = some tenantUuid := by
        simpa using (List.mem_filter.mp hid).2
      unfold Site.outcome CacheWorld.outcome
      rw [h.cached id hown, h.confd id hown]
      by_cases hr : s.cache.Refuses id
      · rw [if_pos hr, if_pos ((h.refuses id hown).mp hr)]
      · rw [if_neg hr, if_neg (hr ∘ (h.refuses id hown).mpr)]

/-- Asterisk lists the lots of the tenant only. -/
def Site.alone (s : Site) (tenantUuid : String) : Site :=
  { s with results := s.results.map fun results => results.filter fun
      | .parkinglot name => (splitParkingIdFromName name).any (s.owner · = some tenantUuid)
      | _ => true }

theorem listedIds_alone (results : List AmiEvent) :
    listedIds (results.filter fun
      | .parkinglot name => (splitParkingIdFromName name).any (s.owner · = some tenantUuid)
      | _ => true) = s.ownIds tenantUuid results := by
  unfold Site.ownIds listedIds
  rw [List.filterMap_filter, List.filter_filterMap]
  congr 1
  funext result
  cases result with
  | parkinglot name =>
    cases hid : splitParkingIdFromName name with
    | none => simp [hid]
    | some id => by_cases hown : s.owner id = some tenantUuid <;> simp [hid, hown, Option.filter]
  | _ => rfl

theorem agree_alone : Agree tenantUuid s (s.alone tenantUuid) where
  owner _ := Iff.rfl
  results := by
    unfold Site.alone
    cases s.results with
    | error f => rfl
    | ok results =>
      simp only [Except.map, Except.ok.injEq]
      change _ = (listedIds _).filter _
      rw [listedIds_alone, Site.ownIds, List.filter_filter]
      simp
  confd _ _ := rfl
  cached _ _ := rfl
  refuses _ _ := Iff.rfl

theorem mem_of_firstFailure {id : ℤ} (h : firstFailure outcome ids = some (id, e)) :
    id ∈ ids := by
  induction ids with
  | nil => cases h
  | cons id' ids ih =>
    unfold firstFailure at h
    cases hid : outcome id' with
    | error e' =>
      simp only [hid, Option.some.injEq, Prod.mk.injEq] at h
      simp [h.1]
    | ok lot =>
      simp only [hid] at h
      exact List.mem_cons_of_mem _ (ih h)

theorem clear_alone : Clear tenantUuid (s.alone tenantUuid) := by
  intro results hresults id e hfirst
  unfold Site.alone at hresults
  cases hs : s.results with
  | error f => simp [hs, Except.map] at hresults
  | ok all =>
    simp only [hs, Except.map, Except.ok.injEq] at hresults
    have hmem := mem_of_firstFailure hfirst
    rw [← hresults, listedIds_alone] at hmem
    have hown : s.owner id = some tenantUuid := by simpa using (List.mem_filter.mp hmem).2
    exact .inl hown

end Listing

/-! ## A lot that confd has lost -/

/-- The lot of a tenant, and of another one that confd may have or not. -/
def confdWith (found : Bool) (parkingId : ℤ) : ConfdAnswer :=
  if parkingId = 1 then .found ⟨1, "some-tenant", "some-parking", "701", "750", "45", "default", []⟩
  else if found ∧ parkingId = 2 then
    .found ⟨2, "other-tenant", "other-parking", "801", "850", "45", "default", []⟩
  else .status 404

/-- Asterisk lists both lots, and nothing is cached. -/
def bothLots (found : Bool) : Site where
  results := .ok [.parkinglot "parkinglot-1", .parkinglot "parkinglot-2"]
  confd := confdWith found
  cache := ⟨∅, ∅, 0, fun _ => 0, fun _ => 0, []⟩
  owner id := if id = 1 then some "some-tenant" else if id = 2 then some "other-tenant" else none
  served id lot h := by
    unfold confdWith at h
    grind
  stored _ _ h := by cases h

end Calld.Parkings
