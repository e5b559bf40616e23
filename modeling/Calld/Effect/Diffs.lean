/-
# Differences of keyed collections

A collection of values with a key each is seen as a map from the keys.  A `Diff` lists the
values that are created, updated and deleted from one collection to another, and whoever
applies it to a copy of the first has a copy of the second.

The copy need not be one of the first collection: what applying a diff gives then tells
where a copy goes wrong when diffs are lost.
-/
import Calld.Effect.Dict

namespace Effect

/-- The values that come, change and go. -/
structure Diff (ν : Type) where
  created : List ν
  updated : List ν
  deleted : List ν

section Keyed

variable {κ ν : Type} [DecidableEq κ] {key : ν → κ} {l : List ν} {k : κ} {v : ν}

/-! ## Collections by key -/

/-- Every value is kept under its own key. -/
def Keyed (key : ν → κ) (m : κ → Option ν) : Prop := ∀ k v, m k = some v → key v = k

/-- The values of a list by key; the last one of a key is kept. -/
def index (key : ν → κ) (l : List ν) : Dict κ ν := l.foldl (fun d v => d.set (key v) v) ∅

/-- No two values of the list have one key. -/
def Unambiguous (key : ν → κ) (l : List ν) : Prop := ∀ v ∈ l, ∀ w ∈ l, key v = key w → v = w

instance [DecidableEq ν] : Decidable (Unambiguous key l) := by
  unfold Unambiguous
  infer_instance

/-- `m` has exactly the values of the list, each under its key. -/
def Lists (key : ν → κ) (l : List ν) (m : κ → Option ν) : Prop :=
  ∀ k v, m k = some v ↔ v ∈ l ∧ key v = k

theorem index_concat : index key (l ++ [v]) = (index key l).set (key v) v := by
  unfold index
  rw [List.foldl_append, List.foldl_cons, List.foldl_nil]

theorem get_index_singleton : (index key [v]).get k = if k = key v then some v else none :=
  Dict.get_set ..

/-- What the index has under a key is a value of the list with this key. -/
theorem mem_of_index (h : (index key l).get k = some v) : v ∈ l ∧ key v = k := by
  induction l using List.reverseRecOn with
  | nil => cases h
  | append_singleton l u ih =>
    rw [index_concat, Dict.get_set] at h
    by_cases hk : k = key u
    · rw [if_pos hk] at h
      obtain rfl := Option.some.inj h
      exact ⟨by simp, hk.symm⟩
    · rw [if_neg hk] at h
      obtain ⟨hmem, hkey⟩ := ih h
      exact ⟨by simp [hmem], hkey⟩

theorem keyed_index (key : ν → κ) (l : List ν) : Keyed key (index key l).get := fun _ _ h => (mem_of_index h).2

/-- Every key of the list is in the index. -/
theorem isSome_index (h : v ∈ l) : ((index key l).get (key v)).isSome := by
  induction l using List.reverseRecOn with
  | nil => cases h
  | append_singleton l u ih =>
    rw [index_concat, Dict.get_set]
    split
    · rfl
    · next hk =>
      rcases List.mem_append.mp h with h | h
      · exact ih h
      · rw [List.mem_singleton.mp h] at hk
        exact absurd rfl hk

/-- The index has all values of the list when no two have one key. -/
theorem lists_index_iff : Lists key l (index key l).get ↔ Unambiguous key l := by
  constructor
  · intro h v hv w hw hkey
    have hv' := (h (key v) v).mpr ⟨hv, rfl⟩
    have hw' := (h (key v) w).mpr ⟨hw, hkey.symm⟩
    exact Option.some.inj (hv'.symm.trans hw')
  · intro h k v
    refine ⟨mem_of_index, fun ⟨hv, hk⟩ => ?_⟩
    have hsome : ((index key l).get (key v)).isSome := isSome_index hv
    obtain ⟨u, hu⟩ := Option.isSome_iff_exists.mp hsome
    obtain ⟨hmem, hkey⟩ := mem_of_index hu
    rw [← hk, hu, h u hmem v hv hkey]

omit [DecidableEq κ] in
/-- Two maps that list the same values are one. -/
theorem Lists.unique {m m' : κ → Option ν} (h : Lists key l m) (h' : Lists key l m') :
    m = m' := by
  funext k
  apply Option.ext
  intro v
  rw [h k v, h' k v]

omit [DecidableEq κ] in
/-- What lists the values has no two of one key. -/
theorem Lists.unambiguous {m : κ → Option ν} (h : Lists key l m) : Unambiguous key l := by
  intro v hv w hw hkey
  have hv' := (h (key v) v).mpr ⟨hv, rfl⟩
  have hw' := (h (key v) w).mpr ⟨hw, hkey.symm⟩
  exact Option.some.inj (hv'.symm.trans hw')

/-- A keyed map is the index of its own values. -/
theorem get_index_items {d : Dict κ ν} (h : Keyed key d.get) :
    (index key (d.items.map Prod.snd)).get = d.get := by
  have hlists : Lists key (d.items.map Prod.snd) d.get := by
    intro k v
    simp only [List.mem_map, Prod.exists, exists_eq_right, Dict.mem_items]
    constructor
    · intro hv
      exact ⟨⟨k, hv⟩, h k v hv⟩
    · rintro ⟨⟨k', hv⟩, rfl⟩
      rw [h k' v hv]
      exact hv
  exact (lists_index_iff.mpr hlists.unambiguous).unique hlists

/-! ## Diffs -/

namespace Diff

/-- The copy of somebody who applies the diff. -/
def apply (key : ν → κ) (d : Diff ν) (m : κ → Option ν) : κ → Option ν :=
  d.deleted.foldl (fun m v => Function.update m (key v) none)
    ((d.created ++ d.updated).foldl (fun m v => Function.update m (key v) (some v)) m)

/-- The diff lists what is different between two maps. -/
structure Describes (key : ν → κ) (d : Diff ν) (old new : κ → Option ν) : Prop where
  mem_created : ∀ v, v ∈ d.created ↔ old (key v) = none ∧ new (key v) = some v
  mem_updated : ∀ v, v ∈ d.updated ↔ (∃ u, old (key v) = some u ∧ u ≠ v) ∧ new (key v) = some v
  mem_deleted : ∀ v, v ∈ d.deleted ↔ old (key v) = some v ∧ new (key v) = none

variable {vs : List ν} {m : κ → Option ν} {d : Diff ν} {old new : κ → Option ν}

/-- A key without values keeps what it has. -/
theorem foldl_of_not_mem {f : ν → Option ν} (h : ∀ v ∈ vs, key v ≠ k) :
    (vs.foldl (fun m v => Function.update m (key v) (f v)) m) k = m k := by
  induction vs generalizing m with
  | nil => rfl
  | cons v vs ih =>
    have hk : k ≠ key v := (h v (by simp)).symm
    rw [List.foldl_cons, ih fun w hw => h w (by simp [hw]), Function.update_of_ne hk]

/-- A key whose values all assign the same gets it. -/
theorem foldl_of_mem {f : ν → Option ν} {a : Option ν} (hv : v ∈ vs) (hk : key v = k)
    (h : ∀ w ∈ vs, key w = k → f w = a) :
    (vs.foldl (fun m v => Function.update m (key v) (f v)) m) k = a := by
  induction vs using List.reverseRecOn with
  | nil => cases hv
  | append_singleton vs u ih =>
    rw [List.foldl_append, List.foldl_cons, List.foldl_nil, Function.update_apply]
    by_cases hu : k = key u
    · rw [if_pos hu]
      exact h u (by simp) hu.symm
    · rw [if_neg hu]
      refine ih ?_ fun w hw => h w (by simp [hw])
      rcases List.mem_append.mp hv with hv | hv
      · exact hv
      · rw [List.mem_singleton.mp hv] at hk
        exact absurd hk.symm hu

/-- Where the two maps agree, a copy keeps what it has. -/
theorem Describes.apply_of_eq (h : d.Describes key old new) (hsame : old k = new k) :
    d.apply key m k = m k := by
  unfold apply
  rw [foldl_of_not_mem (f := fun _ => none), foldl_of_not_mem (f := some)]
  · intro v hv hk
    rcases List.mem_append.mp hv with hv | hv
    · obtain ⟨ho, hn⟩ := (h.mem_created v).mp hv
      rw [hk] at ho hn
      simp [ho, hn] at hsame
    · obtain ⟨⟨u, ho, hne⟩, hn⟩ := (h.mem_updated v).mp hv
      rw [hk] at ho hn
      rw [ho, hn] at hsame
      exact hne (Option.some.inj hsame)
  · intro v hv hk
    obtain ⟨ho, hn⟩ := (h.mem_deleted v).mp hv
    rw [hk] at ho hn
    simp [ho, hn] at hsame

/-- Where they differ, it gets what the new one has. -/
theorem Describes.apply_of_ne (h : d.Describes key old new) (hold : Keyed key old)
    (hnew : Keyed key new) (hdiff : old k ≠ new k) : d.apply key m k = new k := by
  unfold apply
  cases hn : new k with
  | none =>
    obtain ⟨v, ho⟩ : ∃ v, old k = some v := by
      apply Option.ne_none_iff_exists'.mp
      intro ho
      exact hdiff (ho.trans hn.symm)
    have hk := hold k v ho
    have hmem : v ∈ d.deleted := (h.mem_deleted v).mpr ⟨hk ▸ ho, hk ▸ hn⟩
    exact foldl_of_mem hmem hk fun _ _ _ => rfl
  | some v =>
    have hk := hnew k v hn
    -- nothing that is deleted has this key
    rw [foldl_of_not_mem (f := fun _ => none)]
    · have hmem : v ∈ d.created ++ d.updated := by
        cases ho : old k with
        | none =>
          exact List.mem_append_left _ ((h.mem_created v).mpr ⟨hk ▸ ho, hk ▸ hn⟩)
        | some u =>
          have hne : u ≠ v := by
            rintro rfl
            exact hdiff (ho.trans hn.symm)
          exact List.mem_append_right _
            ((h.mem_updated v).mpr ⟨⟨u, hk ▸ ho, hne⟩, hk ▸ hn⟩)
      refine foldl_of_mem hmem hk fun w hw hwk => ?_
      have hw' : new (key w) = some w := by
        rcases List.mem_append.mp hw with hw | hw
        · exact ((h.mem_created w).mp hw).2
        · exact ((h.mem_updated w).mp hw).2
      rw [← hw', hwk, hn]
    · intro w hw hwk
      have := ((h.mem_deleted w).mp hw).2
      rw [hwk, hn] at this
      cases this

/-- A copy is the new map after the diff when, wherever the two maps agree, it had the same. -/
theorem Describes.apply_eq_iff (h : d.Describes key old new) (hold : Keyed key old)
    (hnew : Keyed key new) :
    d.apply key m = new ↔ ∀ k, old k = new k → m k = new k := by
  constructor
  · intro heq k hsame
    have := congrFun heq k
    rwa [h.apply_of_eq hsame] at this
  · intro hm
    funext k
    by_cases hsame : old k = new k
    · rw [h.apply_of_eq hsame, hm k hsame]
    · exact h.apply_of_ne hold hnew hsame

/-- Of the old map itself the diff makes the new one. -/
theorem Describes.apply_old (h : d.Describes key old new) (hold : Keyed key old)
    (hnew : Keyed key new) : d.apply key old = new :=
  (h.apply_eq_iff hold hnew).mpr fun _ => id

/-- No two of the lists have a key in common. -/
def Separate (key : ν → κ) (d : Diff ν) : Prop :=
  (d.created.map key).Disjoint (d.updated.map key) ∧
    (d.created.map key).Disjoint (d.deleted.map key) ∧
    (d.updated.map key).Disjoint (d.deleted.map key)

omit [DecidableEq κ] in
theorem Describes.separate (h : d.Describes key old new) : d.Separate key := by
  refine ⟨?_, ?_, ?_⟩
  all_goals
    intro k hk hk'
    obtain ⟨v, hv, rfl⟩ := List.mem_map.mp hk
    obtain ⟨w, hw, hkey⟩ := List.mem_map.mp hk'
  · obtain ⟨⟨u, hu, -⟩, -⟩ := (h.mem_updated w).mp hw
    rw [hkey, ((h.mem_created v).mp hv).1] at hu
    cases hu
  · have hold := ((h.mem_deleted w).mp hw).1
    rw [hkey, ((h.mem_created v).mp hv).1] at hold
    cases hold
  · have hnew := ((h.mem_deleted w).mp hw).2
    rw [hkey, ((h.mem_updated v).mp hv).2] at hnew
    cases hnew

/-- There is nothing to tell exactly when the maps are equal. -/
theorem Describes.empty_iff (h : d.Describes key old new) (hold : Keyed key old)
    (hnew : Keyed key new) :
    (d.created = [] ∧ d.updated = [] ∧ d.deleted = []) ↔ old = new := by
  constructor
  · rintro ⟨hcreated, hupdated, hdeleted⟩
    have happly := h.apply_old hold hnew
    unfold apply at happly
    rw [hcreated, hupdated, hdeleted] at happly
    exact happly
  · rintro rfl
    refine ⟨List.eq_nil_iff_forall_not_mem.mpr fun v hv => ?_,
      List.eq_nil_iff_forall_not_mem.mpr fun v hv => ?_,
      List.eq_nil_iff_forall_not_mem.mpr fun v hv => ?_⟩
    · obtain ⟨ho, hn⟩ := (h.mem_created v).mp hv
      rw [ho] at hn
      cases hn
    · obtain ⟨⟨u, ho, hne⟩, hn⟩ := (h.mem_updated v).mp hv
      rw [ho] at hn
      exact hne (Option.some.inj hn)
    · obtain ⟨ho, hn⟩ := (h.mem_deleted v).mp hv
      rw [ho] at hn
      cases hn

/-! ## Single changes -/

inductive Kind where
  | created | updated | deleted
  deriving DecidableEq

/-- What a diff lists of one kind. -/
def of (d : Diff ν) : Kind → List ν
  | .created => d.created
  | .updated => d.updated
  | .deleted => d.deleted

variable [DecidableEq ν]

/-- What has happened to one key: the kind of the change, and the value that came or went. -/
def change : Option ν → Option ν → Option (Kind × ν)
  | none, none => none
  | none, some v => some (.created, v)
  | some u, none => some (.deleted, u)
  | some u, some v => if u = v then none else some (.updated, v)

@[simp] theorem change_self (a : Option ν) : change a a = none := by
  cases a with
  | none => rfl
  | some v => exact if_pos rfl

theorem change_eq_none {a b : Option ν} : change a b = none ↔ a = b := by
  constructor
  · intro h
    match a, b, h with
    | none, none, _ => rfl
    | some u, some v, h =>
      by_cases huv : u = v
      · rw [huv]
      · simp [change, huv] at h
  · rintro rfl
    exact change_self a

/-- What was created or updated is there afterwards. -/
theorem eq_some_of_change {a b : Option ν} {kind : Kind} (h : change a b = some (kind, v))
    (hkind : kind ≠ .deleted) : b = some v := by
  match a, b, h with
  | none, some w, h =>
    simp only [change, Option.some.injEq, Prod.mk.injEq] at h
    rw [h.2]
  | some u, none, h =>
    simp only [change, Option.some.injEq, Prod.mk.injEq] at h
    exact absurd h.1.symm hkind
  | some u, some w, h =>
    simp only [change, Option.ite_none_left_eq_some, Option.some.injEq, Prod.mk.injEq] at h
    rw [h.2.2]

omit [DecidableEq κ] in
/-- A value that has changed has the key. -/
theorem key_of_change (hold : Keyed key old) (hnew : Keyed key new) {kind : Kind}
    (h : change (old k) (new k) = some (kind, v)) : key v = k := by
  cases ho : old k with
  | none =>
    cases hn : new k with
    | none => simp [change, ho, hn] at h
    | some w =>
      simp only [change, ho, hn, Option.some.injEq, Prod.mk.injEq] at h
      exact h.2 ▸ hnew k w hn
  | some u =>
    cases hn : new k with
    | none =>
      simp only [change, ho, hn, Option.some.injEq, Prod.mk.injEq] at h
      exact h.2 ▸ hold k u ho
    | some w =>
      simp only [change, ho, hn, Option.ite_none_left_eq_some, Option.some.injEq,
        Prod.mk.injEq] at h
      exact h.2.2 ▸ hnew k w hn

omit [DecidableEq κ] in
/-- A diff lists the single changes. -/
theorem Describes.mem_of (h : d.Describes key old new) {kind : Kind} :
    v ∈ d.of kind ↔ change (old (key v)) (new (key v)) = some (kind, v) := by
  cases kind with
  | created =>
    rw [of, h.mem_created]
    cases old (key v) <;> cases new (key v) <;> simp [change]
  | updated =>
    rw [of, h.mem_updated]
    cases old (key v) with
    | none => cases new (key v) <;> simp [change]
    | some u =>
      cases new (key v) with
      | none => simp [change]
      | some w =>
        simp only [change, Option.some.injEq, exists_eq_left', Option.ite_none_left_eq_some,
          Prod.mk.injEq, true_and]
        constructor
        · rintro ⟨hne, rfl⟩
          exact ⟨hne, rfl⟩
        · rintro ⟨hne, rfl⟩
          exact ⟨hne, rfl⟩
  | deleted =>
    rw [of, h.mem_deleted]
    cases old (key v) <;> cases new (key v) <;> simp [change]

/-- What a diff lists under one key. -/
def about (key : ν → κ) (d : Diff ν) (k : κ) : List (Kind × ν) :=
  [Kind.created, .updated, .deleted].flatMap fun kind =>
    ((d.of kind).filter fun v => key v = k).map fun v => (kind, v)

/-- What a diff lists of one kind under one key. -/
theorem Describes.filter_of (h : d.Describes key old new) (hold : Keyed key old)
    (hnew : Keyed key new) (hnodup : ∀ kind, (d.of kind).Nodup) (kind : Kind) :
    ((d.of kind).filter fun v => key v = k) =
      ((change (old k) (new k)).toList.filter fun c => c.1 = kind).map Prod.snd := by
  have hmem (v : ν) : v ∈ (d.of kind).filter (fun v => key v = k) ↔
      change (old k) (new k) = some (kind, v) := by
    rw [List.mem_filter, decide_eq_true_eq, h.mem_of]
    constructor
    · rintro ⟨hchange, rfl⟩
      exact hchange
    · intro hchange
      obtain rfl := key_of_change hold hnew hchange
      exact ⟨hchange, rfl⟩
  have hfiltered := (hnodup kind).filter fun v => decide (key v = k)
  cases hchange : change (old k) (new k) with
  | none =>
    refine List.eq_nil_iff_forall_not_mem.mpr fun v hv => ?_
    rw [hmem, hchange] at hv
    cases hv
  | some c =>
    obtain ⟨kind', w⟩ := c
    by_cases hkind : kind' = kind
    · subst hkind
      have hright : (((some (kind', w)).toList.filter fun c => c.1 = kind').map Prod.snd) =
          [w] := by simp
      rw [hright]
      refine List.perm_singleton.mp ((List.perm_ext_iff_of_nodup hfiltered
        (List.nodup_singleton w)).mpr fun v => ?_)
      rw [hmem, hchange, List.mem_singleton]
      constructor
      · intro hv
        cases hv
        rfl
      · rintro rfl
        rfl
    · have hright : (((some (kind', w)).toList.filter fun c => c.1 = kind).map Prod.snd) =
          [] := by simp [hkind]
      rw [hright]
      refine List.eq_nil_iff_forall_not_mem.mpr fun v hv => ?_
      rw [hmem, hchange] at hv
      cases hv
      exact hkind rfl

/-- What a diff lists under one key is the change of this key. -/
theorem Describes.about_eq (h : d.Describes key old new) (hold : Keyed key old)
    (hnew : Keyed key new) (hnodup : ∀ kind, (d.of kind).Nodup) :
    d.about key k = (change (old k) (new k)).toList := by
  unfold about
  simp only [h.filter_of hold hnew hnodup]
  cases change (old k) (new k) with
  | none => rfl
  | some c =>
    obtain ⟨kind, v⟩ := c
    cases kind <;> rfl

end Diff

/-! ## Items -/

omit [DecidableEq κ] in
/-- The items of a map are kept under different keys. -/
theorem items_pairwise (d : Dict κ ν) : d.items.Pairwise fun a b => a.1 ≠ b.1 := by
  unfold Dict.items
  refine List.pairwise_filterMap.mpr (d.nodup.imp fun {k k'} hne a ha b hb => ?_)
  obtain ⟨v, -, rfl⟩ := Option.map_eq_some_iff.mp ha
  obtain ⟨w, -, rfl⟩ := Option.map_eq_some_iff.mp hb
  exact hne

omit [DecidableEq κ] in
/-- What is made of the items, each under its key, is not there twice. -/
theorem nodup_filterMap_items {d : Dict κ ν} {f : κ × ν → Option ν}
    (h : ∀ k v w, d.get k = some v → f (k, v) = some w → key w = k) :
    (d.items.filterMap f).Nodup := by
  refine List.pairwise_filterMap.mpr ((items_pairwise d).imp_of_mem ?_)
  rintro ⟨k, v⟩ ⟨k', v'⟩ hmem hmem' hne w hw w' hw' rfl
  refine hne ?_
  rw [← h k v w (Dict.mem_items.mp hmem) hw, h k' v' w (Dict.mem_items.mp hmem') hw']

end Keyed

end Effect
