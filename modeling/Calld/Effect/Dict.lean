/-
# Finite maps in the order of insertion

`Dict κ ν` is a finite map together with the list of its keys, in the order in which they
were first inserted: iterating over it visits every key once.  An assignment to a key that
is there keeps its place, `pop` removes it, `filterMap` changes or drops every value.
-/
import Mathlib

namespace Effect

/-- A finite map with its keys in the order of insertion. -/
structure Dict (κ ν : Type) where
  get : κ → Option ν
  keys : List κ
  nodup : keys.Nodup
  mem_keys : ∀ k, k ∈ keys ↔ (get k).isSome

namespace Dict

variable {κ ν : Type} {d : Dict κ ν} {k k' : κ} {v : ν}

instance : EmptyCollection (Dict κ ν) where
  emptyCollection := ⟨fun _ => none, [], List.nodup_nil, by simp⟩

@[simp] theorem get_empty (k : κ) : (∅ : Dict κ ν).get k = none := rfl

theorem mem_keys_of_get (h : d.get k = some v) : k ∈ d.keys := by
  rw [d.mem_keys, h]
  rfl

/-- A map without values has no keys. -/
theorem eq_empty (h : ∀ k, d.get k = none) : d = ∅ := by
  obtain ⟨get, keys, nodup, mem⟩ := d
  have hget : get = fun _ => none := funext h
  subst hget
  have hkeys : keys = [] := by
    apply List.eq_nil_iff_forall_not_mem.mpr
    intro k hk
    simpa using (mem k).mp hk
  subst hkeys
  rfl

theorem eq_empty_iff : d = ∅ ↔ ∀ k, d.get k = none := by
  constructor
  · rintro rfl k
    rfl
  · exact eq_empty

/-- `d.items()`. -/
def items (d : Dict κ ν) : List (κ × ν) := d.keys.filterMap fun k => (d.get k).map (k, ·)

@[simp] theorem mem_items : (k, v) ∈ d.items ↔ d.get k = some v := by
  unfold items
  rw [List.mem_filterMap]
  constructor
  · rintro ⟨a, -, ha⟩
    obtain ⟨w, hw, heq⟩ := Option.map_eq_some_iff.mp ha
    cases heq
    exact hw
  · intro h
    exact ⟨k, mem_keys_of_get h, by rw [h]; rfl⟩

/-! ## Change every value -/

/-- Change the value of every key, or drop the key. -/
def filterMap {ν' : Type} (d : Dict κ ν) (f : κ → ν → Option ν') : Dict κ ν' where
  get k := (d.get k).bind (f k)
  keys := d.keys.filter fun k => ((d.get k).bind (f k)).isSome
  nodup := d.nodup.filter _
  mem_keys k := by
    rw [List.mem_filter, d.mem_keys]
    cases d.get k <;> simp

@[simp] theorem get_filterMap {ν' : Type} (d : Dict κ ν) (f : κ → ν → Option ν') (k : κ) :
    (d.filterMap f).get k = (d.get k).bind (f k) := rfl

/-! ## Maps that lose values -/

/-- Values may have gone; none is new. -/
def Shrinks (d d' : Dict κ ν) : Prop := ∀ k v, d'.get k = some v → d.get k = some v

theorem Shrinks.refl (d : Dict κ ν) : d.Shrinks d := fun _ _ h => h

theorem Shrinks.trans {d' d'' : Dict κ ν} (h : d.Shrinks d') (h' : d'.Shrinks d'') :
    d.Shrinks d'' := fun k v hv => h k v (h' k v hv)

theorem Shrinks.get_none {d' : Dict κ ν} (h : d.Shrinks d') (hk : d.get k = none) :
    d'.get k = none := by
  cases hv : d'.get k with
  | none => rfl
  | some v =>
    rw [h k v hv] at hk
    cases hk

/-! ## Assign and remove -/

variable [DecidableEq κ]

/-- `d[k] = v`. -/
def set (d : Dict κ ν) (k : κ) (v : ν) : Dict κ ν where
  get := Function.update d.get k (some v)
  keys := if k ∈ d.keys then d.keys else d.keys ++ [k]
  nodup := by
    split
    · exact d.nodup
    · exact List.nodup_append.mpr ⟨d.nodup, List.nodup_singleton k, by
        rintro a ha b hb rfl
        exact absurd (List.mem_singleton.mp hb ▸ ha) ‹_›⟩
  mem_keys a := by
    by_cases h : a = k
    · subst h
      rw [Function.update_self]
      split <;> simp_all
    · rw [Function.update_of_ne h, ← d.mem_keys]
      split <;> simp_all

/-- `d.pop(k, None)`. -/
def pop (d : Dict κ ν) (k : κ) : Dict κ ν where
  get := Function.update d.get k none
  keys := d.keys.erase k
  nodup := d.nodup.erase k
  mem_keys a := by
    rw [d.nodup.mem_erase_iff, d.mem_keys]
    by_cases h : a = k
    · subst h
      simp
    · simp [h]

/-- `d.setdefault(k, v)`, without the value it returns. -/
def setdefault (d : Dict κ ν) (k : κ) (v : ν) : Dict κ ν :=
  if (d.get k).isSome then d else d.set k v

@[simp] theorem get_set_self (d : Dict κ ν) (k : κ) (v : ν) : (d.set k v).get k = some v :=
  Function.update_self ..

theorem get_set_of_ne (d : Dict κ ν) (h : k' ≠ k) (v : ν) : (d.set k v).get k' = d.get k' :=
  Function.update_of_ne h ..

@[simp] theorem get_pop_self (d : Dict κ ν) (k : κ) : (d.pop k).get k = none :=
  Function.update_self ..

theorem get_pop_of_ne (d : Dict κ ν) (h : k' ≠ k) : (d.pop k).get k' = d.get k' :=
  Function.update_of_ne h ..

theorem get_set (d : Dict κ ν) (k k' : κ) (v : ν) :
    (d.set k v).get k' = if k' = k then some v else d.get k' :=
  Function.update_apply ..

theorem get_pop (d : Dict κ ν) (k k' : κ) :
    (d.pop k).get k' = if k' = k then none else d.get k' :=
  Function.update_apply ..

theorem get_setdefault (d : Dict κ ν) (k k' : κ) (v : ν) :
    (d.setdefault k v).get k' = if k' = k then some ((d.get k).getD v) else d.get k' := by
  unfold setdefault
  by_cases hk : k' = k
  · subst hk
    split <;> rename_i h
    · obtain ⟨w, hw⟩ := Option.isSome_iff_exists.mp h
      simp [hw]
    · simp [Option.not_isSome_iff_eq_none.mp h]
  · rw [if_neg hk]
    split
    · rfl
    · rw [get_set, if_neg hk]

theorem shrinks_pop (d : Dict κ ν) (k : κ) : d.Shrinks (d.pop k) := by
  intro k' v hv
  rw [get_pop] at hv
  split at hv
  · cases hv
  · exact hv

end Dict

end Effect
