/-
# The stored transfers are a map

Whatever operations follow one another, `StatePersistor` answers as a map from ids to transfers
does, as long as no operation is given the id `INDEX`: the variable of that transfer would be
the variable of the index.
-/
import Calld.Transfers.GlobalVariables

namespace Calld.Transfers

open Effect Effect.Program

variable {p : Python} {g : Globals} {s s' : Store} {t : Transfer} {id : TransferId}

/-! ## Encoding and decoding a transfer -/

theorem optional_valid (reprFloat : String → String) (s : Option String) :
    (optional s).Valid reprFloat := by
  cases s <;> simp [optional, Json.Valid]

theorem toInternalDict_valid (reprFloat : String → String) (t : Transfer) :
    t.toInternalDict.Valid reprFloat := by
  simp [Transfer.toInternalDict, Json.Valid, Json.ValidFields, optional_valid]

theorem ids_valid (reprFloat : String → String) (ids : List String) :
    (Json.arr (ids.map .str)).Valid reprFloat := by
  rw [Json.Valid]
  induction ids with
  | nil => trivial
  | cons id ids ih => exact ⟨by simp [Json.Valid], ih⟩

namespace Transfer

theorem readStatus_name (st : Status) : readStatus (.str st.name) = some st := by
  cases st <;> decide

theorem readFlow_name (flow : Flow) : readFlow (.str flow.name) = some flow := by
  cases flow <;> decide

theorem readChannel_name (c : ChannelId) : readChannel (.str c.name) = some c := by
  simp [readChannel, readStr, c.nonempty]

theorem readRecipient_name (c : Option ChannelId) :
    readRecipient (optional (c.map (·.name))) = some c := by
  cases c with
  | none => rfl
  | some c => simp [optional, readRecipient, readChannel_name]

theorem readOptional_optional (s : Option String) : readOptional (optional s) = some s := by
  cases s <;> rfl

/-- A transfer that `__init__` has made is made again from its dictionary. -/
theorem fromDict_toInternalDict (hid : t.id ≠ "") (hbridge : t.transferBridgeId ≠ "") :
    fromDict t.toInternalDict p g = (.ok t, g) := by
  simp [fromDict, field, toInternalDict, Dict.get?, typed, bind_apply, readStr,
    readOptional_optional, readChannel_name, readRecipient_name, readFlow_name, readStatus_name,
    hid, hbridge]
  rfl

end Transfer

/-! ## Names -/

theorem transferVariable_inj {id id' : TransferId} :
    transferVariable id = transferVariable id' ↔ id = id' := by
  simp [transferVariable]

/-- The variable of the transfer `INDEX` is the variable of the index. -/
theorem transferVariable_eq_index : transferVariable id = indexVariable ↔ id = "INDEX" := by
  rw [show indexVariable = transferVariable "INDEX" from rfl, transferVariable_inj]

/-! ## The functions of the persistor -/

namespace GlobalPersistor

theorem jsonGet_dumps {name : String} {v : Json} (hv : v.Valid p.reprFloat)
    (h : g name = v.dumps) (default : Option Json) :
    GlobalVariableJsonAdapter.get name default p g = (.ok v, g) := by
  simp [GlobalVariableJsonAdapter.get, GlobalVariableAdapter.get, bind_apply, h,
    Json.dumps_ne_empty hv, Json.loads_dumps hv]

theorem jsonGet_unset {name : String} (h : g name = "") (default : Json) :
    GlobalVariableJsonAdapter.get name (some default) p g = (.ok default, g) := by
  simp [GlobalVariableJsonAdapter.get, GlobalVariableAdapter.get, bind_apply, h]

/-- A transfer that is stored is returned as it was. -/
theorem get_stored (h : g (transferVariable id) = t.toInternalDict.dumps) (hid : t.id ≠ "")
    (hbridge : t.transferBridgeId ≠ "") : get id p g = (.ok t, g) := by
  rw [get, bind_apply, jsonGet_dumps (toInternalDict_valid _ t) h]
  exact Transfer.fromDict_toInternalDict hid hbridge

theorem get_unset (h : g (transferVariable id) = "") :
    get id p g = (.error .keyError, g) := by
  simp [get, GlobalVariableJsonAdapter.get, GlobalVariableAdapter.get, bind_apply, h]

/-- The index holds the ids, or has not been written. -/
def HoldsIndex (g : Globals) (ids : List String) : Prop :=
  g indexVariable = (Json.arr (ids.map .str)).dumps ∨ ids = [] ∧ g indexVariable = ""

theorem elements_ids (ids : List String) :
    elements (.arr (ids.map .str)) p g = (.ok ids, g) := by
  have hread : (ids.map Json.str).mapM Transfer.readStr = some ids := by
    induction ids with
    | nil => rfl
    | cons id ids ih => simp [Transfer.readStr, ih]
  rw [elements, hread]
  rfl

theorem getIndex_holds {ids : List String} (h : HoldsIndex g ids) :
    getIndex p g = (.ok ids, g) := by
  rw [getIndex, bind_apply]
  rcases h with h | ⟨rfl, h⟩
  · rw [jsonGet_dumps (ids_valid _ ids) h]
    exact elements_ids ids
  · rw [jsonGet_unset h]
    exact elements_ids []

/-- The variables once the index has been written. -/
def withIndex (p : Python) (g : Globals) (ids : List String) : Globals :=
  Function.update g indexVariable (Json.arr ((p.setOrder ids).map .str)).dumps

theorem setIndex_apply (ids : List String) :
    setIndex ids p g = (.ok (), withIndex p g ids) := rfl

/-- The variables once a transfer has been written. -/
def withTransfer (g : Globals) (t : Transfer) : Globals :=
  Function.update g (transferVariable t.id) t.toInternalDict.dumps

theorem upsert_apply {ids : List String} (h : HoldsIndex g ids) (hid : t.id ≠ "INDEX") :
    upsert t p g =
      (.ok (), withIndex p (withTransfer g t) (ids.dedup.insert t.id)) := by
  have hindex : HoldsIndex (withTransfer g t) ids := by
    have hother : withTransfer g t indexVariable = g indexVariable :=
      Function.update_of_ne (fun h => hid (transferVariable_eq_index.mp h.symm)) ..
    rw [HoldsIndex, hother]
    exact h
  have hset : GlobalVariableJsonAdapter.set (transferVariable t.id) t.toInternalDict p g =
      (.ok (), withTransfer g t) := rfl
  simp only [upsert, bind_apply, hset, getIndex_holds hindex, setIndex_apply]

/-- The variables once a transfer has been deleted. -/
def withoutTransfer (g : Globals) (id : TransferId) : Globals :=
  Function.update g (transferVariable id) ""

theorem remove_apply {ids : List String} (h : HoldsIndex g ids) (hid : id ≠ "INDEX") :
    remove id p g = (.ok (), if id ∈ ids then
      withIndex p (withoutTransfer g id) (ids.dedup.erase id) else withoutTransfer g id) := by
  have hindex : HoldsIndex (withoutTransfer g id) ids := by
    have hother : withoutTransfer g id indexVariable = g indexVariable :=
      Function.update_of_ne (fun h => hid (transferVariable_eq_index.mp h.symm)) ..
    rw [HoldsIndex, hother]
    exact h
  have hunset : GlobalVariableJsonAdapter.unset (transferVariable id) p g =
      (.ok (), withoutTransfer g id) := rfl
  simp only [remove, bind_apply, hunset, getIndex_holds hindex]
  split <;> rfl

/-- Every id of the index has its transfer. -/
theorem collect_apply {m : TransferMap} {ids : List String}
    (h : ∀ id ∈ ids, ∃ t, m id = some t ∧ get id p g = (.ok t, g)) :
    collect ids p g = (.ok (ids.filterMap m), g) := by
  induction ids with
  | nil => rfl
  | cons id ids ih =>
    obtain ⟨t, hm, hget⟩ := h id (List.mem_cons_self ..)
    have hrest := ih fun id' hid' => h id' (List.mem_cons_of_mem _ hid')
    simp only [collect, bind_apply, catching, hget, hrest, pure_apply, List.filterMap_cons, hm]

end GlobalPersistor

/-! ## The invariant -/

open GlobalPersistor

/-- The variables stand for the map. -/
structure Store.Holds (s : Store) : Prop where
  cells : ∀ id, id ≠ "INDEX" → s.globals (transferVariable id) =
    (s.map id).elim "" fun t => t.toInternalDict.dumps
  named : ∀ id t, s.map id = some t →
    t.id = id ∧ id ≠ "INDEX" ∧ t.id ≠ "" ∧ t.transferBridgeId ≠ ""
  index : ∃ ids, ids.Nodup ∧ (∀ id, id ∈ ids ↔ (s.map id).isSome = true) ∧ HoldsIndex s.globals ids

namespace Store.Holds

theorem get_some (h : s.Holds) (ht : s.map id = some t) :
    get id p s.globals = (.ok t, s.globals) := by
  obtain ⟨-, hindex, hid, hbridge⟩ := h.named id t ht
  have hcell := h.cells id hindex
  rw [ht] at hcell
  exact get_stored hcell hid hbridge

theorem get_none (h : s.Holds) (hindex : id ≠ "INDEX") (ht : s.map id = none) :
    get id p s.globals = (.error .keyError, s.globals) := by
  have hcell := h.cells id hindex
  rw [ht] at hcell
  exact get_unset hcell

/-- `list` returns the transfers of the map, each once. -/
theorem list_apply (h : s.Holds) : ∃ ts : List Transfer,
    GlobalPersistor.list p s.globals = (.ok ts, s.globals) ∧ ts.Nodup ∧
      (∀ t ∈ ts, s.map t.id = some t) ∧ ∀ id t, s.map id = some t → t ∈ ts := by
  obtain ⟨ids, hnodup, hlive, hindex⟩ := h.index
  refine ⟨ids.filterMap s.map, ?_, ?_, ?_, ?_⟩
  · have hcollect : collect ids p s.globals = (.ok (ids.filterMap s.map), s.globals) := by
      refine collect_apply fun id hid => ?_
      obtain ⟨t, ht⟩ := Option.isSome_iff_exists.mp ((hlive id).mp hid)
      exact ⟨t, ht, h.get_some ht⟩
    simp only [GlobalPersistor.list, bind_apply, getIndex_holds hindex, hcollect]
  · refine hnodup.filterMap fun id id' t ht ht' => ?_
    rw [← (h.named id t ht).1, ← (h.named id' t ht').1]
  · intro t ht
    obtain ⟨id, -, hid⟩ := List.mem_filterMap.mp ht
    rw [(h.named id t hid).1]
    exact hid
  · intro id t ht
    exact List.mem_filterMap.mpr ⟨id, (hlive id).mpr (by rw [ht]; rfl), ht⟩

/-- The order of a set does not matter to the index. -/
theorem holdsIndex_withIndex (p : Python) (g : Globals) (ids : List String) :
    HoldsIndex (withIndex p g ids) (p.setOrder ids) :=
  .inl (Function.update_self ..)

theorem cell_withIndex (hid : id ≠ "INDEX") (p : Python) (g : Globals) (ids : List String) :
    withIndex p g ids (transferVariable id) = g (transferVariable id) :=
  Function.update_of_ne (fun h => hid (transferVariable_eq_index.mp h)) ..

theorem upsert (h : s.Holds) (t : BuiltTransfer) (hid : t.id ≠ "INDEX") :
    ∃ g, GlobalPersistor.upsert t.toTransfer p s.globals = (.ok (), g) ∧
      ∀ last, (⟨g, Function.update s.map t.id (some t.toTransfer), last⟩ : Store).Holds := by
  obtain ⟨ids, hnodup, hlive, hindex⟩ := h.index
  refine ⟨_, upsert_apply hindex hid, fun last => ⟨?_, ?_, ?_⟩⟩
  · intro id hne
    change withIndex p _ _ _ = _
    rw [cell_withIndex hne, withTransfer]
    by_cases heq : id = t.id
    · subst heq
      simp
    · rw [Function.update_of_ne fun h => heq (transferVariable_inj.mp h)]
      simp only [Function.update_of_ne heq]
      exact h.cells id hne
  · intro id t' ht'
    by_cases heq : id = t.id
    · subst heq
      obtain rfl : t.toTransfer = t' := by simpa using ht'
      exact ⟨rfl, hid, t.id_ne, t.bridge_ne⟩
    · simp only [Function.update_of_ne heq] at ht'
      exact h.named id t' ht'
  · refine ⟨p.setOrder (ids.dedup.insert t.id), ?_, fun id => ?_,
      holdsIndex_withIndex p _ _⟩
    · exact (p.setOrder_perm _).nodup_iff.mpr (by
        rw [hnodup.dedup]
        exact hnodup.insert)
    · rw [(p.setOrder_perm _).mem_iff, hnodup.dedup, List.mem_insert_iff, hlive]
      by_cases heq : id = t.id
      · subst heq
        simp
      · simp [heq]

theorem remove (h : s.Holds) (hid : id ≠ "INDEX") :
    ∃ g, GlobalPersistor.remove id p s.globals = (.ok (), g) ∧
      ∀ last, (⟨g, Function.update s.map id none, last⟩ : Store).Holds := by
  obtain ⟨ids, hnodup, hlive, hindex⟩ := h.index
  have hmap (id' : TransferId) : (Function.update s.map id none id').isSome = true ↔
      id' ≠ id ∧ (s.map id').isSome = true := by
    by_cases heq : id' = id
    · subst heq
      simp
    · simp [heq]
  have hcell (id' : TransferId) (hne : id' ≠ "INDEX") :
      withoutTransfer s.globals id (transferVariable id') =
        (Function.update s.map id none id').elim "" fun t => t.toInternalDict.dumps := by
    rw [withoutTransfer]
    by_cases heq : id' = id
    · subst heq
      simp
    · rw [Function.update_of_ne fun h => heq (transferVariable_inj.mp h),
        Function.update_of_ne heq]
      exact h.cells id' hne
  refine ⟨_, remove_apply hindex hid, fun last => ⟨?_, ?_, ?_⟩⟩
  · intro id' hne
    rw [← hcell id' hne]
    split
    · exact cell_withIndex hne ..
    · rfl
  · intro id' t' ht'
    by_cases heq : id' = id
    · subst heq
      simp at ht'
    · simp only [Function.update_of_ne heq] at ht'
      exact h.named id' t' ht'
  · by_cases hmem : id ∈ ids
    · refine ⟨p.setOrder (ids.dedup.erase id), ?_, fun id' => ?_, ?_⟩
      · exact (p.setOrder_perm _).nodup_iff.mpr (by
          rw [hnodup.dedup]
          exact hnodup.erase id)
      · rw [(p.setOrder_perm _).mem_iff, hnodup.dedup, hnodup.mem_erase_iff, hlive, hmap]
      · simp only [hmem, if_true]
        exact holdsIndex_withIndex p _ _
    · refine ⟨ids, hnodup, fun id' => ?_, ?_⟩
      · rw [hmap, ← hlive]
        exact ⟨fun h => ⟨fun heq => hmem (heq ▸ h), h⟩, And.right⟩
      · simp only [hmem, if_false]
        have hother : withoutTransfer s.globals id indexVariable = s.globals indexVariable :=
          Function.update_of_ne (fun h => hid (transferVariable_eq_index.mp h.symm)) ..
        rw [HoldsIndex, hother]
        exact hindex

theorem start {s : Store} (h : storeMachine.init s) : s.Holds := by
  obtain ⟨hglobals, hmap, -⟩ := h
  refine ⟨fun id _ => ?_, fun id t ht => ?_, [], List.nodup_nil, fun id => ?_, .inr ⟨rfl, ?_⟩⟩
  · rw [hglobals, hmap]
    rfl
  · rw [hmap] at ht
    cases ht
  · simp [hmap]
  · rw [hglobals]

/-- Reads leave the variables as they are. -/
theorem same (h : s.Holds) {last : Option (StoreOp × Except Exn StoreReply)} :
    (⟨s.globals, s.map, last⟩ : Store).Holds := ⟨h.cells, h.named, h.index⟩

/-- **One operation** answers as the map does, and the variables stand for the map again. -/
theorem step (h : s.Holds) {op : StoreOp} (hop : op.Plain)
    (hs : storeMachine.step (p, op) s = some s') : s'.Holds ∧ s'.Refines := by
  obtain rfl : (⟨_, _, _⟩ : Store) = s' := Option.some.inj hs
  have hrefines {a : Except Exn StoreReply} (ha : op.Answers (op.effect s.map) a) (g : Globals) :
      (⟨g, op.effect s.map, some (op, a)⟩ : Store).Refines := by
    intro op' a' hlast
    obtain ⟨rfl, rfl⟩ := Prod.ext_iff.mp (Option.some.inj hlast)
    exact ha
  cases op with
  | upsert t =>
    obtain ⟨g, hcode, hholds⟩ := h.upsert (p := p) t hop
    have hrun : (StoreOp.upsert t).code p s.globals = (.ok .done, g) := by
      simp only [StoreOp.code, bind_apply, hcode, pure_apply]
    rw [hrun]
    exact ⟨hholds _, hrefines rfl g⟩
  | remove id =>
    obtain ⟨g, hcode, hholds⟩ := h.remove (p := p) hop
    have hrun : (StoreOp.remove id).code p s.globals = (.ok .done, g) := by
      simp only [StoreOp.code, bind_apply, hcode, pure_apply]
    rw [hrun]
    exact ⟨hholds _, hrefines rfl g⟩
  | get id =>
    have hrun : (StoreOp.get id).code p s.globals =
        ((s.map id).elim (.error .keyError) fun t => .ok (.transfer t), s.globals) := by
      cases ht : s.map id with
      | none => simp [StoreOp.code, bind_apply, h.get_none hop ht]
      | some t => simp [StoreOp.code, bind_apply, h.get_some ht]
    rw [hrun]
    exact ⟨h.same, hrefines rfl _⟩
  | getByChannel c =>
    obtain ⟨ts, hlist, -, hlive, hall⟩ := h.list_apply (p := p)
    cases hfind : ts.find? (·.names c) with
    | some t =>
      have hrun : (StoreOp.getByChannel c).code p s.globals =
          (.ok (.transfer t), s.globals) := by
        simp [StoreOp.code, getByChannel, bind_apply, hlist, hfind]
      rw [hrun]
      have hnames : t.names c = true := by simpa using List.find?_some hfind
      exact ⟨h.same, hrefines (.inl ⟨t, rfl, hlive t (List.mem_of_find?_eq_some hfind), hnames⟩) _⟩
    | none =>
      have hrun : (StoreOp.getByChannel c).code p s.globals =
          (.error .keyError, s.globals) := by
        simp [StoreOp.code, getByChannel, bind_apply, hlist, hfind]
      rw [hrun]
      refine ⟨h.same, hrefines (.inr ⟨rfl, fun id t ht => ?_⟩) _⟩
      simpa using List.find?_eq_none.mp hfind t (hall id t ht)
  | list =>
    obtain ⟨ts, hlist, hts⟩ := h.list_apply (p := p)
    have hrun : StoreOp.list.code p s.globals = (.ok (.transfers ts), s.globals) := by
      simp [StoreOp.code, bind_apply, hlist]
    rw [hrun]
    exact ⟨h.same, hrefines ⟨ts, rfl, hts⟩ _⟩

end Store.Holds

/-! ## Runs -/

/-- **The transfer store refines a finite map.**  In every run of operations that name no
transfer `INDEX`, each operation answers as the map of the transfers does. -/
theorem store_refines_map
    (h : storeMachine.Reaches (fun _ label => label.2.Plain) s) : s.Refines := by
  have hinv : s.Holds ∧ s.Refines := by
    refine h.invariant (I := fun s => s.Holds ∧ s.Refines) (fun s hinit => ?_)
      fun s label s' hs hop hstep => hs.1.step hop hstep
    refine ⟨.start hinit, fun op a hlast => ?_⟩
    rw [hinit.2.2] at hlast
    cases hlast
  exact hinv.2

/-- Once a transfer is stored, the transfer `INDEX` is no longer missing: what is read is the
index, which is no dictionary. -/
theorem get_index_typeError (h : s.Holds) (ht : s.map id = some t) :
    GlobalPersistor.get "INDEX" p s.globals = (.error .typeError, s.globals) := by
  obtain ⟨ids, -, hlive, hindex | ⟨rfl, -⟩⟩ := h.index
  · have hread : s.globals (transferVariable "INDEX") = (Json.arr (ids.map .str)).dumps := hindex
    rw [GlobalPersistor.get, bind_apply, jsonGet_dumps (ids_valid _ ids) hread]
    rfl
  · have hmem := (hlive id).mpr (by rw [ht]; rfl)
    cases hmem

namespace Scene

/-- A Python for runs on fixed inputs. -/
def python : Python := ⟨fun lexeme => lexeme, fun ids => ids, fun _ => .refl _, "t2"⟩

/-- A transfer that rings. -/
def stored : BuiltTransfer where
  id := "t1"
  initiatorUuid := "user"
  initiatorTenantUuid := none
  transferredCall := ⟨"bob", by decide⟩
  initiatorCall := ⟨"alice", by decide⟩
  recipientCall := none
  transferBridgeId := "t1"
  status := .ringback
  flow := .attended
  id_ne := by decide
  bridge_ne := by decide

/-- The state after the operation. -/
def after (op : StoreOp) (s : Store) : Store :=
  ⟨(op.code python s.globals).2, op.effect s.map, some (op, (op.code python s.globals).1)⟩

def emptyStore : Store := ⟨fun _ => "", fun _ => none, none⟩

end Scene

open Scene

theorem after_reaches {C : Store → Python × StoreOp → Prop} (h : storeMachine.Reaches C s)
    {op : StoreOp} (hop : C s (python, op)) : storeMachine.Reaches C (after op s) :=
  .step h hop rfl

theorem stored_plain : (StoreOp.upsert stored).Plain := by
  change "t1" ≠ "INDEX"
  decide

theorem stored_reaches : storeMachine.Reaches (fun _ label => label.2.Plain)
    (after (.upsert stored) emptyStore) :=
  after_reaches (.init ⟨rfl, rfl, rfl⟩) stored_plain

/-- A transfer that has been stored is listed. -/
theorem store_refines_map_listed : (after .list (after (.upsert stored) emptyStore)).Refines :=
  store_refines_map (after_reaches stored_reaches trivial)

/-- A user asks for the transfer `INDEX` while another transfer is stored. -/
theorem index_is_no_transfer :
    ∃ s, storeMachine.Reachable s ∧
      s.last = some (.get "INDEX", .error .typeError) ∧ ¬ s.Refines := by
  have hholds : (after (.upsert stored) emptyStore).Holds :=
    ((Store.Holds.start ⟨rfl, rfl, rfl⟩).step (p := python) stored_plain
      (s := emptyStore) rfl).1
  have hstored : (after (.upsert stored) emptyStore).map "t1" = some stored.toTransfer := rfl
  have hget := get_index_typeError (p := python) hholds hstored
  have hlast : (after (.get "INDEX") (after (.upsert stored) emptyStore)).last =
      some (.get "INDEX", .error .typeError) := by
    have hcode : ((StoreOp.get "INDEX").code python
        (after (.upsert stored) emptyStore).globals).1 = .error .typeError := by
      simp only [StoreOp.code, bind_apply, hget]
    exact congrArg (fun a => some (StoreOp.get "INDEX", a)) hcode
  refine ⟨after (.get "INDEX") (after (.upsert stored) emptyStore),
    after_reaches (stored_reaches.mono fun _ _ _ => trivial) trivial, hlast, fun h => ?_⟩
  have hanswer := h _ _ hlast
  cases hanswer

end Calld.Transfers
