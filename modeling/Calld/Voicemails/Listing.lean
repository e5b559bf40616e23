/-
# Listing the messages of several mailboxes

The storage lists the messages of some mailboxes, one mailbox and one folder after the other,
sorts them on a column and takes a slice; beside it counts the files.  A caller id may have no
name, and then its column does not compare.
-/
import Calld.Effect.Sorting
import Calld.Voicemails.Storage

namespace Calld.Voicemails

open Effect

/-! ## The storage -/

/-- A directory that stays as it is.  What is read as a message is a regular file, and the names
in a directory are distinct. -/
structure Spool extends Disk where
  isFile : String → String → String → String → Bool
  regular : ∀ context number path names name result, files context number path = .ok names →
    (name, .ok (some result)) ∈ names → isFile context number path name = true
  distinct : ∀ context number path names, files context number path = .ok names →
    (names.map Prod.fst).Nodup

/-- What a listing raises. -/
inductive ListExn where
  | storage (e : StorageExn)
  /-- two values that do not compare -/
  | typeError
  deriving DecidableEq

/-- `_VoicemailAccess.info`. -/
def vmAccessInfo (vmConf : VmConf) : VmInfo :=
  ⟨vmConf.id, vmConf.number, vmConf.context, vmConf.name, vmConf.accesstype, []⟩

/-- A message in a listing, with its mailbox and, later, its transcription. -/
structure ListedMessage extends MessageInfo where
  voicemail : VmInfo
  transcription : Option String

/-- The message of a file, before it has a transcription. -/
def MessageInfo.listed (info : MessageInfo) (vmConf : VmConf) : ListedMessage :=
  ⟨info, vmAccessInfo vmConf, none⟩

/-- `_VoicemailAccess.messages`. -/
def vmMessages (disk : Disk) (vmConf : VmConf) : Except StorageExn (List ListedMessage) := do
  let messages ← folders.mapM (folderMessages disk vmConf)
  pure (messages.flatten.map (·.listed vmConf))

/-- The messages of all mailboxes, in the order of the mailboxes, folders and directories. -/
def allMessages (disk : Disk) (vmConfs : List VmConf) :
    Except StorageExn (List ListedMessage) := do
  let messages ← vmConfs.mapM (vmMessages disk)
  pure messages.flatten

/-- `_FolderAccess.messages_count`. -/
def folderMessagesCount (spool : Spool) (vmConf : VmConf) (folder : VoicemailFolder) :
    Except StorageExn ℕ :=
  match spool.files vmConf.context vmConf.number folder.path with
  | .error .enoent => pure 0
  | .error e => throw (.osError e)
  | .ok names => pure (names.countP fun file =>
      spool.isFile vmConf.context vmConf.number folder.path file.1 &&
        decide (".txt".toList <:+ file.1.toList))

/-- `_VoicemailAccess.messages_count`. -/
def vmMessagesCount (spool : Spool) (vmConf : VmConf) : Except StorageExn ℕ := do
  let counts ← folders.mapM (folderMessagesCount spool vmConf)
  pure counts.sum

/-- `count_all_messages`. -/
def countAllMessages (spool : Spool) (vmConfs : List VmConf) : Except StorageExn ℕ := do
  let counts ← vmConfs.mapM (vmMessagesCount spool)
  pure counts.sum

/-! ## Columns -/

/-- `VALID_VOICEMAIL_ORDER`. -/
inductive Order where
  | id | callerIdName | duration | timestamp
  deriving DecidableEq, Repr

inductive Direction where
  | asc | desc
  deriving DecidableEq, Repr

/-- A value of a column. -/
inductive Value where
  | none
  | int (n : ℤ)
  | str (s : String)
  deriving DecidableEq, Repr

/-- `a < b`. -/
def Value.lt : Value → Value → Except ListExn Bool
  | .int a, .int b => pure (a < b)
  | .str a, .str b => pure (a < b)
  | _, _ => throw .typeError

/-- The value of a message: `itemgetter(order)`. -/
def Order.value (order : Order) (message : ListedMessage) : Value :=
  match order with
  | .id => .str message.result.id
  | .callerIdName => message.result.callerIdName.elim .none .str
  | .duration => .int message.result.duration
  | .timestamp => .int message.result.timestamp

/-- `_Slicer.__call__`. -/
def slicer (limit offset : Option ℕ) (order : Option Order) (direction : Option Direction)
    (messages : List ListedMessage) : Except ListExn (List ListedMessage) := do
  let messages ← match order with
    | none => pure messages
    | some order =>
      let lt a b := (order.value a).lt (order.value b)
      -- `reverse=True` keeps the order of equal elements
      if direction.getD .asc = .desc then do
        let sorted ← sortM lt messages.reverse
        pure sorted.reverse
      else sortM lt messages
  pure (slice limit (offset.getD 0) messages)

/-- `list_messages_infos`. -/
def listMessagesInfos (disk : Disk) (vmConfs : List VmConf) (limit offset : Option ℕ)
    (order : Option Order) (direction : Option Direction) :
    Except ListExn (List ListedMessage) := do
  let messages ← (allMessages disk vmConfs).mapError .storage
  slicer limit offset order direction messages

/-! ## Sorting on a column -/

/-- The value comes before the other one, or is the same. -/
def Value.le : Value → Value → Prop
  | .int a, .int b => a ≤ b
  | .str a, .str b => a ≤ b
  | _, _ => False

/-- One message may precede the other one. -/
def Precedes (order : Order) (direction : Option Direction) (a b : ListedMessage) : Prop :=
  if direction.getD .asc = .desc then (order.value b).le (order.value a)
  else (order.value a).le (order.value b)

/-- The page is a slice of the messages, ordered on the column. -/
def IsPage (order : Order) (direction : Option Direction) (limit offset : Option ℕ)
    (messages page : List ListedMessage) : Prop :=
  ∃ sorted : List ListedMessage, sorted.Perm messages ∧
    sorted.Pairwise (Precedes order direction) ∧ page = slice limit (offset.getD 0) sorted

section Slicer

variable {order : Order} {direction : Option Direction} {limit offset : Option ℕ}
  {messages : List ListedMessage}

/-- The slicer, when the column is sorted by a key. -/
theorem slicer_of_key {κ : Type} [LinearOrder κ] (key : ListedMessage → κ)
    (hlt : ∀ a ∈ messages, ∀ b ∈ messages,
      (order.value b).lt (order.value a) = .ok (decide (key b < key a)))
    (hle : ∀ a ∈ messages, ∀ b ∈ messages,
      key a ≤ key b → (order.value a).le (order.value b)) :
    ∃ page, slicer limit offset (some order) direction messages = .ok page ∧
      IsPage order direction limit offset messages page := by
  let r : ListedMessage → ListedMessage → Prop := fun a b => key a ≤ key b
  have hsort (l : List ListedMessage) (hl : l.Perm messages) :
      sortM (fun a b => (order.value a).lt (order.value b)) l = .ok (l.insertionSort r) := by
    refine sortM_eq fun a ha b hb => ?_
    rw [hlt a (hl.mem_iff.mp ha) b (hl.mem_iff.mp hb)]
    simp [r]
  have hsorted (l : List ListedMessage) (hl : l.Perm messages) :
      (l.insertionSort r).Pairwise fun a b => (order.value a).le (order.value b) := by
    have : Std.Total r := ⟨fun a b => le_total (key a) (key b)⟩
    have : IsTrans ListedMessage r := ⟨fun a b c => le_trans⟩
    have hpairwise : (l.insertionSort r).Pairwise r := List.pairwise_insertionSort r l
    refine hpairwise.imp_of_mem fun {a b} ha hb hab => ?_
    exact hle a (hl.mem_iff.mp ((List.mem_insertionSort r).mp ha)) b
      (hl.mem_iff.mp ((List.mem_insertionSort r).mp hb)) hab
  unfold slicer
  by_cases hdesc : direction.getD .asc = .desc
  · have hperm := List.reverse_perm messages
    refine ⟨_, ?_, ((messages.reverse).insertionSort r).reverse, ?_, ?_, rfl⟩
    · simp [hdesc, hsort _ hperm, bind, Except.bind, pure, Except.pure]
    · exact (List.reverse_perm _).trans ((List.perm_insertionSort r _).trans hperm)
    · rw [List.pairwise_reverse]
      refine (hsorted _ hperm).imp fun {a b} hab => ?_
      unfold Precedes
      rwa [if_pos hdesc]
  · refine ⟨_, ?_, messages.insertionSort r, ?_, ?_, rfl⟩
    · simp [hdesc, hsort _ (.refl _), bind, Except.bind, pure, Except.pure]
    · exact List.perm_insertionSort r _
    · refine (hsorted _ (.refl _)).imp fun {a b} hab => ?_
      unfold Precedes
      rwa [if_neg hdesc]

/-- A column whose values are all there is sorted. -/
theorem slicer_of_values (h : ∀ m ∈ messages, order.value m ≠ .none) :
    ∃ page, slicer limit offset (some order) direction messages = .ok page ∧
      IsPage order direction limit offset messages page := by
  cases order with
  | id => exact slicer_of_key (·.result.id) (fun _ _ _ _ => rfl) fun _ _ _ _ hab => hab
  | duration => exact slicer_of_key (·.result.duration) (fun _ _ _ _ => rfl) fun _ _ _ _ hab => hab
  | timestamp =>
    exact slicer_of_key (·.result.timestamp) (fun _ _ _ _ => rfl) fun _ _ _ _ hab => hab
  | callerIdName =>
    have hname (m : ListedMessage) (hm : m ∈ messages) :
        Order.callerIdName.value m = .str (m.result.callerIdName.getD "") := by
      have := h m hm
      unfold Order.value at this ⊢
      cases hcaller : m.result.callerIdName with
      | none => simp [hcaller] at this
      | some name => rfl
    refine slicer_of_key (fun m => m.result.callerIdName.getD "") (fun a ha b hb => ?_) ?_
    · rw [hname a ha, hname b hb]
      rfl
    · intro a ha b hb hab
      rw [hname a ha, hname b hb]
      exact hab

/-- A single message needs no comparison. -/
theorem slicer_of_short (h : messages.length ≤ 1) :
    ∃ page, slicer limit offset (some order) direction messages = .ok page ∧
      IsPage order direction limit offset messages page := by
  have hpage (hsorted : sortM (fun a b => (order.value a).lt (order.value b)) messages =
      .ok messages) (hreverse : messages.reverse = messages) :
      slicer limit offset (some order) direction messages =
        .ok (slice limit (offset.getD 0) messages) := by
    unfold slicer
    by_cases hdesc : direction.getD .asc = .desc <;>
      simp [hdesc, hsorted, hreverse, bind, Except.bind, pure, Except.pure]
  rcases messages with _ | ⟨m, _ | ⟨m', messages⟩⟩
  · exact ⟨_, hpage rfl rfl, [], .refl _, .nil, rfl⟩
  · exact ⟨_, hpage rfl rfl, [m], .refl _, List.pairwise_singleton _ m, rfl⟩
  · simp at h

/-- Two values compare unless one of them is missing. -/
theorem Value.lt_error {a b : Value} {e : ListExn} (h : a.lt b = .error e) : e = .typeError := by
  cases a <;> cases b <;> cases h <;> rfl

/-- A missing value does not compare with any other. -/
theorem Value.lt_none {a b : Value} (h : a = .none ∨ b = .none) : b.lt a = .error .typeError := by
  rcases h with rfl | rfl
  · cases b <;> rfl
  · rfl

theorem slicer_raises (hlength : 2 ≤ messages.length) (h : ∃ m ∈ messages, order.value m = .none) :
    slicer limit offset (some order) direction messages = .error .typeError := by
  have hsort (l : List ListedMessage) (hl : l.Perm messages) :
      sortM (fun a b => (order.value a).lt (order.value b)) l = .error .typeError := by
    have hnone : ∃ m ∈ l, order.value m = .none := by
      obtain ⟨m, hm, hnone⟩ := h
      exact ⟨m, hl.mem_iff.mpr hm, hnone⟩
    refine sortM_raises (fun a b hab => ?_) ?_ ?_ hnone
    · exact Value.lt_none hab
    · exact fun a b e' he => Value.lt_error he
    · exact hl.length_eq ▸ hlength
  unfold slicer
  by_cases hdesc : direction.getD .asc = .desc
  · simp [hdesc, hsort _ (List.reverse_perm messages), bind, Except.bind]
  · simp [hdesc, hsort _ (.refl _), bind, Except.bind]

end Slicer

/-- **A listing returns the page of the messages that is asked for, ordered on the column,
exactly when no message has no value there, or there is one message at most.** -/
theorem listing_sorted_iff (disk : Disk) (vmConfs : List VmConf) (limit offset : Option ℕ)
    (order : Order) (direction : Option Direction) (messages : List ListedMessage)
    (read : allMessages disk vmConfs = .ok messages) :
    (∃ page, listMessagesInfos disk vmConfs limit offset (some order) direction = .ok page ∧
      IsPage order direction limit offset messages page) ↔
      messages.length ≤ 1 ∨ ∀ m ∈ messages, order.value m ≠ .none := by
  have hlist : listMessagesInfos disk vmConfs limit offset (some order) direction =
      slicer limit offset (some order) direction messages := by
    unfold listMessagesInfos
    rw [read]
    rfl
  rw [hlist]
  constructor
  · rintro ⟨page, hpage, -⟩
    by_contra hnot
    obtain ⟨hlength, hnone⟩ := not_or.mp hnot
    push Not at hlength hnone
    rw [slicer_raises hlength hnone] at hpage
    cases hpage
  · rintro (hlength | hvalues)
    · exact slicer_of_short hlength
    · exact slicer_of_values hvalues

/-! ## A caller without a name -/

/-- The inbox of a mailbox, with a message of every caller that is given. -/
def inboxOf (callers : List (Option String)) : Disk where
  contexts := .ok []
  files _ _ path :=
    if path = "INBOX" then
      .ok ((callers.zipIdx).map fun (caller, n) =>
        ("msg" ++ toString n ++ ".txt", .ok (some ⟨caller, some "1000", toString n, n, 1, false⟩)))
    else .error .enoent

def mailbox : VmConf := ⟨1, "alice", "8000", "default", "personal"⟩

/-- **Two messages, one of them of a caller without a name, are read but cannot be listed by the
name.** -/
theorem unnamed_caller_raises :
    (∃ messages, allMessages (inboxOf [some "bob", none]) [mailbox] = .ok messages) ∧
      listMessagesInfos (inboxOf [some "bob", none]) [mailbox] none none (some .callerIdName)
        none = .error .typeError :=
  ⟨⟨_, rfl⟩, rfl⟩

/-- Where both callers have a name, the messages are listed by it. -/
theorem listing_sorted_iff_named :
    ∃ messages, allMessages (inboxOf [some "carol", some "bob"]) [mailbox] = .ok messages ∧
      ((∃ page, listMessagesInfos (inboxOf [some "carol", some "bob"]) [mailbox] none none
          (some .callerIdName) none = .ok page ∧
          IsPage .callerIdName none none none messages page) ↔
        messages.length ≤ 1 ∨ ∀ m ∈ messages, Order.callerIdName.value m ≠ .none) :=
  ⟨_, rfl, listing_sorted_iff _ _ _ _ _ _ _ rfl⟩

end Calld.Voicemails
