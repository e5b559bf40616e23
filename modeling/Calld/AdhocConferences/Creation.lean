/-
# What a creation reports

`create_from_user` announces the conference and then redirects the host with its peer, and the
participants one after the other.  Some failures on the way are logged only, and the id of the
conference is returned although a channel was never asked to move; the peers are looked up once
more without the guards of the first look-up; and the announcement comes before the first
channel that may be gone.

The report of its dialogue tells whether any of these has happened, and the answer that the
caller gets is truthful exactly when none has.
-/
import Calld.AdhocConferences.Reports

namespace Calld.AdhocConferences

open Effect Effect.Interactive

/-! ## What the caller is told -/

/-- The answer to the caller: the id of a conference to which the host, its peer and every
participant were asked to move, or an error of the API or of the manager, without an announcement
of a conference to which nobody was asked. -/
def Truthful (uuid4 hostCallId : String) (participantCallIds : List String)
    (l : List (Exchange Request Request.Reply Exn)) : Except Exn String → Prop
  | .ok adhocConferenceId =>
    let k := report .createFromUser adhocConferenceId l
    hostCallId ∈ k.asked ∧ (∃ peer ∈ k.peer, peer ∈ k.asked) ∧
      ∀ c ∈ participantCallIds, c ∈ k.asked
  | .error e =>
    let k := report .createFromUser uuid4 l
    e.isReported = true ∧ (k.created = true → k.asked ≠ [])

/-- No error escapes, no channel is found to be gone between the announcement and the first
request to move, and no channel is given up, unless the operation is refused afterwards. -/
def Clean (uuid4 : String) (l : List (Exchange Request Request.Reply Exn)) : Prop :=
  let k := report .createFromUser uuid4 l
  k.escaped = false ∧ k.early = false ∧ (k.missed = true → k.late = true)

/-! ## The checks -/

section Contracts

variable {id h p c userUuid : String} {k : Report}

/-- Nothing is seen of the checks but the peer of the host. -/
def Report.Checked (k : Report) : Prop := ∃ peer, k = { Report.blank with peer := peer }

/-- How a check ends when it raises. -/
def Declines (k : Report) (e : Exn) : Prop := Escapes k e ∨ (∃ a, e = .api a) ∧ k.Checked

theorem declines_of_api {k' : Report} {e : Exn} (hk : k.Checked)
    (he : Escapes k' e ∨ (∃ a, e = .api a) ∧ k' = k) : Declines k' e := by
  rcases he with he | ⟨ha, rfl⟩
  · exact .inl he
  · exact .inr ⟨ha, hk⟩

theorem tells_checkParticipant (hk : k = { Report.blank with peer := some p }) :
    Tells .createFromUser id (fun k' _ => k' = k) Declines k (checkParticipant userUuid c) := by
  have hc : k.created = false := by rw [hk]; rfl
  have hchecked : k.Checked := ⟨some p, hk⟩
  refine (tells_exists hc).after (fun k' found hk' => ?_) fun _ _ he => .inl he
  subst hk'
  cases found with
  | false => exact Ends.throw (.inr ⟨⟨_, rfl⟩, hchecked⟩)
  | true =>
    refine (tells_findPeerOr hc).after (fun k₁ peer hk₁ => ?_)
      fun _ _ he => declines_of_api hchecked he
    -- the peer of the host is the first that was found
    obtain rfl : k₁ = k' := by rw [hk₁.1, hk]; rfl
    refine (tells_user hc).after (fun k₂ user hk₂ => ?_) fun _ _ he => .inl he
    subst hk₂
    show Tells _ _ _ _ _ (if user = some userUuid then _ else _)
    by_cases hu : user = some userUuid
    · rw [if_pos hu]
      exact Ends.pure rfl
    · rw [if_neg hu]
      exact Ends.throw (.inr ⟨⟨_, rfl⟩, hchecked⟩)

theorem tells_checkCreation {participants : List String} :
    Tells .createFromUser id
      (fun k' peer => k' = { Report.blank with peer := some peer } ∧ peer ≠ h) Declines .blank
      (checkCreation h participants userUuid) := by
  have hblank : Report.blank.Checked := ⟨none, rfl⟩
  refine (tells_exists rfl).after (fun k' found hk' => ?_) fun _ _ he => .inl he
  subst hk'
  cases found with
  | false => exact Ends.throw (.inr ⟨⟨_, rfl⟩, hblank⟩)
  | true =>
    refine (tells_user rfl).after (fun k' user hk' => ?_) fun _ _ he => .inl he
    subst hk'
    show Tells _ _ _ _ _ (if user = some userUuid then _ else _)
    by_cases hu : user = some userUuid
    · rw [if_pos hu]
      refine (tells_findPeerOr rfl).after (fun k' peer hk' => ?_)
        fun _ _ he => declines_of_api hblank he
      obtain ⟨rfl, hpeer⟩ := hk'
      have hloop : Tells .createFromUser id
          (fun k' _ => k' = { Report.blank with peer := some peer }) Declines
          (Report.blank.found peer) (participants.forM (checkParticipant userUuid)) :=
        tells_forM (I := fun _ _ k' => k' = { Report.blank with peer := some peer })
          (fun _ c _ k' hk' =>
            (tells_checkParticipant hk').mono (fun _ _ h => h.trans hk') fun _ _ he => he) rfl
      exact hloop.after (fun k' _ hk' => Ends.pure ⟨hk', hpeer⟩) fun _ _ he => he
    · rw [if_neg hu]
      exact Ends.throw (.inr ⟨⟨_, rfl⟩, hblank⟩)

/-! ## The redirections -/

/-- Of the host, its peer and the participants that the operation is through with, all have been
asked to move, unless a failure was missed, and then one was not. -/
structure Told (h p : String) (done : List String) (k : Report) : Prop where
  created : k.created = true
  peer : k.peer = some p
  calm : k.Calm
  only : ∀ c ∈ k.asked, c = h ∨ c = p ∨ c ∈ done
  all : k.missed = false → h ∈ k.asked ∧ p ∈ k.asked ∧ ∀ c ∈ done, c ∈ k.asked
  missed : k.missed = true → p ∉ k.asked ∨ ∃ c ∈ done, c ∉ k.asked

theorem Hosted.told {k' : Report} (h' : Hosted h p k k') (hk : k.Calm) (hc : k.created = true)
    (hp : k.peer = some p) : Told h p [] k' where
  created := h'.created.trans hc
  peer := h'.peer.trans hp
  calm := ⟨h'.escaped.trans hk.escaped, h'.early.trans hk.early, h'.late.trans hk.late⟩
  only c hmem := (h'.only c hmem).imp_right .inl
  all hm := ⟨(h'.all hm).1, (h'.all hm).2, by simp⟩
  missed hm := .inl (h'.missed hm)

theorem Brought.told {k' : Report} {done : List String} (hk : Told h p done k)
    (h' : Brought c k k') (hcp : c ≠ p) (hc : c ∉ done) : Told h p (c :: done) k' where
  created := h'.created.trans hk.created
  peer := h'.peer.trans hk.peer
  calm := ⟨h'.escaped.trans hk.calm.escaped, h'.early.trans hk.calm.early,
    h'.late.trans hk.calm.late⟩
  only d hd := by
    have hold : d ∈ k.asked → d = h ∨ d = p ∨ d ∈ c :: done := fun hd =>
      (hk.only d hd).imp_right fun h => h.imp_right (List.mem_cons_of_mem _)
    rcases h'.asked with ha | ha <;> rw [ha] at hd
    · exact hold hd
    · rcases List.mem_cons.mp hd with rfl | hd
      · exact .inr (.inr (List.mem_cons_self ..))
      · exact hold hd
  all hm := by
    have hm₀ : k.missed = false := by
      cases hk₀ : k.missed with
      | false => rfl
      | true => exact absurd (h'.kept hk₀) (by simp [hm])
    have hcasked : c ∈ k'.asked := by
      by_contra hnot
      exact absurd (h'.given hnot) (by simp [hm])
    have hgrow : ∀ d ∈ k.asked, d ∈ k'.asked := by
      intro d hd
      rcases h'.asked with ha | ha <;> rw [ha]
      · exact hd
      · exact List.mem_cons_of_mem _ hd
    obtain ⟨hh, hp, hdone⟩ := hk.all hm₀
    refine ⟨hgrow _ hh, hgrow _ hp, fun d hd => ?_⟩
    rcases List.mem_cons.mp hd with rfl | hd
    · exact hcasked
    · exact hgrow d (hdone d hd)
  missed hm := by
    -- whoever was not asked before, and is not this participant, has not been asked since
    have hstill : ∀ d, d ≠ c → d ∉ k.asked → d ∉ k'.asked := by
      intro d hdc hd
      rcases h'.asked with ha | ha <;> rw [ha]
      · exact hd
      · simp [hdc, hd]
    rcases h'.missed hm with hm₀ | hnot | ⟨q, hq, hnot⟩
    · rcases hk.missed hm₀ with hp | ⟨d, hd, hnot⟩
      · exact .inl (hstill p (Ne.symm hcp) hp)
      · exact .inr ⟨d, List.mem_cons_of_mem _ hd, hstill d (fun e => hc (e ▸ hd)) hnot⟩
    · exact .inr ⟨c, List.mem_cons_self .., hnot⟩
    · obtain rfl : p = q := Option.some.inj (hk.peer.symm.trans hq)
      exact .inl hnot

/-- A participant that is left, of which the look-up of its peer has no guard. -/
theorem tells_bringParticipant {done : List String} (hk : Told h p done k) (hcp : c ≠ p)
    (hc : c ∉ done) :
    Tells .createFromUser id (fun k' _ => Told h p (c :: done) k') (Breaks true) k
      (bringParticipant id c) := by
  refine tells_findPeerChannel.after (fun k₁ discarded hk₁ => ?_) fun k₁ e he => ?_
  · obtain rfl : k₁ = k := by
      rw [hk₁.1]
      simp [Report.found, hk.peer]
      rw [← hk.peer]
    refine (tells_redirectParticipant (.inl rfl) hk.calm).mono (fun k' _ h' => ?_) fun k' e he => ?_
    · exact h'.told hk hcp hc
    · rwa [hk.created] at he
  · refine .inl ?_
    rcases he with ⟨⟨f, hf, rfl⟩, hk₁⟩ | ⟨he, rfl⟩
    · refine ⟨hk₁, ?_⟩
      cases f <;> first | rfl | exact absurd rfl hf
    · have hk₁ : k.unfound = k.escape := if_pos hk.created
      rw [hk₁]
      refine ⟨rfl, ?_⟩
      rcases he with rfl | ⟨l, rfl⟩ <;> rfl

/-- The participants that are left are apart from one another and from the peer. -/
theorem tells_bringParticipants {remaining : List String} (hk : Told h p [] k)
    (hp : p ∉ remaining) (hnodup : remaining.Nodup) :
    Tells .createFromUser id (fun k' _ => Told h p remaining.reverse k') (Breaks true) k
      (remaining.forM (bringParticipant id)) := by
  refine (tells_forM
    (I := fun done rest k => Told h p done k ∧ rest.Nodup ∧ ∀ c ∈ rest, c ≠ p ∧ c ∉ done)
    (fun done c rest k hk => ?_) ⟨hk, hnodup, fun c hc => ⟨fun e => hp (e ▸ hc), by simp⟩⟩).mono
    (fun k' _ h' => h'.1) fun _ _ he => he
  · obtain ⟨htold, hnodup, hrest⟩ := hk
    obtain ⟨hc, hnodup⟩ := List.nodup_cons.mp hnodup
    have hfirst := hrest c (List.mem_cons_self ..)
    refine (tells_bringParticipant htold hfirst.1 hfirst.2).mono (fun k' _ h' => ?_)
      fun _ _ he => he
    refine ⟨h', hnodup, fun d hd => ?_⟩
    have hold := hrest d (List.mem_cons_of_mem _ hd)
    refine ⟨hold.1, fun hmem => ?_⟩
    rcases List.mem_cons.mp hmem with rfl | hmem
    · exact hc hd
    · exact hold.2 hmem

/-- The answer is truthful exactly when the report is clean, of an error. -/
def Fair (k : Report) (e : Exn) : Prop :=
  (e.isReported = true ∧ (k.created = true → k.asked ≠ [])) ↔
    (k.escaped = false ∧ k.early = false ∧ (k.missed = true → k.late = true))

theorem fair_of_escapes {e : Exn} (h : Escapes k e) : Fair k e := by
  simp [Fair, h.1, h.2]

theorem fair_of_declines {e : Exn} (h : Declines k e) : Fair k e := by
  rcases h with h | ⟨⟨a, rfl⟩, ⟨peer, rfl⟩⟩
  · exact fair_of_escapes h
  · simp [Fair, Report.blank, Exn.isReported]

theorem fair_of_breaks {e : Exn} (h : Breaks true k e) : Fair k e := by
  rcases h with h | ⟨⟨a, rfl⟩, hescaped, hcreated, -, hasked⟩ |
    ⟨rfl, hescaped, hearly, hlate, hasked⟩
  · exact fair_of_escapes h
  · rcases hasked rfl with ⟨ha, hearly⟩ | ⟨ha, hearly, hlate⟩
    · simp [Fair, hcreated, ha, hearly]
    · simp [Fair, hescaped, ha, hearly, hlate, Exn.isReported]
  · simp [Fair, hescaped, hearly, hlate, hasked, Exn.isReported]

/-- `create_from_user`: the host, its peer and the participants that are left are all there is. -/
theorem tells_createFromUser (order : SetOrder String) {participants : List String} :
    Tells .createFromUser id
      (fun k a => a = id ∧ ∃ p done, Told h p done k ∧
        ∀ c, c = p ∨ c ∈ done ↔ c = p ∨ c ∈ participants) Fair .blank
      (createFromUser order id h participants userUuid) := by
  refine tells_checkCreation.after (fun k₁ p hk₁ => ?_) fun _ _ he => fair_of_declines he
  obtain ⟨rfl, hp⟩ := hk₁
  refine tells_getVar.after (fun k₂ tenantUuid hk₂ => ?_) fun _ _ he => fair_of_escapes he
  subst hk₂
  refine Ends.after (Q := fun k _ => k = { Report.blank with created := true, peer := some p })
    (tells_send (fun _ => rfl) ?_ ?_) (fun k₃ _ hk₃ => ?_) fun _ _ he => fair_of_escapes he
  · intro f _ hh
    cases hh
  · rintro f rfl -
    exact ⟨rfl, rfl⟩
  subst hk₃
  refine (tells_redirectHost ⟨rfl, rfl, rfl⟩ rfl rfl rfl hp).after (fun k₄ _ hk₄ => ?_)
    fun _ _ he => fair_of_breaks he
  have hremaining := order.2 (participants.filter (· ≠ p))
  have hmem : ∀ c, c ∈ order.1 (participants.filter (· ≠ p)) ↔ c ∈ participants ∧ c ≠ p := by
    intro c
    rw [hremaining.mem_iff]
    simp
  refine (tells_bringParticipants (hk₄.told ⟨rfl, rfl, rfl⟩ rfl rfl) (fun hc => ?_) ?_).after
    (fun k₅ _ hk₅ => Ends.pure ⟨rfl, p, _, hk₅, fun c => ?_⟩) fun _ _ he => fair_of_breaks he
  · exact ((hmem p).mp hc).2 rfl
  · exact hremaining.symm.nodup (List.nodup_dedup _)
  · rw [List.mem_reverse, hmem]
    by_cases hc : c = p <;> simp [hc]

end Contracts

/-! ## The exact condition -/

/-- **A creation is reported truthfully exactly when its dialogue is clean**, for any number of
participants, and whatever Asterisk, its manager and the bus answer to any of the requests. -/
theorem creation_truthful_iff (order : SetOrder String) (uuid4 hostCallId : String)
    (participantCallIds : List String) (userUuid : String)
    (l : List (Exchange Request Request.Reply Exn)) (y : Except Exn String)
    (possible : ∀ x ∈ l, Possible x.request x.answer)
    (run : (createFromUser order uuid4 hostCallId participantCallIds userUuid).Comes l y) :
    Truthful uuid4 hostCallId participantCallIds l y ↔ Clean uuid4 l := by
  have hends := (tells_createFromUser order).comes run possible
  cases y with
  | error e => exact hends
  | ok a =>
    obtain ⟨rfl, p, done, hk, hall⟩ := hends
    have hk : Told hostCallId p done (report .createFromUser a l) := hk
    simp only [Truthful, Clean, hk.calm.escaped, hk.calm.early, hk.calm.late, hk.peer, true_and]
    cases hm : (report .createFromUser a l).missed with
    | false =>
      obtain ⟨hhost, hpeer, hdone⟩ := hk.all hm
      refine iff_of_true ⟨hhost, ⟨p, rfl, hpeer⟩, fun c hc => ?_⟩ (by simp)
      rcases (hall c).mpr (.inr hc) with rfl | hc
      · exact hpeer
      · exact hdone c hc
    | true =>
      refine iff_of_false (fun ⟨hhost, ⟨q, hq, hpeer⟩, hparticipants⟩ => ?_) (by simp)
      obtain rfl : p = q := Option.some.inj hq
      rcases hk.missed hm with hnot | ⟨c, hc, hnot⟩
      · exact hnot hpeer
      · rcases (hall c).mp (.inr hc) with rfl | hc
        · exact hnot hpeer
        · exact hnot (hparticipants c hc)

/-! ## A host that hangs up -/

/-- Two calls of a user, whose host channels are `host` and `host-2`.  When `hangup` is true, the
host hangs up right after the announcement. -/
def twoCalls (hangup : Bool) (announced : Bool) : (r : Request) → Except Exn r.Reply × Bool
  | .channelsGet c =>
    (if c = "host" ∧ hangup = true ∧ announced = true then .error (.raised .ariNotFound)
      else .ok ("PJSIP/" ++ c), announced)
  | .getChannelVar _ v => (.ok (if v = "WAZO_USERUUID" then "user" else "tenant"), announced)
  | .bridgesList _ => (.ok [⟨"b1", ["host", "peer"]⟩, ⟨"b2", ["host-2", "friend"]⟩], announced)
  | .created .. => (.ok (), true)
  | .getGlobalVar _ => (.ok "user", announced)
  | .bridgesGet _ => (.ok [], announced)
  | .setChannelVar .. | .move .. | .hangup _ | .bridgesDestroy _ | .redirect _ =>
    (.ok (), announced)

theorem possible_twoCalls (hangup announced : Bool) (r : Request) :
    Possible r (twoCalls hangup announced r).1 := by
  cases r with
  | channelsGet c =>
    show Possible _ (if c = "host" ∧ hangup = true ∧ announced = true then _ else _)
    split
    · exact ⟨.ariNotFound, rfl, by simp [Raisable]⟩
    · trivial
  | _ => trivial

/-- Python goes through a set in the order in which the elements are given. -/
def insertionOrder : SetOrder String := ⟨List.dedup, fun _ => .refl _⟩

/-- The user makes a conference of the two calls. -/
def twoCallsCreation : Code String :=
  createFromUser insertionOrder "conf" "host" ["peer", "friend"] "user"

/-- **The conference is announced, and nobody is asked**: the host is found to be gone. -/
theorem announced_without_anyone :
    let l := dialogue (twoCalls true) twoCallsCreation false
    let y := (exec (twoCalls true) twoCallsCreation false).1
    (∀ x ∈ l, Possible x.request x.answer) ∧ twoCallsCreation.Comes l y ∧
      y = .error (.api (.adhocConferenceCreationError "host call was hungup")) ∧
      (report .createFromUser "conf" l).created = true ∧
      (report .createFromUser "conf" l).asked = [] ∧
      ¬ Truthful "conf" "host" ["peer", "friend"] l y := by
  intro l y
  have hy : y = .error (.api (.adhocConferenceCreationError "host call was hungup")) := by
    decide +kernel
  have hcreated : (report .createFromUser "conf" l).created = true := by decide +kernel
  have hasked : (report .createFromUser "conf" l).asked = [] := by decide +kernel
  refine ⟨forall_mem_dialogue (possible_twoCalls true) _ _, comes_dialogue _ _ _, hy, hcreated,
    hasked, fun h => ?_⟩
  rw [hy] at h
  exact h.2 hcreated hasked

/-- Without the hangup the three channels are asked to move. -/
theorem creation_truthful_iff_twoCalls :
    let l := dialogue (twoCalls false) twoCallsCreation false
    let y := (exec (twoCalls false) twoCallsCreation false).1
    y = .ok "conf" ∧ (report .createFromUser "conf" l).asked = ["friend", "peer", "host"] ∧
      (Truthful "conf" "host" ["peer", "friend"] l y ↔ Clean "conf" l) :=
  ⟨by decide +kernel, by decide +kernel,
    creation_truthful_iff insertionOrder "conf" "host" ["peer", "friend"] "user" _ _
      (forall_mem_dialogue (possible_twoCalls false) _ _) (comes_dialogue _ _ _)⟩

end Calld.AdhocConferences
