/-
# The parameters of a transfer on their way through the dialplan

A transfer whose channels are not in stasis leaves its parameters on the initiator, in channel
variables, and reads them back when both channels have come to stasis.
-/
import Calld.Transfers.AriHelpers
import Calld.Transfers.JsonText
import Calld.Transfers.Run

namespace Calld.Transfers

open Effect Effect.Program AriHelpers

variable {reprFloat : String → String} {env env' : Env} {s s' : System} {c : ChannelId}

/-- What `json.loads` has made of a text. -/
def Decoded.ofJson : Json → Decoded
  | .obj vars => .object vars
  | _ => .other

/-- `json.dumps` and `json.loads` of a dictionary are Python's. -/
structure Env.SpeaksJson (reprFloat : String → String) (env : Env) : Prop where
  dumps : ∀ vars, env.dumps (.object vars) = (Json.obj vars).dumps
  loads : ∀ text, env.loads text = (Json.loads reprFloat text).map Decoded.ofJson

/-- `getChannelVar` answers with the value that has been written. -/
def Env.ReadsWrites (env : Env) : Prop :=
  ∀ n a c name value, a.channelVariables c name = some value →
    env.ari n a (.channelsGetVar c name) = .ok value

/-! ## Writing -/

/-- The channel variables once they have been set, one after the other. -/
def Asterisk.setAll (a : Asterisk) (xs : List (ChannelId × String × String)) : Asterisk :=
  xs.foldl (fun a (c, name, value) => a.apply (.channelsSetVar c name value)) a

/-- When all the requests have succeeded, all the variables are set. -/
theorem forM_setVar {xs : List (ChannelId × String × String)}
    (h : (xs.forM fun (c, name, value) => ari (.channelsSetVar c name value)) env s =
      (.ok (), s')) : s'.asterisk = s.asterisk.setAll xs := by
  induction xs generalizing s with
  | nil =>
    cases h
    rfl
  | cons x xs ih =>
    obtain ⟨c, name, value⟩ := x
    change (ari (.channelsSetVar c name value) >>= fun _ => _) env s = _ at h
    rw [bind_apply] at h
    cases hset : env.ari s.tick s.asterisk (.channelsSetVar c name value) with
    | error e =>
      simp only [ari, hset] at h
      cases h
    | ok u =>
      simp only [ari, hset] at h
      exact ih h

/-- The redirection leaves the variables as they are. -/
theorem convertTransferToStasis_writes {transferred initiator : ChannelId}
    {context exten : String} {id : TransferId} {vars : Decoded} {timeout : Option ℤ}
    (h : convertTransferToStasis transferred initiator context exten id vars timeout env s =
      (.ok (), s')) :
    s'.asterisk = s.asterisk.setAll (transferVariables transferred initiator context exten id
      (dumpVariables env vars) (timeoutStr timeout)) := by
  rw [convertTransferToStasis, bind_apply, ask_apply] at h
  dsimp only at h
  rw [bind_apply] at h
  rcases hset : ((transferVariables transferred initiator context exten id
    (dumpVariables env vars) (timeoutStr timeout)).forM fun (c, name, value) =>
      ari (.channelsSetVar c name value)) env s with ⟨e | ⟨⟩, u⟩
  · rw [hset] at h
    cases h
  · rw [hset] at h
    have hasterisk : s'.asterisk = u.asterisk := by
      simp only [Ami.redirect, Ami.request, ami] at h
      split at h <;> cases h
      rfl
    rw [hasterisk, forM_setVar hset]

/-- What the initiator has then. -/
theorem setAll_transferVariables (a : Asterisk) (transferred initiator : ChannelId)
    (context exten channelVariables timeout : String) (id : TransferId) :
    let vars := (a.setAll (transferVariables transferred initiator context exten id
      channelVariables timeout)).channelVariables initiator
    vars "XIVO_TRANSFER_RECIPIENT_CONTEXT" = some context ∧
      vars "XIVO_TRANSFER_RECIPIENT_EXTEN" = some exten ∧
      vars "XIVO_TRANSFER_VARIABLES" = some channelVariables ∧
      vars "XIVO_TRANSFER_TIMEOUT" = some timeout := by
  simp [Asterisk.setAll, transferVariables, Asterisk.apply, Function.update]

/-! ## Reading -/

/-- A text that `json.dumps` has written, or the `{}` that stands for no variables. -/
theorem loads_dumpVariables {vars : Variables} (hdumps : env.SpeaksJson reprFloat)
    (hloads : env'.SpeaksJson reprFloat) (hvars : (Json.obj vars).Valid reprFloat) :
    env'.loads (dumpVariables env (.object vars)) = some (.object vars) := by
  have htext : dumpVariables env (.object vars) = (Json.obj vars).dumps := by
    cases vars with
    | nil => rfl
    | cons x vars => exact hdumps.dumps _
  rw [htext, hloads.loads, Json.loads_dumps hvars]
  rfl

/-- A number starts with a sign or with a digit. -/
theorem timeoutStr_ne_none (n : ℤ) : timeoutStr (some n) ≠ "None" := by
  intro h
  have hrepr : n.repr.toList = "None".toList := congrArg String.toList h
  obtain ⟨c, cs, htext, hc⟩ := (Json.numberOf_valid n).head
  rw [Json.numberOf_text, hrepr] at htext
  obtain rfl : 'N' = c := (List.cons.inj htext).1
  rcases hc with hc | hc <;> cases hc

theorem getVar_written (hreads : env.ReadsWrites) {name value : String}
    (h : s.asterisk.channelVariables c name = some value) :
    Channel.getVar c name env s = (.ok value, { s with tick := s.tick + 1 }) := by
  simp only [Channel.getVar, ari, hreads _ _ _ _ _ h]
  rfl

/-- The variables are read back, and the parameters are made of them again. -/
theorem getInitialTransferVariables_written (hreads : env.ReadsWrites)
    {context exten channelVariables : String} {vars : Decoded} {timeout : Option ℤ}
    (hcontext : s.asterisk.channelVariables c "XIVO_TRANSFER_RECIPIENT_CONTEXT" = some context)
    (hexten : s.asterisk.channelVariables c "XIVO_TRANSFER_RECIPIENT_EXTEN" = some exten)
    (hvariables : s.asterisk.channelVariables c "XIVO_TRANSFER_VARIABLES" = some channelVariables)
    (htimeout : s.asterisk.channelVariables c "XIVO_TRANSFER_TIMEOUT" = some (timeoutStr timeout))
    (hloads : env.loads channelVariables = some vars) :
    ∃ u, getInitialTransferVariables c env s = (.ok ⟨context, exten, vars, timeout⟩, u) := by
  refine ⟨{ s with tick := s.tick + 4 }, ?_⟩
  have hread (k : ℕ) {name value : String} (h : s.asterisk.channelVariables c name = some value) :
      Channel.getVar c name env { s with tick := s.tick + k } =
        (.ok value, { s with tick := s.tick + k + 1 }) := getVar_written hreads h
  simp only [getInitialTransferVariables, catching, bind_apply, pure_apply,
    getVar_written hreads hcontext, hread 1 hexten, hread 2 hvariables, hread 3 htimeout,
    ask_apply, hloads, Option.getD_some]
  cases timeout with
  | none => rfl
  | some n =>
    have hint : (timeoutStr (some n)).toInt? = some n := Int.toInt?_repr n
    simp only [timeoutStr_ne_none, if_false, hint, pure_apply]

/-- **The parameters of a transfer survive the trip through the dialplan.**  Once
`convert_transfer_to_stasis` has succeeded, `get_initial_transfer_variables` gives back what it
was given, as long as the initiator keeps its variables. -/
theorem parameters_survive (hdumps : env.SpeaksJson reprFloat) (hloads : env'.SpeaksJson reprFloat)
    (hreads : env'.ReadsWrites) {transferred initiator : ChannelId} {context exten : String}
    {id : TransferId} {vars : Variables} {timeout : Option ℤ}
    (hvars : (Json.obj vars).Valid reprFloat)
    (hwritten : convertTransferToStasis transferred initiator context exten id (.object vars)
      timeout env s = (.ok (), s'))
    {u : System} (hkept : u.asterisk.channelVariables initiator =
      s'.asterisk.channelVariables initiator) :
    ∃ u', getInitialTransferVariables initiator env' u =
      (.ok ⟨context, exten, .object vars, timeout⟩, u') := by
  have hasterisk := convertTransferToStasis_writes hwritten
  obtain ⟨hcontext, hexten, hvariables, htimeout⟩ := setAll_transferVariables s.asterisk transferred
    initiator context exten (dumpVariables env (.object vars)) (timeoutStr timeout) id
  rw [← hasterisk, ← hkept] at hcontext hexten hvariables htimeout
  exact getInitialTransferVariables_written hreads hcontext hexten hvariables htimeout
    (loads_dumpVariables hdumps hloads hvars)

/-! ## A trip on fixed inputs -/

/-- Everything succeeds, a channel has the variables that it has been given, and `json` is
Python's. -/
def Env.speaking (id : TransferId) (recipient : ChannelId) : Env :=
  { Env.calm id recipient with
    dumps := fun vars => match vars with
      | .object vars => (Json.obj vars).dumps
      | .other => ""
    loads := fun text => (Json.loads (fun lexeme => lexeme) text).map Decoded.ofJson }

theorem Env.speaking_speaksJson (id : TransferId) (recipient : ChannelId) :
    (Env.speaking id recipient).SpeaksJson fun lexeme => lexeme := ⟨fun _ => rfl, fun _ => rfl⟩

theorem Env.speaking_readsWrites (id : TransferId) (recipient : ChannelId) :
    (Env.speaking id recipient).ReadsWrites := by
  intro n a c name value h
  change Except.ok ((a.channelVariables c name).getD "user") = _
  rw [h]
  rfl

/-- When ARI and wazo-amid accept the requests, the channels are on their way. -/
theorem speaking_converts (id : TransferId) (recipient transferred initiator : ChannelId)
    (context exten : String) (vars : Decoded) (timeout : Option ℤ) (s : System) :
    ∃ s', convertTransferToStasis transferred initiator context exten id vars timeout
      (Env.speaking id recipient) s = (.ok (), s') := by
  have hset (xs : List (ChannelId × String × String)) (s : System) :
      ∃ s', (xs.forM fun (c, name, value) => ari (.channelsSetVar c name value))
        (Env.speaking id recipient) s = (.ok (), s') := by
    induction xs generalizing s with
    | nil => exact ⟨s, rfl⟩
    | cons x xs ih => exact ih _
  rw [convertTransferToStasis, bind_apply, ask_apply]
  dsimp only
  obtain ⟨u, hu⟩ := hset (transferVariables transferred initiator context exten id
    (dumpVariables (Env.speaking id recipient) vars) (timeoutStr timeout)) s
  exact ⟨_, by rw [bind_apply, hu]; rfl⟩

namespace Scene

/-- An empty dictionary in a list, a key that is empty and a value that is nothing. -/
def nested : Variables := [("a", .arr [.obj [], .int (-1)]), ("", .null)]

end Scene

open Scene

/-- No context, nested variables and a timeout of zero come back. -/
theorem parameters_survive_nested :
    ∃ s', convertTransferToStasis bob alice "" "1000" "t1" (.object nested) (some 0)
        (Env.speaking "t1" carol) .start = (.ok (), s') ∧
      ∃ u, getInitialTransferVariables alice (Env.speaking "t1" carol) s' =
        (.ok ⟨"", "1000", .object nested, some 0⟩, u) := by
  have hspeaks := Env.speaking_speaksJson "t1" carol
  obtain ⟨s', hwritten⟩ := speaking_converts "t1" carol bob alice "" "1000" (.object nested)
    (some 0) .start
  exact ⟨s', hwritten, parameters_survive hspeaks hspeaks (Env.speaking_readsWrites "t1" carol)
    (by simp [nested, Json.Valid, Json.ValidFields, Json.ValidItems]) hwritten rfl⟩

end Calld.Transfers
