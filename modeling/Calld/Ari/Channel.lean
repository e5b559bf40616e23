/-
# The channel helper

`Channel` reads the variables of a channel, either from a snapshot of the channel that ARI
has sent, or from Asterisk.  A snapshot embeds the variables that `ari.conf` lists; what it
does not embed is read from Asterisk all the same.

A read that raises `ARINotFound` gives `none`.
-/
import Mathlib

namespace Calld.Ari

/-! ## Numbers -/

/-- The zeros of the scripts whose decimal digits `int` reads; the other digits follow. -/
def decimalZeros : List Nat :=
  [0x30, 0x660, 0x6F0, 0x7C0, 0x966, 0x9E6, 0xA66, 0xAE6, 0xB66, 0xBE6, 0xC66, 0xCE6, 0xD66,
    0xDE6, 0xE50, 0xED0, 0xF20, 0x1040, 0x1090, 0x17E0, 0x1810, 0x1946, 0x19D0, 0x1A80, 0x1A90,
    0x1B50, 0x1BB0, 0x1C40, 0x1C50, 0xA620, 0xA8D0, 0xA900, 0xA9D0, 0xA9F0, 0xAA50, 0xABF0,
    0xFF10, 0x104A0, 0x10D30, 0x11066, 0x110F0, 0x11136, 0x111D0, 0x112F0, 0x11450, 0x114D0,
    0x11650, 0x116C0, 0x11730, 0x118E0, 0x11950, 0x11C50, 0x11D50, 0x11DA0, 0x16A60, 0x16AC0,
    0x16B50, 0x1D7CE, 0x1D7D8, 0x1D7E2, 0x1D7EC, 0x1D7F6, 0x1E140, 0x1E2F0, 0x1E950, 0x1FBF0]

/-- The value of a decimal digit. -/
def digitValue (c : Char) : Option Nat :=
  decimalZeros.findSome? fun first =>
    if first ≤ c.toNat ∧ c.toNat ≤ first + 9 then some (c.toNat - first) else none

/-- `str.isspace`, for one character. -/
def isSpace (c : Char) : Bool :=
  let n := c.toNat
  (9 ≤ n && n ≤ 13) || (28 ≤ n && n ≤ 32) || n = 0x85 || n = 0xA0 || n = 0x1680 ||
    (0x2000 ≤ n && n ≤ 0x200A) || n = 0x2028 || n = 0x2029 || n = 0x202F || n = 0x205F ||
    n = 0x3000

/-- Digits, with single underscores between them; `after` tells that a digit comes before. -/
def readDigits (value : Nat) (after : Bool) : List Char → Option Nat
  | [] => if after then some value else none
  | '_' :: cs => if after then readDigits value false cs else none
  | c :: cs => (digitValue c).bind fun d => readDigits (10 * value + d) true cs

/-- `str.strip`. -/
def strip (cs : List Char) : List Char :=
  ((cs.dropWhile isSpace).reverse.dropWhile isSpace).reverse

/-- `int`, which raises `ValueError` on what is not a number, or has too many digits. -/
def int (text : String) : Option Int :=
  let read cs := if (cs.filter (· ≠ '_')).length ≤ 4300 then readDigits 0 false cs else none
  match strip text.toList with
  | '-' :: cs => (read cs).map fun n => -(n : Int)
  | '+' :: cs => (read cs).map fun n => (n : Int)
  | cs => (read cs).map fun n => (n : Int)

/-- The empty string is no number. -/
theorem int_empty : int "" = none := rfl

example : int " -1_0 " = some (-10) := by decide

/-! ## Channels of Asterisk -/

/-- A party of a channel. -/
structure CallerId where
  name : String
  number : String
  deriving DecidableEq, Repr

structure Dialplan where
  context : String
  exten : String
  deriving DecidableEq, Repr

/-- `channel.json`: what ARI sends of a channel; `channelvars` has the listed variables. -/
structure Snapshot where
  id : String
  name : String
  state : String
  caller : CallerId
  connected : CallerId
  dialplan : Dialplan
  creationtime : String
  channelvars : String → Option String

structure Bridge where
  id : String
  channels : List String
  deriving DecidableEq, Repr

/-- Asterisk: its channels, as `channels.get` answers them, their variables, of which an
unset one is `none`, and its bridges. -/
structure Asterisk where
  get : String → Option Snapshot
  getChannelVar : String → String → Option String
  bridges : List Bridge

/-! ## The helper -/

/-- `Channel(channel_id, ari, snapshot)`. -/
structure Channel where
  id : String
  ari : Asterisk
  snapshot : Option Snapshot

namespace Channel

variable (channel : Channel)

/-- `get_var`. -/
def getVar (var : String) : Option String :=
  match channel.snapshot.bind (·.channelvars var) with
  | some value => if value ≠ "" then some value else none
  | none => channel.ari.getChannelVar channel.id var

/-- `is_local`. -/
def isLocal : Bool :=
  match channel.snapshot with
  | some snapshot => "Local/".isPrefixOf snapshot.name
  | none =>
    match channel.ari.get channel.id with
    | none => false
    | some json => "Local/".isPrefixOf json.name

/-- `user`. -/
def user (default : Option String) : Option String :=
  if channel.isLocal then
    match channel.getVar "WAZO_DEREFERENCED_USERUUID" with
    | none => default
    | some uuid => some uuid
  else
    match channel.getVar "WAZO_USERUUID" with
    | none => default
    | some uuid => some uuid

/-- `tenant_uuid`. -/
def tenantUuid (default : Option String) : Option String :=
  match channel.getVar "WAZO_TENANT_UUID" with
  | none => default
  | some tenantUuid => some tenantUuid

/-- `conversation_id`. -/
def conversationId : Option String := channel.getVar "CHANNEL(linkedid)"

/-- `is_caller`. -/
def isCaller : Bool :=
  match channel.getVar "WAZO_USER_OUTGOING_CALL" with
  | some userOutgoingCall => userOutgoingCall = "true"
  | none =>
    match channel.getVar "WAZO_CHANNEL_DIRECTION" with
    | some direction => direction = "to-wazo"
    | none => false

/-- A flag is read: unset ones are false. -/
def flag (var value : String) : Bool :=
  match channel.getVar var with
  | some read => read = value
  | none => false

/-- `is_sip`. -/
def isSip : Bool := channel.flag "CHANNEL(channeltype)" "PJSIP"

/-- `on_hold`. -/
def onHold : Bool := channel.flag "XIVO_ON_HOLD" "1"

/-- `muted`. -/
def muted : Bool := channel.flag "WAZO_CALL_MUTED" "1"

/-- `parked`. -/
def parked : Bool := channel.flag "WAZO_CALL_PARKED" "1"

/-- `is_progress`. -/
def isProgress : Bool := channel.flag "WAZO_CALL_PROGRESS" "1"

/-- `dialed_extension`. -/
def dialedExtension : Option String :=
  match channel.getVar "WAZO_ENTRY_EXTEN" with
  | some exten => some exten
  | none =>
    match channel.snapshot with
    | some snapshot => some snapshot.dialplan.exten
    | none => (channel.ari.get channel.id).map (·.dialplan.exten)

/-- `sip_call_id_unsafe`. -/
def sipCallIdUnsafe : Option String :=
  match channel.snapshot with
  | some _ =>
    match channel.getVar "WAZO_SIP_CALL_ID" with
    | some callId => some callId
    | none => channel.getVar "CHANNEL(pjsip,call-id)"
  | none => channel.getVar "CHANNEL(pjsip,call-id)"

/-- `sip_call_id`. -/
def sipCallId : Option String := if channel.isSip then channel.sipCallIdUnsafe else none

/-- `line_id`; a malformed one is logged. -/
def lineId : Option Int := (channel.getVar "WAZO_LINE_ID").bind int

/-- `switchboard_timeout`; an invalid one is ignored. -/
def switchboardTimeout : Option Int :=
  match channel.getVar "WAZO_SWITCHBOARD_TIMEOUT" with
  | none => none
  | some timeout => if timeout = "" then none else int timeout

/-- `connected_channels`, each of them once. -/
def connectedChannels (bridges : List Bridge) (channelsById : String → Option Snapshot) :
    List Channel :=
  let channelIds := (bridges.filter (channel.id ∈ ·.channels)).flatMap (·.channels)
  (channelIds.dedup.erase channel.id).map fun channelId =>
    ⟨channelId, channel.ari, channelsById channelId⟩

end Channel

end Calld.Ari
