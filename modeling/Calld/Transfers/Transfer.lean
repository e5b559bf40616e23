/-
# Transfers

The record of a transfer (`transfer.py`): the three channels it moves, its status and
its flow, the roles of its channels and its public form.
-/
import Mathlib

namespace Calld

/-! ## Identifiers -/

/-- A channel id.  Asterisk's are never empty and the API refuses an empty one
(`Length(min=1)`), so that one is always true as a Python condition. -/
structure ChannelId where
  name : String
  nonempty : name ≠ ""
  deriving DecidableEq, Repr

abbrev TransferId := String
abbrev BridgeId := String
abbrev UserUuid := String
abbrev TenantUuid := String

namespace Transfers

/-! ## Status, flow and roles -/

/-- `InternalTransferStatus`.  All but `starting` and `invalid` name a state class. -/
inductive Status where
  | ready
  | nonStasis
  | noneMovedToStasis
  | initiatorMovedToStasis
  | transferredMovedToStasis
  | noneMovedToStasisCancelled
  | initiatorMovedToStasisCancelled
  | transferredMovedToStasisCancelled
  | ringback
  | blindTransferred
  | answered
  | abandoned
  | ended
  | starting
  | invalid
  deriving DecidableEq, Repr

/-- `FlowType`. -/
inductive Flow where
  | attended
  | blind
  deriving DecidableEq, Repr

/-- `TransferRole`. -/
inductive Role where
  | transferred
  | initiator
  | recipient
  deriving DecidableEq, Repr

namespace Status

/-- The statuses with a state class, as registered by `state_factory.state`. -/
def hasConstructor : Status → Bool
  | starting | invalid => false
  | _ => true

/-- `Transfer._public_status`: stasis-related statuses are not exposed. -/
def publicStatus : Status → Status
  | noneMovedToStasis | initiatorMovedToStasis | transferredMovedToStasis => starting
  | noneMovedToStasisCancelled | initiatorMovedToStasisCancelled
  | transferredMovedToStasisCancelled => abandoned
  | s => s

end Status

/-! ## The record -/

/-- `Transfer`. -/
structure Transfer where
  id : TransferId
  initiatorUuid : UserUuid
  initiatorTenantUuid : Option TenantUuid
  transferredCall : ChannelId
  initiatorCall : ChannelId
  recipientCall : Option ChannelId
  transferBridgeId : BridgeId
  status : Status
  flow : Flow
  deriving DecidableEq, Repr

/-- `Transfer.to_public_dict`. -/
structure PublicTransfer where
  id : TransferId
  initiatorUuid : UserUuid
  initiatorTenantUuid : Option TenantUuid
  transferredCall : ChannelId
  initiatorCall : ChannelId
  recipientCall : Option ChannelId
  status : Status
  flow : Flow
  deriving DecidableEq, Repr

namespace Transfer

/-- `Transfer.__init__` as `TransfersService.create` calls it: a bridge of the same id,
no recipient yet. -/
def init (id : TransferId) (initiatorUuid : UserUuid) (initiatorTenantUuid : Option TenantUuid)
    (initiatorCall transferredCall : ChannelId) (flow : Flow) : Transfer where
  id := id
  initiatorUuid := initiatorUuid
  initiatorTenantUuid := initiatorTenantUuid
  transferredCall := transferredCall
  initiatorCall := initiatorCall
  recipientCall := none
  transferBridgeId := id
  status := .invalid
  flow := flow

def toPublicDict (t : Transfer) : PublicTransfer where
  id := t.id
  initiatorUuid := t.initiatorUuid
  initiatorTenantUuid := t.initiatorTenantUuid
  transferredCall := t.transferredCall
  initiatorCall := t.initiatorCall
  recipientCall := t.recipientCall
  status := t.status.publicStatus
  flow := t.flow

/-- The transfer has the channel as one of its parties. -/
def names (t : Transfer) (c : ChannelId) : Bool :=
  c = t.transferredCall || c = t.initiatorCall || some c = t.recipientCall

/-- `Transfer.role`; `none` where the source raises `KeyError`. -/
def role (t : Transfer) (c : ChannelId) : Option Role :=
  if c = t.transferredCall then some .transferred
  else if c = t.initiatorCall then some .initiator
  else if some c = t.recipientCall then some .recipient
  else none

theorem role_isSome (t : Transfer) (c : ChannelId) : (t.role c).isSome = t.names c := by
  unfold role names
  split_ifs <;> simp_all

theorem role_transferred (t : Transfer) : t.role t.transferredCall = some .transferred := by
  simp [role]

theorem role_initiator {t : Transfer} (h : t.initiatorCall ≠ t.transferredCall) :
    t.role t.initiatorCall = some .initiator := by
  simp [role, h]

theorem role_recipient {t : Transfer} {c : ChannelId} (h : t.recipientCall = some c)
    (ht : c ≠ t.transferredCall) (hi : c ≠ t.initiatorCall) :
    t.role c = some .recipient := by
  simp [role, h, ht, hi]

/-- Two values of the record of one transfer: only status, flow and recipient may change. -/
structure Same (t t' : Transfer) : Prop where
  id : t'.id = t.id
  initiatorUuid : t'.initiatorUuid = t.initiatorUuid
  transferredCall : t'.transferredCall = t.transferredCall
  initiatorCall : t'.initiatorCall = t.initiatorCall

theorem Same.rfl {t : Transfer} : Same t t := ⟨Eq.refl _, Eq.refl _, Eq.refl _, Eq.refl _⟩

theorem Same.trans {t t' t'' : Transfer} (h : Same t t') (h' : Same t' t'') : Same t t'' :=
  ⟨h'.id.trans h.id, h'.initiatorUuid.trans h.initiatorUuid,
    h'.transferredCall.trans h.transferredCall, h'.initiatorCall.trans h.initiatorCall⟩

end Transfer

end Transfers

end Calld
