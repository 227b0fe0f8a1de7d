import Roole.Cluster.View
import Roole.Lib.Bytes

/-!
# Gossip messages on the wire

`gossip_protocol.c`: a header of sixteen bytes and up to ten member updates of
forty bytes each. The decoder takes any datagram.
-/

namespace Roole

open Bytes

def gossipMaxPiggybackUpdates : Nat := 10
def memberUpdateSize : Nat := 40
def gossipHeaderSize : Nat := 16
def gossipMaxPayloadSize : Nat := 1400

def gossipMsgPing : UInt8 := 1
def gossipMsgAck : UInt8 := 2
def gossipMsgSuspect : UInt8 := 4
def gossipMsgAlive : UInt8 := 5
def gossipMsgDead : UInt8 := 6
def gossipMsgJoin : UInt8 := 7
def gossipMsgLeave : UInt8 := 8
def gossipMsgWorkerJoin : UInt8 := 9
def gossipMsgJoinResponse : UInt8 := 10

structure GossipMemberUpdate where
  nodeId : NodeId
  nodeType : NodeType
  ipAddress : List UInt8
  gossipPort : UInt16
  dataPort : UInt16
  status : NodeStatus
  incarnation : UInt64
  timestampMs : UInt64
  deriving DecidableEq, Repr

def GossipMemberUpdate.zero : GossipMemberUpdate where
  nodeId := 0
  nodeType := .unknown
  ipAddress := []
  gossipPort := 0
  dataPort := 0
  status := .alive
  incarnation := 0
  timestampMs := 0

structure GossipMessage where
  version : UInt8
  msgType : UInt8
  flags : UInt16
  senderId : NodeId
  sequenceNum : UInt64
  numUpdates : UInt8
  /-- The slots written so far; the rest of the ten are zero. -/
  updates : List GossipMemberUpdate
  deriving DecidableEq, Repr

/-- `msg->updates[i]`; `past` is what lies behind the ten slots. -/
def GossipMessage.update (past : Nat → GossipMemberUpdate) (msg : GossipMessage) (i : Nat) :
    GossipMemberUpdate :=
  if i < gossipMaxPiggybackUpdates then msg.updates.getD i .zero else past i

def ipField (ipAddress : List UInt8) : List UInt8 :=
  let text := (cString ipAddress).take (maxIpLen - 1)
  text ++ List.replicate (maxIpLen - text.length) 0

def gossipSerializeMemberUpdate (update : GossipMemberUpdate) : List UInt8 :=
  writeBe16 update.nodeId ++ [update.nodeType.toByte, update.status.toByte] ++
    ipField update.ipAddress ++ writeBe16 update.gossipPort ++ writeBe16 update.dataPort ++
    writeBe64 update.incarnation ++ writeBe64 update.timestampMs

def gossipDeserializeMemberUpdate (bytes : List UInt8) : GossipMemberUpdate where
  nodeId := readBe16 bytes
  nodeType := .ofByte (bytes.getD 2 0)
  status := .ofByte (bytes.getD 3 0)
  -- the last byte of the field is overwritten with the terminator
  ipAddress := (bytes.drop 4).take (maxIpLen - 1)
  gossipPort := readBe16 (bytes.drop 20)
  dataPort := readBe16 (bytes.drop 22)
  incarnation := readBe64 (bytes.drop 24)
  timestampMs := readBe64 (bytes.drop 32)

theorem ipField_length (ipAddress : List UInt8) : (ipField ipAddress).length = maxIpLen := by
  have hle : ((cString ipAddress).take (maxIpLen - 1)).length ≤ maxIpLen := by
    simp only [List.length_take, maxIpLen]
    omega
  simp only [ipField, List.length_append, List.length_replicate]
  omega

theorem gossipSerializeMemberUpdate_length (update : GossipMemberUpdate) :
    (gossipSerializeMemberUpdate update).length = memberUpdateSize := by
  simp [gossipSerializeMemberUpdate, ipField_length, maxIpLen, memberUpdateSize]

/-- An update as the other side reads it: the address comes back as the first
fifteen bytes of the padded field. -/
def GossipMemberUpdate.onWire (update : GossipMemberUpdate) : GossipMemberUpdate :=
  { update with ipAddress := (ipField update.ipAddress).take (maxIpLen - 1) }

theorem gossipDeserialize_serialize (update : GossipMemberUpdate) (rest : List UInt8) :
    gossipDeserializeMemberUpdate (gossipSerializeMemberUpdate update ++ rest) =
      update.onWire := by
  obtain ⟨nodeId, nodeType, ip, gossipPort, dataPort, status, incarnation, timestampMs⟩ := update
  have hip : (ipField ip).length = 16 := ipField_length ip
  simp only [gossipDeserializeMemberUpdate, gossipSerializeMemberUpdate, List.append_assoc]
  simp [List.drop_append, List.drop_of_length_le, List.getElem?_append_right, hip,
    List.take_append, maxIpLen, GossipMemberUpdate.onWire]

/-- The loop over the slots `i`. When the buffer is too small it stores the
count at offset 16, not at the offset of the header field. -/
def serializeUpdates (msg : GossipMessage) (bufferSize : Nat) :
    List Nat → List UInt8 → List UInt8
  | [], out => out
  | i :: rest, out =>
    if out.length + memberUpdateSize > bufferSize then out.set 16 (UInt8.ofNat i)
    else serializeUpdates msg bufferSize rest
      (out ++ gossipSerializeMemberUpdate (msg.updates.getD i .zero))

def gossipMessageSerialize (msg : GossipMessage) (bufferSize : Nat) : Option (List UInt8) :=
  if bufferSize < gossipHeaderSize then none
  else
    let header := [msg.version, msg.msgType] ++ writeBe16 msg.flags ++ writeBe16 msg.senderId ++
      writeBe64 msg.sequenceNum ++ [msg.numUpdates, 0]
    some (serializeUpdates msg bufferSize
      (List.range (min msg.numUpdates.toNat gossipMaxPiggybackUpdates)) header)

def deserializeUpdates (buffer : List UInt8) : List Nat → Nat → GossipMessage → GossipMessage
  | [], _, msg => msg
  | i :: rest, offset, msg =>
    if offset + memberUpdateSize > buffer.length then { msg with numUpdates := UInt8.ofNat i }
    else deserializeUpdates buffer rest (offset + memberUpdateSize)
      { msg with updates := msg.updates ++ [gossipDeserializeMemberUpdate (buffer.drop offset)] }

def deserializeHeader (buffer : List UInt8) : GossipMessage where
  version := buffer.getD 0 0
  msgType := buffer.getD 1 0
  flags := readBe16 (buffer.drop 2)
  senderId := readBe16 (buffer.drop 4)
  sequenceNum := readBe64 (buffer.drop 6)
  numUpdates := buffer.getD 14 0
  updates := []

def gossipMessageDeserialize (buffer : List UInt8) : Option GossipMessage :=
  let msg := deserializeHeader buffer
  if buffer.length < gossipHeaderSize then none
  else if msg.version ≠ 1 then none
  else some (deserializeUpdates buffer
    (List.range (min msg.numUpdates.toNat gossipMaxPiggybackUpdates)) gossipHeaderSize msg)

def datagramUpdate (buffer : List UInt8) (i : Nat) : GossipMemberUpdate :=
  gossipDeserializeMemberUpdate (buffer.drop (gossipHeaderSize + memberUpdateSize * i))

def datagramRoom (buffer : List UInt8) : Nat :=
  (buffer.length - gossipHeaderSize) / memberUpdateSize

theorem deserializeUpdates_eq (m : Nat) (msg : GossipMessage) (hsize : gossipHeaderSize ≤ buffer.length)
    (hi : i ≤ datagramRoom buffer) :
    deserializeUpdates buffer (List.range' i m) (gossipHeaderSize + memberUpdateSize * i) msg =
      { msg with
        numUpdates := if i + m ≤ datagramRoom buffer then msg.numUpdates
          else UInt8.ofNat (datagramRoom buffer)
        updates := msg.updates ++
          (List.range' i (min (i + m) (datagramRoom buffer) - i)).map (datagramUpdate buffer) } := by
  induction m generalizing i msg with
  | zero => simp [deserializeUpdates, hi]
  | succ m ih =>
    rw [List.range'_succ, deserializeUpdates]
    have hroom : gossipHeaderSize + memberUpdateSize * i + memberUpdateSize > buffer.length ↔
        ¬ i + 1 ≤ datagramRoom buffer := by
      simp only [datagramRoom, gossipHeaderSize, memberUpdateSize] at *
      omega
    by_cases hnext : i + 1 ≤ datagramRoom buffer
    · rw [if_neg (by rw [hroom]; exact not_not_intro hnext)]
      have hoffset : gossipHeaderSize + memberUpdateSize * i + memberUpdateSize =
          gossipHeaderSize + memberUpdateSize * (i + 1) := by rw [Nat.mul_succ, Nat.add_assoc]
      have hrange : min (i + (m + 1)) (datagramRoom buffer) - i =
          (min (i + 1 + m) (datagramRoom buffer) - (i + 1)) + 1 := by omega
      rw [hoffset, ih _ hnext, hrange, List.range'_succ]
      simp [datagramUpdate, Nat.add_assoc, Nat.add_comm 1 m]
    · rw [if_pos (hroom.mpr hnext)]
      have heq : datagramRoom buffer = i := by omega
      simp [heq]

def claimedUpdates (buffer : List UInt8) : Nat :=
  min (buffer.getD 14 0).toNat gossipMaxPiggybackUpdates

theorem gossipMessageDeserialize_updates (h : gossipMessageDeserialize buffer = some msg) :
    gossipHeaderSize ≤ buffer.length ∧
      msg.numUpdates = (if claimedUpdates buffer ≤ datagramRoom buffer then buffer.getD 14 0
        else UInt8.ofNat (datagramRoom buffer)) ∧
      msg.updates = (List.range (min (claimedUpdates buffer) (datagramRoom buffer))).map
        (datagramUpdate buffer) := by
  unfold gossipMessageDeserialize at h
  dsimp only at h
  split at h
  · cases h
  split at h
  · cases h
  have hsize : gossipHeaderSize ≤ buffer.length := by omega
  have hloop := deserializeUpdates_eq (claimedUpdates buffer) (deserializeHeader buffer) hsize
    (Nat.zero_le _)
  rw [← List.range_eq_range'] at hloop
  cases h.symm.trans (congrArg some hloop)
  simp [List.range_eq_range', deserializeHeader, hsize]

/-- The count covers exactly the slots that were filled from the datagram. -/
structure GossipMessage.Filled (buffer : List UInt8) (msg : GossipMessage) : Prop where
  bounded : msg.numUpdates.toNat ≤ gossipMaxPiggybackUpdates
  counted : msg.numUpdates.toNat = msg.updates.length
  filled : ∀ past, ∀ i < msg.numUpdates.toNat,
    gossipHeaderSize + memberUpdateSize * (i + 1) ≤ buffer.length ∧
      msg.update past i = datagramUpdate buffer i

/-- A decoded message is fit for the handlers' loops exactly when the header
counts at most ten updates or the datagram has no room for ten. -/
theorem gossipMessageDeserialize_filled_iff (h : gossipMessageDeserialize buffer = some msg) :
    msg.Filled buffer ↔ buffer.getD 14 0 ≤ 10 ∨
      buffer.length < gossipHeaderSize + memberUpdateSize * gossipMaxPiggybackUpdates := by
  obtain ⟨hsize, hnum, hupdates⟩ := gossipMessageDeserialize_updates h
  have hcount : buffer.getD 14 0 ≤ 10 ↔
      (buffer.getD 14 0).toNat ≤ gossipMaxPiggybackUpdates := UInt8.le_iff_toNat_le
  have hroom : buffer.length < gossipHeaderSize + memberUpdateSize * gossipMaxPiggybackUpdates ↔
      datagramRoom buffer < gossipMaxPiggybackUpdates := by
    simp only [datagramRoom, gossipHeaderSize, memberUpdateSize, gossipMaxPiggybackUpdates] at *
    omega
  rw [hcount, hroom]
  constructor
  · intro hfilled
    by_contra hover
    have hnum' : msg.numUpdates = buffer.getD 14 0 := by
      rw [hnum, if_pos (by unfold claimedUpdates; omega)]
    have hbounded := hfilled.bounded
    rw [hnum'] at hbounded
    exact hover (.inl hbounded)
  · intro hwithin
    have htoNat : msg.numUpdates.toNat = min (claimedUpdates buffer) (datagramRoom buffer) := by
      rw [hnum]
      split
      · unfold claimedUpdates at *
        omega
      · rw [UInt8.toNat_ofNat']
        simp only [claimedUpdates, gossipMaxPiggybackUpdates] at *
        omega
    have hclaimed : claimedUpdates buffer ≤ gossipMaxPiggybackUpdates := Nat.min_le_right _ _
    refine ⟨by omega, by simp [hupdates, htoNat], fun past i hi => ⟨?_, ?_⟩⟩
    · rw [htoNat] at hi
      simp only [datagramRoom, gossipHeaderSize, memberUpdateSize] at *
      omega
    · have hslot : i < gossipMaxPiggybackUpdates := by omega
      rw [htoNat] at hi
      simp [GossipMessage.update, hslot, hupdates, List.getElem?_range hi]

-- ----------------------------------------------------------------------------
-- Bootstrap response
-- ----------------------------------------------------------------------------

structure BootstrapRouter where
  nodeId : NodeId
  gossipAddr : List UInt8
  dataAddr : List UInt8
  deriving DecidableEq, Repr

def addressField (address : List UInt8) : List UInt8 :=
  let text := (cString address).take 63
  text ++ List.replicate (64 - text.length) 0

/-- The loop over the routers. Where the buffer is too small for the next one,
the count in front is set to how many fitted. -/
def serializeRouters (bufferSize : Nat) : List BootstrapRouter → Nat → List UInt8 → List UInt8
  | [], _, out => out
  | router :: rest, i, out =>
    if out.length + 130 > bufferSize then out.set 0 (UInt8.ofNat i)
    else serializeRouters bufferSize rest (i + 1)
      (out ++ writeBe16 router.nodeId ++ addressField router.gossipAddr ++
        addressField router.dataAddr)

def gossipSerializeBootstrapResponse (routers : List BootstrapRouter) (bufferSize : Nat) :
    Option (List UInt8) :=
  if bufferSize < 1 then none
  else some (serializeRouters bufferSize (routers.take maxConfigRouters) 0
    [UInt8.ofNat routers.length])

-- ----------------------------------------------------------------------------
-- Round trip
-- ----------------------------------------------------------------------------

def serializeHeader (msg : GossipMessage) : List UInt8 :=
  [msg.version, msg.msgType] ++ writeBe16 msg.flags ++ writeBe16 msg.senderId ++
    writeBe64 msg.sequenceNum ++ [msg.numUpdates, 0]

@[simp] theorem serializeHeader_length (msg : GossipMessage) :
    (serializeHeader msg).length = gossipHeaderSize := by
  simp [serializeHeader, gossipHeaderSize]

theorem serializeUpdates_fits {msg : GossipMessage} {slots : List Nat} {out : List UInt8}
    (h : out.length + memberUpdateSize * slots.length ≤ bufferSize) :
    serializeUpdates msg bufferSize slots out =
      out ++ slots.flatMap fun i => gossipSerializeMemberUpdate (msg.updates.getD i .zero) := by
  induction slots generalizing out with
  | nil => simp [serializeUpdates]
  | cons i rest ih =>
    rw [List.length_cons, Nat.mul_succ] at h
    have hroom : ¬ out.length + memberUpdateSize > bufferSize := by omega
    rw [serializeUpdates, if_neg hroom, ih, List.flatMap_cons, List.append_assoc]
    rw [List.length_append, gossipSerializeMemberUpdate_length]
    omega

def GossipMessage.sent (msg : GossipMessage) : List GossipMemberUpdate :=
  (List.range (min msg.numUpdates.toNat gossipMaxPiggybackUpdates)).map (msg.updates.getD · .zero)

@[simp] theorem GossipMessage.sent_length (msg : GossipMessage) :
    msg.sent.length = min msg.numUpdates.toNat gossipMaxPiggybackUpdates := by
  simp [GossipMessage.sent]

theorem gossipMessageSerialize_sent {msg : GossipMessage}
    (hsize : gossipHeaderSize + memberUpdateSize * msg.sent.length ≤ bufferSize) :
    gossipMessageSerialize msg bufferSize =
      some (serializeHeader msg ++ msg.sent.flatMap gossipSerializeMemberUpdate) := by
  unfold gossipMessageSerialize
  rw [if_neg (Nat.not_lt.mpr ((Nat.le_add_right ..).trans hsize))]
  dsimp only
  rw [serializeUpdates_fits, GossipMessage.sent, List.flatMap_map]
  · rfl
  · rw [List.length_range, ← msg.sent_length]
    exact (congrArg (· + _) (serializeHeader_length msg)).trans_le hsize

theorem flatMap_drop (updates : List GossipMemberUpdate) (rest : List UInt8)
    (hi : i < updates.length) :
    (updates.flatMap gossipSerializeMemberUpdate ++ rest).drop (memberUpdateSize * i) =
      gossipSerializeMemberUpdate updates[i] ++
        ((updates.drop (i + 1)).flatMap gossipSerializeMemberUpdate ++ rest) := by
  induction updates generalizing i with
  | nil => cases hi
  | cons update others ih =>
    cases i with
    | zero => exact List.append_assoc ..
    | succ i =>
      have hlen := gossipSerializeMemberUpdate_length update
      rw [List.flatMap_cons, List.append_assoc, Nat.mul_succ, Nat.add_comm, ← List.drop_drop,
        ← hlen, List.drop_left, hlen]
      exact ih (Nat.lt_of_succ_lt_succ hi)

theorem flatMap_length (updates : List GossipMemberUpdate) :
    (updates.flatMap gossipSerializeMemberUpdate).length = memberUpdateSize * updates.length := by
  induction updates with
  | nil => rfl
  | cons update rest ih =>
    rw [List.flatMap_cons, List.length_append, ih, gossipSerializeMemberUpdate_length,
      List.length_cons, Nat.mul_succ, Nat.add_comm]

theorem deserializeHeader_serialize (msg : GossipMessage) (rest : List UInt8) :
    deserializeHeader (serializeHeader msg ++ rest) = { msg with updates := [] } := by
  simp [deserializeHeader, serializeHeader, List.drop_append, List.drop_of_length_le,
    List.getElem?_append_right]

theorem datagramUpdate_serialize (msg : GossipMessage) (updates : List GossipMemberUpdate)
    (rest : List UInt8) (hi : i < updates.length) :
    datagramUpdate (serializeHeader msg ++
      (updates.flatMap gossipSerializeMemberUpdate ++ rest)) i = updates[i].onWire := by
  have hheader := serializeHeader_length msg
  rw [datagramUpdate, ← List.drop_drop, ← hheader, List.drop_left, flatMap_drop updates rest hi,
    gossipDeserialize_serialize]

theorem gossipMessageDeserialize_serialized {msg : GossipMessage} (hversion : msg.version = 1)
    (updates : List GossipMemberUpdate) (rest : List UInt8)
    (hbuffer : serializeHeader msg ++ (updates.flatMap gossipSerializeMemberUpdate ++ rest) =
      buffer)
    (hcount : min (min msg.numUpdates.toNat gossipMaxPiggybackUpdates) (datagramRoom buffer) =
      updates.length) :
    gossipMessageDeserialize buffer = some { msg with
      numUpdates :=
        if min msg.numUpdates.toNat gossipMaxPiggybackUpdates ≤ datagramRoom buffer then
          msg.numUpdates
        else .ofNat (datagramRoom buffer)
      updates := updates.map .onWire } := by
  have hlong : gossipHeaderSize ≤ buffer.length := by
    rw [← hbuffer, List.length_append, serializeHeader_length]
    exact Nat.le_add_right ..
  have hheader : deserializeHeader buffer = { msg with updates := [] } := by
    rw [← hbuffer, deserializeHeader_serialize]
  have hupdates : (List.range updates.length).map (datagramUpdate buffer) =
      updates.map .onWire :=
    List.ext_getElem (by simp) fun i hi _ => by
      rw [List.getElem_map, List.getElem_range, List.getElem_map, ← hbuffer,
        datagramUpdate_serialize msg updates rest]
  have hloop := deserializeUpdates_eq (min msg.numUpdates.toNat gossipMaxPiggybackUpdates)
    { msg with updates := [] } hlong (Nat.zero_le _)
  rw [Nat.zero_add, hcount, Nat.sub_zero, ← List.range_eq_range', ← List.range_eq_range',
    hupdates] at hloop
  unfold gossipMessageDeserialize
  rw [hheader]
  dsimp only
  rw [if_neg (Nat.not_lt.mpr hlong), if_neg (not_not_intro hversion)]
  exact congrArg some hloop

theorem gossipMessageDeserialize_sent {msg : GossipMessage} (hversion : msg.version = 1)
    (rest : List UInt8) :
    gossipMessageDeserialize (serializeHeader msg ++
        (msg.sent.flatMap gossipSerializeMemberUpdate ++ rest)) =
      some { msg with updates := msg.sent.map .onWire } := by
  generalize hbuffer : serializeHeader msg ++
    (msg.sent.flatMap gossipSerializeMemberUpdate ++ rest) = buffer
  have hsize : buffer.length =
      gossipHeaderSize + (memberUpdateSize * msg.sent.length + rest.length) := by
    rw [← hbuffer, List.length_append, serializeHeader_length, List.length_append, flatMap_length]
  have hroom : msg.sent.length ≤ datagramRoom buffer := by
    rw [datagramRoom, hsize, Nat.add_sub_cancel_left, Nat.le_div_iff_mul_le (by decide),
      Nat.mul_comm]
    exact Nat.le_add_right ..
  have hdecoded := gossipMessageDeserialize_serialized hversion msg.sent rest hbuffer
    (by rw [← msg.sent_length, min_eq_left hroom])
  rwa [← msg.sent_length, if_pos hroom] at hdecoded

structure GossipMessage.Sendable (msg : GossipMessage) : Prop where
  version : msg.version = 1
  counted : msg.numUpdates.toNat = msg.updates.length
  bounded : msg.updates.length ≤ gossipMaxPiggybackUpdates

theorem GossipMessage.Sendable.sent_eq {msg : GossipMessage} (h : msg.Sendable) :
    msg.sent = msg.updates := by
  have hslots : min msg.numUpdates.toNat gossipMaxPiggybackUpdates = msg.updates.length := by
    rw [h.counted, min_eq_left h.bounded]
  rw [GossipMessage.sent, hslots]
  refine List.ext_getElem (by simp) fun i _ hi => ?_
  simp [hi]

/-- The message as the other side decodes it. -/
def GossipMessage.onWire (msg : GossipMessage) : GossipMessage :=
  { msg with updates := msg.updates.map GossipMemberUpdate.onWire }

theorem gossipMessageSerialize_eq {msg : GossipMessage} (h : msg.Sendable)
    (hsize : gossipHeaderSize + memberUpdateSize * msg.updates.length ≤ bufferSize) :
    gossipMessageSerialize msg bufferSize =
      some (serializeHeader msg ++ msg.updates.flatMap gossipSerializeMemberUpdate) := by
  rw [← h.sent_eq] at hsize ⊢
  exact gossipMessageSerialize_sent hsize

theorem gossipMessage_roundTrip {msg : GossipMessage} (h : msg.Sendable) :
    gossipMessageDeserialize
        (serializeHeader msg ++ msg.updates.flatMap gossipSerializeMemberUpdate) =
      some msg.onWire := by
  have hdecoded := gossipMessageDeserialize_sent h.version []
  rw [List.append_nil, h.sent_eq] at hdecoded
  exact hdecoded

-- ----------------------------------------------------------------------------
-- Sizes
-- ----------------------------------------------------------------------------

def gossipMessageSerializedSize (msg : GossipMessage) : Nat :=
  16 + msg.numUpdates.toNat * memberUpdateSize

def GossipMemberUpdate.readable (update : GossipMemberUpdate) : GossipMemberUpdate :=
  { update with ipAddress := cString update.ipAddress }

theorem readable_onWire {update : GossipMemberUpdate} (hip : strlen update.ipAddress < maxIpLen) :
    update.onWire.readable = update.readable := by
  have htext : (cString update.ipAddress).take (maxIpLen - 1) = cString update.ipAddress :=
    List.take_of_length_le (Nat.le_sub_one_of_lt hip)
  have hfield : cString ((ipField update.ipAddress).take (maxIpLen - 1)) =
      cString update.ipAddress := by
    rw [ipField, htext, List.take_append, htext, List.take_replicate, cString_append_zeros,
      cString_cString]
  simp only [GossipMemberUpdate.readable, GossipMemberUpdate.onWire, hfield]

theorem GossipMessage.sent_getElem? (past : Nat → GossipMemberUpdate) (msg : GossipMessage)
    (hi : i < min msg.numUpdates.toNat gossipMaxPiggybackUpdates) :
    msg.sent[i]? = some (msg.update past i) := by
  have hslot : i < gossipMaxPiggybackUpdates := hi.trans_le (Nat.min_le_right ..)
  simp only [sent, update, hslot, if_true, List.getElem?_map, List.getElem?_range hi,
    Option.map_some]

/-- Encoder, size function and decoder agree on the layout: a message of at most
ten updates takes the bytes that are counted for it, and comes back from them
whatever follows. -/
theorem gossipMessage_recovered {msg : GossipMessage} (hversion : msg.version = 1)
    (hcount : msg.numUpdates.toNat ≤ gossipMaxPiggybackUpdates)
    (hips : ∀ past, ∀ i < msg.numUpdates.toNat, strlen (msg.update past i).ipAddress < maxIpLen)
    (hsize : 16 + 40 * msg.numUpdates.toNat ≤ bufferSize) :
    gossipMessageSerializedSize msg = 16 + 40 * msg.numUpdates.toNat ∧
      ∃ bytes, gossipMessageSerialize msg bufferSize = some bytes ∧
        bytes.length = gossipMessageSerializedSize msg ∧
        ∀ rest, ∃ decoded, gossipMessageDeserialize (bytes ++ rest) = some decoded ∧
          decoded = { msg with updates := decoded.updates } ∧
          ∀ past, ∀ i < msg.numUpdates.toNat,
            (decoded.update past i).readable = (msg.update past i).readable := by
  have hslots := min_eq_left hcount
  have hsent : msg.sent.length = msg.numUpdates.toNat := by rw [msg.sent_length, hslots]
  have hcounted : gossipMessageSerializedSize msg = 16 + 40 * msg.numUpdates.toNat := by
    rw [gossipMessageSerializedSize, Nat.mul_comm]
    rfl
  refine ⟨hcounted, _, gossipMessageSerialize_sent (by rw [hsent]; exact hsize), ?_, ?_⟩
  · rw [List.length_append, serializeHeader_length, flatMap_length, hsent, hcounted]
    rfl
  · intro rest
    rw [List.append_assoc]
    refine ⟨_, gossipMessageDeserialize_sent hversion rest, rfl, fun past i hi => ?_⟩
    have hi' := hi.trans_eq hslots.symm
    have hslot : i < gossipMaxPiggybackUpdates := hi.trans_le hcount
    have hdecoded : GossipMessage.update past { msg with updates := msg.sent.map .onWire } i =
        (msg.update past i).onWire := by
      rw [GossipMessage.update, if_pos hslot, List.getD_eq_getElem?_getD, List.getElem?_map,
        msg.sent_getElem? past hi']
      rfl
    rw [hdecoded, readable_onWire (hips past i hi)]

def workerJoinMessage : GossipMessage where
  version := 1
  msgType := gossipMsgWorkerJoin
  flags := 0
  senderId := 100
  sequenceNum := 1
  numUpdates := 1
  updates := [{ GossipMemberUpdate.zero with
    nodeId := 100
    nodeType := .worker
    ipAddress := [49, 50, 55, 46, 48, 46, 48, 46, 49]
    gossipPort := 7100
    dataPort := 7101 }]

theorem gossipMessage_recovered_worker :
    gossipMessageSerializedSize workerJoinMessage = 16 + 40 * workerJoinMessage.numUpdates.toNat ∧
      ∃ bytes, gossipMessageSerialize workerJoinMessage gossipMaxPayloadSize = some bytes ∧
        bytes.length = gossipMessageSerializedSize workerJoinMessage ∧
        ∀ rest, ∃ decoded, gossipMessageDeserialize (bytes ++ rest) = some decoded ∧
          decoded = { workerJoinMessage with updates := decoded.updates } ∧
          ∀ past, ∀ i < workerJoinMessage.numUpdates.toNat,
            (decoded.update past i).readable = (workerJoinMessage.update past i).readable :=
  gossipMessage_recovered rfl (by decide) (fun past i hi => by
    cases Nat.lt_one_iff.mp hi
    have hlength : 9 < maxIpLen := by decide
    exact hlength) (by decide)

def zeroDatagram (count : UInt8) (room : Nat) : List UInt8 :=
  [1, 1] ++ List.replicate 12 0 ++ [count, 0] ++ List.replicate room 0

theorem gossipMessageDeserialize_filled_iff_two :
    ∃ msg, gossipMessageDeserialize (zeroDatagram 3 85) = some msg ∧ msg.updates.length = 2 ∧
      (msg.Filled (zeroDatagram 3 85) ↔ (zeroDatagram 3 85).getD 14 0 ≤ 10 ∨
        (zeroDatagram 3 85).length < gossipHeaderSize +
          memberUpdateSize * gossipMaxPiggybackUpdates) := by
  have hcount : (gossipMessageDeserialize (zeroDatagram 3 85)).map
      (fun msg => msg.updates.length) = some 2 := by decide +kernel
  obtain ⟨msg, hmsg, hlength⟩ := Option.map_eq_some_iff.mp hcount
  exact ⟨msg, hmsg, hlength, gossipMessageDeserialize_filled_iff hmsg⟩

/-- Ten updates of forty bytes under a header that counts eleven. -/
theorem gossipMessageDeserialize_eleven :
    ∃ msg, gossipMessageDeserialize (zeroDatagram 11 400) = some msg ∧
      msg.numUpdates = 11 ∧ msg.updates.length = 10 ∧ ¬ msg.Filled (zeroDatagram 11 400) := by
  have hcounts : (gossipMessageDeserialize (zeroDatagram 11 400)).map
      (fun msg => (msg.numUpdates, msg.updates.length)) = some (11, 10) := by decide +kernel
  obtain ⟨msg, hmsg, hpair⟩ := Option.map_eq_some_iff.mp hcounts
  obtain ⟨hnum, hlength⟩ := Prod.mk.inj hpair
  refine ⟨msg, hmsg, hnum, hlength, fun hfilled => ?_⟩
  have hbounded := hfilled.bounded
  rw [hnum] at hbounded
  exact absurd hbounded (by decide)

end Roole
