import Roole.Gossip.Protocol
import Roole.Lib.Writes

/-!
# Messages cut to their buffer

`gossip_message_serialize` with a buffer that is too small for all updates of a
message. The loop stops in time, and what it has written can be read. The count
goes to offset 16, where the first update begins; its own place is 14.
-/

namespace Roole

open Bytes

-- ----------------------------------------------------------------------------
-- The writes of the encoder
-- ----------------------------------------------------------------------------

/-- The writes of the loop over the slots `i` from this offset on. -/
def updateWrites (msg : GossipMessage) (bufferSize : Nat) : List Nat → Nat → List (Write UInt8)
  | [], _ => []
  | i :: rest, offset =>
    if offset + memberUpdateSize > bufferSize then [⟨16, [UInt8.ofNat i]⟩]
    else ⟨offset, gossipSerializeMemberUpdate (msg.updates.getD i .zero)⟩ ::
      updateWrites msg bufferSize rest (offset + memberUpdateSize)

def gossipMessageWrites (msg : GossipMessage) (bufferSize : Nat) : List (Write UInt8) :=
  if bufferSize < gossipHeaderSize then []
  else ⟨0, serializeHeader msg⟩ :: updateWrites msg bufferSize
    (List.range (min msg.numUpdates.toNat gossipMaxPiggybackUpdates)) gossipHeaderSize

theorem updateWrites_holds {msg : GossipMessage} (h : Write.Holds memory out) :
    Write.Holds (Write.applyAll memory (updateWrites msg bufferSize slots out.length))
      (serializeUpdates msg bufferSize slots out) := by
  induction slots generalizing memory out with
  | nil => exact h
  | cons i rest ih =>
    rw [updateWrites, serializeUpdates]
    split
    · exact h.set 16 (UInt8.ofNat i)
    · have hnext := ih (h.append (gossipSerializeMemberUpdate (msg.updates.getD i .zero)))
      rw [List.length_append, gossipSerializeMemberUpdate_length] at hnext
      exact hnext

theorem gossipMessageWrites_holds {msg : GossipMessage} (memory : Nat → UInt8)
    (h : gossipMessageSerialize msg bufferSize = some bytes) :
    Write.Holds (Write.applyAll memory (gossipMessageWrites msg bufferSize)) bytes := by
  unfold gossipMessageSerialize at h
  unfold gossipMessageWrites
  split at h
  · cases h
  case isFalse hsize =>
    cases h
    rw [if_neg hsize]
    have hheader := (Write.holds_nil memory).append (serializeHeader msg)
    have hloop := @updateWrites_holds _ _ bufferSize
      (List.range (min msg.numUpdates.toNat gossipMaxPiggybackUpdates)) msg hheader
    rw [List.nil_append, serializeHeader_length] at hloop
    exact hloop

-- ----------------------------------------------------------------------------
-- The loop that stops
-- ----------------------------------------------------------------------------

def gossipRoom (bufferSize : Nat) : Nat := (bufferSize - gossipHeaderSize) / memberUpdateSize

theorem gossipRoom_next (hsize : gossipHeaderSize ≤ bufferSize) (i : Nat) :
    gossipHeaderSize + memberUpdateSize * i + memberUpdateSize > bufferSize ↔
      gossipRoom bufferSize ≤ i := by
  simp only [gossipRoom, gossipHeaderSize, memberUpdateSize] at *
  omega

theorem gossipRoom_lt (hsize : gossipHeaderSize ≤ bufferSize) (count : Nat) :
    gossipRoom bufferSize < count ↔ bufferSize < gossipHeaderSize + memberUpdateSize * count := by
  simp only [gossipRoom, gossipHeaderSize, memberUpdateSize] at *
  omega

theorem updates_cut {msg : GossipMessage} {out : List UInt8}
    (hsize : gossipHeaderSize ≤ bufferSize)
    (hout : out.length = gossipHeaderSize + memberUpdateSize * i)
    (hi : i + left = gossipRoom bufferSize) :
    serializeUpdates msg bufferSize (List.range' i (left + 1 + others)) out =
        (out ++ (List.range' i left).flatMap fun j =>
          gossipSerializeMemberUpdate (msg.updates.getD j .zero)).set 16
            (.ofNat (gossipRoom bufferSize)) ∧
      updateWrites msg bufferSize (List.range' i (left + 1 + others)) out.length =
        ((List.range' i left).map fun j => ⟨gossipHeaderSize + memberUpdateSize * j,
          gossipSerializeMemberUpdate (msg.updates.getD j .zero)⟩) ++
          [⟨16, [.ofNat (gossipRoom bufferSize)]⟩] := by
  induction left generalizing i out with
  | zero =>
    have hstop : out.length + memberUpdateSize > bufferSize := by
      rw [hout, gossipRoom_next hsize, ← hi]
      exact Nat.le_refl _
    rw [Nat.zero_add, Nat.add_comm 1, List.range'_succ, serializeUpdates, updateWrites,
      if_pos hstop, if_pos hstop, ← hi]
    simp
  | succ left ih =>
    have hgo : ¬ out.length + memberUpdateSize > bufferSize := by
      rw [hout, gossipRoom_next hsize, ← hi]
      omega
    have hout' : (out ++ gossipSerializeMemberUpdate (msg.updates.getD i .zero)).length =
        gossipHeaderSize + memberUpdateSize * (i + 1) := by
      rw [List.length_append, hout, gossipSerializeMemberUpdate_length, Nat.mul_succ,
        Nat.add_assoc]
    obtain ⟨hbytes, hwrites⟩ := ih hout' (by omega)
    have hslots : left + 1 + 1 + others = (left + 1 + others) + 1 := by omega
    rw [hslots, List.range'_succ, List.range'_succ, serializeUpdates, updateWrites, if_neg hgo,
      if_neg hgo, hbytes, List.flatMap_cons, List.append_assoc, List.map_cons, ← hout]
    rw [List.length_append, gossipSerializeMemberUpdate_length] at hwrites
    exact ⟨rfl, congrArg _ hwrites⟩

/-- A buffer with room for the header, but not for every update. -/
structure TooSmall (msg : GossipMessage) (bufferSize : Nat) : Prop where
  header : gossipHeaderSize ≤ bufferSize
  updates : bufferSize < gossipHeaderSize + memberUpdateSize * msg.updates.length

section

variable {msg : GossipMessage} {bufferSize : Nat}

theorem TooSmall.room_lt (hsmall : TooSmall msg bufferSize) :
    gossipRoom bufferSize < msg.updates.length :=
  (gossipRoom_lt hsmall.header _).mpr hsmall.updates

theorem range_flatMap_take (msg : GossipMessage) (hcount : count ≤ msg.updates.length) :
    ((List.range' 0 count).flatMap fun i =>
        gossipSerializeMemberUpdate (msg.updates.getD i .zero)) =
      (msg.updates.take count).flatMap gossipSerializeMemberUpdate := by
  have htake : (List.range' 0 count).map (msg.updates.getD · .zero) = msg.updates.take count := by
    refine List.ext_getElem (by simp [hcount]) fun i hi _ => ?_
    have hi' : i < count := by simpa using hi
    simp [List.getElem?_eq_getElem (hi'.trans_le hcount)]
  rw [← htake, List.flatMap_map]

theorem gossipMessage_cut (hsendable : msg.Sendable) (hsmall : TooSmall msg bufferSize) :
    gossipMessageSerialize msg bufferSize =
        some (serializeHeader msg ++
          ((msg.updates.take (gossipRoom bufferSize)).flatMap gossipSerializeMemberUpdate).set 0
            (.ofNat (gossipRoom bufferSize))) ∧
      gossipMessageWrites msg bufferSize =
        ⟨0, serializeHeader msg⟩ ::
          ((List.range' 0 (gossipRoom bufferSize)).map fun j =>
            ⟨gossipHeaderSize + memberUpdateSize * j,
              gossipSerializeMemberUpdate (msg.updates.getD j .zero)⟩) ++
          [⟨16, [.ofNat (gossipRoom bufferSize)]⟩] := by
  have hroom := hsmall.room_lt
  obtain ⟨others, hothers⟩ := Nat.exists_eq_add_of_le (Nat.succ_le_of_lt hroom)
  have hslots : min msg.numUpdates.toNat gossipMaxPiggybackUpdates =
      gossipRoom bufferSize + 1 + others := by
    rw [hsendable.counted, min_eq_left hsendable.bounded]
    exact hothers
  obtain ⟨hbytes, hwrites⟩ := @updates_cut bufferSize 0 (gossipRoom bufferSize) others msg
    (serializeHeader msg) hsmall.header (serializeHeader_length msg) (Nat.zero_add _)
  rw [range_flatMap_take msg hroom.le,
    List.set_append_right 16 _ (serializeHeader_length msg).le, serializeHeader_length] at hbytes
  rw [serializeHeader_length] at hwrites
  unfold gossipMessageSerialize gossipMessageWrites
  rw [if_neg (Nat.not_lt.mpr hsmall.header), if_neg (Nat.not_lt.mpr hsmall.header), hslots,
    List.range_eq_range', hwrites]
  exact ⟨congrArg some hbytes, rfl⟩

-- ----------------------------------------------------------------------------
-- What can be read of it
-- ----------------------------------------------------------------------------

def overwriteHigh (high : UInt8) (nodeId : NodeId) : NodeId :=
  readBe16 ((writeBe16 nodeId).set 0 high)

theorem writeBe16_set (high : UInt8) (nodeId : NodeId) :
    (writeBe16 nodeId).set 0 high = writeBe16 (overwriteHigh high nodeId) := by
  have hlength : ((writeBe16 nodeId).set 0 high).length = 2 := by simp
  rw [overwriteHigh, writeBe16_read hlength.ge, List.take_of_length_le hlength.le]

theorem overwriteHigh_eq_iff (high : UInt8) (nodeId : NodeId) :
    overwriteHigh high nodeId = nodeId ↔ nodeId.toNat / 256 = high.toNat := by
  have hbytes : writeBe16 nodeId = [.ofNat (nodeId.toNat / 256), .ofNat nodeId.toNat] := rfl
  have hhigh := high.toNat_lt
  have hid := nodeId.toNat_lt
  rw [overwriteHigh, hbytes, ← UInt16.toNat_inj]
  simp [readBe16, beNat, leNat]
  omega

theorem serialize_set (update : GossipMemberUpdate) (high : UInt8) (rest : List UInt8) :
    (gossipSerializeMemberUpdate update ++ rest).set 0 high =
      gossipSerializeMemberUpdate { update with nodeId := overwriteHigh high update.nodeId } ++
        rest := by
  have hset (after : List UInt8) : (writeBe16 update.nodeId ++ after).set 0 high =
      writeBe16 (overwriteHigh high update.nodeId) ++ after := by
    rw [List.set_append_left _ _ (by simp), writeBe16_set]
  simp only [gossipSerializeMemberUpdate, List.append_assoc, hset]

/-- The updates as they stand in the buffer in the end. -/
def patched (high : UInt8) : List GossipMemberUpdate → List GossipMemberUpdate
  | [] => []
  | first :: rest => { first with nodeId := overwriteHigh high first.nodeId } :: rest

@[simp] theorem patched_length (high : UInt8) (updates : List GossipMemberUpdate) :
    (patched high updates).length = updates.length := by
  cases updates <;> rfl

theorem flatMap_set (high : UInt8) (updates : List GossipMemberUpdate) :
    (updates.flatMap gossipSerializeMemberUpdate).set 0 high =
      (patched high updates).flatMap gossipSerializeMemberUpdate := by
  cases updates with
  | nil => rfl
  | cons first rest => rw [List.flatMap_cons, serialize_set, patched, List.flatMap_cons]

theorem patched_onWire_iff (high : UInt8) (updates : List GossipMemberUpdate) :
    (patched high updates).map GossipMemberUpdate.onWire =
        updates.map GossipMemberUpdate.onWire ↔
      ∀ first ∈ updates.head?, first.nodeId.toNat / 256 = high.toNat := by
  cases updates with
  | nil => simp [patched]
  | cons first rest =>
    simp [patched, GossipMemberUpdate.onWire, overwriteHigh_eq_iff]

theorem gossipMessageDeserialize_short {updates : List GossipMemberUpdate}
    (hversion : msg.version = 1)
    (hshort : updates.length < min msg.numUpdates.toNat gossipMaxPiggybackUpdates) :
    gossipMessageDeserialize
        (serializeHeader msg ++ updates.flatMap gossipSerializeMemberUpdate) =
      some { msg with numUpdates := .ofNat updates.length, updates := updates.map .onWire } := by
  generalize hbuffer : serializeHeader msg ++
    updates.flatMap gossipSerializeMemberUpdate = buffer
  have hsize : buffer.length = gossipHeaderSize + memberUpdateSize * updates.length := by
    rw [← hbuffer, List.length_append, serializeHeader_length, flatMap_length]
  have hroom : datagramRoom buffer = updates.length := by
    rw [datagramRoom, hsize, Nat.add_sub_cancel_left, Nat.mul_div_cancel_left _ (by decide)]
  rw [← List.append_nil (updates.flatMap _)] at hbuffer
  have hdecoded := gossipMessageDeserialize_serialized hversion updates [] hbuffer
    (by rw [hroom, min_eq_right hshort.le])
  rwa [hroom, if_neg (Nat.not_le.mpr hshort)] at hdecoded

/-- What the encoder owes a buffer that is too small: it writes inside of it,
counts the updates written, and they are the longest prefix that fits. -/
structure CutProperly (msg : GossipMessage) (bufferSize : Nat) : Prop where
  inside : ∀ write ∈ gossipMessageWrites msg bufferSize, write.Within bufferSize
  counted : ∀ bytes, gossipMessageSerialize msg bufferSize = some bytes →
    gossipHeaderSize + memberUpdateSize * (bytes.getD 14 0).toNat = bytes.length
  decoded : ∃ bytes, gossipMessageSerialize msg bufferSize = some bytes ∧
    gossipMessageDeserialize bytes = some { msg with
      numUpdates := .ofNat (gossipRoom bufferSize)
      updates := (msg.updates.take (gossipRoom bufferSize)).map .onWire }

theorem gossipMessageWrites_inside_iff (hsendable : msg.Sendable)
    (hsmall : TooSmall msg bufferSize) :
    (∀ write ∈ gossipMessageWrites msg bufferSize, write.Within bufferSize) ↔
      gossipHeaderSize < bufferSize := by
  rw [(gossipMessage_cut hsendable hsmall).2]
  constructor
  · intro hinside
    exact hinside ⟨16, [.ofNat (gossipRoom bufferSize)]⟩ (by simp)
  · intro hsize write hwrite
    rcases List.mem_append.mp hwrite with hloop | hcount
    · rcases List.mem_cons.mp hloop with rfl | hupdate
      · rw [Write.Within, serializeHeader_length, Nat.zero_add]
        exact hsmall.header
      · obtain ⟨i, hi, rfl⟩ := List.mem_map.mp hupdate
        have hroom : ¬ gossipRoom bufferSize ≤ i := by
          simpa using (List.mem_range'_1.mp hi).2
        rw [← gossipRoom_next hsmall.header] at hroom
        rw [Write.Within, gossipSerializeMemberUpdate_length]
        exact Nat.not_lt.mp hroom
    · rw [List.mem_singleton.mp hcount]
      exact hsize

theorem gossipMessage_cut_length (hsendable : msg.Sendable) (hsmall : TooSmall msg bufferSize)
    (hbytes : gossipMessageSerialize msg bufferSize = some bytes) :
    bytes.length = gossipHeaderSize + memberUpdateSize * gossipRoom bufferSize ∧
      bytes.getD 14 0 = msg.numUpdates := by
  obtain rfl := Option.some.inj ((gossipMessage_cut hsendable hsmall).1.symm.trans hbytes)
  constructor
  · rw [List.length_append, List.length_set, flatMap_length, serializeHeader_length,
      List.length_take_of_le hsmall.room_lt.le]
  · have hheader := deserializeHeader_serialize msg
      (((msg.updates.take (gossipRoom bufferSize)).flatMap gossipSerializeMemberUpdate).set 0
        (.ofNat (gossipRoom bufferSize)))
    exact (congrArg GossipMessage.numUpdates hheader :)

/-- The updates come back if none was written, or if the first byte of the first
one happens to be their count. -/
theorem gossipMessage_cut_decoded_iff (hsendable : msg.Sendable)
    (hsmall : TooSmall msg bufferSize) :
    (∃ bytes, gossipMessageSerialize msg bufferSize = some bytes ∧
      gossipMessageDeserialize bytes = some { msg with
        numUpdates := .ofNat (gossipRoom bufferSize)
        updates := (msg.updates.take (gossipRoom bufferSize)).map .onWire }) ↔
      ∀ first ∈ (msg.updates.take (gossipRoom bufferSize)).head?,
        first.nodeId.toNat / 256 = gossipRoom bufferSize := by
  have hroom := hsmall.room_lt
  have hlength : (msg.updates.take (gossipRoom bufferSize)).length = gossipRoom bufferSize :=
    List.length_take_of_le hroom.le
  have hcount : (UInt8.ofNat (gossipRoom bufferSize)).toNat = gossipRoom bufferSize := by
    have hbounded := hsendable.bounded
    rw [UInt8.toNat_ofNat']
    simp only [gossipMaxPiggybackUpdates] at hbounded
    omega
  have hdecoded := @gossipMessageDeserialize_short msg
    (patched (.ofNat (gossipRoom bufferSize)) (msg.updates.take (gossipRoom bufferSize)))
    hsendable.version (by
      rw [patched_length, hlength, hsendable.counted, min_eq_left hsendable.bounded]
      exact hroom)
  rw [patched_length, hlength] at hdecoded
  simp only [(gossipMessage_cut hsendable hsmall).1, Option.some.injEq, exists_eq_left',
    flatMap_set, hdecoded, GossipMessage.mk.injEq, true_and, patched_onWire_iff, hcount]

/-- The header counts all updates although some were left out. -/
theorem gossipMessage_not_cutProperly (hsendable : msg.Sendable)
    (hsmall : TooSmall msg bufferSize) : ¬ CutProperly msg bufferSize := by
  intro hproper
  have hbytes := (gossipMessage_cut hsendable hsmall).1
  obtain ⟨hlength, hcount⟩ := gossipMessage_cut_length hsendable hsmall hbytes
  have hcounted := hproper.counted _ hbytes
  rw [hlength, hcount, hsendable.counted] at hcounted
  have hroom := hsmall.room_lt
  simp only [memberUpdateSize] at hcounted
  omega

def twoNodes : GossipMessage where
  version := 1
  msgType := gossipMsgPing
  flags := 0
  senderId := 1
  sequenceNum := 1
  numUpdates := 2
  updates := [{ GossipMemberUpdate.zero with nodeId := 2 },
    { GossipMemberUpdate.zero with nodeId := 3 }]

theorem twoNodes_sendable : twoNodes.Sendable := ⟨rfl, rfl, by decide⟩

theorem gossipMessage_not_cutProperly_two : ¬ CutProperly twoNodes 56 :=
  gossipMessage_not_cutProperly twoNodes_sendable ⟨by decide, by decide⟩

/-- One update is written, two are counted, and node 2 is read as node 258. -/
theorem twoNodes_cut :
    (twoNodes.Sendable ∧ TooSmall twoNodes 56) ∧ ¬ CutProperly twoNodes 56 := by
  refine ⟨⟨twoNodes_sendable, by decide, by decide⟩, fun hproper => ?_⟩
  obtain ⟨bytes, hbytes, hdecoded⟩ := hproper.decoded
  have hread : (gossipMessageSerialize twoNodes 56 >>= gossipMessageDeserialize).map
      (fun decoded => decoded.updates.map GossipMemberUpdate.nodeId) = some [258] := by decide
  rw [hbytes, Option.bind_eq_bind, Option.bind_some, hdecoded] at hread
  exact absurd hread (by decide)

end

end Roole
