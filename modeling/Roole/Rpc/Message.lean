import Roole.Common
import Roole.Lib.Bytes

/-!
# RPC messages

The frame header of `rpc.h`, `rpc_pack_message` and `rpc_unpack_header`. The
length and the request id travel in network order, the sender id in the byte
order of the host.
-/

namespace Roole

open Bytes

def rpcHeaderSize : Nat := 12

inductive RpcType
  | status
  | request
  | response
  deriving DecidableEq, Repr

def RpcType.toByte : RpcType → UInt8
  | .status => 0x00
  | .request => 0x01
  | .response => 0x02

inductive RpcStatus
  | success
  | badArgument
  | funcNotFound
  | internalError
  | network
  | unknown
  deriving DecidableEq, Repr

def RpcStatus.toByte : RpcStatus → UInt8
  | .success => 0x00
  | .badArgument => 0x01
  | .funcNotFound => 0x02
  | .internalError => 0x03
  | .network => 0x04
  | .unknown => 0xFF

def funcIdExecutionUpdate : UInt8 := 0x22
def funcIdSyncCatalog : UInt8 := 0x23
def funcIdSubmitMessage : UInt8 := 0x25
def funcIdProcessMessage : UInt8 := 0x26
def funcIdAddDag : UInt8 := 0x30
def funcIdListDags : UInt8 := 0x34
def funcIdGetStatus : UInt8 := 0x35

structure RpcHeader where
  totalLen : UInt32
  requestId : UInt32
  senderId : NodeId
  typeAndStatus : UInt8
  funcId : UInt8
  deriving DecidableEq, Repr

/-- The two four-bit fields of `rpc_type_status_t`. -/
def rpcTypeStatus (type status : UInt8) : UInt8 := 
  (status &&& (0x0F : UInt8)) ||| (type &&& (0x0F : UInt8)) <<< (4 : UInt8)

def rpcTotalLen (payloadLen : Nat) : UInt32 := .ofNat (rpcHeaderSize + payloadLen)

/-- The bytes `rpc_pack_message` writes. It knows no bound on them. -/
def rpcPackMessage (nodeId : NodeId) (requestId : UInt32) (type status funcId : UInt8)
    (payload : List UInt8) : List UInt8 :=
  writeBe32 (rpcTotalLen payload.length) ++ (writeBe32 requestId ++ (writeLe16 nodeId ++
    rpcTypeStatus type status :: funcId :: payload))

def RpcHeader.read (buffer : List UInt8) : RpcHeader where
  totalLen := readBe32 buffer
  requestId := readBe32 (buffer.drop 4)
  senderId := readLe16 (buffer.drop 8)
  typeAndStatus := (buffer.drop 10).headD 0
  funcId := (buffer.drop 11).headD 0

def rpcUnpackHeader (buffer : List UInt8) : Option RpcHeader :=
  let header := RpcHeader.read buffer
  if header.totalLen.toNat < rpcHeaderSize then none else some header

@[simp] theorem rpcPackMessage_length (nodeId : NodeId) (requestId : UInt32)
    (type status funcId : UInt8) (payload : List UInt8) :
    (rpcPackMessage nodeId requestId type status funcId payload).length =
      rpcHeaderSize + payload.length := by
  simp only [rpcPackMessage, List.length_append, writeBe32_length, writeLe16_length,
    List.length_cons, rpcHeaderSize]
  omega

@[simp] theorem rpcPackMessage_drop (nodeId : NodeId) (requestId : UInt32)
    (type status funcId : UInt8) (payload : List UInt8) :
    (rpcPackMessage nodeId requestId type status funcId payload).drop rpcHeaderSize = payload := by
  simp [rpcPackMessage, rpcHeaderSize, List.drop_append, List.drop_eq_nil_of_le]

theorem rpcTotalLen_toNat (h : rpcHeaderSize + payloadLen < 2 ^ 32) :
    (rpcTotalLen payloadLen).toNat = rpcHeaderSize + payloadLen := UInt32.toNat_ofNat_of_lt' h

theorem RpcHeader.read_append (h : rpcHeaderSize ≤ buffer.length) :
    read (buffer ++ more) = read buffer := by
  have hdrop : ∀ i ≤ 12, (buffer ++ more).drop i = buffer.drop i ++ more :=
    fun i hi => List.drop_append_of_le_length (hi.trans h)
  have htake : ∀ i n, i + n ≤ 12 → (buffer.drop i ++ more).take n = (buffer.drop i).take n := by
    intro i n hin
    refine List.take_append_of_le_length ?_
    rw [List.length_drop]
    exact Nat.le_sub_of_add_le' (hin.trans h)
  have hhead : ∀ i < 12, (buffer.drop i ++ more).headD 0 = (buffer.drop i).headD 0 := by
    intro i hi
    cases hbytes : buffer.drop i with
    | nil => simp [rpcHeaderSize] at hbytes h; omega
    | cons b bytes => rfl
  have hlen := htake 0 4 (by decide)
  rw [List.drop_zero] at hlen
  simp only [read, readBe32, readLe16, hlen, hdrop 4 (by decide), hdrop 8 (by decide),
    hdrop 10 (by decide), hdrop 11 (by decide), htake 4 4 (by decide), htake 8 2 (by decide),
    hhead 10 (by decide), hhead 11 (by decide)]

theorem rpcUnpackHeader_append (h : rpcHeaderSize ≤ buffer.length) :
    rpcUnpackHeader (buffer ++ more) = rpcUnpackHeader buffer := by
  simp only [rpcUnpackHeader, RpcHeader.read_append h]

theorem rpcUnpackHeader_pos (h : rpcUnpackHeader buffer = some header) :
    0 < header.totalLen.toNat := by
  unfold rpcUnpackHeader at h
  dsimp only at h
  split_ifs at h with hlen
  cases h
  exact Nat.lt_of_lt_of_le (by decide) (Nat.not_lt.mp hlen)

theorem RpcHeader.read_pack (nodeId : NodeId) (requestId : UInt32) (type status funcId : UInt8)
    (payload : List UInt8) : read (rpcPackMessage nodeId requestId type status funcId payload) = {
      totalLen := rpcTotalLen payload.length
      requestId := requestId
      senderId := nodeId
      typeAndStatus := rpcTypeStatus type status
      funcId := funcId } := by
  simp [read, rpcPackMessage, List.drop_append, List.drop_eq_nil_of_le]

theorem rpcUnpackHeader_pack (h : rpcHeaderSize + payload.length < 2 ^ 32) :
    rpcUnpackHeader (rpcPackMessage nodeId requestId type status funcId payload) = some {
      totalLen := rpcTotalLen payload.length
      requestId := requestId
      senderId := nodeId
      typeAndStatus := rpcTypeStatus type status
      funcId := funcId } := by
  have hlen : ¬ (rpcTotalLen payload.length).toNat < rpcHeaderSize := by
    rw [rpcTotalLen_toNat h]
    exact Nat.not_lt.mpr (Nat.le_add_right _ _)
  simp [rpcUnpackHeader, RpcHeader.read_pack, hlen]

end Roole
