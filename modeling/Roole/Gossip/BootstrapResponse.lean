import Roole.Gossip.Protocol

/-!
# Bootstrap responses

The list of routers behind the header of a JOIN_RESPONSE: a count and 130 bytes
a router. The encoder leaves out the routers that do not fit and counts the
others; the decoder copies each address up to its terminator, wherever that is.
-/

namespace Roole

open Bytes

def bootstrapRouterSize : Nat := 130

def BootstrapRouter.zero : BootstrapRouter where
  nodeId := 0
  gossipAddr := []
  dataAddr := []

structure BootstrapResponse where
  numRouters : UInt8
  /-- The slots written so far; the rest of the sixteen are zero. -/
  routers : List BootstrapRouter
  deriving DecidableEq, Repr

def BootstrapResponse.router (past : Nat → BootstrapRouter) (resp : BootstrapResponse) (i : Nat) :
    BootstrapRouter :=
  if i < maxConfigRouters then resp.routers.getD i .zero else past i

def deserializeRouter (bytes : List UInt8) : BootstrapRouter where
  nodeId := readBe16 bytes
  gossipAddr := safeStrncpy (bytes.drop 2) maxConfigString
  dataAddr := safeStrncpy (bytes.drop 66) maxConfigString

/-- The loop over the slots `i`. The memory goes on behind the buffer. -/
def deserializeRouters (memory : List UInt8) (bufferSize : Nat) :
    List Nat → Nat → BootstrapResponse → BootstrapResponse
  | [], _, resp => resp
  | i :: rest, offset, resp =>
    if offset + bootstrapRouterSize > bufferSize then { resp with numRouters := .ofNat i }
    else deserializeRouters memory bufferSize rest (offset + bootstrapRouterSize)
      { resp with routers := resp.routers ++ [deserializeRouter (memory.drop offset)] }

/-- `behind` is the memory that follows the buffer. -/
def gossipDeserializeBootstrapResponse (behind buffer : List UInt8) : Option BootstrapResponse :=
  if buffer.length < 1 then none
  else
    let resp : BootstrapResponse := ⟨buffer.getD 0 0, []⟩
    some (deserializeRouters (buffer ++ behind) buffer.length
      (List.range (min resp.numRouters.toNat maxConfigRouters)) 1 resp)

-- ----------------------------------------------------------------------------
-- Encoding
-- ----------------------------------------------------------------------------

def serializeRouter (router : BootstrapRouter) : List UInt8 :=
  writeBe16 router.nodeId ++ addressField router.gossipAddr ++ addressField router.dataAddr

@[simp] theorem addressField_length (address : List UInt8) :
    (addressField address).length = 64 := by
  have hle := List.length_take_le 63 (cString address)
  simp only [addressField, List.length_append, List.length_replicate]
  omega

@[simp] theorem serializeRouter_length (router : BootstrapRouter) :
    (serializeRouter router).length = bootstrapRouterSize := by
  simp [serializeRouter, bootstrapRouterSize]

theorem serializeRouter_flatMap_length (routers : List BootstrapRouter) :
    (routers.flatMap serializeRouter).length = bootstrapRouterSize * routers.length := by
  induction routers with
  | nil => rfl
  | cons router rest ih =>
    rw [List.flatMap_cons, List.length_append, ih, serializeRouter_length, List.length_cons,
      Nat.mul_succ, Nat.add_comm]

def bootstrapRoom (bufferSize : Nat) : Nat := (bufferSize - 1) / bootstrapRouterSize

theorem serializeRouters_eq {out : List UInt8} (routers : List BootstrapRouter)
    (hout : out.length = 1 + bootstrapRouterSize * i) (hi : i ≤ bootstrapRoom bufferSize) :
    serializeRouters bufferSize routers i out =
      (if i + routers.length ≤ bootstrapRoom bufferSize then out
        else out.set 0 (.ofNat (bootstrapRoom bufferSize))) ++
      (routers.take (bootstrapRoom bufferSize - i)).flatMap serializeRouter := by
  induction routers generalizing i out with
  | nil => simp [serializeRouters, hi]
  | cons router rest ih =>
    have hroom : out.length + 130 > bufferSize ↔ ¬ i + 1 ≤ bootstrapRoom bufferSize := by
      rw [hout]
      simp only [bootstrapRoom, bootstrapRouterSize] at *
      omega
    rw [serializeRouters, List.append_assoc, List.append_assoc, ← List.append_assoc (writeBe16 _),
      ← serializeRouter]
    by_cases hnext : i + 1 ≤ bootstrapRoom bufferSize
    · have hout' : (out ++ serializeRouter router).length =
          1 + bootstrapRouterSize * (i + 1) := by
        rw [List.length_append, hout, serializeRouter_length, Nat.mul_succ, Nat.add_assoc]
      have hset : (out ++ serializeRouter router).set 0 (.ofNat (bootstrapRoom bufferSize)) =
          out.set 0 (.ofNat (bootstrapRoom bufferSize)) ++ serializeRouter router :=
        List.set_append_left 0 _ (by rw [hout]; exact Nat.lt_add_right _ Nat.one_pos)
      have htake : bootstrapRoom bufferSize - i = (bootstrapRoom bufferSize - (i + 1)) + 1 := by
        omega
      have hcount : i + (router :: rest).length = i + 1 + rest.length := by
        rw [List.length_cons]
        omega
      rw [if_neg (by rw [hroom]; exact not_not_intro hnext), ih hout' hnext, hset, htake, hcount,
        List.take_succ_cons, List.flatMap_cons]
      split_ifs
      · rw [List.append_assoc]
      · rw [List.append_assoc]
    · have heq : bootstrapRoom bufferSize = i := by omega
      rw [if_pos (hroom.mpr hnext), heq, if_neg (by simp), Nat.sub_self]
      simp

theorem gossipSerializeBootstrapResponse_eq {routers : List BootstrapRouter}
    (hcount : routers.length ≤ maxConfigRouters) (hsize : 1 ≤ bufferSize) :
    gossipSerializeBootstrapResponse routers bufferSize =
      some (.ofNat (min routers.length (bootstrapRoom bufferSize)) ::
        (routers.take (bootstrapRoom bufferSize)).flatMap serializeRouter) := by
  have hloop := @serializeRouters_eq _ _ [.ofNat routers.length] routers rfl
    (Nat.zero_le (bootstrapRoom bufferSize))
  unfold gossipSerializeBootstrapResponse
  rw [if_neg (Nat.not_lt.mpr hsize), List.take_of_length_le hcount, hloop, Nat.zero_add,
    Nat.sub_zero]
  split_ifs with hfits
  · rw [min_eq_left hfits]
    rfl
  · rw [min_eq_right (Nat.le_of_not_le hfits)]
    rfl

-- ----------------------------------------------------------------------------
-- Round trip
-- ----------------------------------------------------------------------------

def BootstrapRouter.onWire (router : BootstrapRouter) : BootstrapRouter where
  nodeId := router.nodeId
  gossipAddr := (cString router.gossipAddr).take 63
  dataAddr := (cString router.dataAddr).take 63

theorem safeStrncpy_addressField (address rest : List UInt8) :
    safeStrncpy (addressField address ++ rest) maxConfigString = (cString address).take 63 := by
  have htext : (0 : UInt8) ∉ (cString address).take 63 :=
    cString_eq_self_iff.mp (cString_safeStrncpy address 64)
  have hlength := List.length_take_le 63 (cString address)
  obtain ⟨zeros, hzeros⟩ := Nat.exists_eq_succ_of_ne_zero
    (show 64 - ((cString address).take 63).length ≠ 0 by omega)
  have hfield : addressField address ++ rest =
      (cString address).take 63 ++ 0 :: (List.replicate zeros 0 ++ rest) := by
    simp only [addressField, hzeros, List.replicate_succ, List.append_assoc, List.cons_append]
  rw [hfield, safeStrncpy, cString_append_zero htext]
  refine List.take_of_length_le ?_
  simp only [maxConfigString]
  omega

theorem deserializeRouter_serialize (router : BootstrapRouter) (rest : List UInt8) :
    deserializeRouter (serializeRouter router ++ rest) = router.onWire := by
  have hdata : (writeBe16 router.nodeId ++ (addressField router.gossipAddr ++
      (addressField router.dataAddr ++ rest))).drop 66 = addressField router.dataAddr ++ rest := by
    rw [← List.append_assoc]
    exact List.drop_left' (by simp)
  simp only [serializeRouter, List.append_assoc, deserializeRouter, BootstrapRouter.onWire,
    readBe16_write, List.drop_left' (writeBe16_length _), safeStrncpy_addressField, hdata]

theorem deserializeRouters_eq (routers : List BootstrapRouter) {front : List UInt8}
    (behind : List UInt8) (i : Nat) (resp : BootstrapResponse)
    (hsize : front.length + bootstrapRouterSize * routers.length ≤ bufferSize) :
    deserializeRouters (front ++ (routers.flatMap serializeRouter ++ behind)) bufferSize
        (List.range' i routers.length) front.length resp =
      { resp with routers := resp.routers ++ routers.map .onWire } := by
  induction routers generalizing front i resp with
  | nil => simp [deserializeRouters]
  | cons router rest ih =>
    rw [List.length_cons, Nat.mul_succ] at hsize
    have hroom : ¬ front.length + bootstrapRouterSize > bufferSize := by omega
    have hfront : (front ++ serializeRouter router).length =
        front.length + bootstrapRouterSize := by
      rw [List.length_append, serializeRouter_length]
    rw [List.length_cons, List.range'_succ, deserializeRouters, if_neg hroom, List.drop_left,
      List.flatMap_cons, List.append_assoc, deserializeRouter_serialize, ← List.append_assoc front,
      ← hfront, ih (i + 1) _ (by rw [hfront]; omega)]
    simp

theorem gossipDeserializeBootstrapResponse_eq {routers : List BootstrapRouter}
    (hcount : routers.length ≤ maxConfigRouters) (behind : List UInt8) :
    gossipDeserializeBootstrapResponse behind
        (.ofNat routers.length :: routers.flatMap serializeRouter) =
      some ⟨.ofNat routers.length, routers.map .onWire⟩ := by
  have htoNat : (UInt8.ofNat routers.length).toNat = routers.length := by
    rw [UInt8.toNat_ofNat']
    simp only [maxConfigRouters] at hcount
    omega
  have hloop := @deserializeRouters_eq (1 + bootstrapRouterSize * routers.length) routers
    [.ofNat routers.length] behind 0 ⟨.ofNat routers.length, []⟩ (Nat.le_refl _)
  have hlength : (UInt8.ofNat routers.length :: routers.flatMap serializeRouter).length =
      1 + bootstrapRouterSize * routers.length := by
    rw [List.length_cons, serializeRouter_flatMap_length, Nat.add_comm]
  unfold gossipDeserializeBootstrapResponse
  rw [if_neg (by rw [hlength]; omega), hlength]
  simp only [List.getD_cons_zero, htoNat, min_eq_left hcount, List.range_eq_range']
  exact congrArg some hloop

end Roole
