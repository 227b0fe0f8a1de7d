import Roole.Node.Bootstrap

/-!
# The bytes behind a JOIN_RESPONSE

Where the bootstrap looks for the list of routers in a datagram, and which bytes
it reads for each of them. The header is taken to have 44 bytes an update, and
an address is copied up to a terminator that the sender may have left out.
-/

namespace Roole

open Bytes

-- ----------------------------------------------------------------------------
-- What is read
-- ----------------------------------------------------------------------------

def strncpyReads (start : Nat) (src : List UInt8) (n : Nat) : List Nat :=
  List.range' start (min (strlen src + 1) n)

def routerReads (memory : List UInt8) (offset : Nat) : List Nat :=
  List.range' offset 2 ++
    strncpyReads (offset + 2) (memory.drop (offset + 2)) (maxConfigString - 1) ++
    strncpyReads (offset + 66) (memory.drop (offset + 66)) (maxConfigString - 1)

def routersReads (memory : List UInt8) (bufferSize : Nat) : List Nat → Nat → List Nat
  | [], _ => []
  | _ :: rest, offset =>
    if offset + bootstrapRouterSize > bufferSize then []
    else routerReads memory offset ++
      routersReads memory bufferSize rest (offset + bootstrapRouterSize)

def bootstrapReads (behind buffer : List UInt8) : List Nat :=
  if buffer.length < 1 then []
  else 0 :: routersReads (buffer ++ behind) buffer.length
    (List.range (min (buffer.getD 0 0).toNat maxConfigRouters)) 1

def bootstrapOffset (response : GossipMessage) : Nat := 16 + response.numUpdates.toNat * 44

def sectionReads (behind datagram : List UInt8) (response : GossipMessage) : List Nat :=
  (bootstrapReads behind (datagram.drop (bootstrapOffset response))).map
    (bootstrapOffset response + ·)

-- ----------------------------------------------------------------------------
-- The loop over the routers
-- ----------------------------------------------------------------------------

/-- How many routers are read from a list: as many as it counts and has room
for, at most sixteen. -/
def routersIn (buffer : List UInt8) : Nat :=
  min (min (buffer.getD 0 0).toNat maxConfigRouters) (bootstrapRoom buffer.length)

def ownBytes (buffer : List UInt8) (i : Nat) : List UInt8 :=
  (buffer.drop (1 + bootstrapRouterSize * i)).take bootstrapRouterSize

theorem bootstrapRoom_next (bufferSize i : Nat) :
    1 + bootstrapRouterSize * i + bootstrapRouterSize > bufferSize ↔
      bootstrapRoom bufferSize ≤ i := by
  simp only [bootstrapRoom, bootstrapRouterSize]
  omega

theorem deserializeRouters_routers (memory : List UInt8) (left i : Nat)
    (resp : BootstrapResponse) :
    (deserializeRouters memory bufferSize (List.range' i left) (1 + bootstrapRouterSize * i)
        resp).routers =
        resp.routers ++ (List.range' i (min left (bootstrapRoom bufferSize - i))).map (fun j =>
          deserializeRouter (memory.drop (1 + bootstrapRouterSize * j))) ∧
      routersReads memory bufferSize (List.range' i left) (1 + bootstrapRouterSize * i) =
        (List.range' i (min left (bootstrapRoom bufferSize - i))).flatMap fun j =>
          routerReads memory (1 + bootstrapRouterSize * j) := by
  induction left generalizing i resp with
  | zero => simp [deserializeRouters, routersReads]
  | succ left ih =>
    rw [List.range'_succ, deserializeRouters, routersReads]
    by_cases hstop : bootstrapRoom bufferSize ≤ i
    · have hno := (bootstrapRoom_next bufferSize i).mpr hstop
      rw [if_pos hno, if_pos hno, Nat.sub_eq_zero_of_le hstop]
      simp
    · have hgo := mt (bootstrapRoom_next bufferSize i).mp hstop
      have hcount : min (left + 1) (bootstrapRoom bufferSize - i) =
          min left (bootstrapRoom bufferSize - (i + 1)) + 1 := by omega
      have hnext : 1 + bootstrapRouterSize * i + bootstrapRouterSize =
          1 + bootstrapRouterSize * (i + 1) := by rw [Nat.mul_succ, Nat.add_assoc]
      rw [if_neg hgo, if_neg hgo, hnext, hcount, List.range'_succ]
      obtain ⟨hrouters, hreads⟩ := ih (i + 1) { resp with
        routers := resp.routers ++
          [deserializeRouter (memory.drop (1 + bootstrapRouterSize * i))] }
      rw [hrouters, hreads]
      simp

theorem gossipDeserializeBootstrapResponse_routers
    (h : gossipDeserializeBootstrapResponse behind buffer = some resp) :
    resp.routers = (List.range (routersIn buffer)).map (fun i =>
        deserializeRouter ((buffer ++ behind).drop (1 + bootstrapRouterSize * i))) ∧
      bootstrapReads behind buffer = 0 :: (List.range (routersIn buffer)).flatMap fun i =>
        routerReads (buffer ++ behind) (1 + bootstrapRouterSize * i) := by
  unfold gossipDeserializeBootstrapResponse at h
  unfold bootstrapReads
  split at h
  · cases h
  case isFalse hsize =>
    cases h
    obtain ⟨hrouters, hreads⟩ := @deserializeRouters_routers buffer.length (buffer ++ behind)
      (min (buffer.getD 0 0).toNat maxConfigRouters) 0 ⟨buffer.getD 0 0, []⟩
    rw [← List.range_eq_range', ← List.range_eq_range', Nat.sub_zero] at hrouters hreads
    rw [if_neg hsize, routersIn]
    exact ⟨hrouters, congrArg _ hreads⟩

theorem ownBytes_length (hi : i < routersIn buffer) :
    (ownBytes buffer i).length = bootstrapRouterSize ∧
      1 + bootstrapRouterSize * i + bootstrapRouterSize ≤ buffer.length := by
  have hroom := mt (bootstrapRoom_next buffer.length i).mp
    (Nat.not_le.mpr (hi.trans_le (Nat.min_le_right _ _)))
  refine ⟨List.length_take_of_le ?_, Nat.not_lt.mp hroom⟩
  rw [List.length_drop]
  omega

theorem drop_eq_ownBytes (behind : List UInt8) (hi : i < routersIn buffer) :
    ∃ rest, (buffer ++ behind).drop (1 + bootstrapRouterSize * i) =
      ownBytes buffer i ++ rest := by
  have hlength := (ownBytes_length hi).2
  refine ⟨(buffer.drop (1 + bootstrapRouterSize * i)).drop bootstrapRouterSize ++ behind, ?_⟩
  rw [List.drop_append_of_le_length (by omega), ← List.append_assoc, ownBytes,
    List.take_append_drop]

-- ----------------------------------------------------------------------------
-- Terminated addresses
-- ----------------------------------------------------------------------------

theorem cString_append_of_mem (h : (0 : UInt8) ∈ bytes) (rest : List UInt8) :
    cString (bytes ++ rest) = cString bytes := by
  have hshort : (cString bytes).length ≠ bytes.length := fun hlength =>
    cString_eq_self_iff.mp ((List.takeWhile_prefix _).eq_of_length hlength) h
  exact List.takeWhile_append.trans (if_neg hshort)

theorem strlen_lt_of_mem (h : (0 : UInt8) ∈ bytes) : strlen bytes < bytes.length :=
  (strlen_le bytes).lt_of_ne fun hlength =>
    cString_eq_self_iff.mp ((List.takeWhile_prefix _).eq_of_length hlength) h

/-- The data address ends within its own field. -/
def Terminated (own : List UInt8) : Prop := (0 : UInt8) ∈ own.drop 66

instance (own : List UInt8) : Decidable (Terminated own) := inferInstanceAs (Decidable (_ ∈ _))

section

variable {own rest : List UInt8}

theorem Terminated.gossip (h : Terminated own) : (0 : UInt8) ∈ own.drop 2 := by
  have hdrop : own.drop 66 = (own.drop 2).drop 64 := by rw [List.drop_drop]
  rw [Terminated, hdrop] at h
  exact List.mem_of_mem_drop h

theorem deserializeRouter_own (hlength : own.length = bootstrapRouterSize)
    (h : Terminated own) (rest : List UInt8) :
    deserializeRouter (own ++ rest) = deserializeRouter own := by
  have hid : readBe16 (own ++ rest) = readBe16 own := by
    rw [readBe16, readBe16, List.take_append_of_le_length (by rw [hlength]; decide)]
  simp only [deserializeRouter, safeStrncpy, hid]
  rw [List.drop_append_of_le_length (by rw [hlength]; decide), cString_append_of_mem h.gossip,
    List.drop_append_of_le_length (by rw [hlength]; decide), cString_append_of_mem h]

theorem routerReads_own (hlength : own.length = bootstrapRouterSize)
    (h : Terminated own) {memory : List UInt8} (hmemory : memory.drop offset = own ++ rest) :
    ∀ read ∈ routerReads memory offset, read < offset + bootstrapRouterSize := by
  have hfield : ∀ start ≤ 66, (0 : UInt8) ∈ own.drop start →
      ∀ read ∈ strncpyReads (offset + start) (memory.drop (offset + start)) (maxConfigString - 1),
        read < offset + bootstrapRouterSize := by
    intro start hstart hzero read hread
    have hstrlen := strlen_lt_of_mem hzero
    rw [List.length_drop, hlength] at hstrlen
    rw [strncpyReads, ← List.drop_drop, hmemory,
      List.drop_append_of_le_length (by rw [hlength]; exact hstart.trans (by decide)), strlen,
      cString_append_of_mem hzero, ← strlen, List.mem_range'_1] at hread
    simp only [bootstrapRouterSize] at hstrlen ⊢
    omega
  intro read hread
  rw [routerReads, List.mem_append, List.mem_append] at hread
  rcases hread with (hid | hgossip) | hdata
  · have hlt := (List.mem_range'_1.mp hid).2
    exact hlt.trans (Nat.add_lt_add_left (by decide) _)
  · exact hfield 2 (by decide) h.gossip read hgossip
  · exact hfield 66 (Nat.le_refl _) h read hdata

theorem deserializeRouter_unterminated (hlength : own.length = bootstrapRouterSize)
    (h : ¬ Terminated own) :
    deserializeRouter (own ++ [0]) ≠ deserializeRouter (own ++ [1, 0]) := by
  have hdata : (own.drop 66).length = 64 := by
    rw [List.length_drop, hlength]
    rfl
  have hone : (0 : UInt8) ∉ own.drop 66 ++ [1] := by simpa [Terminated] using h
  intro heq
  have haddr := congrArg (fun router => router.dataAddr.length) heq
  simp only [deserializeRouter, safeStrncpy] at haddr
  rw [List.drop_append_of_le_length (by rw [hlength]; decide),
    List.drop_append_of_le_length (by rw [hlength]; decide),
    cString_append_zero h, List.append_cons _ 1, cString_append_zero hone, List.length_take,
    List.length_take, List.length_append, hdata] at haddr
  exact absurd haddr (by decide)

end

-- ----------------------------------------------------------------------------
-- The list of a datagram
-- ----------------------------------------------------------------------------

theorem router_eq (h : gossipDeserializeBootstrapResponse behind buffer = some list)
    (hi : i < routersIn buffer) : list.routers[i]? =
      some (deserializeRouter ((buffer ++ behind).drop (1 + bootstrapRouterSize * i))) := by
  rw [(gossipDeserializeBootstrapResponse_routers h).1, List.getElem?_map, List.getElem?_range hi]
  rfl

theorem lt_routersIn (h : gossipDeserializeBootstrapResponse behind buffer = some list)
    (hrouter : list.routers[i]? = some router) : i < routersIn buffer := by
  obtain ⟨hi, -⟩ := List.getElem?_eq_some_iff.mp hrouter
  rw [(gossipDeserializeBootstrapResponse_routers h).1] at hi
  simpa using hi

/-- What is read for a router is the same in every list with the same bytes for
it, whatever else the list holds and lies behind it. -/
def OwnBytesOnly (behind buffer : List UInt8) : Prop :=
  ∀ list, gossipDeserializeBootstrapResponse behind buffer = some list →
    ∀ behind' buffer' list', gossipDeserializeBootstrapResponse behind' buffer' = some list' →
      ∀ i router router', list.routers[i]? = some router → list'.routers[i]? = some router' →
        ownBytes buffer' i = ownBytes buffer i → router' = router

theorem router_of_prefix (hi : i < routersIn buffer) (behind : List UInt8) :
    ∃ list, gossipDeserializeBootstrapResponse behind
        (buffer.take (1 + bootstrapRouterSize * i + bootstrapRouterSize)) = some list ∧
      list.routers[i]? = some (deserializeRouter (ownBytes buffer i ++ behind)) ∧
      ownBytes (buffer.take (1 + bootstrapRouterSize * i + bootstrapRouterSize)) i =
        ownBytes buffer i := by
  obtain ⟨hown, hlength⟩ := ownBytes_length hi
  generalize hfront : buffer.take (1 + bootstrapRouterSize * i + bootstrapRouterSize) = front
  have hsize : front.length = 1 + bootstrapRouterSize * i + bootstrapRouterSize := by
    rw [← hfront, List.length_take_of_le hlength]
  have hdrop : front.drop (1 + bootstrapRouterSize * i) = ownBytes buffer i := by
    rw [← hfront, ownBytes, List.drop_take, Nat.add_sub_cancel_left]
  have hcount : front.getD 0 0 = buffer.getD 0 0 := by
    rw [← hfront, List.getD_eq_getElem?_getD, List.getElem?_take_of_lt (by omega),
      ← List.getD_eq_getElem?_getD]
  have hin : i < routersIn front := by
    have hroom := mt (bootstrapRoom_next front.length i).mpr (by omega)
    rw [routersIn, hcount]
    exact Nat.lt_min.mpr ⟨hi.trans_le (Nat.min_le_left _ _), Nat.not_le.mp hroom⟩
  have hlist : ∃ list, gossipDeserializeBootstrapResponse behind front = some list := by
    unfold gossipDeserializeBootstrapResponse
    rw [if_neg (by omega)]
    exact ⟨_, rfl⟩
  obtain ⟨list, hlist⟩ := hlist
  refine ⟨list, hlist, ?_, ?_⟩
  · rw [router_eq hlist hin, List.drop_append_of_le_length (by omega), hdrop]
  · rw [ownBytes, hdrop, List.take_of_length_le hown.le]

theorem ownBytesOnly_iff (h : gossipDeserializeBootstrapResponse behind buffer = some list) :
    OwnBytesOnly behind buffer ↔ ∀ i < routersIn buffer, Terminated (ownBytes buffer i) := by
  constructor
  · intro hown i hi
    by_contra hunterminated
    obtain ⟨list₀, hlist₀, hrouter₀, hbytes⟩ := router_of_prefix hi [0]
    obtain ⟨list₁, hlist₁, hrouter₁, -⟩ := router_of_prefix hi [1, 0]
    have heq₀ := hown list h _ _ list₀ hlist₀ i _ _ (router_eq h hi) hrouter₀ hbytes
    have heq₁ := hown list h _ _ list₁ hlist₁ i _ _ (router_eq h hi) hrouter₁ hbytes
    exact deserializeRouter_unterminated (ownBytes_length hi).1 hunterminated
      (heq₀.trans heq₁.symm)
  · intro hterminated list h behind' buffer' list' h' i router router' hrouter hrouter' hbytes
    have hi := lt_routersIn h hrouter
    have hi' := lt_routersIn h' hrouter'
    obtain ⟨rest, hrest⟩ := drop_eq_ownBytes behind hi
    obtain ⟨rest', hrest'⟩ := drop_eq_ownBytes behind' hi'
    have hlength := (ownBytes_length hi).1
    rw [router_eq h hi, hrest, deserializeRouter_own hlength (hterminated i hi)] at hrouter
    rw [router_eq h' hi', hrest', hbytes,
      deserializeRouter_own hlength (hterminated i hi)] at hrouter'
    exact Option.some.inj (hrouter'.symm.trans hrouter)

theorem bootstrapReads_inside (h : gossipDeserializeBootstrapResponse behind buffer = some list)
    (hterminated : ∀ i < routersIn buffer, Terminated (ownBytes buffer i)) :
    ∀ read ∈ bootstrapReads behind buffer, read < buffer.length := by
  intro read hread
  rw [(gossipDeserializeBootstrapResponse_routers h).2] at hread
  rcases List.mem_cons.mp hread with rfl | hread
  · unfold gossipDeserializeBootstrapResponse at h
    split at h
    · cases h
    case isFalse hsize => exact Nat.not_lt.mp hsize
  · obtain ⟨i, hi, hread⟩ := List.mem_flatMap.mp hread
    rw [List.mem_range] at hi
    obtain ⟨hlength, hend⟩ := ownBytes_length hi
    obtain ⟨rest, hrest⟩ := drop_eq_ownBytes behind hi
    exact (routerReads_own hlength (hterminated i hi) hrest read hread).trans_le hend

-- ----------------------------------------------------------------------------
-- The section of a response
-- ----------------------------------------------------------------------------

/-- The list of routers is read where the updates end, each router from its own
bytes, and nothing behind the datagram. -/
structure ReadsSection (behind datagram : List UInt8) (response : GossipMessage) : Prop where
  start : bootstrapOffset response =
    gossipHeaderSize + memberUpdateSize * response.numUpdates.toNat
  own : OwnBytesOnly behind (datagram.drop (bootstrapOffset response))
  inside : ∀ read ∈ sectionReads behind datagram response, read < datagram.length

def AddressesEnd (buffer : List UInt8) : Prop :=
  ∀ i < routersIn buffer, Terminated (ownBytes buffer i)

theorem bootstrapFromResponse_ok
    (hdecoded : gossipMessageDeserialize datagram = some response)
    (hok : (bootstrapFromResponse env node datagram).1 = .ok) :
    ∃ list, gossipDeserializeBootstrapResponse env.behind
      (datagram.drop (bootstrapOffset response)) = some list := by
  unfold bootstrapFromResponse at hok
  rw [hdecoded] at hok
  dsimp only at hok
  rw [← bootstrapOffset] at hok
  split at hok
  · cases hok
  · split at hok
    · cases hok
    · cases hlist : gossipDeserializeBootstrapResponse env.behind
        (datagram.drop (bootstrapOffset response)) with
      | none =>
        rw [hlist] at hok
        cases hok
      | some list => exact ⟨list, rfl⟩

theorem bootstrapOffset_eq_iff (response : GossipMessage) :
    bootstrapOffset response =
        gossipHeaderSize + memberUpdateSize * response.numUpdates.toNat ↔
      response.numUpdates = 0 := by
  rw [← UInt8.toNat_inj, bootstrapOffset, gossipHeaderSize, memberUpdateSize]
  simp only [UInt8.toNat_zero]
  omega

/-- Of the responses that the bootstrap takes exactly those without updates
whose addresses end are read from the bytes meant for it. -/
theorem bootstrap_readsSection_iff {env : BootstrapEnv} (hsends : env.Sends routers)
    (hsize : datagram.length ≤ gossipMaxPayloadSize)
    (hok : (nodeBootstrapFromConfigEx (env.answered datagram) identity routers node).1 = .ok)
    (hdecoded : gossipMessageDeserialize datagram = some response) :
    ReadsSection env.behind datagram response ↔
      response.numUpdates = 0 ∧ AddressesEnd (datagram.drop (bootstrapOffset response)) := by
  obtain ⟨sent, hbootstrap⟩ := nodeBootstrapFromConfigEx_answered hsends hsize identity node
  rw [hbootstrap] at hok
  obtain ⟨list, hlist⟩ := bootstrapFromResponse_ok hdecoded hok
  constructor
  · intro hreads
    exact ⟨(bootstrapOffset_eq_iff response).mp hreads.start,
      (ownBytesOnly_iff hlist).mp hreads.own⟩
  · rintro ⟨hnone, hend⟩
    refine ⟨(bootstrapOffset_eq_iff response).mpr hnone, (ownBytesOnly_iff hlist).mpr hend, ?_⟩
    intro read hread
    obtain ⟨inner, hinner, rfl⟩ := List.mem_map.mp hread
    have hlt := bootstrapReads_inside hlist hend inner hinner
    rw [List.length_drop] at hlt
    omega

def responseDatagram (updates : Nat) (router : List UInt8) : List UInt8 :=
  [1, gossipMsgJoinResponse] ++ List.replicate 12 0 ++ [.ofNat updates, 0] ++
    List.replicate (memberUpdateSize * updates) 0 ++ 1 :: router

def Accepted (datagram : List UInt8) : Prop :=
  datagram.length ≤ gossipMaxPayloadSize ∧
    (nodeBootstrapFromConfigEx (smoothEnv.answered datagram) ⟨3, workerIp, 7003, 8003⟩
      [socketAddress routerIp 7000] startingNode).1 = .ok

instance (datagram : List UInt8) : Decidable (Accepted datagram) :=
  inferInstanceAs (Decidable (_ ∧ _))

theorem bootstrap_readsSection_iff_ended :
    ∃ response, gossipMessageDeserialize (responseDatagram 0 (List.replicate 130 0)) =
        some response ∧
      (ReadsSection [] (responseDatagram 0 (List.replicate 130 0)) response ↔
        response.numUpdates = 0 ∧ AddressesEnd
          ((responseDatagram 0 (List.replicate 130 0)).drop (bootstrapOffset response))) := by
  obtain ⟨response, hdecoded⟩ := Option.isSome_iff_exists.mp (show (gossipMessageDeserialize
    (responseDatagram 0 (List.replicate 130 0))).isSome = true by decide +kernel)
  have haccepted : Accepted (responseDatagram 0 (List.replicate 130 0)) := by decide +kernel
  have hsends : smoothEnv.Sends [socketAddress routerIp 7000] := ⟨by decide, rfl, rfl, rfl⟩
  exact ⟨response, hdecoded,
    bootstrap_readsSection_iff hsends haccepted.1 haccepted.2 hdecoded⟩

/-- Addresses without an end are read past the datagram, and a list behind an
update is read four bytes too far. -/
theorem bootstrap_misreads :
    (Accepted (responseDatagram 0 (List.replicate 130 49)) ∧
      ∃ response, gossipMessageDeserialize (responseDatagram 0 (List.replicate 130 49)) =
          some response ∧
        ¬ ReadsSection [] (responseDatagram 0 (List.replicate 130 49)) response) ∧
    Accepted (responseDatagram 1 (List.replicate 130 0)) ∧
      ∃ response, gossipMessageDeserialize (responseDatagram 1 (List.replicate 130 0)) =
          some response ∧
        ¬ ReadsSection [] (responseDatagram 1 (List.replicate 130 0)) response := by
  refine ⟨⟨by decide +kernel, ?_⟩, by decide +kernel, ?_⟩
  · obtain ⟨response, hdecoded⟩ := Option.isSome_iff_exists.mp (show (gossipMessageDeserialize
      (responseDatagram 0 (List.replicate 130 49))).isSome = true by decide +kernel)
    refine ⟨response, hdecoded, fun hreads => ?_⟩
    have hpast : (gossipMessageDeserialize (responseDatagram 0 (List.replicate 130 49))).map
        (fun response => decide (∀ read ∈ sectionReads []
          (responseDatagram 0 (List.replicate 130 49)) response,
            read < (responseDatagram 0 (List.replicate 130 49)).length)) = some false := by
      decide +kernel
    rw [hdecoded] at hpast
    exact of_decide_eq_false (Option.some.inj hpast) hreads.inside
  · obtain ⟨response, hdecoded⟩ := Option.isSome_iff_exists.mp (show (gossipMessageDeserialize
      (responseDatagram 1 (List.replicate 130 0))).isSome = true by decide +kernel)
    refine ⟨response, hdecoded, fun hreads => ?_⟩
    have hone : (gossipMessageDeserialize (responseDatagram 1 (List.replicate 130 0))).map
        (fun response => decide (bootstrapOffset response =
          gossipHeaderSize + memberUpdateSize * response.numUpdates.toNat)) = some false := by
      decide +kernel
    rw [hdecoded] at hone
    exact of_decide_eq_false (Option.some.inj hone) hreads.start

end Roole
