import Roole.Gossip.Announcements
import Roole.Gossip.Rounds

/-!
# Leaving

A node that leaves sends its incarnation in an update, which the other side does
not read: the sequence number of the message is taken for the incarnation. What
becomes of the entry depends on how the two counters of the leaver compare with
what the other side holds.
-/

namespace Roole

/-- The entry is DEAD, and its incarnation no higher than before and than the
one that the leaver announces. -/
def LeftAs (old : ClusterMember) (incarnation : UInt64) (entry : ClusterMember) : Prop :=
  entry.status = .dead ∧ entry.incarnation.toNat ≤ max old.incarnation.toNat incarnation.toNat

instance (old : ClusterMember) (incarnation : UInt64) (entry : ClusterMember) :
    Decidable (LeftAs old incarnation entry) := inferInstanceAs (Decidable (_ ∧ _))

/-- The leaver's sequence number lies between the entry's incarnation and the
larger one of that and the leaver's, or is outdated and finds the entry DEAD. -/
def TakesLeave (leaver : GossipEngine) (entry : ClusterMember) : Prop :=
  (entry.incarnation ≤ leaver.sequenceNum ∧
    leaver.sequenceNum.toNat ≤ max entry.incarnation.toNat leaver.incarnation.toNat) ∨
  (leaver.sequenceNum < entry.incarnation ∧ entry.status = .dead)

section Leave

variable {now : UInt64} {past : Nat → GossipMemberUpdate} {srcIp : List UInt8} {srcPort : UInt16}
  {leaver receiver : GossipEngine} {entry : ClusterMember} {datagram : List UInt8}

theorem leaveMessage_sendable (now : UInt64) (leaver : GossipEngine) :
    (leaver.leaveMessage now).Sendable := ⟨rfl, rfl, Nat.le_of_ble_eq_true rfl⟩

theorem receiveDatagram_leave (hother : receiver.myId ≠ leaver.myId)
    (hdecoded : gossipMessageDeserialize datagram = some (leaver.leaveMessage now).onWire) :
    (receiveDatagram now' past srcIp srcPort receiver datagram).1 =
      receiver.updateStatus now' leaver.myId .dead leaver.sequenceNum := by
  have hsize := (gossipMessageDeserialize_updates hdecoded).1
  have hsender : (leaver.leaveMessage now).onWire.senderId ≠ receiver.myId := Ne.symm hother
  unfold receiveDatagram
  rw [if_neg (Nat.not_lt.mpr hsize), hdecoded]
  dsimp only
  unfold receiveMessage
  rw [if_neg hsender]
  rfl

/-- The LEAVE that a node sends to another one makes its entry there DEAD, in no
higher incarnation than allowed, exactly when the entry takes it. -/
theorem leave_handled_iff (hother : receiver.myId ≠ leaver.myId)
    (hsent : .send ip port datagram ∈ (gossipEngineLeave now leaver).2)
    (hget : clusterViewGet receiver.view leaver.myId = some entry) :
    (∃ left, clusterViewGet (receiveDatagram now' past srcIp srcPort receiver datagram).1.view
      leaver.myId = some left ∧ LeftAs entry leaver.incarnation left) ↔ TakesLeave leaver entry := by
  obtain ⟨member, -, hsend⟩ := List.mem_filterMap.mp hsent
  obtain ⟨_, heffect, hdecoded⟩ :=
    GossipMessage.decode_sent (leaveMessage_sendable now leaver) hsend
  cases heffect
  rw [receiveDatagram_leave hother hdecoded, GossipEngine.updateStatus_view,
    clusterViewUpdateStatus_self now' .dead leaver.sequenceNum hget]
  unfold TakesLeave
  split_ifs with hle
  · simp [LeftAs, ClusterMember.setStatus, hle, UInt64.not_lt.mpr hle]
  · simp [LeftAs, hle, UInt64.not_le.mp hle]

end Leave

def answeringRouter : GossipEngine :=
  secondRouter.run [arrival (messageOf 1 gossipMsgPing [newsOf 1 .alive 0])]

def greetedRouter : GossipEngine :=
  firstRouter.run [arrival (messageOf 2 gossipMsgPing [newsOf 2 .alive 0])]

theorem leave_handled_answering :
    ∃ ip port datagram entry, .send ip port datagram ∈ (gossipEngineLeave 0 answeringRouter).2 ∧
      clusterViewGet greetedRouter.view answeringRouter.myId = some entry ∧
      ((∃ left, clusterViewGet (receiveDatagram 0 (fun _ => .zero) [] 7001 greetedRouter
        datagram).1.view answeringRouter.myId = some left ∧
          LeftAs entry answeringRouter.incarnation left) ↔ TakesLeave answeringRouter entry) :=
  ⟨_, _, _, _, .head _, rfl, leave_handled_iff (by decide +kernel) (.head _) rfl⟩

/-- Having sent one message, node 2 is DEAD in incarnation 1 when it leaves in
incarnation 0; having refuted two suspicions, it stays ALIVE. -/
theorem leave_misread :
    (∃ ip port datagram entry left,
      .send ip port datagram ∈ (gossipEngineLeave 0 answeringRouter).2 ∧
      clusterViewGet greetedRouter.view 2 = some entry ∧
      clusterViewGet (receiveDatagram 0 (fun _ => .zero) [] 7001 greetedRouter datagram).1.view 2 =
        some left ∧ ¬ LeftAs entry answeringRouter.incarnation left) ∧
    let refuting := answeringRouter.run (List.replicate 2
      (arrival (messageOf 1 gossipMsgSuspect [newsOf 2 .suspect 0])))
    let informed := firstRouter.run [arrival (messageOf 2 gossipMsgPing [newsOf 2 .alive 2])]
    ∃ ip port datagram entry left, .send ip port datagram ∈ (gossipEngineLeave 0 refuting).2 ∧
      clusterViewGet informed.view 2 = some entry ∧
      clusterViewGet (receiveDatagram 0 (fun _ => .zero) [] 7001 informed datagram).1.view 2 =
        some left ∧ ¬ LeftAs entry refuting.incarnation left := by
  constructor
  · exact ⟨_, _, _, _, _, .head _, rfl, rfl, by decide +kernel⟩
  · exact ⟨_, _, _, _, _, .head _, rfl, rfl, by decide +kernel⟩

end Roole
