import Roole.Gossip.Handlers

/-!
# Announcements

What a node tells about itself outside of the protocol rounds: the JOIN to a
seed, its own entry, and the LEAVE at shutdown.
-/

namespace Roole

variable {now : UInt64} {engine : GossipEngine}

def gossipEngineAddSeed (now : UInt64) (ip : List UInt8) (port : UInt16) (engine : GossipEngine) :
    GossipEngine × Option GossipEffect :=
  ({ engine with sequenceNum := engine.sequenceNum + 1 },
    (engine.makeMessage gossipMsgJoin [engine.selfUpdate now]).sendTo ip port)

def GossipEngine.selfEntry (now : UInt64) (engine : GossipEngine) : ClusterMember where
  nodeId := engine.myId
  nodeType := engine.myType
  ipAddress := safeStrncpy engine.myIp maxIpLen
  gossipPort := engine.gossipPort
  dataPort := engine.dataPort
  status := .alive
  lastSeenMs := now
  incarnation := engine.incarnation

def gossipEngineAnnounceJoin (now : UInt64) (engine : GossipEngine) : GossipEngine :=
  (engine.addMember now (engine.selfEntry now)).pushAll (List.replicate 5 (engine.selfUpdate now))

/-- The update in a LEAVE; its address fields are not filled in. -/
def GossipEngine.leaveUpdate (now : UInt64) (engine : GossipEngine) : GossipMemberUpdate :=
  { GossipMemberUpdate.zero with
    nodeId := engine.myId
    status := .dead
    incarnation := engine.incarnation
    timestampMs := now }

def GossipEngine.leaveMessage (now : UInt64) (engine : GossipEngine) : GossipMessage :=
  engine.makeMessage gossipMsgLeave [engine.leaveUpdate now]

/-- `gossip_engine_leave`; the one message goes to every other member. -/
def gossipEngineLeave (now : UInt64) (engine : GossipEngine) : GossipEngine × List GossipEffect :=
  ({ engine with sequenceNum := engine.sequenceNum + 1 },
    (engine.view.members.filter fun member => member.nodeId != engine.myId).filterMap fun member =>
      (engine.leaveMessage now).sendTo member.ipAddress member.gossipPort)

theorem gossipEngineAnnounceJoin_base (now : UInt64) (engine : GossipEngine) :
    (gossipEngineAnnounceJoin now engine).base = engine.base := by
  simp [gossipEngineAnnounceJoin]

end Roole
