import Roole.Core.Config

/-!
# The ports of a validated configuration

The validator looks at the ports as `int`; the node takes their low sixteen bits.
The two agree on the addresses whose number fits.
-/

namespace Roole

-- ----------------------------------------------------------------------------
-- What a validator lets through
-- ----------------------------------------------------------------------------

def ValidationResult.WarningsAtMost (n : Nat) (result : ValidationResult) : Prop :=
  result.valid = true → result.errors.length ≤ n

/-- From a list with `n` warnings at most the checks go on to one with `m`, and a
configuration that they leave valid meets `holds`. -/
def Checks (n m : Nat) (before after : ValidationResult) (holds : Prop) : Prop :=
  before.WarningsAtMost n →
    after.WarningsAtMost m ∧ (after.valid = true → before.valid = true ∧ holds)

theorem Checks.pass (result : ValidationResult) (h : holds) (hle : n ≤ m) :
    Checks n m result result holds := fun hwarnings =>
  ⟨fun hvalid => (hwarnings hvalid).trans hle, fun hvalid => ⟨hvalid, h⟩⟩

theorem Checks.trans (h : Checks n m before middle holds) (hrest : Checks m k middle after holds') :
    Checks n k before after (holds ∧ holds') := fun hwarnings => by
  obtain ⟨hmiddle, hvalid⟩ := h hwarnings
  obtain ⟨hafter, hvalid'⟩ := hrest hmiddle
  refine ⟨hafter, fun hlast => ?_⟩
  obtain ⟨hmid, hholds'⟩ := hvalid' hlast
  exact ⟨(hvalid hmid).1, (hvalid hmid).2, hholds'⟩

theorem Checks.error (result : ValidationResult) (holds : Prop) (message : List UInt8)
    (hroom : n < maxValidationErrors) (hseverity : 1 ≤ severity) :
    Checks n m result (result.addError severity message) holds := fun hwarnings => by
  have hinvalid : (result.addError severity message).valid = false := by
    unfold ValidationResult.addError
    split_ifs with hfull
    · cases hvalid : result.valid with
      | false => rfl
      | true => exact absurd (hwarnings hvalid) (Nat.not_le.mpr (hroom.trans_le hfull))
    · simp [hseverity]
  exact ⟨fun hvalid => absurd hvalid (by rw [hinvalid]; decide),
    fun hvalid => absurd hvalid (by rw [hinvalid]; decide)⟩

theorem Checks.warning (result : ValidationResult) (message : List UInt8) (h : holds) :
    Checks n (n + 1) result (result.addError 0 message) holds := fun hwarnings => by
  unfold ValidationResult.WarningsAtMost ValidationResult.addError
  split_ifs with hfull
  · exact ⟨fun hvalid => (hwarnings hvalid).trans (Nat.le_succ n), fun hvalid => ⟨hvalid, h⟩⟩
  · have hsame : (result.valid && !decide (0 ≥ 1)) = result.valid := Bool.and_true _
    simp only [hsame, List.length_append, List.length_singleton, Nat.add_le_add_iff_right]
    exact ⟨hwarnings, fun hvalid => ⟨hvalid, h⟩⟩

theorem Checks.mono (h : Checks n m before after holds) (himp : holds → holds') :
    Checks n m before after holds' := fun hwarnings => by
  obtain ⟨hafter, hvalid⟩ := h hwarnings
  exact ⟨hafter, fun hlast => ⟨(hvalid hlast).1, himp (hvalid hlast).2⟩⟩

theorem validateNodeId_checks (hroom : n < maxValidationErrors) (nodeId : NodeId)
    (result : ValidationResult) :
    Checks n n result (validateNodeId nodeId result).2 (nodeId ≠ 0) := by
  unfold validateNodeId
  split_ifs with hzero
  · exact .error result _ _ hroom (by decide)
  · exact .pass result hzero le_rfl

theorem validateNodeType_checks (hroom : n < maxValidationErrors) (nodeType : NodeType)
    (result : ValidationResult) :
    Checks n n result (validateNodeType nodeType result).2
      (nodeType = .router ∨ nodeType = .worker) := by
  unfold validateNodeType
  split_ifs with hunknown hinvalid
  · exact .error result _ _ hroom (by decide)
  · exact .error result _ _ hroom (by decide)
  · exact .pass result (by rwa [not_and_or, not_not, not_not] at hinvalid) le_rfl

theorem validateClusterName_checks (hroom : n < maxValidationErrors) (clusterName : List UInt8)
    (result : ValidationResult) :
    Checks n n result (validateClusterName clusterName result).2
      (clusterName ≠ [] ∧ ∀ b ∈ clusterName, IsNameByte b) := by
  unfold validateClusterName
  split_ifs with hempty hlong
  · exact .error result _ _ hroom (by decide)
  · exact .error result _ _ hroom (by decide)
  · cases hfind : clusterName.find? fun b => !decide (IsNameByte b) with
    | some b => exact .error result _ _ hroom le_rfl
    | none =>
      refine .pass result ⟨fun hnil => hempty (by rw [hnil]; rfl), fun b hb => ?_⟩ le_rfl
      simpa using List.find?_eq_none.mp hfind b hb

def UsedPortValid (port : Int32) : Prop := 0 < port → isValidPort (toPort port) = true

theorem usedPort_checks (hroom : n < maxValidationErrors) (port : Int32) (message : List UInt8)
    (result : ValidationResult) :
    Checks n n result
      (if port > 0 ∧ !isValidPort (toPort port) then result.addError 1 message else result)
      (UsedPortValid port) := by
  split_ifs with hinvalid
  · exact .error result _ _ hroom le_rfl
  · refine .pass result (fun hpos => ?_) le_rfl
    by_contra hport
    exact hinvalid ⟨hpos, by simpa using hport⟩

def ConfigString.parsedPort (address : ConfigString) : Int32 := parsePortFromAddr address.text

theorem validatePorts_checks (hroom : n < maxValidationErrors) (ports : NodePorts)
    (result : ValidationResult) :
    Checks n n result (validatePorts ports result).2
      ((0 < ports.gossipAddr.parsedPort ∧ 0 < ports.dataAddr.parsedPort) ∧
        ∀ address ∈ ports.addresses, UsedPortValid address.parsedPort) := by
  unfold validatePorts
  dsimp only
  by_cases hgossip : parsePortFromAddr ports.gossipAddr.text ≤ 0
  · rw [if_pos hgossip]
    exact .error result _ _ hroom (by decide)
  by_cases hgossipValid : isValidPort (toPort (parsePortFromAddr ports.gossipAddr.text)) = true
  swap
  · rw [if_neg hgossip, if_pos (by simpa using hgossipValid)]
    exact .error result _ _ hroom (by decide)
  by_cases hdata : parsePortFromAddr ports.dataAddr.text ≤ 0
  · rw [if_neg hgossip, if_neg (by simpa using hgossipValid), if_pos hdata]
    exact .error result _ _ hroom (by decide)
  by_cases hdataValid : isValidPort (toPort (parsePortFromAddr ports.dataAddr.text)) = true
  swap
  · rw [if_neg hgossip, if_neg (by simpa using hgossipValid), if_neg hdata,
      if_pos (by simpa using hdataValid)]
    exact .error result _ _ hroom (by decide)
  rw [if_neg hgossip, if_neg (by simpa using hgossipValid), if_neg hdata,
    if_neg (by simpa using hdataValid)]
  refine ((usedPort_checks hroom _ _ result).trans (usedPort_checks hroom _ _ _)).mono ?_
  rintro ⟨hingress, hmetrics⟩
  refine ⟨⟨Int32.not_le.mp hgossip, Int32.not_le.mp hdata⟩, fun address haddress => ?_⟩
  simp only [NodePorts.addresses, List.mem_cons, List.not_mem_nil, or_false] at haddress
  rcases haddress with rfl | rfl | rfl | rfl
  · exact fun _ => hgossipValid
  · exact fun _ => hdataValid
  · exact hingress
  · exact hmetrics

def NoConflicts (ports : NodePorts) : Prop :=
  (ports.addresses.filter fun address => 0 < address.parsedPort).Pairwise fun address other =>
    address.parsedPort ≠ other.parsedPort

theorem validatePortConflicts_checks (hroom : n < maxValidationErrors) (ports : NodePorts)
    (result : ValidationResult) :
    Checks n n result (validatePortConflicts ports result).2 (NoConflicts ports) := by
  unfold validatePortConflicts
  dsimp only
  split_ifs with hdata hingressGossip hingressData hmetrics
  · exact .error result _ _ hroom (by decide)
  · exact .error result _ _ hroom (by decide)
  · exact .error result _ _ hroom (by decide)
  · exact .error result _ _ hroom (by decide)
  refine .pass result ?_ le_rfl
  unfold NoConflicts NodePorts.addresses
  rw [List.pairwise_filter]
  simp only [List.pairwise_cons, List.forall_mem_cons, ConfigString.parsedPort]
  grind

theorem validateRouter_checks (hroom : n < maxValidationErrors) (router : List UInt8) (i : Nat)
    (result : ValidationResult) : Checks n n result (validateRouter result router i) True := by
  unfold validateRouter
  split_ifs
  · exact .error result _ _ hroom le_rfl
  cases afterColon router with
  | none => exact .error result _ _ hroom le_rfl
  | some text =>
    dsimp only
    split_ifs
    · exact .error result _ _ hroom le_rfl
    · exact .pass result trivial le_rfl

theorem validateRouters_checks (hroom : n < maxValidationErrors) (config : RooleConfig)
    (result : ValidationResult) :
    Checks n (n + 1) result (validateRouters config result).2 True := by
  unfold validateRouters
  split_ifs
  · exact .warning result _ trivial
  dsimp only
  generalize config.routers.zipIdx = routers
  induction routers generalizing result with
  | nil => exact .pass result trivial (Nat.le_succ n)
  | cons router rest ih =>
    exact ((validateRouter_checks hroom router.1.text router.2 result).trans (ih _)).mono
      fun _ => trivial

theorem validateCapabilities_checks (config : RooleConfig) (result : ValidationResult) :
    Checks n (n + 2) result (validateCapabilities config result).2 True := by
  have hwarning : ∀ (c : Prop) [Decidable c] (k : Nat) (result : ValidationResult) message,
      Checks k (k + 1) result (if c then result.addError 0 message else result) True := by
    intro c _ k result message
    split_ifs
    · exact .warning result message trivial
    · exact .pass result trivial (Nat.le_succ k)
  exact ((hwarning _ n result _).trans (hwarning _ (n + 1) _ _)).mono fun _ => trivial

theorem validateNetworkReachability_checks (hroom : n < maxValidationErrors)
    (address : List UInt8) (result : ValidationResult) :
    Checks n (n + 1) result (validateNetworkReachability address result).2
      (address = [] ∨ (afterColon address).isSome) := by
  unfold validateNetworkReachability
  split_ifs with hempty
  · exact .pass result (.inl (List.eq_nil_of_length_eq_zero hempty)) (Nat.le_succ n)
  cases afterColon address with
  | none => exact .error result _ _ hroom le_rfl
  | some text =>
    dsimp only
    split_ifs
    · exact .error result _ _ hroom le_rfl
    · exact .error result _ _ hroom le_rfl
    · exact .warning result _ (.inr rfl)
    · exact .pass result (.inr rfl) (Nat.le_succ n)

/-- What is known of the ports of a configuration that is accepted. -/
structure ValidatedPorts (ports : NodePorts) : Prop where
  required : 0 < ports.gossipAddr.parsedPort ∧ 0 < ports.dataAddr.parsedPort
  used : ∀ address ∈ ports.addresses, UsedPortValid address.parsedPort
  noConflicts : NoConflicts ports
  colons : ∀ address ∈ ports.addresses, address.text = [] ∨ (afterColon address.text).isSome

theorem configValidate_ports (h : (configValidate config).1 = 0) : ValidatedPorts config.ports := by
  have hcode : (configValidate config).1 = if (configValidate config).2.valid then 0 else -1 := rfl
  have hvalid : (configValidate config).2.valid = true := by
    by_contra hinvalid
    rw [hcode, if_neg hinvalid] at h
    cases h
  have hchecks : Checks 0 7 validationResultInit (configValidate config).2 _ :=
    (validateNodeId_checks (by decide) config.nodeId _).trans <|
    (validateNodeType_checks (by decide) config.nodeType _).trans <|
    (validateClusterName_checks (by decide) config.clusterName.text _).trans <|
    (validatePorts_checks (by decide) config.ports _).trans <|
    (validatePortConflicts_checks (by decide) config.ports _).trans <|
    (validateRouters_checks (by decide) config _).trans <|
    (validateCapabilities_checks config _).trans <|
    (validateNetworkReachability_checks (by decide) config.ports.gossipAddr.text _).trans <|
    (validateNetworkReachability_checks (by decide) config.ports.dataAddr.text _).trans <|
    (validateNetworkReachability_checks (by decide) config.ports.ingressAddr.text _).trans <|
    validateNetworkReachability_checks (by decide) config.ports.metricsAddr.text _
  obtain ⟨-, -, -, -, ⟨hrequired, hused⟩, hconflicts, -, -, hgossip, hdata, hingress, hmetrics⟩ :=
    (hchecks fun _ => Nat.le_refl 0).2 hvalid
  refine ⟨hrequired, hused, hconflicts, ?_⟩
  simp only [NodePorts.addresses, List.forall_mem_cons]
  exact ⟨hgossip, hdata, hingress, hmetrics, fun _ hmem => nomatch hmem⟩

-- ----------------------------------------------------------------------------
-- The two readings of a port
-- ----------------------------------------------------------------------------

/-- The number that stands behind the colon of an address; zero if there is
none. -/
def ConfigString.writtenPort (address : ConfigString) : Int :=
  match afterColon address.text with
  | some text => leadingNumber text
  | none => 0

theorem ConfigString.parsedPort_eq (address : ConfigString) :
    address.parsedPort = match afterColon address.text with
      | some text => atoi text
      | none => 0 := by
  unfold ConfigString.parsedPort parsePortFromAddr
  split_ifs with hempty
  · rw [List.eq_nil_of_length_eq_zero hempty]
    rfl
  · cases afterColon address.text <;> rfl

theorem ConfigString.port_eq (address : ConfigString) :
    address.port = toPort address.parsedPort := by
  have hbuffer : safeStrncpy address.text maxConfigString = address.text := by
    rw [safeStrncpy_eq_cString address.length_lt, cString_eq_self address.terminated]
  rw [address.parsedPort_eq]
  unfold ConfigString.port configParseAddress afterColon
  simp only [hbuffer]
  cases address.text.dropWhile (· ≠ .ofNat ':'.toNat) <;> rfl

def ConfigString.PortFits (address : ConfigString) : Prop :=
  0 ≤ address.writtenPort ∧ address.writtenPort < 65536

theorem ConfigString.PortFits.parsed {address : ConfigString} (h : address.PortFits) :
    address.parsedPort.toInt = address.writtenPort := by
  obtain ⟨hlow, hhigh⟩ := h
  rw [address.parsedPort_eq]
  unfold ConfigString.writtenPort at *
  cases hcolon : afterColon address.text with
  | none => rfl
  | some text =>
    simp only [hcolon] at hlow hhigh ⊢
    exact atoi_toInt (by omega) (by omega)

theorem ConfigString.PortFits.written {address : ConfigString} (h : address.PortFits) :
    (address.port.toNat : Int) = address.writtenPort := by
  rw [address.port_eq, toPort, h.parsed, UInt16.ofInt, UInt16.toNat_ofNat']
  obtain ⟨hlow, hhigh⟩ := h
  omega

theorem ConfigString.PortFits.same {address : ConfigString} (h : address.PortFits) :
    (address.port.toNat : Int) = address.parsedPort.toInt := by rw [h.written, h.parsed]

theorem ConfigString.PortFits.used_iff {address : ConfigString} (h : address.PortFits) :
    address.port ≠ 0 ↔ 0 < address.parsedPort := by
  have hsame := h.same
  rw [Int32.lt_iff_toInt_lt, ne_eq, ← UInt16.toNat_inj]
  show ¬ address.port.toNat = 0 ↔ 0 < address.parsedPort.toInt
  omega

/-- The ports that the node uses are the ones that were written, different ones
and not that of SSH. -/
structure PortsAgree (ports : NodePorts) : Prop where
  written : ∀ address ∈ ports.addresses, (address.port.toNat : Int) = address.writtenPort
  required : ports.gossipAddr.port ≠ 0 ∧ ports.dataAddr.port ≠ 0
  distinct : (ports.addresses.filter fun address => address.port ≠ 0).Pairwise
    fun address other => address.port ≠ other.port
  notSsh : ∀ address ∈ ports.addresses, address.port ≠ 22

theorem ValidatedPorts.agree (h : ValidatedPorts ports)
    (hfits : ∀ address ∈ ports.addresses, address.PortFits) : PortsAgree ports where
  written := fun address haddress => (hfits address haddress).written
  required := by
    obtain ⟨hgossip, hdata⟩ := h.required
    simp only [NodePorts.addresses, List.forall_mem_cons] at hfits
    exact ⟨hfits.1.used_iff.mpr hgossip, hfits.2.1.used_iff.mpr hdata⟩
  distinct := by
    have hused : (ports.addresses.filter fun address => address.port ≠ 0) =
        ports.addresses.filter fun address => 0 < address.parsedPort :=
      List.filter_congr fun address haddress =>
        decide_eq_decide.mpr (hfits address haddress).used_iff
    rw [hused]
    refine List.Pairwise.imp_of_mem ?_ h.noConflicts
    intro address other haddress hother hne heq
    have hsame := (hfits address (List.mem_filter.mp haddress).1).same
    have hsame' := (hfits other (List.mem_filter.mp hother).1).same
    exact hne (Int32.toInt.inj (by rw [← hsame, ← hsame', heq]))
  notSsh := by
    intro address haddress hssh
    have hpos : 0 < address.parsedPort :=
      (hfits address haddress).used_iff.mp (by rw [hssh]; decide)
    have hvalid := h.used address haddress hpos
    rw [← address.port_eq, hssh] at hvalid
    cases hvalid

/-- A valid configuration is used as it was written exactly if every number in it
is one of a port. -/
theorem ports_agree_iff (config : RooleConfig) (h : (configValidate config).1 = 0) :
    PortsAgree config.ports ↔ ∀ address ∈ config.ports.addresses, address.PortFits := by
  refine ⟨fun hagree address haddress => ?_, (configValidate_ports h).agree⟩
  have hwritten := hagree.written address haddress
  have hlt := address.port.toNat_lt
  exact ⟨by omega, by omega⟩

def routerConfig (gossip data ingress metrics : String) : RooleConfig where
  clusterName := .copy (chars "my_test_cluster")
  nodeId := 1
  nodeType := .router
  ports := ⟨.copy (chars gossip), .copy (chars data), .copy (chars ingress), .copy (chars metrics)⟩
  routers := []
  routers_le := Nat.zero_le _
  logLevel := .debug

theorem ports_agree_iff_router :
    PortsAgree
        (routerConfig "0.0.0.0:7000" "0.0.0.0:7001" "0.0.0.0:8081" "0.0.0.0:7002").ports ↔
      ∀ address ∈ (routerConfig "0.0.0.0:7000" "0.0.0.0:7001" "0.0.0.0:8081"
        "0.0.0.0:7002").ports.addresses, address.PortFits :=
  ports_agree_iff _ (by decide +kernel)

/-- 72537 is valid, and the node uses 7001. -/
theorem ports_cut :
    (configValidate (routerConfig "0.0.0.0:7000" "127.0.0.1:72537" "" "")).1 = 0 ∧
      ¬ PortsAgree (routerConfig "0.0.0.0:7000" "127.0.0.1:72537" "" "").ports := by
  refine ⟨by decide +kernel, fun h => ?_⟩
  have hwritten := h.written (.copy (chars "127.0.0.1:72537")) (by
    simp [NodePorts.addresses, routerConfig])
  revert hwritten
  decide +kernel

end Roole
