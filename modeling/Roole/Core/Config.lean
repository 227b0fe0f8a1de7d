import Roole.Cluster.View
import Roole.Core.Address

/-!
# The configuration and its validation

`roole_config_t` and `config_validator.c`. The validator goes through the parts of
a configuration one after the other and keeps a list of what it finds; errors
make the configuration invalid, warnings do not. It reads the ports as `int`, the
node later reads them as `uint16_t`.
-/

namespace Roole

structure ConfigString where
  text : List UInt8
  terminated : (0 : UInt8) ∉ text
  length_lt : text.length < maxConfigString
  deriving DecidableEq

def ConfigString.copy (src : List UInt8) : ConfigString where
  text := safeStrncpy src maxConfigString
  terminated := cString_eq_self_iff.mp (cString_safeStrncpy src maxConfigString)
  length_lt := Nat.lt_of_le_of_lt (List.length_take_le ..) (by decide)

inductive LogLevel
  | debug
  | info
  | warn
  | error
  deriving DecidableEq, Repr

structure NodePorts where
  gossipAddr : ConfigString
  dataAddr : ConfigString
  ingressAddr : ConfigString
  metricsAddr : ConfigString
  deriving DecidableEq

/-- `routers` holds the first `router_count` entries of the array. -/
structure RooleConfig where
  clusterName : ConfigString
  nodeId : NodeId
  nodeType : NodeType
  ports : NodePorts
  routers : List ConfigString
  routers_le : routers.length ≤ maxConfigRouters
  logLevel : LogLevel
  deriving DecidableEq

def NodePorts.addresses (ports : NodePorts) : List ConfigString :=
  [ports.gossipAddr, ports.dataAddr, ports.ingressAddr, ports.metricsAddr]

def ConfigString.port (address : ConfigString) : UInt16 := (configParseAddress address.text).2

-- ----------------------------------------------------------------------------
-- The result
-- ----------------------------------------------------------------------------

def maxValidationErrors : Nat := 16
def maxErrorMessageLen : Nat := 256

structure ValidationError where
  message : List UInt8
  severity : Nat
  deriving DecidableEq

structure ValidationResult where
  valid : Bool
  errors : List ValidationError
  bounded : errors.length ≤ maxValidationErrors

def validationResultInit : ValidationResult := ⟨true, [], Nat.zero_le _⟩

/-- What does not fit in is dropped, and does not count. -/
def ValidationResult.addError (result : ValidationResult) (severity : Nat)
    (message : List UInt8) : ValidationResult :=
  if h : result.errors.length ≥ maxValidationErrors then result
  else
    { valid := result.valid && !(severity ≥ 1)
      errors := result.errors ++ [⟨message.take (maxErrorMessageLen - 1), severity⟩]
      bounded := by
        rw [List.length_append, List.length_singleton]
        omega }

def chars (text : String) : List UInt8 := text.toList.map fun c => .ofNat c.toNat

def printInt (n : Int) : List UInt8 :=
  if n < 0 then .ofNat '-'.toNat :: Decimal.print n.natAbs else Decimal.print n.natAbs

-- ----------------------------------------------------------------------------
-- The validators
-- ----------------------------------------------------------------------------

def validateNodeId (nodeId : NodeId) (result : ValidationResult) : Int × ValidationResult :=
  if nodeId = 0 then
    (-1, result.addError 2 (chars "Node ID cannot be 0 (reserved for invalid)"))
  else (0, result)

def validateNodeType (nodeType : NodeType) (result : ValidationResult) : Int × ValidationResult :=
  if nodeType = .unknown then
    (-1, result.addError 2 (chars "Node type is UNKNOWN (must be ROUTER or WORKER)"))
  else if nodeType ≠ .router ∧ nodeType ≠ .worker then
    (-1, result.addError 2 (chars "Invalid node type: " ++ printInt nodeType.toByte.toNat))
  else (0, result)

def IsNameByte (b : UInt8) : Prop :=
  Decimal.IsDigit b ∨ (65 ≤ b ∧ b ≤ 90) ∨ (97 ≤ b ∧ b ≤ 122) ∨ b = 95 ∨ b = 45

instance (b : UInt8) : Decidable (IsNameByte b) := inferInstanceAs (Decidable (_ ∨ _))

def validateClusterName (clusterName : List UInt8) (result : ValidationResult) :
    Int × ValidationResult :=
  if clusterName.length = 0 then (-1, result.addError 2 (chars "Cluster name is empty"))
  else if clusterName.length ≥ maxConfigString then
    (-1, result.addError 2 (chars "Cluster name too long (" ++ printInt clusterName.length ++
      chars " chars, max " ++ printInt maxConfigString ++ chars ")"))
  else
    match clusterName.find? fun b => !decide (IsNameByte b) with
    | some b =>
      (-1, result.addError 1 (chars "Cluster name contains invalid character: '" ++ [b] ++
        chars "' (use alphanumeric, _, -)"))
    | none => (0, result)

def afterColon (address : List UInt8) : Option (List UInt8) :=
  match address.dropWhile (· ≠ .ofNat ':'.toNat) with
  | _ :: text => some text
  | [] => none

def isValidPort (port : UInt16) : Bool := port > 0 && port ≠ 22

def parsePortFromAddr (address : List UInt8) : Int32 :=
  if address.length = 0 then 0
  else
    match afterColon address with
    | none => 0
    | some text => atoi text

/-- The conversion of an argument to `uint16_t`. -/
def toPort (port : Int32) : UInt16 := .ofInt port.toInt

def validatePorts (ports : NodePorts) (result : ValidationResult) : Int × ValidationResult :=
  let gossipPort := parsePortFromAddr ports.gossipAddr.text
  if gossipPort ≤ 0 then
    (-1, result.addError 2 (chars "Gossip port is invalid or missing: " ++ ports.gossipAddr.text))
  else if !isValidPort (toPort gossipPort) then
    (-1, result.addError 2 (chars "Gossip port " ++ printInt gossipPort.toInt ++
      chars " is reserved or invalid"))
  else
    let dataPort := parsePortFromAddr ports.dataAddr.text
    if dataPort ≤ 0 then
      (-1, result.addError 2 (chars "Data port is invalid or missing: " ++ ports.dataAddr.text))
    else if !isValidPort (toPort dataPort) then
      (-1, result.addError 2 (chars "Data port " ++ printInt dataPort.toInt ++
        chars " is reserved or invalid"))
    else
      let ingressPort := parsePortFromAddr ports.ingressAddr.text
      let result :=
        if ingressPort > 0 ∧ !isValidPort (toPort ingressPort) then
          result.addError 1 (chars "Ingress port " ++ printInt ingressPort.toInt ++
            chars " is reserved or invalid")
        else result
      let metricsPort := parsePortFromAddr ports.metricsAddr.text
      let result :=
        if metricsPort > 0 ∧ !isValidPort (toPort metricsPort) then
          result.addError 1 (chars "Metrics port " ++ printInt metricsPort.toInt ++
            chars " is reserved or invalid")
        else result
      (0, result)

def validatePortConflicts (ports : NodePorts) (result : ValidationResult) :
    Int × ValidationResult :=
  let gossipPort := parsePortFromAddr ports.gossipAddr.text
  let dataPort := parsePortFromAddr ports.dataAddr.text
  let ingressPort := parsePortFromAddr ports.ingressAddr.text
  let metricsPort := parsePortFromAddr ports.metricsAddr.text
  if gossipPort = dataPort then
    (-1, result.addError 2 (chars "Port conflict: gossip and data both use port " ++
      printInt gossipPort.toInt))
  else if ingressPort > 0 ∧ ingressPort = gossipPort then
    (-1, result.addError 2 (chars "Port conflict: ingress and gossip both use port " ++
      printInt ingressPort.toInt))
  else if ingressPort > 0 ∧ ingressPort = dataPort then
    (-1, result.addError 2 (chars "Port conflict: ingress and data both use port " ++
      printInt ingressPort.toInt))
  else if metricsPort > 0 ∧ (metricsPort = gossipPort ∨ metricsPort = dataPort ∨
      (ingressPort > 0 ∧ metricsPort = ingressPort)) then
    (-1, result.addError 2 (chars "Port conflict: metrics port " ++ printInt metricsPort.toInt ++
      chars " conflicts with another service"))
  else (0, result)

/-- The loop body for router `i`. -/
def validateRouter (result : ValidationResult) (router : List UInt8) (i : Nat) :
    ValidationResult :=
  if router.length = 0 then
    result.addError 1 (chars "Router " ++ printInt i ++ chars " has empty address")
  else
    match afterColon router with
    | none =>
      result.addError 1 (chars "Router " ++ printInt i ++
        chars " has invalid format (expected ip:port): " ++ router)
    | some text =>
      let port := atoi text
      if port ≤ 0 ∨ port ≥ 65536 then
        result.addError 1 (chars "Router " ++ printInt i ++ chars " has invalid port: " ++
          printInt port.toInt)
      else result

def validateRouters (config : RooleConfig) (result : ValidationResult) : Int × ValidationResult :=
  if config.routers.length = 0 then
    (0, result.addError 0 (chars
      "No seed routers configured - node will start as seed/standalone"))
  else
    (0, config.routers.zipIdx.foldl (fun result router =>
      validateRouter result router.1.text router.2) result)

def validateCapabilities (config : RooleConfig) (result : ValidationResult) :
    Int × ValidationResult :=
  let ingressPort := parsePortFromAddr config.ports.ingressAddr.text
  let result :=
    if config.nodeType = .router ∧ ingressPort ≤ 0 then
      result.addError 0 (chars "ROUTER node has no ingress port - clients cannot connect")
    else result
  let result :=
    if config.nodeType = .worker ∧ ingressPort > 0 then
      result.addError 0 (chars "WORKER node has ingress port configured" ++
        chars " (unusual - typically only ROUTERs accept clients)")
    else result
  (0, result)

/-- One to three digits without a leading zero, 255 at most. -/
def IsAddressOctet (text : List UInt8) : Prop :=
  text ≠ [] ∧ (∀ b ∈ text, Decimal.IsDigit b) ∧ (text.head? = some 48 → text.length = 1) ∧
    Decimal.value text ≤ 255

instance (text : List UInt8) : Decidable (IsAddressOctet text) :=
  inferInstanceAs (Decidable (_ ∧ _ ∧ _ ∧ _))

/-- Whether `inet_pton` takes the text for an IPv4 address. -/
def inetPton (text : List UInt8) : Bool :=
  let octets := text.splitOn (.ofNat '.'.toNat)
  octets.length = 4 && octets.all fun octet => decide (IsAddressOctet octet)

def validateNetworkReachability (address : List UInt8) (result : ValidationResult) :
    Int × ValidationResult :=
  if address.length = 0 then (0, result)
  else
    match afterColon address with
    | none =>
      (-1, result.addError 1 (chars "Invalid address format: " ++ address ++
        chars " (expected ip:port)"))
    | some _ =>
      let ip := address.takeWhile (· ≠ .ofNat ':'.toNat)
      if ip.length ≥ 64 then
        (-1, result.addError 1 (chars "IP address too long: " ++ address))
      else if !inetPton ip then
        (-1, result.addError 1 (chars "Invalid IP address: " ++ ip))
      else if ip = chars "0.0.0.0" then
        (0, result.addError 0 (chars "Address " ++ address ++
          chars " uses 0.0.0.0 (bind-only, not externally reachable)"))
      else (0, result)

def configValidate (config : RooleConfig) : Int × ValidationResult :=
  let result := validationResultInit
  let result := (validateNodeId config.nodeId result).2
  let result := (validateNodeType config.nodeType result).2
  let result := (validateClusterName config.clusterName.text result).2
  let result := (validatePorts config.ports result).2
  let result := (validatePortConflicts config.ports result).2
  let result := (validateRouters config result).2
  let result := (validateCapabilities config result).2
  let result := (validateNetworkReachability config.ports.gossipAddr.text result).2
  let result := (validateNetworkReachability config.ports.dataAddr.text result).2
  let result := (validateNetworkReachability config.ports.ingressAddr.text result).2
  let result := (validateNetworkReachability config.ports.metricsAddr.text result).2
  (if result.valid then 0 else -1, result)

end Roole
