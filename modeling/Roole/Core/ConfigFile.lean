import Roole.Core.Config
import Roole.Lib.Text

/-!
# Loading a configuration

The INI parser of `config.c`: lines through a buffer of 1024 bytes, keys and values
through buffers of 256, each cut to its buffer before it is trimmed.
-/

namespace Roole

def isSpace (b : UInt8) : Bool := decide (IsSpace b)

def trimWhitespace (text : List UInt8) : List UInt8 := Text.trim isSpace text

def toLower (b : UInt8) : UInt8 := if 65 ≤ b ∧ b ≤ 90 then b + 32 else b

def sameText (a b : List UInt8) : Bool := a.map toLower == b.map toLower

def isComment (line : List UInt8) : Bool :=
  match line.dropWhile isSpace with
  | [] => true
  | b :: _ => b == .ofNat ';'.toNat || b == .ofNat '#'.toNat

/-- The name in brackets, in a buffer of `maxLen` bytes. -/
def isSection (line : List UInt8) (maxLen : Nat) : Option (List UInt8) :=
  match line.dropWhile isSpace with
  | [] => none
  | b :: rest =>
    if b ≠ .ofNat '['.toNat then none
    else if .ofNat ']'.toNat ∉ rest then none
    else some ((rest.takeWhile (· ≠ .ofNat ']'.toNat)).take (maxLen - 1))

def parseKeyValue (line : List UInt8) (maxLen : Nat) : Option (List UInt8 × List UInt8) :=
  match line.dropWhile (· ≠ .ofNat '='.toNat) with
  | [] => none
  | _ :: valueStart =>
    some (trimWhitespace ((line.takeWhile (· ≠ .ofNat '='.toNat)).take (maxLen - 1)),
      trimWhitespace (valueStart.take (maxLen - 1)))

/-- `strtok` gives the pieces between the separators that are not empty. -/
def strtok (separator : UInt8) (text : List UInt8) : List (List UInt8) :=
  (text.splitOn separator).filter (!·.isEmpty)

def parseList (value : List UInt8) (maxItems : Nat) : List ConfigString :=
  let buffer := value.take (maxConfigString * maxConfigRouters - 1)
  let items := ((strtok (.ofNat ';'.toNat) buffer).map trimWhitespace).filter (!·.isEmpty)
  (items.take maxItems).map ConfigString.copy

def RooleConfig.zero : RooleConfig where
  clusterName := .copy []
  nodeId := 0
  nodeType := .unknown
  ports := ⟨.copy [], .copy [], .copy [], .copy []⟩
  routers := []
  routers_le := Nat.zero_le _
  logLevel := .debug

def parseNodeType (value : List UInt8) : NodeType :=
  if sameText value (chars "ROUTER") then .router
  else if sameText value (chars "WORKER") then .worker
  else .unknown

def parseLogLevel (value : List UInt8) : LogLevel :=
  if sameText value (chars "DEBUG") then .debug
  else if sameText value (chars "INFO") then .info
  else if sameText value (chars "WARN") then .warn
  else if sameText value (chars "ERROR") then .error
  else .info

def configEntry (currentSection key value : List UInt8) (config : RooleConfig) : RooleConfig :=
  if sameText currentSection (chars "Cluster") then
    if sameText key (chars "name") then { config with clusterName := .copy value }
    else if sameText key (chars "routers") then
      { config with
        routers := parseList value maxConfigRouters
        routers_le := by
          rw [parseList, List.length_map]
          exact List.length_take_le .. }
    else config
  else if sameText currentSection (chars "Node") then
    if sameText key (chars "id") then { config with nodeId := .ofInt (atoi value).toInt }
    else if sameText key (chars "type") then { config with nodeType := parseNodeType value }
    else if sameText key (chars "gossip_addr") || sameText key (chars "gossip") then
      { config with ports := { config.ports with gossipAddr := .copy value } }
    else if sameText key (chars "data_addr") || sameText key (chars "data") then
      { config with ports := { config.ports with dataAddr := .copy value } }
    else if sameText key (chars "ingress_addr") || sameText key (chars "ingress") then
      { config with ports := { config.ports with ingressAddr := .copy value } }
    else if sameText key (chars "metrics_addr") || sameText key (chars "metrics") then
      { config with ports := { config.ports with metricsAddr := .copy value } }
    else config
  else if sameText currentSection (chars "Logging") then
    if sameText key (chars "level") then { config with logLevel := parseLogLevel value }
    else config
  else config

structure ConfigLoader where
  currentSection : List UInt8
  config : RooleConfig

/-- The body of the loop, for one line without its newline. -/
def ConfigLoader.line (loader : ConfigLoader) (line : List UInt8) : ConfigLoader :=
  if isComment line then loader
  else
    match isSection line 64 with
    | some name => { loader with currentSection := name }
    | none =>
      match parseKeyValue line maxConfigString with
      | none => loader
      | some (key, value) =>
        { loader with config := configEntry loader.currentSection key value loader.config }

/-- What the loop does with a line as `fgets` reads it. -/
def ConfigLoader.read (loader : ConfigLoader) (buffer : List UInt8) : ConfigLoader :=
  let line := cString buffer
  loader.line (if line.getLast? = some 10 then line.dropLast else line)

def configLoadFromFile (file : Option (List UInt8)) (config : RooleConfig) : Int × RooleConfig :=
  match file with
  | none => (-1, config)
  | some text =>
    let loader := (Text.readLines 10 1023 [] text).foldl ConfigLoader.read ⟨[], .zero⟩
    let config := loader.config
    if config.clusterName.text.length = 0 then (-1, config)
    else if config.nodeId = 0 then (-1, config)
    else if config.nodeType = .unknown then (-1, config)
    else if config.ports.gossipAddr.text.length = 0 then (-1, config)
    else if config.ports.dataAddr.text.length = 0 then (-1, config)
    else (0, config)

end Roole
