import MySensors.Spec.Node

/-! The transport of `MyTransport.cpp`: `transportProcess`, `transportSendRoute`,
`transportSendWrite`, parent discovery, id request, node presentation and the
firmware checksum.

The source re-enters `_process()` from `wait()` and from the nonce wait of the
signing block, and `transportProcess` calls back into the sender, so the
functions are written against a record `Calls` of the entry points one level
of nesting down. `calls cfg n` ties the knot with `n` levels; at level `0`
every entry point returns at once (and a send reports failure). Each loop
iteration also descends one level, so every real run is a run of
`calls cfg n` for `n` large enough. -/

namespace MySensors

open NodeM

/-- The re-entrant entry points: `_process()` (the transport's processing),
`_sendRoute`, `transportFindParentNode`, `transportRequestNodeId`,
`transportPresentNode`, the loop of `wait()` and the nonce wait of the
signing block.

Modelled from the spec: `_process()` and `_sendRoute()` are in MySensorsCore, not under
src/. Here `_process()` is `transportProcess` alone; on a gateway the real one also drains
the serial input and routes the controller's messages, which is not modelled. -/
structure Calls where
  process : NodeM Unit
  sendRoute : Buf → NodeM Bool
  findParentNode : NodeM Unit
  requestNodeId : NodeM Unit
  presentNode : NodeM Unit
  waitLoop : UInt32 → UInt32 → NodeM Unit
  signLoop : UInt32 → NodeM Unit

def Calls.none : Calls :=
  ⟨pure (), fun _ => pure false, pure (), pure (), pure (), fun _ _ => pure (), fun _ => pure ()⟩

section Transport

variable (cfg : Build) (k : Calls)

/-- Modelled from the spec: `wait(ms)` (MySensorsCore, not under src/) keeps
calling `_process()` until `ms` milliseconds have passed. -/
def wait (ms : UInt32) : NodeM Unit := do
  let enter ← hwMillis
  k.waitLoop enter ms

def waitLoop (enter ms : UInt32) : NodeM Unit := do
  let now ← hwMillis
  if now - enter < ms then
    k.process
    k.waitLoop enter ms

/-- The nonce wait: `while (hwMillis() - enter < MY_VERIFICATION_TIMEOUT_MS &&
_signingNonceStatus == SIGN_WAITING_FOR_NONCE) _process();` -/
def signLoop (enter : UInt32) : NodeM Unit := do
  let now ← hwMillis
  if now - enter < cfg.verificationTimeout ∧
      (← get).signingNonceStatus = .waitingForNonce then
    k.process
    k.signLoop enter

def transportSendWrite (toAddr : UInt8) (b : Buf) : NodeM Bool := do
  modifyBuf b fun m => { m with version := PROTOCOL_VERSION }
  let s ← get
  let length := if (s.buf b).signed then MAX_MESSAGE_LENGTH else (s.buf b).length
  modifyBuf b fun m => { m with last := s.nc.nodeId }
  transportSend toAddr ((← get).buf b) (min MAX_MESSAGE_LENGTH.toNat (HEADER_SIZE.toNat + length.toNat))

/-- The failure accounting at the end of `transportSendRoute`. -/
def afterSend (ok : Bool) : NodeM Bool := do
  if ok then
    modify fun s => { s with failedTransmissions := 0 }
  else
    modify fun s => { s with failedTransmissions := s.failedTransmissions + 1 }
    let s ← get
    if s.autoFindParent ∧ s.failedTransmissions > cfg.searchFailures then k.findParentNode
  pure ok

/-- The signing block of `transportSendRoute` (`MY_SIGNING_FEATURE`); `false`
when the send is abandoned. -/
def signRoute (b : Buf) : NodeM Bool := do
  let s ← get
  let m := s.buf b
  if s.doSign m.destination ∧ m.sender = s.nc.nodeId ∧ ¬m.ack ∧
      ¬MyMessage.handshake m.command m.type then
    modify fun s => { s with
      signingNonceStatus := .waitingForNonce
      msgTmp := (s.msgTmp.build s.nc.nodeId m.destination m.sensor C_INTERNAL I_GET_NONCE
        false).setEmpty }
    if ← k.sendRoute .msgTmp then
      let enter ← hwMillis
      modify fun s => { s with msgSign := s.buf b }
      k.signLoop enter
      let now ← hwMillis
      if now - enter > cfg.verificationTimeout then pure false
      else if (← get).signingNonceStatus = .ok then
        modify fun s => s.setBuf b s.msgSign
        pure true
      else pure false
    else pure false
  else
    if s.nc.nodeId = m.sender then modifyBuf b fun m => { m with signed := false }
    pure true

/-- The routing part of `transportSendRoute`; `last` is the message's `last`
field at entry. -/
def routeMessage (b : Buf) (last : UInt8) : NodeM Bool := do
  let s ← get
  if ¬cfg.repeater then
    afterSend cfg k (← transportSendWrite s.nc.parentNodeId b)
  else
    let sender := (s.buf b).sender
    let dest := (s.buf b).destination
    if dest = GATEWAY_ADDRESS then
      modify (Node.writeRoute sender last)
      afterSend cfg k (← transportSendWrite s.nc.parentNodeId b)
    else
      let route := if dest ≠ BROADCAST_ADDRESS then s.eeprom.routes dest else BROADCAST_ADDRESS
      if GATEWAY_ADDRESS < route ∧ route < BROADCAST_ADDRESS then
        transportSendWrite route b
      else if sender = GATEWAY_ADDRESS ∧ dest = BROADCAST_ADDRESS then
        transportSendWrite BROADCAST_ADDRESS b
      else if cfg.gateway then pure false
      else
        let ok ← transportSendWrite s.nc.parentNodeId b
        modify (Node.writeRoute sender last)
        afterSend cfg k ok

def transportSendRoute (b : Buf) : NodeM Bool := do
  let s ← get
  let last := (s.buf b).last
  if s.nc.parentNodeId = AUTO then
    k.findParentNode
    pure false
  else if s.nc.nodeId = AUTO then
    k.requestNodeId
    pure false
  else
    modifyBuf b fun m => { m with version := PROTOCOL_VERSION }
    if ← (if cfg.signing then signRoute cfg k b else pure true) then routeMessage cfg k b last
    else pure false

def transportFindParentNode : NodeM Unit := do
  if ¬(← get).findingParentNode then
    modify fun s => { s with
      findingParentNode := true
      failedTransmissions := 0
      nc := { s.nc with distance := 255 }
      msg := (s.msg.build s.nc.nodeId BROADCAST_ADDRESS NODE_SENSOR_ID C_INTERNAL I_FIND_PARENT
        false).setEmpty }
    let _ ← transportSendWrite BROADCAST_ADDRESS .msg
    wait k 2000
    modify fun s => { s with findingParentNode := false }

def transportRequestNodeId : NodeM Unit := do
  modify fun s => { s with msg := (s.msg.build s.nc.nodeId GATEWAY_ADDRESS NODE_SENSOR_ID
    C_INTERNAL I_ID_REQUEST false).setEmpty }
  let _ ← transportSendWrite (← get).nc.parentNodeId .msg
  wait k 2000

/-- Modelled from the spec: `present()` (MySensorsCore, not under src/) routes a
`C_PRESENTATION` message for the node to the gateway. -/
def present (sensor type : UInt8) : NodeM Unit := do
  modify fun s => { s with msgTmp := (s.msgTmp.build s.nc.nodeId GATEWAY_ADDRESS sensor
    C_PRESENTATION type false).setEmpty }
  let _ ← k.sendRoute .msgTmp

def transportPresentNode : NodeM Unit := do
  if ¬cfg.gateway ∧ (← get).nc.nodeId ≠ AUTO then
    let want := cfg.signing ∧ cfg.requestSignatures
    modify fun s => { s with msg := (s.msg.build s.nc.nodeId GATEWAY_ADDRESS NODE_SENSOR_ID
      C_INTERNAL I_REQUEST_SIGNING false).setByte (if want then 1 else 0) }
    let _ ← k.sendRoute .msg
    if want then wait k 2000
    present k NODE_SENSOR_ID (if cfg.repeater then S_ARDUINO_REPEATER_NODE else S_ARDUINO_NODE)
    modify fun s => { s with msg := (s.msg.build s.nc.nodeId GATEWAY_ADDRESS NODE_SENSOR_ID
      C_INTERNAL I_CONFIG false).setByte s.nc.parentNodeId }
    let _ ← k.sendRoute .msg
    wait k 2000
    if cfg.ota then
      modify fun s => { s with
        fwUpdateOngoing := false
        msg := ({ s.msg with
          length := 10
          command := C_STREAM
          payloadType := P_CUSTOM
          data := s.fc.toBytes ++ u16Bytes cfg.bootloaderVersion }).build s.nc.nodeId
          GATEWAY_ADDRESS NODE_SENSOR_ID C_STREAM ST_FIRMWARE_CONFIG_REQUEST false }
      let _ ← k.sendRoute .msg

end Transport

end MySensors
