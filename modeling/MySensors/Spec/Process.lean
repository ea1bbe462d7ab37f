import MySensors.Spec.Transport

/-! `transportProcess`: one poll of the radio and the handling of at most one
frame, with the OTA block requests of the idle branch and the firmware
checksum, and `calls`, which ties the re-entrant entry points together.

The locals `command`, `type`, `sender`, `last` and `destination` that the
source reads right after `transportReceive` are the fields of the frame `m`
passed down; every later read of `_msg` reads the buffer as it is then. -/

namespace MySensors

open NodeM

/-! ### The firmware checksum

On the ATmega328 the source names, `int` is 16 bits wide, so the products and
sums of `uint16_t` operands below are computed modulo `2^16`. -/

def crcShift (crc : UInt16) : UInt16 :=
  if crc &&& 1 != 0 then (crc >>> 1) ^^^ 0xA001 else crc >>> 1

/-- One byte of the CRC loop: `crc ^= byte` and eight shifts. -/
def crcByte (crc : UInt16) (byte : UInt8) : UInt16 := crcShift^[8] (crc ^^^ byte.toUInt16)

/-- The flash addresses `transportIsValidFirmware` reads, in order:
`i + FIRMWARE_START_OFFSET` for `i < _fc.blocks * FIRMWARE_BLOCK_SIZE`. -/
def firmwareAddresses (fc : NodeFirmwareConfig) : List Nat :=
  (List.range (fc.blocks * FIRMWARE_BLOCK_SIZE).toNat).map fun i =>
    (i.toUInt16 + FIRMWARE_START_OFFSET).toNat

def transportIsValidFirmware (fc : NodeFirmwareConfig) (flash : Nat → UInt8) : Bool :=
  (firmwareAddresses fc).foldl (fun crc a => crcByte crc (flash a)) 0xFFFF == fc.crc

/-- The flash offset of the block `_fwBlock` counts down to:
`((_fwBlock - 1) * FIRMWARE_BLOCK_SIZE) + FIRMWARE_START_OFFSET`. -/
def blockOffset (fwBlock : UInt16) : UInt16 :=
  (fwBlock - 1) * FIRMWARE_BLOCK_SIZE + FIRMWARE_START_OFFSET

/-- The bytes of `"FLXIMG:"`. -/
def FLXIMG : List UInt8 := [70, 76, 88, 73, 77, 71, 58]

/-- The bootloader header written at flash offset 0 once the image checks out. -/
def otaHeader (fc : NodeFirmwareConfig) : List UInt8 :=
  let fwsize := FIRMWARE_BLOCK_SIZE * fc.blocks
  FLXIMG ++ [(fwsize >>> 8).toUInt8, (fwsize &&& 0xff).toUInt8, 58]

section Process

variable (cfg : Build) (k : Calls)

/-- The idle branch: no frame is pending, so (re-)request the firmware block
the session waits for, or give up when the retries are spent. -/
def otaIdle : NodeM Unit := do
  let enter ← hwMillis
  let s ← get
  if s.fwUpdateOngoing ∧ enter - s.fwLastRequestTime > cfg.otaRetryDelay then
    if s.fwRetry = 0 then
      modify fun s => { s with fwUpdateOngoing := false }
    else
      modify fun s => { s with
        fwRetry := s.fwRetry - 1
        fwLastRequestTime := enter
        msg := ({ s.msg with
          length := 6
          data := requestFWBlock s.fc.type s.fc.version (s.fwBlock - 1) }).build s.nc.nodeId
          GATEWAY_ADDRESS NODE_SENSOR_ID C_STREAM ST_FIRMWARE_REQUEST false }
      let _ ← k.sendRoute .msg

/-- The inbound signature check (`MY_SIGNING_REQUEST_SIGNATURES`) applies to
this frame. -/
def verificationRequired (s : Node) (m : MyMessage) : Bool :=
  (!cfg.gateway || s.doSign m.sender) && m.destination == s.nc.nodeId && !m.ack &&
    !MyMessage.handshake m.command m.type

/-- `I_FIND_PARENT_RESPONSE`: adopt the sender when its distance plus one is a
valid distance below ours. -/
def acceptFindParentResponse (sender : UInt8) (s : Node) : Node :=
  let distance := s.msg.getByte
  if s.autoFindParent ∧ distance ≠ DISTANCE_INVALID ∧ distance + 1 ≠ DISTANCE_INVALID ∧
      distance + 1 < s.nc.distance then
    { s with
      nc := { s.nc with distance := distance + 1, parentNodeId := sender }
      eeprom := { s.eeprom with parentNodeId := sender, distance := distance + 1 } }
  else s

/-- Hand the frame to the controller (on a gateway) and to the sketch. -/
def deliver : NodeM Unit := do
  if cfg.gateway then modify fun s => s.emit (.gateway s.msg)
  if cfg.receive then modify fun s => s.emit (.callback s.msg)

def requestSigning (m : MyMessage) : NodeM Unit := do
  modify fun s => { s with doSign := Function.update s.doSign m.sender s.msg.getBool }
  modify fun s => { s with eeprom := { s.eeprom with signingRequirement := s.doSign } }
  if cfg.gateway then
    modify fun s => { s with msg := (s.msg.build s.nc.nodeId m.sender NODE_SENSOR_ID C_INTERNAL
      I_REQUEST_SIGNING false).setByte (if cfg.requestSignatures ∧ s.doSign m.sender then 1 else 0) }
    let _ ← k.sendRoute .msg

/-- An `INTERNAL` frame of the gateway: an id response to a node without an id takes the
id, halts (`while (1)`) when the gateway answered `AUTO`, and else presents the node and
persists the id; any other goes to `_processInternalMessages()`.

Modelled from the spec: `_processInternalMessages()` (MySensorsCore, not under src/) is
recorded as an `internal` event of the trace; its reboot, presentation and routing-table
commands are not modelled. -/
def idResponse (m : MyMessage) : NodeM Unit := do
  if m.type = I_ID_RESPONSE ∧ (← get).nc.nodeId = AUTO then
    modify fun s => { s with nc := { s.nc with nodeId := s.msg.getByte } }
    if (← get).nc.nodeId = AUTO then stop
    else
      k.presentNode
      modify fun s => { s with eeprom := { s.eeprom with nodeId := s.nc.nodeId } }
  else
    modify fun s => s.emit (.internal s.msg)

def firmwareConfigResponse : NodeM Unit := do
  let s ← get
  let config := NodeFirmwareConfig.ofPayload s.msg.data
  if s.fc ≠ config then
    modify fun s => { s with fc := config }
    if ← flashInitialize then
      modify fun s => { s with
        flash := blockErase32K s.flash
        fwBlock := s.fc.blocks
        fwUpdateOngoing := true
        fwRetry := cfg.otaRetry + 1
        fwLastRequestTime := 0 }
    else
      modify fun s => { s with fwUpdateOngoing := false }
  else deliver cfg

def firmwareResponse : NodeM Unit := do
  if (← get).fwUpdateOngoing then
    modify fun s => { s with
      flash := flashWrite (blockOffset s.fwBlock).toNat (replyData s.msg.data) s.flash
      fwBlock := s.fwBlock - 1 }
    let s ← get
    if s.fwBlock = 0 then
      modify fun s => { s with fwUpdateOngoing := false }
      if transportIsValidFirmware s.fc s.flash then
        modify fun s => { s with
          flash := flashWrite 0 (otaHeader s.fc) s.flash
          eeprom := { s.eeprom with firmwareConfig := s.fc } }
        stop
    modify fun s => { s with
      fwRetry := cfg.otaRetry + 1
      fwLastRequestTime := 0 }

/-- The dispatch by command and type of a frame addressed to this node. -/
def handle (m : MyMessage) : NodeM Unit :=
  if m.command = C_INTERNAL ∧ m.type = I_FIND_PARENT_RESPONSE then
    modify (acceptFindParentResponse m.sender)
  else if cfg.signing ∧ m.command = C_INTERNAL ∧ m.type = I_GET_NONCE then do
    if ← signerAnswer then
      modify fun s => { s with msg := (s.msg.build s.nc.nodeId m.sender NODE_SENSOR_ID C_INTERNAL
        I_GET_NONCE_RESPONSE false) }
      let _ ← k.sendRoute .msg
  else if cfg.signing ∧ m.command = C_INTERNAL ∧ m.type = I_REQUEST_SIGNING then
    requestSigning cfg k m
  else if cfg.signing ∧ m.command = C_INTERNAL ∧ m.type = I_GET_NONCE_RESPONSE then do
    if (← signerAnswer) then
      if ← signerSignMsg then modify fun s => { s with signingNonceStatus := .ok }
  else if m.command = C_INTERNAL ∧ m.sender = GATEWAY_ADDRESS then
    idResponse k m
  else if cfg.ota ∧ m.command = C_STREAM ∧ m.type = ST_FIRMWARE_CONFIG_RESPONSE then
    firmwareConfigResponse cfg
  else if cfg.ota ∧ m.command = C_STREAM ∧ m.type = ST_FIRMWARE_RESPONSE then
    firmwareResponse cfg
  else deliver cfg

/-- A frame addressed to this node: clear the signed flag, learn the route to a
child, send the ack a sender asked for, then dispatch. -/
def toSelf (m : MyMessage) : NodeM Unit := do
  modify fun s => { s with msg := { s.msg with signed := false } }
  if cfg.repeater then
    modify fun s => if s.msg.last ≠ s.nc.parentNodeId then Node.writeRoute m.sender s.msg.last s else s
  if m.requestAck then
    modify fun s => { s with msgTmp := { s.msg with
      requestAck := false
      ack := true
      sender := s.nc.nodeId
      destination := m.sender } }
    let _ ← k.sendRoute .msgTmp
  handle cfg k m

/-- `I_DISCOVER` from the parent: answer with our parent after a random delay
and, on a repeater, broadcast it on. -/
def discover (m : MyMessage) : NodeM Unit := do
  wait k ((← hwMillis) &&& 0x3ff)
  modify fun s => { s with msgTmp := (s.msgTmp.build s.nc.nodeId m.sender NODE_SENSOR_ID
    C_INTERNAL I_DISCOVER_RESPONSE false).setByte s.nc.parentNodeId }
  let _ ← k.sendRoute .msgTmp
  if cfg.repeater then
    let _ ← k.sendRoute .msg

/-- A repeater's handling of a frame for another node: answer a parent search,
or relay a frame that came in on our own pipe. -/
def relay (toAddr : UInt8) (m : MyMessage) : NodeM Unit := do
  if (← get).nc.nodeId ≠ AUTO then
    if m.command = C_INTERNAL ∧ m.type = I_FIND_PARENT then
      if m.sender ≠ (← get).nc.parentNodeId then
        if (← get).nc.distance = DISTANCE_INVALID then k.findParentNode
        if (← get).nc.distance ≠ DISTANCE_INVALID then
          wait k ((← hwMillis) &&& 0x3ff)
          modify fun s => { s with msg := (s.msg.build s.nc.nodeId m.sender NODE_SENSOR_ID
            C_INTERNAL I_FIND_PARENT_RESPONSE false).setByte s.nc.distance }
          let _ ← transportSendWrite m.sender .msg
    else if toAddr = (← get).nc.nodeId then
      let _ ← k.sendRoute .msg

/-- A received frame that passed the signature check. -/
def dispatch (toAddr : UInt8) (m : MyMessage) : NodeM Unit := do
  let s ← get
  if m.version ≠ PROTOCOL_VERSION then pure ()
  else if m.destination = s.nc.nodeId then toSelf cfg k m
  else if m.destination = BROADCAST_ADDRESS ∧ m.command = C_INTERNAL ∧ m.type = I_DISCOVER ∧
      m.last = s.nc.parentNodeId then discover cfg k m
  else if cfg.repeater then relay k toAddr m
  else pure ()

def transportProcess : NodeM Unit := do
  match ← transportAvailable with
  | none => if cfg.ota then otaIdle cfg k
  | some (toAddr, frame) =>
    modify fun s => { s with msg := frame }
    if cfg.signing ∧ cfg.requestSignatures ∧ verificationRequired cfg (← get) frame then
      if frame.signed then
        if ← signerAnswer then dispatch cfg k toAddr frame
    else dispatch cfg k toAddr frame

end Process

/-- The entry points one level of nesting above `k`.

Modelled from the spec: `_process()` and `_sendRoute()` (MySensorsCore, not under src/)
are taken as `transportProcess` and `transportSendRoute`; a gateway's serial drain and the
routing of the controller's messages in `_process()` are left out. -/
def Calls.next (cfg : Build) (k : Calls) : Calls where
  process := transportProcess cfg k
  sendRoute := transportSendRoute cfg k
  findParentNode := transportFindParentNode k
  requestNodeId := transportRequestNodeId k
  presentNode := transportPresentNode cfg k
  waitLoop := MySensors.waitLoop k
  signLoop := MySensors.signLoop cfg k

/-- The entry points with `n` levels of nesting below them. -/
def calls (cfg : Build) : Nat → Calls
  | 0 => .none
  | n + 1 => (calls cfg n).next cfg

/-- Modelled from the spec: the sketch's loop (MySensorsCore, not under src/),
which calls `_process()` over and over; here `n` times. -/
def processTimes (k : Calls) : Nat → NodeM Unit
  | 0 => pure ()
  | n + 1 => do k.process; processTimes k n

end MySensors
