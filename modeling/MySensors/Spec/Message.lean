import Mathlib.Data.List.Basic

/-! The message codec: the header of a `MyMessage`, the protocol constants the
transport compares it with, and `build` and `set`, which the transport uses to
fill the shared buffers. The header's bit fields are kept as separate fields;
every value the transport writes fits its width. -/

namespace MySensors

/-! ### Addresses and protocol constants

Modelled from the spec: the constants live in `MyMessage.h`, `MyTransport.h`
and `MyOTAFirmwareUpdate.h`, which are not under src/. The spec names them;
the values are those of the protocol, and the model only relies on the
distinctness of the codes compared in one test. -/

def GATEWAY_ADDRESS : UInt8 := 0
def BROADCAST_ADDRESS : UInt8 := 255
/-- Modelled from the spec: the sentinel of a node id not yet assigned, outside
the valid ids 1..254. -/
def AUTO : UInt8 := 255
def NODE_SENSOR_ID : UInt8 := 255
/-- Modelled from the spec: a distance of 255 means "unknown". -/
def DISTANCE_INVALID : UInt8 := 255
def PROTOCOL_VERSION : UInt8 := 2
def MAX_MESSAGE_LENGTH : UInt8 := 32
def HEADER_SIZE : UInt8 := 7

def C_PRESENTATION : UInt8 := 0
def C_SET : UInt8 := 1
def C_INTERNAL : UInt8 := 3
def C_STREAM : UInt8 := 4

def I_ID_REQUEST : UInt8 := 3
def I_ID_RESPONSE : UInt8 := 4
def I_CONFIG : UInt8 := 6
def I_FIND_PARENT : UInt8 := 7
def I_FIND_PARENT_RESPONSE : UInt8 := 8
def I_REQUEST_SIGNING : UInt8 := 15
def I_GET_NONCE : UInt8 := 16
def I_GET_NONCE_RESPONSE : UInt8 := 17
def I_HEARTBEAT : UInt8 := 18
def I_DISCOVER : UInt8 := 20
def I_DISCOVER_RESPONSE : UInt8 := 21
def I_HEARTBEAT_RESPONSE : UInt8 := 22

def ST_FIRMWARE_CONFIG_REQUEST : UInt8 := 0
def ST_FIRMWARE_CONFIG_RESPONSE : UInt8 := 1
def ST_FIRMWARE_REQUEST : UInt8 := 2
def ST_FIRMWARE_RESPONSE : UInt8 := 3

def S_ARDUINO_NODE : UInt8 := 17
def S_ARDUINO_REPEATER_NODE : UInt8 := 18

def P_STRING : UInt8 := 0
def P_BYTE : UInt8 := 1
def P_CUSTOM : UInt8 := 6

/-! ### Messages -/

/-- The header and payload of a message as the buffers `_msg`, `_msgTmp` and
`_msgSign` hold it. -/
structure MyMessage where
  last : UInt8
  sender : UInt8
  destination : UInt8
  sensor : UInt8
  command : UInt8
  requestAck : Bool
  ack : Bool
  signed : Bool
  version : UInt8
  payloadType : UInt8
  length : UInt8
  type : UInt8
  data : List UInt8
deriving DecidableEq, Repr, Inhabited

namespace MyMessage

/-- Modelled from the spec: `build` (in MySensorsCore, not under src/) fills the
routing header, clears the ack bit and stamps the protocol version; the payload
is left as it was. -/
def build (m : MyMessage) (sender destination sensor command type : UInt8) (ack : Bool) :
    MyMessage :=
  { m with sender, destination, sensor, command, type, requestAck := ack, ack := false,
           version := PROTOCOL_VERSION }

/-- `set(uint8_t)`: a one-byte payload. -/
def setByte (m : MyMessage) (v : UInt8) : MyMessage :=
  { m with length := 1, payloadType := P_BYTE, data := [v] }

/-- `set("")`: the empty string payload. -/
def setEmpty (m : MyMessage) : MyMessage :=
  { m with length := 0, payloadType := P_STRING, data := [] }

/-- Modelled from the spec: `getByte` (MyMessage.cpp, not under src/) reads the
one-byte payload, the first payload byte. -/
def getByte (m : MyMessage) : UInt8 := m.data.headD 0

/-- Modelled from the spec: `getBool` reads the boolean payload, a nonzero byte. -/
def getBool (m : MyMessage) : Bool := m.getByte != 0

/-- The handshake subtypes that are never signed nor checked for a signature. -/
def handshake (command type : UInt8) : Bool :=
  command == C_INTERNAL &&
    (type == I_GET_NONCE || type == I_GET_NONCE_RESPONSE || type == I_REQUEST_SIGNING ||
     type == I_ID_REQUEST || type == I_ID_RESPONSE || type == I_FIND_PARENT ||
     type == I_FIND_PARENT_RESPONSE || type == I_HEARTBEAT || type == I_HEARTBEAT_RESPONSE)

@[simp] theorem build_last (m : MyMessage) (a b c d e : UInt8) (k : Bool) :
    (m.build a b c d e k).last = m.last := rfl
@[simp] theorem build_data (m : MyMessage) (a b c d e : UInt8) (k : Bool) :
    (m.build a b c d e k).data = m.data := rfl
@[simp] theorem setByte_data (m : MyMessage) (v : UInt8) : (m.setByte v).data = [v] := rfl
@[simp] theorem getByte_setByte (m : MyMessage) (v : UInt8) : (m.setByte v).getByte = v := rfl

end MyMessage

/-! ### Firmware payloads

The OTA structures are read from and written into the payload little-endian,
as the AVR target lays them out. -/

def u16At (d : List UInt8) (i : Nat) : UInt16 :=
  (d.getD i 0).toUInt16 ||| ((d.getD (i + 1) 0).toUInt16 <<< 8)

def u16Bytes (v : UInt16) : List UInt8 := [v.toUInt8, (v >>> 8).toUInt8]

/-- `NodeFirmwareConfig`: four little-endian `uint16_t`. -/
structure NodeFirmwareConfig where
  type : UInt16
  version : UInt16
  blocks : UInt16
  crc : UInt16
deriving DecidableEq, Repr, Inhabited

namespace NodeFirmwareConfig

/-- The config a `ST_FIRMWARE_CONFIG_RESPONSE` payload carries. -/
def ofPayload (d : List UInt8) : NodeFirmwareConfig :=
  ⟨u16At d 0, u16At d 2, u16At d 4, u16At d 6⟩

def toBytes (c : NodeFirmwareConfig) : List UInt8 :=
  u16Bytes c.type ++ u16Bytes c.version ++ u16Bytes c.blocks ++ u16Bytes c.crc

end NodeFirmwareConfig

def FIRMWARE_BLOCK_SIZE : UInt16 := 16
/-- Modelled from the spec: the image follows the 10-byte `FLXIMG` header. -/
def FIRMWARE_START_OFFSET : UInt16 := 10

/-- The 16 data bytes of a `ReplyFWBlock {type, version, block, data[16]}`. -/
def replyData (d : List UInt8) : List UInt8 := (List.range 16).map fun i => d.getD (6 + i) 0

/-- The block index a `ReplyFWBlock` names. -/
def replyBlock (d : List UInt8) : UInt16 := u16At d 4

/-- The payload of a `RequestFWBlock {type, version, block}`. -/
def requestFWBlock (type version block : UInt16) : List UInt8 :=
  u16Bytes type ++ u16Bytes version ++ u16Bytes block

end MySensors
