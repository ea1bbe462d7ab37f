import Mathlib.Logic.Function.Basic

/-! `MyGatewayTransportSerial.cpp`: the serial gateway's line framer. Each call of
`gatewayTransportAvailable` drains the bytes the serial device holds, collecting
them in `_serialInputString` at `_serialInputPos`, and hands a completed line to
`protocolParse`. The buffer length `MY_GATEWAY_MAX_RECEIVE_LENGTH` is a
parameter `N`. -/

namespace MySensors

/-- The framer's globals. -/
structure SerialInput where
  serialInputString : Nat → UInt8
  serialInputPos : Nat

/-- Both globals start zeroed. -/
def SerialInput.init : SerialInput := ⟨fun _ => 0, 0⟩

/-- `'\n'`. -/
def NEWLINE : UInt8 := 10

/-- One iteration of the loop over `SERIALDEVICE.read()`, with the local flag `available`. -/
def serialStep (N : Nat) (st : SerialInput × Bool) (inChar : UInt8) : SerialInput × Bool :=
  if st.1.serialInputPos < N - 1 ∧ st.2 = false then
    if inChar = NEWLINE then
      ({ st.1 with
        serialInputString := Function.update st.1.serialInputString st.1.serialInputPos 0 }, true)
    else
      ({ serialInputString := Function.update st.1.serialInputString st.1.serialInputPos inChar
         serialInputPos := st.1.serialInputPos + 1 }, st.2)
  else
    -- "Incoming message too long. Throw away"
    ({ st.1 with serialInputPos := 0 }, st.2)

/-- The C string `protocolParse` reads from the buffer: its characters up to the first NUL. -/
def cString (N : Nat) (buffer : Nat → UInt8) : List UInt8 :=
  ((List.range N).map buffer).takeWhile (· != 0)

/-- One call, draining `batch`: the new globals, and the string handed to
`protocolParse` if a line was completed. -/
def gatewayTransportAvailable (N : Nat) (inp : SerialInput) (batch : List UInt8) :
    SerialInput × Option (List UInt8) :=
  let r := batch.foldl (serialStep N) (inp, false)
  if r.2 then ({ r.1 with serialInputPos := 0 }, some (cString N r.1.serialInputString))
  else (r.1, none)

/-- The strings handed to `protocolParse` over successive calls, one batch each. -/
def serialRun (N : Nat) : SerialInput → List (List UInt8) → List (List UInt8)
  | _, [] => []
  | inp, b :: bs =>
    let r := gatewayTransportAvailable N inp b
    r.2.toList ++ serialRun N r.1 bs

end MySensors
