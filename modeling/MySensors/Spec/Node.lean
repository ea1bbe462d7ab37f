import MySensors.Spec.Message
import Mathlib.Logic.Function.Basic

/-! The node: its global state (`_nc`, the shared buffers, the signing and OTA
session variables, nonvolatile storage and the staging flash), the
environment the radio, the clock, the signer and the flash answer from, and
the monad the transport runs in. A computation either returns or stops the
node for good (`while (1);`, `hwReboot()`); both outcomes carry the state. -/

namespace MySensors

/-- The compile-time configuration of a node's sketch: the feature switches and
the tunables of `MyConfig.h` the transport reads. `receive` says whether the
sketch defines the receive callback. -/
structure Build where
  signing : Bool
  requestSignatures : Bool
  repeater : Bool
  gateway : Bool
  ota : Bool
  receive : Bool
  searchFailures : UInt8
  otaRetry : UInt8
  otaRetryDelay : UInt32
  verificationTimeout : UInt32
  bootloaderVersion : UInt16

structure NodeConfig where
  nodeId : UInt8
  parentNodeId : UInt8
  distance : UInt8
deriving DecidableEq, Repr, Inhabited

/-- Modelled from the spec: nonvolatile storage, one field per region of its layout (the
offsets are in `MyEepromAddresses.h`, not under src/; the regions do not overlap). -/
structure Eeprom where
  nodeId : UInt8
  parentNodeId : UInt8
  distance : UInt8
  routes : UInt8 → UInt8
  signingRequirement : UInt8 → Bool
  firmwareConfig : NodeFirmwareConfig
deriving Inhabited

inductive SigningStatus where
  | waitingForNonce
  | ok
deriving DecidableEq, Repr, Inhabited

/-- The message buffers a `MyMessage &` can name: the three globals and a
message of the sketch's own. -/
inductive Buf where
  | msg
  | msgTmp
  | msgSign
  | app
deriving DecidableEq, Repr

/-- What the collaborators answer, in order. `radio` holds one entry per poll of
`transportAvailable`: nothing, or the pipe address a frame came in on and the
content `transportReceive` then leaves in `_msg`. -/
structure Env where
  radio : List (Option (UInt8 × MyMessage))
  clock : List UInt32
  link : List Bool
  signer : List Bool
  flash : List Bool
deriving Inhabited

/-- The calls the transport makes to the radio, the gateway bridge and the sketch. -/
inductive Event where
  | radio (toAddr : UInt8) (m : MyMessage) (len : Nat)
  | gateway (m : MyMessage)
  | callback (m : MyMessage)
  | internal (m : MyMessage)
deriving DecidableEq, Repr

structure Node where
  nc : NodeConfig
  eeprom : Eeprom
  autoFindParent : Bool
  failedTransmissions : UInt8
  doSign : UInt8 → Bool
  signingNonceStatus : SigningStatus
  msg : MyMessage
  msgTmp : MyMessage
  msgSign : MyMessage
  appMsg : MyMessage
  fc : NodeFirmwareConfig
  fwUpdateOngoing : Bool
  fwLastRequestTime : UInt32
  fwBlock : UInt16
  fwRetry : UInt8
  flash : Nat → UInt8
  findingParentNode : Bool
  env : Env
  trace : List Event
deriving Inhabited

namespace Node

def buf (s : Node) : Buf → MyMessage
  | .msg => s.msg
  | .msgTmp => s.msgTmp
  | .msgSign => s.msgSign
  | .app => s.appMsg

def setBuf (s : Node) : Buf → MyMessage → Node
  | .msg, m => { s with msg := m }
  | .msgTmp, m => { s with msgTmp := m }
  | .msgSign, m => { s with msgSign := m }
  | .app, m => { s with appMsg := m }

/-- `hwWriteConfig(EEPROM_ROUTES_ADDRESS + child, via)`. -/
def writeRoute (child via : UInt8) (s : Node) : Node :=
  { s with eeprom := { s.eeprom with routes := Function.update s.eeprom.routes child via } }

def emit (e : Event) (s : Node) : Node := { s with trace := s.trace ++ [e] }

@[simp] theorem buf_setBuf (s : Node) (b : Buf) (m : MyMessage) : (s.setBuf b m).buf b = m := by
  cases b <;> rfl

theorem buf_setBuf_of_ne {b b' : Buf} (s : Node) (m : MyMessage) (h : b' ≠ b) : (s.setBuf b m).buf b' = s.buf b' := by
  cases b <;> cases b' <;> first | rfl | exact absurd rfl h

theorem setBuf_setBuf (s : Node) (b : Buf) (m m' : MyMessage) : (s.setBuf b m).setBuf b m' = s.setBuf b m' := by
  cases b <;> rfl

@[simp] theorem buf_writeRoute (s : Node) (child via : UInt8) (b : Buf) :
    (s.writeRoute child via).buf b = s.buf b := by
  cases b <;> rfl

theorem msgSign_setBuf {b : Buf} (s : Node) (m : MyMessage) (h : b ≠ .msgSign) : (s.setBuf b m).msgSign = s.msgSign := by
  cases b <;> first | rfl | exact absurd rfl h

@[simp] theorem nc_setBuf (s : Node) (b : Buf) (m : MyMessage) : (s.setBuf b m).nc = s.nc := by
  cases b <;> rfl

@[simp] theorem doSign_setBuf (s : Node) (b : Buf) (m : MyMessage) : (s.setBuf b m).doSign = s.doSign := by
  cases b <;> rfl

@[simp] theorem signingNonceStatus_setBuf (s : Node) (b : Buf) (m : MyMessage) :
    (s.setBuf b m).signingNonceStatus = s.signingNonceStatus := by
  cases b <;> rfl

end Node

/-! ### The monad -/

inductive Outcome (α : Type) where
  | ret (a : α) (s : Node)
  | stop (s : Node)

def NodeM (α : Type) : Type := Node → Outcome α

namespace Outcome

def node {α : Type} : Outcome α → Node
  | .ret _ s => s
  | .stop s => s

/-- What a computation returned, if it returned. -/
def result {α : Type} : Outcome α → Option α
  | .ret a _ => some a
  | .stop _ => none

/-- Run the rest of a computation after one that returned; a stop stays a stop. -/
def bind {α β : Type} (o : Outcome α) (f : α → NodeM β) : Outcome β :=
  match o with
  | .ret a s => f a s
  | .stop s => .stop s

@[simp] theorem node_ret {α : Type} (a : α) (s : Node) : (Outcome.ret a s).node = s := rfl
@[simp] theorem node_stop {α : Type} (s : Node) : (Outcome.stop s : Outcome α).node = s := rfl
@[simp] theorem ret_bind {α β : Type} (a : α) (s : Node) (f : α → NodeM β) :
    (Outcome.ret a s).bind f = f a s := rfl
@[simp] theorem stop_bind {α β : Type} (s : Node) (f : α → NodeM β) :
    (Outcome.stop s).bind f = .stop s := rfl

theorem bind_eq_ret {α β : Type} {o : Outcome α} {f : α → NodeM β} {b : β} {s' : Node} :
    o.bind f = .ret b s' ↔ ∃ a t, o = .ret a t ∧ f a t = .ret b s' := by
  cases o with
  | ret a t => exact ⟨fun h => ⟨a, t, rfl, h⟩, fun ⟨_, _, h, hf⟩ => by cases h; exact hf⟩
  | stop t => exact ⟨nofun, fun ⟨_, _, h, _⟩ => nomatch h⟩

theorem eq_ret_of_result {α : Type} {o : Outcome α} {a : α} (h : o.result = some a) : o = .ret a o.node := by
  cases o with
  | ret => cases h; rfl
  | stop => cases h

end Outcome

instance : Monad NodeM where
  pure a s := .ret a s
  bind x f s := (x s).bind f

instance : MonadStateOf Node NodeM where
  get s := .ret s s
  set s _ := .ret () s
  modifyGet f s := .ret (f s).1 (f s).2

namespace NodeM

/-- `while (1);` and `hwReboot()`: the node never comes back. -/
def stop {α : Type} : NodeM α := fun s => .stop s

@[simp] theorem pure_apply {α : Type} (a : α) (s : Node) : (pure a : NodeM α) s = .ret a s := rfl

@[simp] theorem bind_apply {α β : Type} (x : NodeM α) (f : α → NodeM β) (s : Node) :
    (x >>= f) s = (x s).bind f := rfl

@[simp] theorem get_apply (s : Node) : (get : NodeM Node) s = .ret s s := rfl

@[simp] theorem modify_apply (f : Node → Node) (s : Node) :
    (modify f : NodeM Unit) s = .ret () (f s) := rfl

@[simp] theorem stop_apply {α : Type} (s : Node) : (stop : NodeM α) s = .stop s := rfl

end NodeM

/-- What follows a computation that ends by returning `b` returns `b`. -/
theorem Outcome.bind_pure_eq_ret {α β : Type} {o : Outcome α} {b b' : β} {s' : Node}
    (h : o.bind (fun _ => (pure b : NodeM β)) = .ret b' s') : b' = b := by
  cases o with
  | ret => exact (Outcome.ret.inj h).1.symm
  | stop => cases h

theorem Outcome.node_bind_pure {α β : Type} (o : Outcome α) (b : β) :
    (o.bind fun _ => (pure b : NodeM β)).node = o.node := by
  cases o <;> rfl

open NodeM

def modifyBuf (b : Buf) (f : MyMessage → MyMessage) : NodeM Unit :=
  modify fun s => s.setBuf b (f (s.buf b))

/-! ### Collaborators -/

/-- The next answer on a tape, or `d` once the tape has run out. -/
def Env.next {α : Type} (tape : List α) (d : α) : α × List α :=
  match tape with
  | a :: as => (a, as)
  | [] => (d, [])

theorem Env.next_eq {α : Type} (tape : List α) (d : α) : Env.next tape d = (tape.headD d, tape.tail) := by
  cases tape <;> rfl

def hwMillis : NodeM UInt32 := fun s =>
  let t := Env.next s.env.clock 0
  .ret t.1 { s with env := { s.env with clock := t.2 } }

/-- `transportAvailable(&to)`: the next poll of the radio. -/
def transportAvailable : NodeM (Option (UInt8 × MyMessage)) := fun s =>
  let f := Env.next s.env.radio none
  .ret f.1 { s with env := { s.env with radio := f.2 } }

/-- `transportSend(to, &message, len)`: the frame goes out, the link answers. -/
def transportSend (toAddr : UInt8) (m : MyMessage) (len : Nat) : NodeM Bool := fun s =>
  let ok := Env.next s.env.link false
  .ret ok.1 { s with env := { s.env with link := ok.2 }, trace := s.trace ++ [.radio toAddr m len] }

/-- One answer of the signer backend (verify, nonce generation, nonce intake, signing). -/
def signerAnswer : NodeM Bool := fun s =>
  let a := Env.next s.env.signer false
  .ret a.1 { s with env := { s.env with signer := a.2 } }

/-- `_flash.initialize()`. -/
def flashInitialize : NodeM Bool := fun s =>
  let a := Env.next s.env.flash false
  .ret a.1 { s with env := { s.env with flash := a.2 } }

/-- `signerSignMsg(_msgSign)`: on success the saved copy carries the signature. -/
def signerSignMsg : NodeM Bool := do
  let ok ← signerAnswer
  if ok then modify fun s => { s with msgSign := { s.msgSign with signed := true } }
  pure ok

/-- `_flash.writeBytes(addr, bytes, bytes.length)`. -/
def flashWrite (addr : Nat) (bytes : List UInt8) (f : Nat → UInt8) : Nat → UInt8 :=
  fun a => if addr ≤ a ∧ a < addr + bytes.length then bytes.getD (a - addr) 0xFF else f a

/-- `_flash.blockErase32K(0)`. -/
def blockErase32K (f : Nat → UInt8) : Nat → UInt8 := fun a => if a < 32768 then 0xFF else f a

end MySensors
