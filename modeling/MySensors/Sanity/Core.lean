import MySensors.Sanity.Keeps
import Mathlib.Logic.Relation

/-! The node context and the OTA session, and the steps a run takes on them.
`CoreStep` lists every change the transport makes to `_nc`, its persisted
copy, the firmware config, the session variables and the staging flash,
each with the test the source makes before it; `core_run` shows that every
entry point, at any depth of nesting, moves this part of the state by a
sequence of such steps, and `core_resume` that a run that returns never took
the installation step. Every invariant of the node context or of the OTA
session is then an induction over `CoreStep`. -/

namespace MySensors

open NodeM

structure Core where
  nc : NodeConfig
  nodeIdRom : UInt8
  parentRom : UInt8
  distanceRom : UInt8
  fcRom : NodeFirmwareConfig
  fc : NodeFirmwareConfig
  ongoing : Bool
  block : UInt16
  retry : UInt8
  lastRequest : UInt32
  flash : Nat → UInt8

def Node.core (s : Node) : Core :=
  ⟨s.nc, s.eeprom.nodeId, s.eeprom.parentNodeId, s.eeprom.distance, s.eeprom.firmwareConfig,
    s.fc, s.fwUpdateOngoing, s.fwBlock, s.fwRetry, s.fwLastRequestTime, s.flash⟩

namespace Core

variable (cfg : Build)

def adopt (sender d : UInt8) (c : Core) : Core :=
  { c with
    nc := { c.nc with distance := d + 1, parentNodeId := sender }
    parentRom := sender
    distanceRom := d + 1 }

def openSession (config : NodeFirmwareConfig) (c : Core) : Core :=
  { c with
    fc := config
    flash := blockErase32K c.flash
    block := config.blocks
    ongoing := true
    retry := cfg.otaRetry + 1
    lastRequest := 0 }

/-- The block write of a `ST_FIRMWARE_RESPONSE`: slot `block - 1` gets the
reply's data, whatever block index the reply names. -/
def writeBlock (data : List UInt8) (c : Core) : Core :=
  { c with
    flash := flashWrite (blockOffset c.block).toNat (replyData data) c.flash
    block := c.block - 1 }

@[simp] theorem writeBlock_flash (data : List UInt8) (c : Core) :
    (c.writeBlock data).flash = flashWrite (blockOffset c.block).toNat (replyData data) c.flash := by
  dsimp only [writeBlock]

/-- The block write followed by `_fwRetry = MY_OTA_RETRY+1; _fwLastRequestTime = 0;`. -/
def rearm (c : Core) : Core := { c with retry := cfg.otaRetry + 1, lastRequest := 0 }

def install (data : List UInt8) (c : Core) : Core :=
  let c := c.writeBlock data
  { c with
    ongoing := false
    flash := flashWrite 0 (otaHeader c.fc) c.flash
    fcRom := c.fc }

end Core

inductive CoreStep (cfg : Build) : Core → Core → Prop
  | resetDistance (c : Core) : CoreStep cfg c { c with nc := { c.nc with distance := 255 } }
  | adopt (c : Core) (sender d : UInt8)
      (h : d ≠ DISTANCE_INVALID ∧ d + 1 ≠ DISTANCE_INVALID ∧ d + 1 < c.nc.distance) :
      CoreStep cfg c (c.adopt sender d)
  | assignId (c : Core) (v : UInt8) (h : c.nc.nodeId = AUTO) :
      CoreStep cfg c { c with nc := { c.nc with nodeId := v } }
  | persistId (c : Core) : CoreStep cfg c { c with nodeIdRom := c.nc.nodeId }
  | openSession (c : Core) (config : NodeFirmwareConfig) (h : c.fc ≠ config) :
      CoreStep cfg c (c.openSession cfg config)
  | refuse (c : Core) (config : NodeFirmwareConfig) (h : c.fc ≠ config) :
      CoreStep cfg c { c with fc := config, ongoing := false }
  | request (c : Core) (t : UInt32) (h : c.ongoing ∧ c.retry ≠ 0) :
      CoreStep cfg c { c with retry := c.retry - 1, lastRequest := t }
  | abort (c : Core) : CoreStep cfg c { c with ongoing := false }
  | acceptMore (c : Core) (data : List UInt8) (h : c.ongoing) (h0 : (c.writeBlock data).block ≠ 0) :
      CoreStep cfg c ((c.writeBlock data).rearm cfg)
  | acceptLast (c : Core) (data : List UInt8) (h : c.ongoing) (h0 : (c.writeBlock data).block = 0) :
      CoreStep cfg c ({ c.writeBlock data with ongoing := false }.rearm cfg)
  | install (c : Core) (data : List UInt8)
      (h : c.ongoing ∧ (c.writeBlock data).block = 0 ∧
        transportIsValidFirmware c.fc (c.writeBlock data).flash) :
      CoreStep cfg c (c.install data)

/-- The state after is reached from the state before by steps of `CoreStep`. -/
def CoreRun (cfg : Build) (s s' : Node) : Prop :=
  Relation.ReflTransGen (CoreStep cfg) s.core s'.core

namespace CoreRun

variable {cfg : Build}

instance : Chains (CoreRun cfg) := ⟨fun _ => .refl, fun h h' => h.trans h'⟩

theorem of_core_eq {s s' : Node} (h : s'.core = s.core) : CoreRun cfg s s' := by
  unfold CoreRun; rw [h]

theorem single {s s' : Node} (h : CoreStep cfg s.core s'.core) : CoreRun cfg s s' := .single h

end CoreRun

/-- The core steps of a run that returns: all but the installation, which writes
the persisted firmware config and reboots. -/
def CoreResume (cfg : Build) (s s' : Node) : Prop :=
  Relation.ReflTransGen (fun c c' => CoreStep cfg c c' ∧ c'.fcRom = c.fcRom) s.core s'.core

namespace CoreResume

variable {cfg : Build}

instance : Chains (CoreResume cfg) := ⟨fun _ => .refl, fun h h' => h.trans h'⟩

instance : Below (CoreResume cfg) (CoreRun cfg) := ⟨Relation.ReflTransGen.mono fun _ _ h => h.1⟩

theorem of_core_eq {s s' : Node} (h : s'.core = s.core) : CoreResume cfg s s' := by
  unfold CoreResume; rw [h]

theorem single {s s' : Node} (h : CoreStep cfg s.core s'.core)
    (hrom : s'.eeprom.firmwareConfig = s.eeprom.firmwareConfig := by rfl) : CoreResume cfg s s' :=
  .single ⟨h, hrom⟩

theorem fcRom_eq {c c' : Core}
    (h : Relation.ReflTransGen (fun c c' => CoreStep cfg c c' ∧ c'.fcRom = c.fcRom) c c') :
    c'.fcRom = c.fcRom := by
  induction h with
  | refl => rfl
  | tail _ hstep ih => exact hstep.2.trans ih

/-- A run that returns leaves the persisted firmware config as it was. -/
theorem firmwareConfig_eq {s s' : Node} (h : CoreResume cfg s s') :
    s'.eeprom.firmwareConfig = s.eeprom.firmwareConfig :=
  fcRom_eq h

end CoreResume

/-! ### Every entry point takes core steps -/

section Pass

variable {cfg : Build} {k : Calls}

/-- A computation that leaves the core as it was; the default proof is the
one for a state update that writes other fields. -/
theorem runs_frame {α : Type} {x : NodeM α}
    (h : ∀ s, (x s).node.core = s.core := by intro; rfl) : x.Runs (CoreResume cfg) (CoreRun cfg) :=
  Runs.of_keeps fun s => .of_core_eq (h s)

/-- A state update that takes one core step; the default proof of the second
hypothesis is the one for a step that leaves the persisted firmware config alone. -/
theorem runs_step {f : Node → Node} (h : ∀ s, CoreStep cfg s.core (f s).core)
    (hrom : ∀ s, (f s).eeprom.firmwareConfig = s.eeprom.firmwareConfig := by intro; rfl) :
    (modify f : NodeM Unit).Runs (CoreResume cfg) (CoreRun cfg) :=
  Runs.modify fun s => .single (h s) (hrom s)

theorem runs_hwMillis : hwMillis.Runs (CoreResume cfg) (CoreRun cfg) := runs_frame

theorem runs_transportAvailable : transportAvailable.Runs (CoreResume cfg) (CoreRun cfg) := runs_frame

theorem runs_transportSend (toAddr : UInt8) (m : MyMessage) (len : Nat) :
    (transportSend toAddr m len).Runs (CoreResume cfg) (CoreRun cfg) := runs_frame

theorem runs_signerAnswer : signerAnswer.Runs (CoreResume cfg) (CoreRun cfg) := runs_frame

theorem Node.core_setBuf (s : Node) (b : Buf) (m : MyMessage) : (s.setBuf b m).core = s.core := by
  cases b <;> rfl

theorem runs_setBuf (b : Buf) (f : Node → MyMessage) :
    (modify fun s => s.setBuf b (f s) : NodeM Unit).Runs (CoreResume cfg) (CoreRun cfg) :=
  runs_frame fun s => s.core_setBuf b _

theorem runs_modifyBuf (b : Buf) (f : MyMessage → MyMessage) :
    (modifyBuf b f).Runs (CoreResume cfg) (CoreRun cfg) :=
  runs_setBuf b _

theorem runs_acceptFindParentResponse (sender : UInt8) :
    (modify (acceptFindParentResponse sender) : NodeM Unit).Runs (CoreResume cfg) (CoreRun cfg) := by
  refine Runs.modify fun s => ?_
  dsimp only [acceptFindParentResponse]
  split
  · next h => exact .single (.adopt _ _ _ h.2)
  · exact Chains.refl s

theorem runs_deliver : (deliver cfg).Runs (CoreResume cfg) (CoreRun cfg) :=
  runs_frame fun s => by unfold deliver; split <;> split <;> rfl

theorem runs_firmwareConfigResponse : (firmwareConfigResponse cfg).Runs (CoreResume cfg) (CoreRun cfg) := by
  intro s
  simp only [firmwareConfigResponse, bind_apply, get_apply, Outcome.ret_bind]
  split
  · next h =>
    simp only [bind_apply, modify_apply, Outcome.ret_bind, flashInitialize]
    split
    · exact CoreResume.single (.openSession _ _ h)
    · exact CoreResume.single (.refuse _ _ h)
  · exact runs_deliver s

theorem runs_firmwareResponse : (firmwareResponse cfg).Runs (CoreResume cfg) (CoreRun cfg) := by
  intro s
  dsimp only [firmwareResponse, bind_apply, get_apply, Outcome.ret_bind]
  split
  · next h =>
    dsimp only [bind_apply, get_apply, modify_apply, Outcome.ret_bind]
    split
    · next h0 =>
      dsimp only [bind_apply, modify_apply, Outcome.ret_bind]
      split
      · next hv => exact CoreRun.single (.install _ _ ⟨h, h0, by rw [Core.writeBlock_flash]; exact hv⟩)
      · exact CoreResume.single (.acceptLast _ _ h h0)
    · next h0 =>
      dsimp only [bind_apply, pure_apply, modify_apply, Outcome.ret_bind]
      exact CoreResume.single (.acceptMore _ _ h h0)
  · exact Runs.pure () s

theorem runs_signerSignMsg : signerSignMsg.Runs (CoreResume cfg) (CoreRun cfg) :=
  runs_signerAnswer.bind fun _ =>
    .ite (Runs.bind runs_frame fun _ => .pure _) ((Runs.pure _).bind fun _ => .pure _)

theorem runs_transportSendWrite (toAddr : UInt8) (b : Buf) :
    (transportSendWrite toAddr b).Runs (CoreResume cfg) (CoreRun cfg) :=
  (runs_modifyBuf _ _).bind fun _ => .get_bind fun _ =>
    (runs_modifyBuf _ _).bind fun _ => .get_bind fun _ => runs_transportSend _ _ _

variable (hk : k.Runs (CoreResume cfg) (CoreRun cfg))
include hk

theorem runs_otaIdle : (otaIdle cfg k).Runs (CoreResume cfg) (CoreRun cfg) :=
  runs_hwMillis.bind fun _ => Runs.get_bind_at fun s => by
    dsimp only
    split
    · next h =>
      split
      · exact Runs.modify (fun _ => .single (.abort _)) s
      · next hr =>
        refine Runs.modify_bind_at ?_ ((hk.sendRoute _).bind fun _ => .pure _)
        exact .single (.request _ _ ⟨h.1, hr⟩)
    · exact Runs.pure () s

theorem runs_idResponse (m : MyMessage) : (idResponse k m).Runs (CoreResume cfg) (CoreRun cfg) :=
  Runs.get_bind_at fun s => by
    dsimp only
    split
    · next h =>
      refine Runs.modify_bind_at ?_
        (.get_bind fun _ => .ite .stop (hk.presentNode.bind fun _ => runs_step fun _ => .persistId _))
      exact .single (.assignId _ _ h.2)
    · exact Runs.modify (fun _ => .of_core_eq rfl) s

theorem runs_wait (ms : UInt32) : (wait k ms).Runs (CoreResume cfg) (CoreRun cfg) :=
  runs_hwMillis.bind fun _ => hk.waitLoop _ _

theorem runs_waitLoop (enter ms : UInt32) : (waitLoop k enter ms).Runs (CoreResume cfg) (CoreRun cfg) :=
  runs_hwMillis.bind fun _ => .ite (hk.process.bind fun _ => hk.waitLoop _ _) (.pure _)

theorem runs_signLoop (enter : UInt32) : (signLoop cfg k enter).Runs (CoreResume cfg) (CoreRun cfg) :=
  runs_hwMillis.bind fun _ => .get_bind fun _ =>
    .ite (hk.process.bind fun _ => hk.signLoop _) (.pure _)

theorem runs_afterSend (ok : Bool) : (afterSend cfg k ok).Runs (CoreResume cfg) (CoreRun cfg) :=
  .ite (Runs.bind runs_frame fun _ => .pure _)
    (Runs.bind runs_frame fun _ => .get_bind fun _ =>
      .ite (hk.findParentNode.bind fun _ => .pure _) ((Runs.pure _).bind fun _ => .pure _))

theorem runs_signRoute (b : Buf) : (signRoute cfg k b).Runs (CoreResume cfg) (CoreRun cfg) :=
  .get_bind fun _ => .ite
    (Runs.bind runs_frame fun _ => (hk.sendRoute _).bind fun _ => .ite
      (runs_hwMillis.bind fun _ => Runs.bind runs_frame fun _ => (hk.signLoop _).bind fun _ =>
        runs_hwMillis.bind fun _ => .ite (.pure _) (.get_bind fun _ =>
          .ite ((runs_setBuf _ _).bind fun _ => .pure _) (.pure _)))
      (.pure _))
    (.ite ((runs_modifyBuf _ _).bind fun _ => .pure _) ((Runs.pure _).bind fun _ => .pure _))

theorem runs_routeMessage (b : Buf) (last : UInt8) : (routeMessage cfg k b last).Runs (CoreResume cfg) (CoreRun cfg) :=
  .get_bind fun _ => .ite ((runs_transportSendWrite _ _).bind fun _ => runs_afterSend hk _)
    (.ite (Runs.bind runs_frame fun _ => (runs_transportSendWrite _ _).bind fun _ => runs_afterSend hk _)
      (.ite (runs_transportSendWrite _ _) (.ite (runs_transportSendWrite _ _) (.ite (.pure _)
        ((runs_transportSendWrite _ _).bind fun _ => Runs.bind runs_frame fun _ => runs_afterSend hk _)))))

theorem runs_transportSendRoute (b : Buf) : (transportSendRoute cfg k b).Runs (CoreResume cfg) (CoreRun cfg) :=
  .get_bind fun _ => .ite (hk.findParentNode.bind fun _ => .pure _)
    (.ite (hk.requestNodeId.bind fun _ => .pure _)
      ((runs_modifyBuf _ _).bind fun _ => Runs.bind (.ite (runs_signRoute hk _) (.pure _)) fun _ =>
        .ite (runs_routeMessage hk _ _) (.pure _)))

theorem runs_transportFindParentNode : (transportFindParentNode k).Runs (CoreResume cfg) (CoreRun cfg) :=
  .get_bind fun _ => .ite
    ((runs_step fun _ => .resetDistance _).bind fun _ => (runs_transportSendWrite _ _).bind fun _ =>
      (runs_wait hk _).bind fun _ => runs_frame)
    (.pure _)

theorem runs_transportRequestNodeId : (transportRequestNodeId k).Runs (CoreResume cfg) (CoreRun cfg) :=
  Runs.bind runs_frame fun _ => .get_bind fun _ =>
    (runs_transportSendWrite _ _).bind fun _ => runs_wait hk _

theorem runs_present (sensor type : UInt8) : (present k sensor type).Runs (CoreResume cfg) (CoreRun cfg) :=
  Runs.bind runs_frame fun _ => (hk.sendRoute _).bind fun _ => .pure _

theorem runs_transportPresentNode : (transportPresentNode cfg k).Runs (CoreResume cfg) (CoreRun cfg) := by
  refine .get_bind fun _ => .ite (Runs.bind runs_frame fun _ => (hk.sendRoute _).bind fun _ => ?_) (.pure _)
  -- both ways past the optional wait continue with the presentation and the OTA request
  refine .ite ((runs_wait hk _).bind fun _ => ?_) ((Runs.pure _).bind fun _ => ?_) <;>
  exact (runs_present hk _ _).bind fun _ => Runs.bind runs_frame fun _ => (hk.sendRoute _).bind fun _ =>
    (runs_wait hk _).bind fun _ =>
      .ite ((runs_step fun _ => .abort _).bind fun _ => (hk.sendRoute _).bind fun _ => .pure _) (.pure _)

theorem runs_requestSigning (m : MyMessage) : (requestSigning cfg k m).Runs (CoreResume cfg) (CoreRun cfg) :=
  Runs.bind runs_frame fun _ => Runs.bind runs_frame fun _ =>
    .ite (Runs.bind runs_frame fun _ => (hk.sendRoute _).bind fun _ => .pure _) (.pure _)

theorem runs_handle (m : MyMessage) : (handle cfg k m).Runs (CoreResume cfg) (CoreRun cfg) :=
  .ite (runs_acceptFindParentResponse _)
    (.ite (runs_signerAnswer.bind fun _ =>
      .ite (Runs.bind runs_frame fun _ => (hk.sendRoute _).bind fun _ => .pure _) (.pure _))
    (.ite (runs_requestSigning hk _)
    (.ite (runs_signerAnswer.bind fun _ =>
      .ite (runs_signerSignMsg.bind fun _ => .ite runs_frame (.pure _)) (.pure _))
    (.ite (runs_idResponse hk _)
    (.ite runs_firmwareConfigResponse
    (.ite runs_firmwareResponse runs_deliver))))))

theorem runs_toSelf (m : MyMessage) : (toSelf cfg k m).Runs (CoreResume cfg) (CoreRun cfg) := by
  refine Runs.bind runs_frame fun _ => ?_
  -- both ways past the route update continue with the ack and the dispatch
  refine .ite ((Runs.modify fun _ => .of_core_eq (by split <;> rfl)).bind fun _ => ?_)
    ((Runs.pure _).bind fun _ => ?_) <;>
  exact .ite
    (Runs.bind runs_frame fun _ => (hk.sendRoute _).bind fun _ => (Runs.pure _).bind fun _ => runs_handle hk _)
    ((Runs.pure _).bind fun _ => runs_handle hk _)

theorem runs_discover (m : MyMessage) : (discover cfg k m).Runs (CoreResume cfg) (CoreRun cfg) :=
  runs_hwMillis.bind fun _ => (runs_wait hk _).bind fun _ => Runs.bind runs_frame fun _ =>
    (hk.sendRoute _).bind fun _ => .ite ((hk.sendRoute _).bind fun _ => .pure _) (.pure _)

theorem runs_relay (toAddr : UInt8) (m : MyMessage) : (relay k toAddr m).Runs (CoreResume cfg) (CoreRun cfg) := by
  refine .get_bind fun _ => .ite (.ite (.get_bind fun _ => .ite (.get_bind fun _ => ?_) (.pure _))
    (.get_bind fun _ => .ite ((hk.sendRoute _).bind fun _ => .pure _) (.pure _))) (.pure _)
  -- both ways past the optional parent search continue with the answer
  refine .ite (hk.findParentNode.bind fun _ => ?_) ((Runs.pure _).bind fun _ => ?_) <;>
  exact .get_bind fun _ => .ite (runs_hwMillis.bind fun _ => (runs_wait hk _).bind fun _ =>
    Runs.bind runs_frame fun _ => (runs_transportSendWrite _ _).bind fun _ => .pure _) (.pure _)

theorem runs_dispatch (toAddr : UInt8) (m : MyMessage) : (dispatch cfg k toAddr m).Runs (CoreResume cfg) (CoreRun cfg) :=
  .get_bind fun _ => .ite (.pure _)
    (.ite (runs_toSelf hk _) (.ite (runs_discover hk _) (.ite (runs_relay hk _ _) (.pure _))))

theorem runs_transportProcess : (transportProcess cfg k).Runs (CoreResume cfg) (CoreRun cfg) :=
  runs_transportAvailable.bind fun
    | none => .ite (runs_otaIdle hk) (.pure _)
    | some (_, _) => Runs.bind runs_frame fun _ => .get_bind fun _ =>
      .ite (.ite (runs_signerAnswer.bind fun _ => .ite (runs_dispatch hk _ _) (.pure _)) (.pure _))
        (runs_dispatch hk _ _)

/-- One level of bodies over entry points that take core steps takes core steps. -/
theorem Calls.Runs.next : (k.next cfg).Runs (CoreResume cfg) (CoreRun cfg) :=
  ⟨runs_transportProcess hk, runs_transportSendRoute hk, runs_transportFindParentNode hk,
    runs_transportRequestNodeId hk, runs_transportPresentNode hk, runs_waitLoop hk, runs_signLoop hk⟩

end Pass

/-- Every entry point, at every depth of nesting, changes the node context and
the OTA session only by steps of `CoreStep`, and by steps other than the
installation when it returns. -/
theorem core_resume (cfg : Build) (n : Nat) : (calls cfg n).Runs (CoreResume cfg) (CoreRun cfg) :=
  runs_calls cfg (fun _ hk => Calls.Runs.next hk) n

theorem core_run (cfg : Build) (n : Nat) : (calls cfg n).Keeps (CoreRun cfg) :=
  (core_resume cfg n).keeps

/-- Calls of `_process()` that return took no installation step. -/
theorem resume_of_processTimes {cfg : Build} {n m : Nat} {s s' : Node}
    (h : processTimes (calls cfg n) m s = .ret () s') : CoreResume cfg s s' := by
  have := runs_processTimes (core_resume cfg n).process m s
  rwa [h] at this

end MySensors
