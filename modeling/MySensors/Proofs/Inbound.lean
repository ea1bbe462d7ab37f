import MySensors.Proofs.NodeContext
import MySensors.Proofs.Ota

/-! What an inbound frame can make the node do. Frames the inbound signature check
covers and the signer rejects reach no privileged action over any run; the check exempts
acks and the handshake subtypes by design. The buffers `_msg` and `_msgTmp` are shared by
every nested call: the ack reply's send and the signing of a message built in `_msgTmp` both
overwrite the message they were meant to carry. -/

namespace MySensors

open NodeM

variable {cfg : Build}

/-! ### The inbound signature check

An attacker without the signing key can put on the radio any frame the check covers, and the
signer accepts none of them. One such frame only lands in the receive buffer
(`unverified_frame_dropped`), and over every run of `_process()`, from any state and at any
depth of nesting, such frames leave the OTA session, the staging flash and the signing
requirements where they were (`unverified_frames_move_nothing`). The dropped frames are not
without effect: one stays in `_msg`, and the firmware request the idle branch builds there next
carries its payload type, so the run result is about what the check protects, not about the
whole state. Acks, the handshake subtypes and, on a gateway, frames from senders
without `DO_SIGN` are not checked, and an unsigned config offer flagged as an ack opens a
session (`unsigned_ack_opens_session`). -/

/-- The state after a frame that failed the signature check: the frame in `_msg`, the
radio polled, and the signer asked once if the frame was signed. -/
def Node.rejected (s : Node) (f : MyMessage) (rest : List (Option (UInt8 × MyMessage))) : Node :=
  { s.receive f rest with
    env := { (s.receive f rest).env with
      signer := if f.signed then s.env.signer.tail else s.env.signer } }

/-- A frame the inbound signature check applies to, that is unsigned or that the signer
rejects, changes nothing but the receive buffer and the collaborators' tapes: no
session, flash, signing requirement or node context moves, and nothing is sent. -/
theorem unverified_frame_dropped (k : Calls) (s : Node) (toAddr : UInt8) (f : MyMessage)
    (rest : List (Option (UInt8 × MyMessage))) (hradio : s.env.radio = some (toAddr, f) :: rest)
    (hreq : cfg.signing ∧ cfg.requestSignatures ∧ verificationRequired cfg s f)
    (hbad : f.signed = true → s.env.signer.headD false = false) :
    transportProcess cfg k s = .ret () (s.rejected f rest) := by
  rw [transportProcess_some hradio, if_pos hreq]
  cases hs : f.signed
  · simp only [Bool.false_eq_true, if_false, pure_apply, Node.rejected, hs]; rfl
  · simp only [if_true, bind_apply, signerAnswer, Env.next_eq, Node.receive, hbad hs, Outcome.ret_bind,
      Bool.false_eq_true, if_false, pure_apply, Node.rejected, hs]

/-- A poll the attacker may produce: nothing, or a frame that the check covers whenever it is
addressed to this node, that is not flagged as an ack, not a handshake subtype, and on a gateway
from a sender whose `DO_SIGN` is set. -/
def Checked (cfg : Build) (doSign : UInt8 → Bool) : Option (UInt8 × MyMessage) → Prop
  | none => True
  | some (_, f) => f.ack = false ∧ MyMessage.handshake f.command f.type = false ∧
      (cfg.gateway = true → doSign f.sender = true)

instance (cfg : Build) (doSign : UInt8 → Bool) (e : Option (UInt8 × MyMessage)) :
    Decidable (Checked cfg doSign e) :=
  match e with
  | none => inferInstanceAs (Decidable True)
  | some (_, f) => inferInstanceAs (Decidable (f.ack = false ∧ MyMessage.handshake f.command f.type = false ∧
      (cfg.gateway = true → doSign f.sender = true)))

/-- The radio holds only such polls from here on, and the signer accepts no signature. -/
def Node.Unverifiable (cfg : Build) (s : Node) : Prop :=
  (∀ e ∈ s.env.radio, Checked cfg s.doSign e) ∧ ∀ a ∈ s.env.signer, a = false

instance (cfg : Build) (s : Node) : Decidable (s.Unverifiable cfg) :=
  inferInstanceAs (Decidable ((∀ e ∈ s.env.radio, Checked cfg s.doSign e) ∧ ∀ a ∈ s.env.signer, a = false))

/-- What the check protects: the firmware config, running and persisted, the session's block
counter and the staging flash, `DO_SIGN` and its saved copy; a session may end, not open. -/
structure Untouched (s s' : Node) : Prop where
  fc : s'.fc = s.fc
  fwBlock : s'.fwBlock = s.fwBlock
  flash : s'.flash = s.flash
  firmwareConfig : s'.eeprom.firmwareConfig = s.eeprom.firmwareConfig
  ongoing : s'.fwUpdateOngoing = true → s.fwUpdateOngoing = true
  doSign : s'.doSign = s.doSign
  signingRequirement : s'.eeprom.signingRequirement = s.eeprom.signingRequirement

theorem Untouched.trans {s t u : Node} (h : Untouched s t) (h' : Untouched t u) : Untouched s u :=
  ⟨h'.fc.trans h.fc, h'.fwBlock.trans h.fwBlock, h'.flash.trans h.flash, h'.firmwareConfig.trans h.firmwareConfig,
    h.ongoing ∘ h'.ongoing, h'.doSign.trans h.doSign, h'.signingRequirement.trans h.signingRequirement⟩

/-- Everything `Untouched` and `Node.Unverifiable` read. -/
def Node.guarded (s : Node) : List (Option (UInt8 × MyMessage)) × List Bool × (UInt8 → Bool) ×
    NodeFirmwareConfig × UInt16 × (Nat → UInt8) × NodeFirmwareConfig × (UInt8 → Bool) × Bool :=
  (s.env.radio, s.env.signer, s.doSign, s.fc, s.fwBlock, s.flash, s.eeprom.firmwareConfig,
    s.eeprom.signingRequirement, s.fwUpdateOngoing)

/-- A state update that writes none of the guarded fields keeps the attacker's hypothesis and
moves nothing. -/
theorem Node.guarded_eq {cfg : Build} {s t : Node} (h : t.guarded = s.guarded) (hs : s.Unverifiable cfg) :
    t.Unverifiable cfg ∧ Untouched s t := by
  simp only [Node.guarded, Prod.mk.injEq] at h
  obtain ⟨hr, hsg, hd, hfc, hb, hfl, hrom, hreq, hon⟩ := h
  exact ⟨by rw [Node.Unverifiable, hr, hsg, hd]; exact hs, ⟨hfc, hb, hfl, hrom, fun h => hon ▸ h, hd, hreq⟩⟩

instance : Chains Untouched := ⟨fun _ => ⟨rfl, rfl, rfl, rfl, id, rfl, rfl⟩, Untouched.trans⟩

/-- The triple for the attacker: from every state the hypothesis holds in, `x` returns, into
such a state, with nothing `Untouched` names moved. -/
def NodeM.Shielded (cfg : Build) {α : Type} (x : NodeM α) : Prop :=
  x.Returns (Node.Unverifiable cfg) Untouched

namespace NodeM.Shielded

variable {cfg : Build} {α : Type} {x : NodeM α}

/-- A computation that returns and writes none of the guarded fields; the default proof is the
one for a state update that writes others. -/
theorem frame (h : ∀ s, ∃ a t, x s = .ret a t ∧ t.guarded = s.guarded := by intro s; exact ⟨_, _, rfl, rfl⟩) :
    x.Shielded cfg := fun s hs =>
  let ⟨a, t, hx, ht⟩ := h s
  ⟨a, t, hx, Node.guarded_eq ht hs⟩

/-- The end of a session: `_fwUpdateOngoing` cleared, the rest of the update unguarded. -/
theorem endSession {f : Node → Node}
    (hf : ∀ s, { f s with fwUpdateOngoing := s.fwUpdateOngoing }.guarded = s.guarded := by intro; rfl)
    (hoff : ∀ s, (f s).fwUpdateOngoing = false := by intro; rfl) : (modify f : NodeM Unit).Shielded cfg :=
  Returns.modify fun s hs =>
    let ⟨ht, hu⟩ := Node.guarded_eq (hf s) hs
    ⟨ht, { hu with ongoing := fun h => absurd ((hoff s).symm.trans h) Bool.false_ne_true }⟩

end NodeM.Shielded

/-- The hypothesis holds on at every later poll, with the signer asked at most once more. -/
theorem Node.Unverifiable.later {s t : Node} (hs : s.Unverifiable cfg) (hr : t.env.radio = s.env.radio.tail)
    (hsg : t.env.signer = s.env.signer ∨ t.env.signer = s.env.signer.tail) (hd : t.doSign = s.doSign) :
    t.Unverifiable cfg := by
  refine ⟨fun e he => hd ▸ hs.1 e (List.mem_of_mem_tail (hr ▸ he)), fun a ha => ?_⟩
  rcases hsg with h | h
  · exact hs.2 a (h ▸ ha)
  · exact hs.2 a (List.mem_of_mem_tail (h ▸ ha))

theorem List.headD_false_of_forall {l : List Bool} (h : ∀ a ∈ l, a = false) : l.headD false = false := by
  cases l with
  | nil => rfl
  | cons a l => exact h a (List.mem_cons_self a l)

/-- The entry points one level down, under the same triple. -/
structure Calls.Shielded (cfg : Build) (k : Calls) : Prop where
  process : k.process.Shielded cfg
  sendRoute : ∀ b, (k.sendRoute b).Shielded cfg
  findParentNode : k.findParentNode.Shielded cfg
  requestNodeId : k.requestNodeId.Shielded cfg
  presentNode : k.presentNode.Shielded cfg
  waitLoop : ∀ enter ms, (k.waitLoop enter ms).Shielded cfg
  signLoop : ∀ enter, (k.signLoop enter).Shielded cfg

section Shield

variable {k : Calls}

open NodeM.Shielded NodeM.Returns

theorem shield_modifyBuf (b : Buf) (f : MyMessage → MyMessage) : (modifyBuf b f).Shielded cfg :=
  frame fun s => ⟨_, _, rfl, by cases b <;> rfl⟩

theorem shield_transportSendWrite (toAddr : UInt8) (b : Buf) : (transportSendWrite toAddr b).Shielded cfg :=
  (shield_modifyBuf _ _).bind fun _ => get_bind fun _ => (shield_modifyBuf _ _).bind fun _ => get_bind fun _ => frame

variable (hk : k.Shielded cfg)
include hk

theorem shield_wait (ms : UInt32) : (wait k ms).Shielded cfg := Returns.bind frame fun _ => hk.waitLoop _ _

theorem shield_waitLoop (enter ms : UInt32) : (waitLoop k enter ms).Shielded cfg :=
  Returns.bind frame fun _ => .ite (hk.process.bind fun _ => hk.waitLoop _ _) (.pure _)

theorem shield_signLoop (enter : UInt32) : (signLoop cfg k enter).Shielded cfg :=
  Returns.bind frame fun _ => get_bind fun _ => .ite (hk.process.bind fun _ => hk.signLoop _) (.pure _)

theorem shield_afterSend (ok : Bool) : (afterSend cfg k ok).Shielded cfg :=
  .ite (Returns.bind frame fun _ => .pure _)
    (Returns.bind frame fun _ => get_bind fun _ => .ite (hk.findParentNode.bind fun _ => .pure _) ((Returns.pure _).bind fun _ => .pure _))

theorem shield_signRoute (b : Buf) : (signRoute cfg k b).Shielded cfg :=
  get_bind fun _ => .ite
    (Returns.bind frame fun _ => (hk.sendRoute _).bind fun _ => .ite
      (Returns.bind frame fun _ => Returns.bind frame fun _ => (hk.signLoop _).bind fun _ => Returns.bind frame fun _ =>
        .ite (.pure _) (get_bind fun _ => .ite ((frame fun s => ⟨_, _, rfl, by cases b <;> rfl⟩).bind fun _ => .pure _) (.pure _)))
      (.pure _))
    (.ite ((shield_modifyBuf _ _).bind fun _ => .pure _) ((Returns.pure _).bind fun _ => .pure _))

theorem shield_routeMessage (b : Buf) (last : UInt8) : (routeMessage cfg k b last).Shielded cfg :=
  get_bind fun _ => .ite ((shield_transportSendWrite _ _).bind fun _ => shield_afterSend hk _)
    (.ite (Returns.bind frame fun _ => (shield_transportSendWrite _ _).bind fun _ => shield_afterSend hk _)
      (.ite (shield_transportSendWrite _ _) (.ite (shield_transportSendWrite _ _) (.ite (.pure _)
        ((shield_transportSendWrite _ _).bind fun _ => Returns.bind frame fun _ => shield_afterSend hk _)))))

theorem shield_transportSendRoute (b : Buf) : (transportSendRoute cfg k b).Shielded cfg :=
  get_bind fun _ => .ite (hk.findParentNode.bind fun _ => .pure _)
    (.ite (hk.requestNodeId.bind fun _ => .pure _)
      ((shield_modifyBuf _ _).bind fun _ => (Returns.ite (shield_signRoute hk _) (.pure _)).bind fun _ =>
        .ite (shield_routeMessage hk _ _) (.pure _)))

theorem shield_transportFindParentNode : (transportFindParentNode k).Shielded cfg :=
  get_bind fun _ => .ite (Returns.bind frame fun _ => (shield_transportSendWrite _ _).bind fun _ =>
    (shield_wait hk _).bind fun _ => frame) (.pure _)

theorem shield_transportRequestNodeId : (transportRequestNodeId k).Shielded cfg :=
  Returns.bind frame fun _ => get_bind fun _ => (shield_transportSendWrite _ _).bind fun _ => shield_wait hk _

theorem shield_present (sensor type : UInt8) : (present k sensor type).Shielded cfg :=
  Returns.bind frame fun _ => (hk.sendRoute _).bind fun _ => .pure _

theorem shield_transportPresentNode : (transportPresentNode cfg k).Shielded cfg := by
  refine get_bind fun _ => .ite (Returns.bind frame fun _ => (hk.sendRoute _).bind fun _ => ?_) (.pure _)
  -- both ways past the optional wait continue with the presentation and the OTA request
  refine .ite ((shield_wait hk _).bind fun _ => ?_) ((Returns.pure _).bind fun _ => ?_) <;>
  exact (shield_present hk _ _).bind fun _ => Returns.bind frame fun _ => (hk.sendRoute _).bind fun _ =>
    (shield_wait hk _).bind fun _ =>
      .ite (Returns.bind endSession fun _ => (hk.sendRoute _).bind fun _ => .pure _) (.pure _)

theorem shield_otaIdle : (otaIdle cfg k).Shielded cfg :=
  Returns.bind frame fun _ => get_bind fun _ => .ite
    (.ite endSession (Returns.bind frame fun _ => (hk.sendRoute _).bind fun _ => .pure _)) (.pure _)

theorem shield_discover (m : MyMessage) : (discover cfg k m).Shielded cfg :=
  Returns.bind frame fun _ => (shield_wait hk _).bind fun _ => Returns.bind frame fun _ =>
    (hk.sendRoute _).bind fun _ => .ite ((hk.sendRoute _).bind fun _ => .pure _) (.pure _)

theorem shield_relay (toAddr : UInt8) (m : MyMessage) : (relay k toAddr m).Shielded cfg := by
  refine get_bind fun _ => .ite (.ite (get_bind fun _ => .ite (get_bind fun _ => ?_) (.pure _))
    (get_bind fun _ => .ite ((hk.sendRoute _).bind fun _ => .pure _) (.pure _))) (.pure _)
  -- both ways past the optional parent search continue with the answer
  refine .ite (hk.findParentNode.bind fun _ => ?_) ((Returns.pure _).bind fun _ => ?_) <;>
  exact get_bind fun _ => .ite (Returns.bind frame fun _ => (shield_wait hk _).bind fun _ =>
    Returns.bind frame fun _ => (shield_transportSendWrite _ _).bind fun _ => .pure _) (.pure _)

/-- A frame for another node reaches neither the handlers nor the OTA code. -/
theorem shield_dispatch_elsewhere {toAddr : UInt8} {m : MyMessage} {s : Node} (hd : m.destination ≠ s.nc.nodeId)
    (hs : s.Unverifiable cfg) :
    ∃ a t, dispatch cfg k toAddr m s = .ret a t ∧ t.Unverifiable cfg ∧ Untouched s t := by
  simp only [dispatch, bind_apply, get_apply, Outcome.ret_bind]
  split
  · exact Returns.pure () s hs
  · exact (Returns.ite (shield_discover hk m) (.ite (shield_relay hk _ _) (.pure ()))) s hs

/-- One poll: a frame for this node fails the check and is dropped, one for another node goes
to the discovery or the relay, and no frame leads to the idle branch. -/
theorem shield_transportProcess (hsig : cfg.signing = true ∧ cfg.requestSignatures = true) :
    (transportProcess cfg k).Shielded cfg := by
  intro s hs
  have idle : s.env.radio.headD none = none → ∃ a t, transportProcess cfg k s = .ret a t ∧ t.Unverifiable cfg ∧ Untouched s t :=
    fun h => by
      rw [transportProcess_idle h]
      exact (Returns.ite (shield_otaIdle hk) (.pure ())).from_step (hs.later rfl (.inl rfl) rfl) ⟨rfl, rfl, rfl, rfl, id, rfl, rfl⟩
  cases hr : s.env.radio with
  | nil => exact idle (by rw [hr]; rfl)
  | cons e rest =>
    cases e with
    | none => exact idle (by rw [hr]; rfl)
    | some p =>
      obtain ⟨toAddr, f⟩ := p
      have hc : Checked cfg s.doSign (some (toAddr, f)) := hs.1 _ (by rw [hr]; exact List.mem_cons_self _ _)
      by_cases hd : f.destination = s.nc.nodeId
      · -- the check covers the frame, and the signer accepts no signature
        have hv : verificationRequired cfg s f = true := by
          obtain ⟨ha, hh, hg⟩ := hc
          cases hgw : cfg.gateway <;> simp [verificationRequired, hgw, hd, ha, hh, hg]
        refine ⟨(), _, unverified_frame_dropped k s toAddr f rest hr ⟨hsig.1, hsig.2, hv⟩
          fun _ => List.headD_false_of_forall hs.2, hs.later (by rw [hr]; rfl) ?_ rfl, ⟨rfl, rfl, rfl, rfl, id, rfl, rfl⟩⟩
        dsimp only [Node.rejected, Node.receive]
        split
        exacts [.inr rfl, .inl rfl]
      · rw [transportProcess_unchecked hr fun h => by simp [verificationRequired, hd] at h]
        exact shield_dispatch_elsewhere hk (s := s.receive f rest) hd (hs.later (by rw [hr]; rfl) (.inl rfl) rfl)
          |>.imp fun _ ⟨u, hu, hu', hsu⟩ => ⟨u, hu, hu', Untouched.trans (t := s.receive f rest) ⟨rfl, rfl, rfl, rfl, id, rfl, rfl⟩ hsu⟩

/-- One level of bodies over shielded entry points is shielded. -/
theorem Calls.Shielded.next (hsig : cfg.signing = true ∧ cfg.requestSignatures = true) : (k.next cfg).Shielded cfg :=
  ⟨shield_transportProcess hk hsig, shield_transportSendRoute hk, shield_transportFindParentNode hk,
    shield_transportRequestNodeId hk, shield_transportPresentNode hk, shield_waitLoop hk, shield_signLoop hk⟩

end Shield

theorem shield_calls (cfg : Build) (hsig : cfg.signing = true ∧ cfg.requestSignatures = true) :
    ∀ n, (calls cfg n).Shielded cfg
  | 0 => ⟨.pure _, fun _ => .pure _, .pure _, .pure _, .pure _, fun _ _ => .pure _, fun _ => .pure _⟩
  | n + 1 => (shield_calls cfg hsig n).next hsig

theorem shield_processTimes {k : Calls} (hk : k.process.Shielded cfg) : ∀ m, (processTimes k m).Shielded cfg
  | 0 => .pure _
  | m + 1 => hk.bind fun _ => shield_processTimes hk m

/-- The build of a sensor node that signs and requires signatures, with OTA. -/
def verifyingBuild : Build :=
  { otaBuild with signing := true, requestSignatures := true }

/-- The controller's offer of firmware `⟨1, 2, 3, 0⟩` to node `10`, unsigned. -/
def unsignedOffer (ack : Bool) : MyMessage :=
  { (default : MyMessage) with
    sender := GATEWAY_ADDRESS, destination := 10, command := C_STREAM, ack
    type := ST_FIRMWARE_CONFIG_RESPONSE, version := PROTOCOL_VERSION
    data := NodeFirmwareConfig.toBytes ⟨1, 2, 3, 0⟩ }

/-- Node `10`, with an image installed and a flash that initialises, offered `unsignedOffer`. -/
def offerArrives (ack : Bool) : Node :=
  { zeroBlockOffer with env := { (default : Env) with radio := [some (10, unsignedOffer ack), none], flash := [true] } }

/-- The build of a node that signs what it sends to the gateway. -/
def signingBuild : Build :=
  { plainBuild with signing := true, requestSignatures := true }

/-- The nonce request node `10` sends the gateway before signing a message to it. -/
def nonceRequest : MyMessage :=
  { (default : MyMessage) with
    last := 10, sender := 10, destination := GATEWAY_ADDRESS, sensor := NODE_SENSOR_ID
    command := C_INTERNAL, type := I_GET_NONCE, version := PROTOCOL_VERSION }

/-- Node `10`, whose parent is the gateway and which signs what it sends there, hearing
an `I_DISCOVER` from its parent and then the nonce the gateway answers with. -/
def discoverRace : Node :=
  { (default : Node) with
    nc := ⟨10, GATEWAY_ADDRESS, 1⟩
    doSign := fun x => x == GATEWAY_ADDRESS
    env := {
      radio := [some (BROADCAST_ADDRESS, { (default : MyMessage) with
          sender := GATEWAY_ADDRESS, destination := BROADCAST_ADDRESS, command := C_INTERNAL
          type := I_DISCOVER, version := PROTOCOL_VERSION }),
        some (10, { (default : MyMessage) with
          sender := GATEWAY_ADDRESS, destination := 10, command := C_INTERNAL
          type := I_GET_NONCE_RESPONSE, version := PROTOCOL_VERSION })]
      clock := [0, 0, 0, 1, 2, 3, 4], link := [true, true], signer := [true, true], flash := [] } }

/-- The same node at the moment the `I_DISCOVER` handling hands its answer, built in
`_msgTmp`, to `transportSendRoute`. -/
def discoverAnswer : Node :=
  { discoverRace with
    msgTmp := ((default : MyMessage).build 10 GATEWAY_ADDRESS NODE_SENSOR_ID C_INTERNAL
      I_DISCOVER_RESPONSE false).setByte GATEWAY_ADDRESS
    env := { discoverRace.env with radio := discoverRace.env.radio.tail, clock := [0, 1, 2, 3] } }

theorem discover_response_signed_as_nonce_request :
    ((calls signingBuild 3).sendRoute .msgTmp discoverAnswer).result = some true ∧
      ((calls signingBuild 3).sendRoute .msgTmp discoverAnswer).node.trace =
        [.radio GATEWAY_ADDRESS nonceRequest 7, .radio GATEWAY_ADDRESS { nonceRequest with signed := true } 32] ∧
      ((calls signingBuild 4).process discoverRace).node.trace =
        [.radio GATEWAY_ADDRESS nonceRequest 7, .radio GATEWAY_ADDRESS { nonceRequest with signed := true } 32] := by
  decide

/-- Node `10`, which has lost its parent, receiving a `C_SET` frame that asks for an ack. -/
def ackRequest : Node :=
  { (default : Node) with
    nc := ⟨10, AUTO, DISTANCE_INVALID⟩
    autoFindParent := true
    env := { (default : Env) with
      radio := [some (10, { (default : MyMessage) with
        last := 20, sender := 20, destination := 10, command := C_SET, requestAck := true
        version := PROTOCOL_VERSION, length := 1, payloadType := P_BYTE, data := [42] })]
      clock := [0, 2000], link := [true] } }

/-- The parent search request the ack's send starts. -/
def findParentRequest : MyMessage :=
  { (default : MyMessage) with
    last := 10, sender := 10, destination := BROADCAST_ADDRESS, sensor := NODE_SENSOR_ID
    command := C_INTERNAL, type := I_FIND_PARENT, version := PROTOCOL_VERSION }

theorem ack_reply_clobbers_received_frame :
    ((calls plainBuild 3).process ackRequest).node.trace =
      [.radio BROADCAST_ADDRESS findParentRequest 7, .callback findParentRequest] := by
  decide

end MySensors
