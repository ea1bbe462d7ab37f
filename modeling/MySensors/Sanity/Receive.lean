import MySensors.Sanity.Core

/-! What `transportProcess` does with the frame a poll of the radio returns:
one equation per step of the source's dispatch, so that a proof about a kind
of frame rewrites with these and never unfolds the whole of
`transportProcess`. -/

namespace MySensors

open NodeM

variable {cfg : Build} {k : Calls}

/-- The state after `transportReceive`: the frame in `_msg`, the radio polled. -/
def Node.receive (s : Node) (f : MyMessage) (rest : List (Option (UInt8 × MyMessage))) : Node :=
  { s with msg := f, env := { s.env with radio := rest } }

variable {s : Node} {toAddr : UInt8} {f : MyMessage} {rest : List (Option (UInt8 × MyMessage))}

/-- A poll of the radio that finds nothing (an empty tape included) leads to the OTA idle
branch. -/
theorem transportProcess_idle (h : s.env.radio.headD none = none) :
    transportProcess cfg k s =
      (if cfg.ota then otaIdle cfg k else pure ()) { s with env := { s.env with radio := s.env.radio.tail } } := by
  simp only [transportProcess, bind_apply, transportAvailable, Env.next_eq, h]
  rfl

theorem transportProcess_some (hradio : s.env.radio = some (toAddr, f) :: rest) :
    transportProcess cfg k s =
      (if cfg.signing ∧ cfg.requestSignatures ∧ verificationRequired cfg s f then
        if f.signed then do if ← signerAnswer then dispatch cfg k toAddr f
        else pure ()
      else dispatch cfg k toAddr f) (s.receive f rest) := by
  simp only [transportProcess, bind_apply, transportAvailable, hradio]
  rfl

/-- A frame the inbound signature check does not apply to goes straight to the dispatch. -/
theorem transportProcess_unchecked (hradio : s.env.radio = some (toAddr, f) :: rest)
    (hc : ¬(cfg.signing ∧ cfg.requestSignatures ∧ verificationRequired cfg s f)) :
    transportProcess cfg k s = dispatch cfg k toAddr f (s.receive f rest) := by
  rw [transportProcess_some hradio, if_neg hc]

/-- A frame the inbound check applies to, signed and accepted by the signer, goes to
the dispatch once the signer has answered. -/
theorem transportProcess_verified (hradio : s.env.radio = some (toAddr, f) :: rest)
    (hc : cfg.signing ∧ cfg.requestSignatures ∧ verificationRequired cfg s f) (hs : f.signed = true)
    (hv : s.env.signer.headD false = true) :
    transportProcess cfg k s = dispatch cfg k toAddr f
      { s.receive f rest with env := { (s.receive f rest).env with signer := s.env.signer.tail } } := by
  rw [transportProcess_some hradio, if_pos hc, if_pos hs]
  simp only [bind_apply, signerAnswer, Env.next_eq, Outcome.ret_bind, Node.receive, hv, if_true]

theorem verificationRequired_handshake {m : MyMessage} (h : MyMessage.handshake m.command m.type) :
    verificationRequired cfg s m = false := by
  simp [verificationRequired, h]

/-- A frame for this node with no ack request: clear the signed flag, learn the
route on a repeater, dispatch. -/
theorem toSelf_of_not_requestAck {m : MyMessage} (s : Node) (ha : m.requestAck = false) :
    toSelf cfg k m s = handle cfg k m
      (let s := { s with msg := { s.msg with signed := false } }
       if cfg.repeater ∧ s.msg.last ≠ s.nc.parentNodeId then Node.writeRoute m.sender s.msg.last s else s) := by
  by_cases hr : cfg.repeater <;>
  simp only [toSelf, bind_apply, modify_apply, Outcome.ret_bind, pure_apply, ha, hr, if_true,
    if_false, true_and, false_and, Bool.false_eq_true]

/-- A frame for this node that asks for an ack: the ack, built in `_msgTmp` from
`_msg`, is sent before the dispatch. -/
theorem toSelf_of_requestAck {m : MyMessage} (s : Node) (ha : m.requestAck = true) :
    toSelf cfg k m s = (k.sendRoute .msgTmp
      (let s := { s with msg := { s.msg with signed := false } }
       let s := if cfg.repeater ∧ s.msg.last ≠ s.nc.parentNodeId then Node.writeRoute m.sender s.msg.last s else s
       { s with msgTmp := { s.msg with
          requestAck := false, ack := true, sender := s.nc.nodeId, destination := m.sender } })).bind
      fun _ => handle cfg k m := by
  by_cases hr : cfg.repeater <;> by_cases hl : s.msg.last = s.nc.parentNodeId <;>
  simp only [toSelf, bind_apply, modify_apply, Outcome.ret_bind, pure_apply, ha, hr, hl, if_true,
    if_false, true_and, false_and, ne_eq, not_true_eq_false, not_false_eq_true, Bool.false_eq_true] <;> rfl

theorem dispatch_toSelf {m : MyMessage} (hv : m.version = PROTOCOL_VERSION)
    (hd : m.destination = s.nc.nodeId) : dispatch cfg k toAddr m s = toSelf cfg k m s := by
  simp only [dispatch, bind_apply, get_apply, Outcome.ret_bind, hv, hd, ne_eq, not_true_eq_false,
    if_false, if_true]

theorem handle_findParentResponse {m : MyMessage}
    (h : m.command = C_INTERNAL ∧ m.type = I_FIND_PARENT_RESPONSE) :
    handle cfg k m = modify (acceptFindParentResponse m.sender) := if_pos h

theorem handle_firmwareResponse {m : MyMessage}
    (h : cfg.ota ∧ m.command = C_STREAM ∧ m.type = ST_FIRMWARE_RESPONSE) :
    handle cfg k m = firmwareResponse cfg := by
  obtain ⟨ho, hc, ht⟩ := h
  simp [handle, ho, hc, ht, C_STREAM, C_INTERNAL, ST_FIRMWARE_RESPONSE, ST_FIRMWARE_CONFIG_RESPONSE]

theorem handle_firmwareConfigResponse {m : MyMessage}
    (h : cfg.ota ∧ m.command = C_STREAM ∧ m.type = ST_FIRMWARE_CONFIG_RESPONSE) :
    handle cfg k m = firmwareConfigResponse cfg := by
  obtain ⟨ho, hc, ht⟩ := h
  simp [handle, ho, hc, ht, C_STREAM, C_INTERNAL, ST_FIRMWARE_CONFIG_RESPONSE]

theorem acceptFindParentResponse_nc (sender : UInt8) (s : Node) :
    (acceptFindParentResponse sender s).nc =
      if s.autoFindParent ∧ s.msg.getByte ≠ DISTANCE_INVALID ∧ s.msg.getByte + 1 ≠ DISTANCE_INVALID ∧
          s.msg.getByte + 1 < s.nc.distance then
        { s.nc with distance := s.msg.getByte + 1, parentNodeId := sender }
      else s.nc := by
  dsimp only [acceptFindParentResponse]
  exact apply_ite Node.nc _ _ _

theorem autoFindParent_acceptFindParentResponse (sender : UInt8) (s : Node) :
    (acceptFindParentResponse sender s).autoFindParent = s.autoFindParent := by
  dsimp only [acceptFindParentResponse]; split <;> rfl

theorem env_acceptFindParentResponse (sender : UInt8) (s : Node) :
    (acceptFindParentResponse sender s).env = s.env := by
  dsimp only [acceptFindParentResponse]; split <;> rfl

end MySensors
