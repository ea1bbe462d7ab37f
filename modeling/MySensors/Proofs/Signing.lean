import MySensors.Sanity.Keeps

/-! Message signing on the sending side (`transportSendRoute` with `MY_SIGNING_FEATURE`).
A message this node must sign is copied to `_msgSign` while the node waits for the
nonce; the nonce response has the signer sign the copy and sets `SIGN_OK`; the copy
then goes back into the message's buffer and out on the radio. The file proves, for every
depth of nested processing, that `SIGN_OK` always vouches for a signed copy of this
protocol version (`signedCopy_kept`), and that a send of a message that must be signed
reports success only after putting that signed copy on the radio at full length
(`sendRoute_transmits_signed`). What is signed is whatever `_msgSign` holds then, which
need not be the message handed to the send. -/

namespace MySensors
open NodeM

/-- The frame `transportSendWrite` hands to the radio for message `m` of node `id`. -/
def stamped (id : UInt8) (m : MyMessage) : MyMessage := { m with version := PROTOCOL_VERSION, last := id }

/-- The length `transportSendWrite` hands to the radio with message `m`. -/
def frameLength (m : MyMessage) : Nat :=
  min MAX_MESSAGE_LENGTH.toNat (HEADER_SIZE.toNat + (if m.signed then MAX_MESSAGE_LENGTH else m.length).toNat)

/-- The state `transportSendWrite(to, b)` leaves: the message stamped, the frame on the
radio, the link's answer taken. -/
def Node.sent (toAddr : UInt8) (b : Buf) (s : Node) : Node :=
  { s.setBuf b (stamped s.nc.nodeId (s.buf b)) with
    env := { s.env with link := s.env.link.tail }
    trace := s.trace ++ [.radio toAddr (stamped s.nc.nodeId (s.buf b)) (frameLength (s.buf b))] }

namespace Node

variable (toAddr : UInt8) (b : Buf) (s : Node)

@[simp] theorem sent_trace :
    (s.sent toAddr b).trace = s.trace ++ [.radio toAddr (stamped s.nc.nodeId (s.buf b)) (frameLength (s.buf b))] :=
  rfl
@[simp] theorem sent_nc : (s.sent toAddr b).nc = s.nc := by cases b <;> rfl
@[simp] theorem sent_signingNonceStatus : (s.sent toAddr b).signingNonceStatus = s.signingNonceStatus := by
  cases b <;> rfl
theorem sent_msgSign (h : b ≠ .msgSign) : (s.sent toAddr b).msgSign = s.msgSign := by
  cases b <;> first | rfl | exact absurd rfl h
@[simp] theorem sent_autoFindParent : (s.sent toAddr b).autoFindParent = s.autoFindParent := by cases b <;> rfl
@[simp] theorem sent_findingParentNode : (s.sent toAddr b).findingParentNode = s.findingParentNode := by
  cases b <;> rfl
@[simp] theorem sent_failedTransmissions : (s.sent toAddr b).failedTransmissions = s.failedTransmissions := by
  cases b <;> rfl

end Node

theorem transportSendWrite_apply (toAddr : UInt8) (b : Buf) (s : Node) :
    transportSendWrite toAddr b s = .ret (s.env.link.headD false) (s.sent toAddr b) := by
  cases b <;> simp only [transportSendWrite, modifyBuf, bind_apply, modify_apply, get_apply, Outcome.ret_bind,
    transportSend, Env.next_eq] <;> rfl

/-- The test of the signing block of `transportSendRoute`: the destination requires signing,
this node is the sender, and the message is neither an ack nor a handshake. -/
def Node.MustSign (s : Node) (m : MyMessage) : Prop :=
  s.doSign m.destination ∧ m.sender = s.nc.nodeId ∧ ¬m.ack ∧ ¬MyMessage.handshake m.command m.type

instance (s : Node) (m : MyMessage) : Decidable (s.MustSign m) := inferInstanceAs (Decidable (_ ∧ _))

section Send

variable {cfg : Build} {k : Calls}

theorem afterSend_eq_true {ok : Bool} {s s' : Node} (h : afterSend cfg k ok s = .ret true s') :
    ok = true ∧ s' = { s with failedTransmissions := 0 } := by
  cases ok
  · simp only [afterSend, if_false, Bool.false_eq_true, bind_apply, modify_apply, get_apply, Outcome.ret_bind] at h
    split at h
    · exact Bool.noConfusion (Outcome.bind_pure_eq_ret h)
    · cases h
  · exact ⟨rfl, (Outcome.ret.inj h).2.symm⟩

/-- What a send that reported success did: the message in `b`, stamped, went on the radio and
stays in `b`; the other buffers, the nonce status and the node context are as they were. -/
structure SentOnce (b : Buf) (s s' : Node) : Prop where
  trace : ∃ toAddr, s'.trace = s.trace ++ [.radio toAddr (stamped s.nc.nodeId (s.buf b)) (frameLength (s.buf b))]
  self : s'.buf b = stamped s.nc.nodeId (s.buf b)
  other : ∀ b', b' ≠ b → s'.buf b' = s.buf b'
  status : s'.signingNonceStatus = s.signingNonceStatus
  nc : s'.nc = s.nc

namespace SentOnce

variable {b : Buf} {s t : Node}

theorem sent (toAddr : UInt8) : SentOnce b s (s.sent toAddr b) :=
  ⟨⟨toAddr, rfl⟩, Node.buf_setBuf _ _ _, fun _ h => Node.buf_setBuf_of_ne _ _ h, by simp, by simp⟩

/-- Bookkeeping after the write: the failure count and the routing table. -/
theorem after {t' : Node} (h : SentOnce b s t) (htr : t'.trace = t.trace) (hbuf : ∀ b', t'.buf b' = t.buf b')
    (hst : t'.signingNonceStatus = t.signingNonceStatus) (hnc : t'.nc = t.nc) : SentOnce b s t' :=
  ⟨htr ▸ h.trace, (hbuf b).trans h.self, fun b' hb => (hbuf b').trans (h.other b' hb), hst ▸ h.status, hnc ▸ h.nc⟩

/-- The routing table written before the write. -/
theorem writeRoute {x y : UInt8} (h : SentOnce b (s.writeRoute x y) t) : SentOnce b s t := by
  obtain ⟨⟨toAddr, htr⟩, hself, hother, hst, hnc⟩ := h
  rw [Node.buf_writeRoute] at htr hself
  exact ⟨⟨toAddr, htr⟩, hself, fun b' hb => (hother b' hb).trans (Node.buf_writeRoute ..), hst, hnc⟩

/-- The routing table written after the write. -/
theorem writeRoute_after {x y : UInt8} (h : SentOnce b s t) : SentOnce b s (t.writeRoute x y) :=
  h.after rfl (fun _ => Node.buf_writeRoute ..) rfl rfl

end SentOnce

theorem sendWrite_afterSend_eq_true {toAddr : UInt8} {b : Buf} {s s' : Node}
    (h : (transportSendWrite toAddr b >>= afterSend cfg k) s = .ret true s') : SentOnce b s s' := by
  obtain ⟨ok, t, ht, hs⟩ := Outcome.bind_eq_ret.1 h
  rw [transportSendWrite_apply] at ht
  obtain ⟨rfl, rfl⟩ := Outcome.ret.inj ht
  obtain ⟨-, rfl⟩ := afterSend_eq_true hs
  exact (SentOnce.sent toAddr).after rfl (fun b' => by cases b' <;> rfl) rfl rfl

theorem sendWrite_eq_true {toAddr : UInt8} {b : Buf} {s s' : Node}
    (h : transportSendWrite toAddr b s = .ret true s') : SentOnce b s s' := by
  rw [transportSendWrite_apply] at h
  obtain ⟨-, rfl⟩ := Outcome.ret.inj h
  exact .sent toAddr

/-- A send through the routing that reports success did exactly one write. -/
theorem routeMessage_eq_true {b : Buf} {last : UInt8} {s s' : Node} (h : routeMessage cfg k b last s = .ret true s') :
    SentOnce b s s' := by
  simp only [routeMessage, bind_apply, get_apply, Outcome.ret_bind] at h
  by_cases hr : cfg.repeater = true
  swap
  · rw [if_pos hr] at h
    exact sendWrite_afterSend_eq_true h
  rw [if_neg (not_not.2 hr)] at h
  by_cases hg : (s.buf b).destination = GATEWAY_ADDRESS
  · rw [if_pos hg] at h
    exact (sendWrite_afterSend_eq_true h).writeRoute
  rw [if_neg hg] at h
  -- the relay, whichever route the table or the broadcast gives
  generalize (if (s.buf b).destination ≠ BROADCAST_ADDRESS then s.eeprom.routes (s.buf b).destination
    else BROADCAST_ADDRESS) = route at h
  split at h
  · exact sendWrite_eq_true h
  split at h
  · exact sendWrite_eq_true h
  split at h
  · cases h
  obtain ⟨ok, t, ht, hs⟩ := Outcome.bind_eq_ret.1 h
  obtain ⟨rfl, rfl⟩ := afterSend_eq_true hs
  exact ((sendWrite_eq_true ht).writeRoute_after (x := (s.buf b).sender) (y := last)).after rfl
    (fun b' => by cases b' <;> rfl) rfl rfl

theorem signRoute_of_not_mustSign {b : Buf} {s : Node} (h : ¬s.MustSign (s.buf b)) :
    signRoute cfg k b s =
      .ret true (if s.nc.nodeId = (s.buf b).sender then s.setBuf b { s.buf b with signed := false } else s) := by
  unfold Node.MustSign at h
  simp only [signRoute, bind_apply, get_apply, Outcome.ret_bind]
  rw [if_neg h]
  split <;> rfl

/-- A send that reports success stamped the version, passed the signing block and the routing. -/
theorem transportSendRoute_eq_true {b : Buf} {s s' : Node} (h : transportSendRoute cfg k b s = .ret true s') :
    ∃ t, (if cfg.signing then signRoute cfg k b else pure true)
        (s.setBuf b { s.buf b with version := PROTOCOL_VERSION }) = .ret true t ∧
      routeMessage cfg k b (s.buf b).last t = .ret true s' := by
  simp only [transportSendRoute, bind_apply, get_apply, Outcome.ret_bind] at h
  split at h
  · exact Bool.noConfusion (Outcome.bind_pure_eq_ret h)
  by_cases hid : s.nc.nodeId = AUTO
  · rw [if_pos hid, bind_apply] at h
    exact Bool.noConfusion (Outcome.bind_pure_eq_ret h)
  rw [if_neg hid, bind_apply, modifyBuf, modify_apply, Outcome.ret_bind, bind_apply] at h
  obtain ⟨r, t, hr, hm⟩ := Outcome.bind_eq_ret.1 h
  cases r
  · cases hm
  · exact ⟨t, hr, hm⟩

/-- A handshake message sent with success was neither signed nor waited for: the send left the
nonce status and the other buffers as they were, and its own buffer stamped. -/
theorem transportSendRoute_handshake {b : Buf} {s s' : Node}
    (hh : MyMessage.handshake (s.buf b).command (s.buf b).type = true)
    (h : transportSendRoute cfg k b s = .ret true s') :
    s'.signingNonceStatus = s.signingNonceStatus ∧ (∀ b', b' ≠ b → s'.buf b' = s.buf b') ∧
      (s'.buf b).version = PROTOCOL_VERSION := by
  obtain ⟨t, ht, hr⟩ := transportSendRoute_eq_true h
  have hs := routeMessage_eq_true hr
  -- the signing block only clears the signed flag of the message it sends
  obtain ⟨m, rfl⟩ : ∃ m, t = s.setBuf b m := by
    split at ht
    · rw [signRoute_of_not_mustSign fun hm => hm.2.2.2 (by simpa using hh)] at ht
      obtain ⟨-, rfl⟩ := Outcome.ret.inj ht
      split
      · exact ⟨_, Node.setBuf_setBuf _ _ _ _⟩
      · exact ⟨_, rfl⟩
    · exact ⟨_, (Outcome.ret.inj ht).2.symm⟩
  refine ⟨hs.status.trans (by simp), fun b' hb => (hs.other b' hb).trans (Node.buf_setBuf_of_ne _ _ hb), ?_⟩
  rw [hs.self]
  rfl

end Send


/-! ### The signed copy -/

/-- The copy `_msgSign` is a message of this protocol version, and `_signingNonceStatus ==
SIGN_OK` vouches for it: the copy is signed. -/
def Node.SignedCopy (s : Node) : Prop :=
  s.msgSign.version = PROTOCOL_VERSION ∧ (s.signingNonceStatus = .ok → s.msgSign.signed = true)

/-- A run keeps the copy vouched for. -/
def KeepsSignedCopy (s s' : Node) : Prop := s.SignedCopy → s'.SignedCopy

instance : Chains KeepsSignedCopy := ⟨fun _ => id, fun h h' => h' ∘ h⟩

/-- Whatever the state before, a state waiting for a nonce with a copy of this version. -/
theorem keepsSignedCopy_of_waiting {s t : Node} (hv : t.msgSign.version = PROTOCOL_VERSION)
    (h : t.signingNonceStatus = .waitingForNonce) : KeepsSignedCopy s t :=
  fun _ => ⟨hv, fun hok => absurd (h.symm.trans hok) nofun⟩

/-- What the signing block needs of the entry points one level down: they keep the copy
vouched for (sends for the buffers callers pass, never `_msgSign`), and a handshake message
they send with success leaves the nonce status alone. -/
structure Calls.Signs (k : Calls) : Prop where
  process : k.process.Runs KeepsSignedCopy KeepsSignedCopy
  sendRoute : ∀ b, b ≠ .msgSign → (k.sendRoute b).Runs KeepsSignedCopy KeepsSignedCopy
  findParentNode : k.findParentNode.Runs KeepsSignedCopy KeepsSignedCopy
  requestNodeId : k.requestNodeId.Runs KeepsSignedCopy KeepsSignedCopy
  presentNode : k.presentNode.Runs KeepsSignedCopy KeepsSignedCopy
  waitLoop : ∀ enter ms, (k.waitLoop enter ms).Runs KeepsSignedCopy KeepsSignedCopy
  signLoop : ∀ enter, (k.signLoop enter).Runs KeepsSignedCopy KeepsSignedCopy
  handshakeSent : ∀ b s s', MyMessage.handshake (s.buf b).command (s.buf b).type = true →
    k.sendRoute b s = .ret true s' → s'.signingNonceStatus = s.signingNonceStatus ∧
      (∀ b', b' ≠ b → s'.buf b' = s.buf b') ∧ (s'.buf b).version = PROTOCOL_VERSION

section Pass

variable {cfg : Build} {k : Calls}

/-- A computation that leaves the nonce status and the copy as they were; the default proof
is the one for a state update that writes other fields. -/
theorem copy_frame {α : Type} {x : NodeM α}
    (h : ∀ s, (x s).node.signingNonceStatus = s.signingNonceStatus ∧ (x s).node.msgSign = s.msgSign := by
      intro; exact ⟨rfl, rfl⟩) :
    x.Runs KeepsSignedCopy KeepsSignedCopy :=
  Runs.of_keeps fun s hs => by unfold Node.SignedCopy; rw [(h s).1, (h s).2]; exact hs

theorem copy_hwMillis : hwMillis.Runs KeepsSignedCopy KeepsSignedCopy := copy_frame

theorem copy_transportAvailable : transportAvailable.Runs KeepsSignedCopy KeepsSignedCopy := copy_frame

theorem copy_signerAnswer : signerAnswer.Runs KeepsSignedCopy KeepsSignedCopy := copy_frame

theorem copy_flashInitialize : flashInitialize.Runs KeepsSignedCopy KeepsSignedCopy := copy_frame

theorem copy_transportSend (toAddr : UInt8) (m : MyMessage) (len : Nat) :
    (transportSend toAddr m len).Runs KeepsSignedCopy KeepsSignedCopy := copy_frame

theorem keepsSignedCopy_setBuf {b : Buf} (hb : b ≠ .msgSign) (s : Node) (m : MyMessage) :
    KeepsSignedCopy s (s.setBuf b m) := by
  unfold KeepsSignedCopy Node.SignedCopy
  rw [Node.msgSign_setBuf _ _ hb, Node.signingNonceStatus_setBuf]
  exact id

theorem copy_setBuf {b : Buf} (hb : b ≠ .msgSign) (f : Node → MyMessage) :
    (modify fun s => s.setBuf b (f s) : NodeM Unit).Runs KeepsSignedCopy KeepsSignedCopy :=
  Runs.modify fun s => keepsSignedCopy_setBuf hb s _

theorem copy_modifyBuf {b : Buf} (hb : b ≠ .msgSign) (f : MyMessage → MyMessage) :
    (modifyBuf b f).Runs KeepsSignedCopy KeepsSignedCopy :=
  copy_setBuf hb _

theorem copy_transportSendWrite (toAddr : UInt8) {b : Buf} (hb : b ≠ .msgSign) :
    (transportSendWrite toAddr b).Runs KeepsSignedCopy KeepsSignedCopy :=
  (copy_modifyBuf hb _).bind fun _ => .get_bind fun _ =>
    (copy_modifyBuf hb _).bind fun _ => .get_bind fun _ => copy_transportSend _ _ _

/-- `signerPutNonce(_msg) && signerSignMsg(_msgSign)`, then `SIGN_OK`: the status vouches for
the copy the signer has just signed. -/
theorem copy_signNonce :
    (do if ← signerSignMsg then modify fun s : Node => { s with signingNonceStatus := .ok } : NodeM Unit).Runs
      KeepsSignedCopy KeepsSignedCopy := by
  intro s
  by_cases ha : s.env.signer.headD false = true <;>
    simp only [signerSignMsg, signerAnswer, bind_apply, modify_apply, pure_apply, Outcome.ret_bind, Env.next_eq, ha,
      if_true, if_false, Bool.false_eq_true, Outcome.ends_ret]
  · exact fun h => ⟨h.1, fun _ => rfl⟩
  · exact id

theorem copy_acceptFindParentResponse (sender : UInt8) :
    (modify (acceptFindParentResponse sender) : NodeM Unit).Runs KeepsSignedCopy KeepsSignedCopy :=
  copy_frame fun s => by dsimp only [modify_apply, Outcome.node_ret, acceptFindParentResponse]; split <;> exact ⟨rfl, rfl⟩

theorem copy_deliver : (deliver cfg).Runs KeepsSignedCopy KeepsSignedCopy :=
  copy_frame fun s => by unfold deliver; split <;> split <;> exact ⟨rfl, rfl⟩

theorem copy_firmwareConfigResponse : (firmwareConfigResponse cfg).Runs KeepsSignedCopy KeepsSignedCopy :=
  .get_bind fun _ => .ite (Runs.bind copy_frame fun _ => copy_flashInitialize.bind fun _ => .ite copy_frame copy_frame)
    copy_deliver

theorem copy_firmwareResponse : (firmwareResponse cfg).Runs KeepsSignedCopy KeepsSignedCopy :=
  .get_bind fun _ => .ite (Runs.bind copy_frame fun _ => .get_bind fun _ =>
    .ite (Runs.bind copy_frame fun _ => .ite (Runs.bind copy_frame fun _ => Runs.bind .stop fun _ => copy_frame)
      copy_frame) copy_frame) (.pure _)

variable (hk : k.Signs)
include hk

theorem copy_wait (ms : UInt32) : (wait k ms).Runs KeepsSignedCopy KeepsSignedCopy :=
  copy_hwMillis.bind fun _ => hk.waitLoop _ _

theorem copy_waitLoop (enter ms : UInt32) : (waitLoop k enter ms).Runs KeepsSignedCopy KeepsSignedCopy :=
  copy_hwMillis.bind fun _ => .ite (hk.process.bind fun _ => hk.waitLoop _ _) (.pure _)

theorem copy_signLoop (enter : UInt32) : (signLoop cfg k enter).Runs KeepsSignedCopy KeepsSignedCopy :=
  copy_hwMillis.bind fun _ => .get_bind fun _ => .ite (hk.process.bind fun _ => hk.signLoop _) (.pure _)

theorem copy_afterSend (ok : Bool) : (afterSend cfg k ok).Runs KeepsSignedCopy KeepsSignedCopy :=
  .ite (Runs.bind copy_frame fun _ => .pure _)
    (Runs.bind copy_frame fun _ => .get_bind fun _ =>
      .ite (hk.findParentNode.bind fun _ => .pure _) ((Runs.pure _).bind fun _ => .pure _))

/-- The signing block, from a state whose message carries this protocol version: the nonce request
it sends is a handshake, so a send that succeeds leaves the status waiting and the message as it
was, and the copy is taken while nothing vouches for it. -/
theorem copy_signRoute {b : Buf} (hb : b ≠ .msgSign) (s : Node) (hv : (s.buf b).version = PROTOCOL_VERSION) :
    (signRoute cfg k b s).Ends KeepsSignedCopy KeepsSignedCopy s := by
  dsimp only [signRoute, bind_apply, get_apply, Outcome.ret_bind]
  split
  · refine Runs.modify_bind_eq (fun h => ⟨h.1, nofun⟩) fun t ht => ?_
    have hh : MyMessage.handshake t.msgTmp.command t.msgTmp.type = true := ht ▸ rfl
    have hvt : (t.buf b).version = PROTOCOL_VERSION := by subst ht; cases b <;> first | rfl | exact hv
    rw [bind_apply]
    have hsend := hk.sendRoute .msgTmp (by decide) t
    revert hsend
    cases hr : k.sendRoute .msgTmp t with
    | stop _ => exact id
    | ret ok t' =>
      cases ok
      · exact id
      · intro _
        -- the request was a handshake: the status still waits, the message is as it was
        obtain ⟨hw, hother, hvm⟩ := hk.handshakeSent .msgTmp _ _ hh hr
        have hv' : (t'.buf b).version = PROTOCOL_VERSION := by
          by_cases hbt : b = .msgTmp
          · subst hbt; exact hvm
          · rw [hother b hbt]; exact hvt
        rw [Outcome.ret_bind, if_pos rfl]
        dsimp only [bind_apply, hwMillis, modify_apply, Outcome.ret_bind]
        refine Outcome.Ends.pre ?_ (((hk.signLoop _).bind fun _ => copy_hwMillis.bind fun _ => .ite (.pure _)
          (.get_bind fun _ => .ite ((copy_setBuf hb _).bind fun _ => .pure _) (.pure _))) _)
        exact keepsSignedCopy_of_waiting hv' (hw.trans (ht ▸ rfl))
  · exact (Runs.ite ((copy_modifyBuf hb _).bind fun _ => .pure _) ((Runs.pure _).bind fun _ => .pure _)) s

theorem copy_routeMessage {b : Buf} (hb : b ≠ .msgSign) (last : UInt8) :
    (routeMessage cfg k b last).Runs KeepsSignedCopy KeepsSignedCopy :=
  .get_bind fun _ => .ite ((copy_transportSendWrite _ hb).bind fun _ => copy_afterSend hk _)
    (.ite (Runs.bind copy_frame fun _ => (copy_transportSendWrite _ hb).bind fun _ => copy_afterSend hk _)
      (.ite (copy_transportSendWrite _ hb) (.ite (copy_transportSendWrite _ hb) (.ite (.pure _)
        ((copy_transportSendWrite _ hb).bind fun _ => Runs.bind copy_frame fun _ => copy_afterSend hk _)))))

theorem copy_transportSendRoute {b : Buf} (hb : b ≠ .msgSign) :
    (transportSendRoute cfg k b).Runs KeepsSignedCopy KeepsSignedCopy :=
  .get_bind fun _ => .ite (hk.findParentNode.bind fun _ => .pure _)
    (.ite (hk.requestNodeId.bind fun _ => .pure _) fun s =>
      -- the signing block starts from the message with its version stamped
      Runs.modify_bind_eq (keepsSignedCopy_setBuf hb s _) fun t ht =>
        Runs.bind_at (by split; exacts [copy_signRoute hk hb t (by rw [ht]; simp), Runs.pure _ t])
          fun _ => .ite (copy_routeMessage hk hb _) (.pure _))

theorem copy_transportFindParentNode : (transportFindParentNode k).Runs KeepsSignedCopy KeepsSignedCopy :=
  .get_bind fun _ => .ite
    (Runs.bind copy_frame fun _ => (copy_transportSendWrite _ (by decide)).bind fun _ =>
      (copy_wait hk _).bind fun _ => copy_frame)
    (.pure _)

theorem copy_transportRequestNodeId : (transportRequestNodeId k).Runs KeepsSignedCopy KeepsSignedCopy :=
  Runs.bind copy_frame fun _ => .get_bind fun _ =>
    (copy_transportSendWrite _ (by decide)).bind fun _ => copy_wait hk _

theorem copy_present (sensor type : UInt8) : (present k sensor type).Runs KeepsSignedCopy KeepsSignedCopy :=
  Runs.bind copy_frame fun _ => (hk.sendRoute _ (by decide)).bind fun _ => .pure _

theorem copy_transportPresentNode : (transportPresentNode cfg k).Runs KeepsSignedCopy KeepsSignedCopy := by
  refine .get_bind fun _ => .ite (Runs.bind copy_frame fun _ => (hk.sendRoute _ (by decide)).bind fun _ => ?_)
    (.pure _)
  -- both ways past the optional wait continue with the presentation and the OTA request
  refine .ite ((copy_wait hk _).bind fun _ => ?_) ((Runs.pure _).bind fun _ => ?_) <;>
  exact (copy_present hk _ _).bind fun _ => Runs.bind copy_frame fun _ => (hk.sendRoute _ (by decide)).bind fun _ =>
    (copy_wait hk _).bind fun _ =>
      .ite (Runs.bind copy_frame fun _ => (hk.sendRoute _ (by decide)).bind fun _ => .pure _) (.pure _)

theorem copy_otaIdle : (otaIdle cfg k).Runs KeepsSignedCopy KeepsSignedCopy :=
  copy_hwMillis.bind fun _ => .get_bind fun _ => .ite
    (.ite copy_frame (Runs.bind copy_frame fun _ => (hk.sendRoute _ (by decide)).bind fun _ => .pure _)) (.pure _)

theorem copy_requestSigning (m : MyMessage) : (requestSigning cfg k m).Runs KeepsSignedCopy KeepsSignedCopy :=
  Runs.bind copy_frame fun _ => Runs.bind copy_frame fun _ =>
    .ite (Runs.bind copy_frame fun _ => (hk.sendRoute _ (by decide)).bind fun _ => .pure _) (.pure _)

theorem copy_idResponse (m : MyMessage) : (idResponse k m).Runs KeepsSignedCopy KeepsSignedCopy :=
  .get_bind fun _ => .ite
    (Runs.bind copy_frame fun _ => .get_bind fun _ => .ite .stop (hk.presentNode.bind fun _ => copy_frame))
    copy_frame

theorem copy_handle (m : MyMessage) : (handle cfg k m).Runs KeepsSignedCopy KeepsSignedCopy :=
  .ite (copy_acceptFindParentResponse _)
    (.ite (copy_signerAnswer.bind fun _ =>
      .ite (Runs.bind copy_frame fun _ => (hk.sendRoute _ (by decide)).bind fun _ => .pure _) (.pure _))
    (.ite (copy_requestSigning hk _)
    (.ite (copy_signerAnswer.bind fun _ => .ite copy_signNonce (.pure _))
    (.ite (copy_idResponse hk _)
    (.ite copy_firmwareConfigResponse
    (.ite copy_firmwareResponse copy_deliver))))))

theorem copy_toSelf (m : MyMessage) : (toSelf cfg k m).Runs KeepsSignedCopy KeepsSignedCopy := by
  refine Runs.bind copy_frame fun _ => ?_
  -- both ways past the route update continue with the ack and the dispatch
  refine .ite ((copy_frame fun s => by dsimp only [modify_apply, Outcome.node_ret]; split <;> exact ⟨rfl, rfl⟩).bind
    fun _ => ?_) ((Runs.pure _).bind fun _ => ?_) <;>
  exact .ite (Runs.bind copy_frame fun _ => (hk.sendRoute _ (by decide)).bind fun _ =>
      (Runs.pure _).bind fun _ => copy_handle hk _)
    ((Runs.pure _).bind fun _ => copy_handle hk _)

theorem copy_discover (m : MyMessage) : (discover cfg k m).Runs KeepsSignedCopy KeepsSignedCopy :=
  copy_hwMillis.bind fun _ => (copy_wait hk _).bind fun _ => Runs.bind copy_frame fun _ =>
    (hk.sendRoute _ (by decide)).bind fun _ => .ite ((hk.sendRoute _ (by decide)).bind fun _ => .pure _) (.pure _)

theorem copy_relay (toAddr : UInt8) (m : MyMessage) : (relay k toAddr m).Runs KeepsSignedCopy KeepsSignedCopy := by
  refine .get_bind fun _ => .ite (.ite (.get_bind fun _ => .ite (.get_bind fun _ => ?_) (.pure _))
    (.get_bind fun _ => .ite ((hk.sendRoute _ (by decide)).bind fun _ => .pure _) (.pure _))) (.pure _)
  -- both ways past the optional parent search continue with the answer
  refine .ite (hk.findParentNode.bind fun _ => ?_) ((Runs.pure _).bind fun _ => ?_) <;>
  exact .get_bind fun _ => .ite (copy_hwMillis.bind fun _ => (copy_wait hk _).bind fun _ =>
    Runs.bind copy_frame fun _ => (copy_transportSendWrite _ (by decide)).bind fun _ => .pure _) (.pure _)

theorem copy_dispatch (toAddr : UInt8) (m : MyMessage) :
    (dispatch cfg k toAddr m).Runs KeepsSignedCopy KeepsSignedCopy :=
  .get_bind fun _ => .ite (.pure _)
    (.ite (copy_toSelf hk _) (.ite (copy_discover hk _) (.ite (copy_relay hk _ _) (.pure _))))

theorem copy_transportProcess : (transportProcess cfg k).Runs KeepsSignedCopy KeepsSignedCopy :=
  copy_transportAvailable.bind fun
    | none => .ite (copy_otaIdle hk) (.pure _)
    | some (_, _) => Runs.bind copy_frame fun _ => .get_bind fun _ =>
      .ite (.ite (copy_signerAnswer.bind fun _ => .ite (copy_dispatch hk _ _) (.pure _)) (.pure _))
        (copy_dispatch hk _ _)

/-- One level of bodies over entry points that keep the copy vouched for does too. -/
theorem Calls.Signs.next : (k.next cfg).Signs :=
  ⟨copy_transportProcess hk, fun _ hb => copy_transportSendRoute hk hb, copy_transportFindParentNode hk,
    copy_transportRequestNodeId hk, copy_transportPresentNode hk, copy_waitLoop hk, copy_signLoop hk,
    fun _ _ _ hh h => transportSendRoute_handshake hh h⟩

end Pass

/-- The signing block on a message it must sign reports success only once the status vouches for
the copy, and then it has put the copy back in the message's buffer. -/
theorem signRoute_mustSign_eq_true {cfg : Build} {k : Calls} (hk : k.Signs) {b : Buf} (hb : b ≠ .msgSign)
    {s s' : Node} (hv : (s.buf b).version = PROTOCOL_VERSION) (hm : s.MustSign (s.buf b))
    (h : signRoute cfg k b s = .ret true s') : s'.buf b = s'.msgSign ∧ s'.SignedCopy ∧ s'.signingNonceStatus = .ok := by
  unfold Node.MustSign at hm
  simp only [signRoute, bind_apply, get_apply, Outcome.ret_bind] at h
  rw [if_pos hm, bind_apply, modify_apply, Outcome.ret_bind, bind_apply] at h
  -- the nonce request went out: the status still waits and the message is as it was
  obtain ⟨ok, t, hr, h⟩ := Outcome.bind_eq_ret.1 h
  cases ok
  · cases h
  obtain ⟨hw, hother, hvm⟩ := hk.handshakeSent .msgTmp _ _ (by rfl) hr
  have hvt : (t.buf b).version = PROTOCOL_VERSION := by
    by_cases hbt : b = .msgTmp
    · subst hbt; exact hvm
    · rw [hother b hbt]; cases b <;> first | exact hv | exact absurd rfl hbt
  rw [if_pos rfl, bind_apply] at h
  dsimp only [hwMillis, Outcome.ret_bind] at h
  rw [bind_apply, modify_apply, Outcome.ret_bind, bind_apply] at h
  -- the copy is taken while waiting; the nested processing keeps it vouched for
  obtain ⟨_, t5, h5, h⟩ := Outcome.bind_eq_ret.1 h
  have hc5 : t5.SignedCopy := (hk.signLoop _).ret_of_eq h5 ⟨hvt, fun hok => absurd (hw.symm.trans hok) nofun⟩
  rw [bind_apply] at h
  dsimp only [hwMillis, Outcome.ret_bind] at h
  split at h
  · cases h
  rw [bind_apply, get_apply, Outcome.ret_bind] at h
  split at h
  · next hok =>
    rw [bind_apply, modify_apply] at h
    obtain ⟨-, rfl⟩ := Outcome.ret.inj h
    refine ⟨(Node.buf_setBuf _ _ _).trans (Node.msgSign_setBuf _ _ hb).symm, ?_,
      by rw [Node.signingNonceStatus_setBuf]; exact hok⟩
    rw [Node.SignedCopy, Node.msgSign_setBuf _ _ hb, Node.signingNonceStatus_setBuf]
    exact hc5
  · cases h

theorem Calls.none_signs : Calls.none.Signs :=
  ⟨.pure _, fun _ _ => .pure _, .pure _, .pure _, .pure _, fun _ _ => .pure _, fun _ => .pure _,
    fun _ _ _ _ h => Bool.noConfusion (Outcome.ret.inj h).1⟩

theorem signs_calls (cfg : Build) : ∀ n, (calls cfg n).Signs
  | 0 => Calls.none_signs
  | n + 1 => (signs_calls cfg n).next

instance (s : Node) : Decidable s.SignedCopy := inferInstanceAs (Decidable (_ ∧ _))

/-- With signing built in, a message this node must sign that a send reports sent went on the
radio signed: as the copy the signer signed, at full length, with the last hop filled in, and
only once the nonce status vouches for it. -/
theorem sendRoute_transmits_signed (cfg : Build) (n : Nat) {b : Buf} (hb : b ≠ .msgSign) {s s' : Node}
    (hsign : cfg.signing = true) (hm : s.MustSign (s.buf b)) (h : (calls cfg n).sendRoute b s = .ret true s') :
    s'.signingNonceStatus = .ok ∧ s'.msgSign.signed = true ∧
      ∃ toAddr tr, s'.trace = tr ++ [.radio toAddr (stamped s'.nc.nodeId s'.msgSign) MAX_MESSAGE_LENGTH.toNat] := by
  cases n with
  | zero => exact Bool.noConfusion (Outcome.ret.inj h).1
  | succ n =>
    obtain ⟨t, ht, hr⟩ := transportSendRoute_eq_true h
    rw [if_pos hsign] at ht
    -- the version stamp leaves the signing test as it was
    have hm' : (s.setBuf b { s.buf b with version := PROTOCOL_VERSION }).MustSign
        ((s.setBuf b { s.buf b with version := PROTOCOL_VERSION }).buf b) := by
      simpa [Node.MustSign] using hm
    obtain ⟨hbuf, ⟨-, hsigned⟩, hok⟩ := signRoute_mustSign_eq_true (signs_calls cfg n) hb (by simp) hm' ht
    have hs := routeMessage_eq_true hr
    have hcopy : s'.msgSign = t.msgSign := hs.other _ (Ne.symm hb)
    obtain ⟨toAddr, htr⟩ := hs.trace
    refine ⟨hs.status.trans hok, hcopy ▸ hsigned hok, toAddr, t.trace, ?_⟩
    rw [htr, hs.nc, hcopy, hbuf, frameLength, if_pos (hsigned hok)]
    rfl

/-- A node that signs what it sends to the gateway and requires no signatures itself. -/
def signedSendBuild : Build where
  signing := true
  requestSignatures := false
  repeater := false
  gateway := false
  ota := false
  receive := false
  searchFailures := 5
  otaRetry := 5
  otaRetryDelay := 500
  verificationTimeout := 5000
  bootloaderVersion := 0

/-- Node 10, whose parent is the gateway and which signs what it sends there, sending a
`C_SET` of its own; the gateway answers the nonce request. -/
def setSend : Node :=
  { (default : Node) with
    nc := ⟨10, GATEWAY_ADDRESS, 1⟩
    doSign := fun x => x == GATEWAY_ADDRESS
    appMsg := { (default : MyMessage) with
      sender := 10, destination := GATEWAY_ADDRESS, sensor := 1, command := C_SET, length := 1, data := [42] }
    msgSign := { (default : MyMessage) with version := PROTOCOL_VERSION }
    env := {
      radio := [some (10, { (default : MyMessage) with
          sender := GATEWAY_ADDRESS, destination := 10, command := C_INTERNAL
          type := I_GET_NONCE_RESPONSE, version := PROTOCOL_VERSION })]
      clock := [0, 0, 1, 2], link := [true, true], signer := [true, true], flash := [] } }

theorem sendRoute_transmits_signed_set :
    setSend.MustSign (setSend.buf .app) ∧
      ((calls signedSendBuild 3).sendRoute .app setSend).node.signingNonceStatus = .ok ∧
      ((calls signedSendBuild 3).sendRoute .app setSend).node.msgSign.signed = true ∧
      ∃ toAddr tr, ((calls signedSendBuild 3).sendRoute .app setSend).node.trace = tr ++
        [.radio toAddr (stamped ((calls signedSendBuild 3).sendRoute .app setSend).node.nc.nodeId
          ((calls signedSendBuild 3).sendRoute .app setSend).node.msgSign) MAX_MESSAGE_LENGTH.toNat] :=
  ⟨by decide, sendRoute_transmits_signed signedSendBuild 3 (by decide) rfl (by decide)
    (Outcome.eq_ret_of_result (by decide))⟩

/-- Over every number of calls of `_process()` and every depth of nested processing, once the
nonce status vouches for a signed copy of this protocol version, it always does. -/
theorem signedCopy_kept (cfg : Build) (n m : Nat) (s : Node) (h : s.SignedCopy) :
    (processTimes (calls cfg n) m s).node.SignedCopy :=
  (runs_processTimes (signs_calls cfg n).process m).keeps s h

theorem signedCopy_kept_set : setSend.SignedCopy ∧ (processTimes (calls signedSendBuild 2) 1 setSend).node.SignedCopy :=
  ⟨by decide, signedCopy_kept signedSendBuild 2 1 setSend (by decide)⟩

end MySensors
