import MySensors.Proofs.Session

/-! How the blocks of a firmware session land in flash. A run of `transportProcess` over a tape
of `ST_FIRMWARE_RESPONSE` frames the node takes one after another moves the image as the fold of
`Core.writeBlock` over their payloads does (`processTimes_takesBlocks`), so the `i`-th response
fills slot `_fwBlock - 1 - i` whatever its header says (`blocks_fill_slots_in_arrival_order`).
Responses that ask for an ack are included where the ack's send nests no call: the node has a
parent and an id and does not look for a parent on its own. Polls with no frame, or with another
frame, between the responses are not part of the tape. -/

namespace MySensors

open NodeM

variable {cfg : Build}

/-! ### An ack that nests no call -/

/-- What a block write depends on and the ack's send before it must leave alone. -/
def Node.blockView (s : Node) :
    Core × MyMessage × (UInt8 → Bool) × Bool × List (Option (UInt8 × MyMessage)) × List Bool :=
  (s.core, s.msg, s.doSign, s.autoFindParent, s.env.radio, s.env.signer)

/-- About to send the ack built in `_msgTmp` with no call nested in the send: the node has a
parent and an id, and does not look for a parent on its own. -/
def Node.AcksPlainly (s : Node) : Prop :=
  s.msgTmp.ack = true ∧ s.nc.parentNodeId ≠ AUTO ∧ s.nc.nodeId ≠ AUTO ∧ s.autoFindParent = false

/-- The ack's send leaves the block view as it was. -/
def ViewKept (s s' : Node) : Prop := s'.blockView = s.blockView

instance : Chains ViewKept := ⟨fun _ => rfl, fun h h' => h'.trans h⟩

theorem Node.AcksPlainly.of_view {s t : Node} (hs : s.AcksPlainly) (hv : t.blockView = s.blockView)
    (hack : t.msgTmp.ack = s.msgTmp.ack) : t.AcksPlainly := by
  simp only [Node.blockView, Prod.mk.injEq] at hv
  have hnc : t.nc = s.nc := congrArg Core.nc hv.1
  exact ⟨hack.trans hs.1, hnc ▸ hs.2.1, hnc ▸ hs.2.2.1, hv.2.2.2.1.trans hs.2.2.2⟩

section Ack

open NodeM.Returns

variable {k : Calls}

/-- A computation that returns keeping the block view and the ack bit of `_msgTmp`; the default
proof is the one for a state update that writes other fields. -/
theorem ack_frame {α : Type} {x : NodeM α}
    (h : ∀ s, ∃ a t, x s = .ret a t ∧ t.blockView = s.blockView ∧ t.msgTmp.ack = s.msgTmp.ack := by
      intro s; exact ⟨_, _, rfl, rfl, rfl⟩) :
    x.Returns Node.AcksPlainly ViewKept := fun s hs =>
  let ⟨a, t, hx, hv, hack⟩ := h s
  ⟨a, t, hx, hs.of_view hv hack, hv⟩

theorem ack_transportSendWrite (toAddr : UInt8) : (transportSendWrite toAddr .msgTmp).Returns Node.AcksPlainly ViewKept :=
  Returns.bind ack_frame fun _ => get_bind fun _ => Returns.bind ack_frame fun _ => get_bind fun _ => ack_frame

/-- A node that does not look for a parent on its own never starts a search after a send. -/
theorem ack_afterSend (ok : Bool) : (afterSend cfg k ok).Returns Node.AcksPlainly ViewKept :=
  .ite (Returns.bind ack_frame fun _ => .pure _)
    (Returns.bind ack_frame fun _ => get_bind_at fun s hs => by
      rw [if_neg fun h => absurd h.1 (by rw [hs.2.2.2]; decide)]
      exact ((Returns.pure ()).bind fun _ => .pure _) s hs)

/-- An ack is never signed: the signing block only clears its flag. -/
theorem ack_signRoute : (signRoute cfg k .msgTmp).Returns Node.AcksPlainly ViewKept :=
  get_bind_at fun s hs => by
    dsimp only
    rw [if_neg fun h => h.2.2.1 hs.1]
    exact (Returns.ite (Returns.bind ack_frame fun _ => .pure _) ((Returns.pure _).bind fun _ => .pure _)) s hs

theorem ack_routeMessage (last : UInt8) : (routeMessage cfg k .msgTmp last).Returns Node.AcksPlainly ViewKept :=
  get_bind fun _ => .ite ((ack_transportSendWrite _).bind fun _ => ack_afterSend _)
    (.ite (Returns.bind ack_frame fun _ => (ack_transportSendWrite _).bind fun _ => ack_afterSend _)
      (.ite (ack_transportSendWrite _) (.ite (ack_transportSendWrite _) (.ite (.pure _)
        ((ack_transportSendWrite _).bind fun _ => Returns.bind ack_frame fun _ => ack_afterSend _)))))

/-- With a parent and an id, the send of an ack calls nothing below it. -/
theorem ack_transportSendRoute : (transportSendRoute cfg k .msgTmp).Returns Node.AcksPlainly ViewKept :=
  get_bind_at fun s hs => by
    rw [if_neg hs.2.1, if_neg hs.2.2.1]
    exact (Returns.bind ack_frame fun _ => (Returns.ite ack_signRoute (.pure _)).bind fun _ =>
      .ite (ack_routeMessage _) (.pure _)) s hs

end Ack

/-- At every depth the send of such an ack returns, the block view as it was. -/
theorem sendRoute_ack (cfg : Build) : ∀ n, ((calls cfg n).sendRoute .msgTmp).Returns Node.AcksPlainly ViewKept
  | 0 => .pure _
  | _ + 1 => ack_transportSendRoute

/-! ### One poll that takes a block -/

/-- A firmware block node `s` takes in a session: a `ST_FIRMWARE_RESPONSE` for it of this
protocol version, signed where the inbound check asks for it, and asking for an ack only where
the ack's send nests no call. -/
def Node.TakesBlock (cfg : Build) (s : Node) (F : MyMessage) : Prop :=
  F.command = C_STREAM ∧ F.type = ST_FIRMWARE_RESPONSE ∧ F.destination = s.nc.nodeId ∧
    F.version = PROTOCOL_VERSION ∧
    (cfg.signing ∧ cfg.requestSignatures ∧ verificationRequired cfg s F → F.signed = true) ∧
    (F.requestAck = true → s.nc.parentNodeId ≠ AUTO ∧ s.nc.nodeId ≠ AUTO ∧ s.autoFindParent = false)

instance (cfg : Build) (s : Node) (F : MyMessage) : Decidable (s.TakesBlock cfg F) :=
  inferInstanceAs (Decidable (_ ∧ _ ∧ _ ∧ _ ∧ _ ∧ _))

/-- Only the node context, `DO_SIGN` and `_autoFindParent` decide which blocks a node takes. -/
theorem Node.TakesBlock.congr {s t : Node} {F : MyMessage} (h : s.TakesBlock cfg F) (hnc : t.nc = s.nc)
    (hds : t.doSign = s.doSign) (ha : t.autoFindParent = s.autoFindParent) : t.TakesBlock cfg F := by
  unfold Node.TakesBlock verificationRequired at *
  rwa [hnc, hds, ha]

/-- The state a block write starts from after a poll took block `F` at `s`: the session as it
was, the block's payload in `_msg`, the radio past the block, the signer asked at most once. -/
structure BlockPolled (s : Node) (F : MyMessage) (rest : List (Option (UInt8 × MyMessage))) (t : Node) : Prop where
  core : t.core = s.core
  data : t.msg.data = F.data
  doSign : t.doSign = s.doSign
  autoFindParent : t.autoFindParent = s.autoFindParent
  radio : t.env.radio = rest
  signer : t.env.signer = s.env.signer ∨ t.env.signer = s.env.signer.tail

/-- A poll that takes a block hands it to the block write, in a state the checks and the ack's
send have changed only outside the block view. -/
theorem transportProcess_takesBlock (n : Nat) {s : Node} {toAddr : UInt8} {F : MyMessage}
    {rest : List (Option (UInt8 × MyMessage))} (hradio : s.env.radio = some (toAddr, F) :: rest)
    (hota : cfg.ota = true) (hF : s.TakesBlock cfg F)
    (hsigner : cfg.signing ∧ cfg.requestSignatures → s.env.signer.headD false = true) :
    ∃ t, transportProcess cfg (calls cfg n) s = firmwareResponse cfg t ∧ BlockPolled s F rest t := by
  obtain ⟨hc, ht, hd, hv, hsig, hack⟩ := hF
  -- past the check the frame is in `_msg`, the signer asked at most once
  obtain ⟨t0, ht0, heq⟩ : ∃ t0 : Node, (BlockPolled s F rest t0 ∧ t0.msg = F ∧ t0.nc = s.nc) ∧
      transportProcess cfg (calls cfg n) s = dispatch cfg (calls cfg n) toAddr F t0 := by
    by_cases hchk : cfg.signing ∧ cfg.requestSignatures ∧ verificationRequired cfg s F
    · exact ⟨{ s.receive F rest with env := { (s.receive F rest).env with signer := s.env.signer.tail } },
        ⟨⟨rfl, rfl, rfl, rfl, rfl, .inr rfl⟩, rfl, rfl⟩,
        transportProcess_verified hradio hchk (hsig hchk) (hsigner ⟨hchk.1, hchk.2.1⟩)⟩
    · exact ⟨s.receive F rest, ⟨⟨rfl, rfl, rfl, rfl, rfl, .inl rfl⟩, rfl, rfl⟩, transportProcess_unchecked hradio hchk⟩
  obtain ⟨hp0, hmsg, hnc⟩ := ht0
  rw [heq, dispatch_toSelf hv (hd.trans (congrArg NodeConfig.nodeId hnc).symm)]
  -- the states past the signed flag and the route keep everything the write reads
  have hroute : ∀ V : Node, V.core = t0.core → V.msg.data = F.data → V.doSign = t0.doSign →
      V.autoFindParent = t0.autoFindParent → V.env = t0.env → BlockPolled s F rest V :=
    fun V hc' hm' hd' ha' he' => ⟨hc'.trans hp0.core, hm', hd'.trans hp0.doSign, ha'.trans hp0.autoFindParent,
      by rw [he']; exact hp0.radio, by rw [he']; exact hp0.signer⟩
  cases hra : F.requestAck
  · rw [toSelf_of_not_requestAck _ hra, handle_firmwareResponse ⟨hota, hc, ht⟩]
    dsimp only
    split <;> exact ⟨_, rfl, hroute _ rfl (by simp [Node.writeRoute, hmsg]) rfl rfl rfl⟩
  · -- the ack's send calls nothing below it and leaves the block view
    obtain ⟨hp, hid, hauto⟩ := hack hra
    have send_then_write : ∀ V : Node, V.AcksPlainly → BlockPolled s F rest V →
        ∃ t, ((calls cfg n).sendRoute .msgTmp V).bind (fun _ => handle cfg (calls cfg n) F) = firmwareResponse cfg t ∧
          BlockPolled s F rest t := by
      intro V hV hpV
      obtain ⟨_, u, hu, -, hview⟩ := sendRoute_ack cfg n V hV
      simp only [ViewKept, Node.blockView, Prod.mk.injEq] at hview
      obtain ⟨hc', hm', hd', ha', hr', hs'⟩ := hview
      rw [hu, Outcome.ret_bind, handle_firmwareResponse ⟨hota, hc, ht⟩]
      exact ⟨u, rfl, hc'.trans hpV.core, by rw [hm']; exact hpV.data, hd'.trans hpV.doSign,
        ha'.trans hpV.autoFindParent, hr'.trans hpV.radio, hs' ▸ hpV.signer⟩
    have hp' : t0.nc.parentNodeId ≠ AUTO := hnc ▸ hp
    have hid' : t0.nc.nodeId ≠ AUTO := hnc ▸ hid
    have ha' : t0.autoFindParent = false := hp0.autoFindParent.trans hauto
    rw [toSelf_of_requestAck _ hra]
    dsimp only
    split <;> exact send_then_write _ ⟨rfl, hp', hid', ha'⟩ (hroute _ rfl (by simp [Node.writeRoute, hmsg]) rfl rfl rfl)

/-! ### A run over a tape of blocks -/

/-- A block write with blocks left after it returns, the next block armed. -/
theorem firmwareResponse_next (t : Node) (hon : t.fwUpdateOngoing = true) (h : t.fwBlock - 1 ≠ 0) :
    firmwareResponse cfg t = .ret () { t with
      flash := flashWrite (blockOffset t.fwBlock).toNat (replyData t.msg.data) t.flash
      fwBlock := t.fwBlock - 1, fwRetry := cfg.otaRetry + 1, fwLastRequestTime := 0 } := by
  simp only [firmwareResponse, bind_apply, get_apply, modify_apply, Outcome.ret_bind, hon, if_true]
  rw [if_neg h]
  rfl

/-- The fold of block writes reads only the flash and the block counter it starts from. -/
theorem foldl_writeBlock_congr {β : Type} (f : β → List UInt8) : ∀ (ds : List β) {c c' : Core},
    c'.flash = c.flash → c'.block = c.block →
    (ds.foldl (fun c d => c.writeBlock (f d)) c').flash = (ds.foldl (fun c d => c.writeBlock (f d)) c).flash
  | [], _, _, hf, _ => hf
  | d :: ds, c, c', hf, hb =>
    foldl_writeBlock_congr f ds (by simp only [Core.writeBlock_flash, hf, hb]) (by show c'.block - 1 = c.block - 1; rw [hb])

theorem List.getD_tail_eq {α : Type} (l : List α) (d : α) (i : Nat) : l.tail.getD i d = l.getD (i + 1) d := by
  cases l <;> simp

theorem List.headD_eq_getD_zero {α : Type} (l : List α) (d : α) : l.headD d = l.getD 0 d := by
  cases l <;> rfl

/-- The polls that take the blocks of a tape move the image as the fold of `Core.writeBlock` over
their payloads does, above the bootloader header. -/
theorem processTimes_takesBlocks (n : Nat) (rest : List (Option (UInt8 × MyMessage))) (hota : cfg.ota = true) :
    ∀ (frames : List (UInt8 × MyMessage)) (s : Node), s.fwUpdateOngoing = true → frames.length ≤ s.fwBlock.toNat →
      s.env.radio = frames.map some ++ rest → (∀ p ∈ frames, s.TakesBlock cfg p.2) →
      (cfg.signing ∧ cfg.requestSignatures → ∀ i < frames.length, s.env.signer.getD i false = true) →
      ∀ a, 10 ≤ a → (processTimes (calls cfg (n + 1)) frames.length s).node.flash a =
        (frames.foldl (fun c p => c.writeBlock p.2.data) s.core).flash a
  | [], _, _, _, _, _, _, _, _ => rfl
  | (toAddr, F) :: fs, s, hon, hlen, hradio, hframes, hsigner, a, ha => by
    obtain ⟨t, hpoll, hp⟩ := transportProcess_takesBlock n hradio hota (hframes _ (List.mem_cons_self _ _))
      fun h => (List.headD_eq_getD_zero _ _).trans (hsigner h 0 (by simp))
    have hon' : t.fwUpdateOngoing = true := (congrArg Core.ongoing hp.core).trans hon
    have hblock : t.fwBlock = s.fwBlock := congrArg Core.block hp.core
    have hwrite : flashWrite (blockOffset t.fwBlock).toNat (replyData t.msg.data) t.flash =
        (s.core.writeBlock F.data).flash := by
      have hflash : t.flash = s.flash := congrArg Core.flash hp.core
      rw [Core.writeBlock_flash, hblock, hp.data, hflash]; rfl
    rw [List.length_cons, processTimes, bind_apply]
    show ((transportProcess cfg (calls cfg n) s).bind _).node.flash a = _
    rw [hpoll, List.foldl_cons]
    cases fs with
    | nil =>
      -- the last block: its write, and the bootloader header below the image if it checks out
      show ((firmwareResponse cfg t).bind fun _ => (pure () : NodeM Unit)).node.flash a = _
      rw [Outcome.node_bind_pure, (firmwareResponse_image t hon').2 a ha, hwrite]
      rfl
    | cons q fs =>
      have h2 : 2 ≤ s.fwBlock.toNat := by simp only [List.length_cons] at hlen; omega
      have hb' : (t.fwBlock - 1).toNat = s.fwBlock.toNat - 1 := by rw [hblock]; exact UInt16.toNat_sub_one (by omega)
      rw [firmwareResponse_next t hon' fun h => by have := congrArg UInt16.toNat h; rw [hb', UInt16.toNat_zero] at this; omega,
        Outcome.ret_bind]
      have hnc : t.nc = s.nc := congrArg Core.nc hp.core
      -- the state after the write is read off the goal, so the facts about it are elaborated last
      refine (processTimes_takesBlocks n rest hota (q :: fs) _ (by exact hon')
        (by rw [hb']; simp only [List.length_cons] at hlen ⊢; omega) (by exact hp.radio)
        (fun p hp' => by exact (hframes p (List.mem_cons_of_mem _ hp')).congr hnc hp.doSign hp.autoFindParent)
        (fun h i hi => ?_) a ha).trans ?_
      · rcases hp.signer with hs | hs
        · rw [hs]; exact hsigner h i (by simp only [List.length_cons] at hi ⊢; omega)
        · rw [hs, List.getD_tail_eq]; exact hsigner h (i + 1) (by simp only [List.length_cons] at hi ⊢; omega)
      · refine congrFun (foldl_writeBlock_congr _ _ ?_ ?_) a
        · exact hwrite
        · show t.fwBlock - 1 = s.fwBlock - 1
          rw [hblock]

/-- A `ST_FIRMWARE_RESPONSE` of the controller to node `10` carrying `d`. -/
def blockReply (d : List UInt8) : UInt8 × MyMessage :=
  (10, { (default : MyMessage) with
    sender := GATEWAY_ADDRESS, destination := 10, command := C_STREAM, type := ST_FIRMWARE_RESPONSE
    version := PROTOCOL_VERSION, data := d })

/-- A reply for block `1` of image type `1`, version `2`. -/
def repeatedBlock : List UInt8 := requestFWBlock 1 2 1 ++ List.replicate 16 0x5A

/-- The same reply twice, as after a request sent again on a retry. -/
def duplicateTape : List (UInt8 × MyMessage) := [blockReply repeatedBlock, blockReply repeatedBlock]

/-- Node `10` with two blocks left, the two replies on the radio. -/
def duplicateReplies : Node :=
  { zeroBlockOffer with
    fc := ⟨1, 2, 4, 0⟩, fwUpdateOngoing := true, fwBlock := 2
    env := { (default : Env) with radio := duplicateTape.map some } }

end MySensors
