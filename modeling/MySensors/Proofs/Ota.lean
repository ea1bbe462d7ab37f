import MySensors.Sanity.Receive

/-! The OTA session: what it waits for, where its blocks land in flash, and the
sizes the bootloader header and the checksum work with. The arithmetic is the
ATmega328's 16-bit `unsigned int` arithmetic of the source. -/

namespace MySensors

open NodeM

variable {cfg : Build}

/-! ### Sixteen-bit arithmetic -/

theorem UInt16.toNat_add' (a b : UInt16) : (a + b).toNat = (a.toNat + b.toNat) % 65536 := by
  simp only [UInt16.toNat, UInt16.add_def, BitVec.toNat_add]

theorem UInt16.toNat_mul' (a b : UInt16) : (a * b).toNat = a.toNat * b.toNat % 65536 := by
  simp only [UInt16.toNat, UInt16.mul_def, BitVec.toNat_mul]

theorem UInt16.toNat_sub_one {a : UInt16} (h : 1 ≤ a.toNat) : (a - 1).toNat = a.toNat - 1 :=
  UInt16.toNat_sub_of_le _ _ h

theorem UInt16.toNat_le (a : UInt16) : a.toNat ≤ 65535 := by
  have := a.toNat_lt_size; simp only [UInt16.size] at this; omega

/-- The high byte of a `uint16_t`, as `(uint8_t)(x >> 8)` takes it. -/
theorem UInt16.toUInt8_shiftRight_eight (x : UInt16) : (x >>> 8).toUInt8.toNat = x.toNat / 256 := by
  have := UInt16.toNat_le x
  show (x.toBitVec >>> (8 : Nat)).toNat % 256 = x.toBitVec.toNat / 256
  rw [BitVec.toNat_ushiftRight, Nat.shiftRight_eq_div_pow]
  simp only [UInt16.toNat] at this
  omega

/-- The low byte of a `uint16_t`, as `(uint8_t)(x & 0xff)` takes it. -/
theorem UInt16.toUInt8_and_ff (x : UInt16) : (x &&& 0xff).toUInt8.toNat = x.toNat % 256 := by
  show (x.toBitVec &&& 0xff#16).toNat % 256 = x.toBitVec.toNat % 256
  rw [BitVec.toNat_and]
  show (x.toBitVec.toNat &&& (2 ^ 8 - 1)) % 256 = _
  rw [Nat.and_pow_two_sub_one_eq_mod]
  omega

/-- The flash offset of block `b`, for the blocks a session can wait for without the
16-bit product wrapping. -/
theorem blockOffset_toNat {b : UInt16} (h1 : 1 ≤ b.toNat) (h2 : b.toNat ≤ 4096) :
    (blockOffset b).toNat = (b.toNat - 1) * 16 + 10 := by
  rw [blockOffset, UInt16.toNat_add', UInt16.toNat_mul', UInt16.toNat_sub_one h1]
  show ((b.toNat - 1) * 16 % 65536 + 10) % 65536 = _
  omega

/-! ### What the session waits for -/

/-- While a session is open it waits for one of its blocks: `1 ≤ _fwBlock ≤ _fc.blocks`. -/
def Core.AwaitsBlock (c : Core) : Prop :=
  c.ongoing → 1 ≤ c.block.toNat ∧ c.block.toNat ≤ c.fc.blocks.toNat

/-- Every step keeps the session waiting for one of its blocks, except the opening of a
session for a config of zero blocks. -/
theorem CoreStep.awaitsBlock {c c' : Core} (h : CoreStep cfg c c') (hi : c.AwaitsBlock) :
    c'.AwaitsBlock ∨ c'.ongoing ∧ c'.block = 0 ∧ c'.fc.blocks = 0 := by
  cases h with
  | openSession config _ =>
    by_cases h0 : config.blocks = 0
    · exact .inr ⟨rfl, h0, h0⟩
    · refine .inl fun _ => ⟨?_, le_rfl⟩
      have : config.blocks.toNat ≠ 0 := fun e => h0 (UInt16.toNat.inj e)
      show 1 ≤ config.blocks.toNat
      omega
  | acceptMore data h h0 =>
    obtain ⟨h1, h2⟩ := hi h
    have h0' : c.block.toNat - 1 ≠ 0 := by
      intro e; apply h0; apply UInt16.toNat.inj
      show (c.block - 1).toNat = 0
      rw [UInt16.toNat_sub_one h1, e]
    refine .inl fun _ => ?_
    show 1 ≤ (c.block - 1).toNat ∧ (c.block - 1).toNat ≤ c.fc.blocks.toNat
    rw [UInt16.toNat_sub_one h1]
    omega
  | acceptLast | install | refuse | abort => exact .inl fun h => absurd h Bool.false_ne_true
  | request _ _ => exact .inl hi
  | resetDistance | adopt | assignId | persistId => exact .inl hi

/-- The build of an OTA-enabled sensor node. -/
def otaBuild : Build :=
  { signing := false, requestSignatures := false, repeater := false, gateway := false, ota := true
    receive := true, searchFailures := 3, otaRetry := 5, otaRetryDelay := 500
    verificationTimeout := 5000, bootloaderVersion := 1 }

/-- A `C_STREAM` frame of the controller for node `10`. -/
def streamFrame (type : UInt8) (data : List UInt8) : Option (UInt8 × MyMessage) :=
  some (10, { (default : MyMessage) with
    sender := GATEWAY_ADDRESS, destination := 10, command := C_STREAM, type := type
    version := PROTOCOL_VERSION, data := data })

/-- Node `10` offered an image of zero blocks, then left idle past the retry delay. -/
def zeroBlockOffer : Node :=
  { (default : Node) with
    nc := ⟨10, GATEWAY_ADDRESS, 1⟩
    fc := ⟨1, 1, 5, 0⟩
    env := { (default : Env) with
      radio := [streamFrame ST_FIRMWARE_CONFIG_RESPONSE (NodeFirmwareConfig.toBytes ⟨1, 2, 0, 0⟩), none]
      clock := [1000], link := [true], flash := [true] } }

theorem zero_block_session_requests_block_65535 :
    ((calls otaBuild 2).process zeroBlockOffer).node.fwUpdateOngoing = true ∧
      ((calls otaBuild 2).process zeroBlockOffer).node.fwBlock = 0 ∧
      ((calls otaBuild 2).process ((calls otaBuild 2).process zeroBlockOffer).node).node.trace = [.radio GATEWAY_ADDRESS { (default : MyMessage) with
        last := 10, sender := 10, destination := GATEWAY_ADDRESS, sensor := NODE_SENSOR_ID
        command := C_STREAM, type := ST_FIRMWARE_REQUEST, version := PROTOCOL_VERSION, length := 6
        data := requestFWBlock 1 2 65535 } 13] := by
  decide

/-! ### Where the blocks land

Each accepted `ST_FIRMWARE_RESPONSE` is written at the slot of the block the
session waits for, `_fwBlock - 1`, whatever block its header names. -/

/-- The 16 bytes of image slot `k`, at flash offset `FIRMWARE_START_OFFSET + k * FIRMWARE_BLOCK_SIZE`. -/
def imageSlot (flash : Nat → UInt8) (k : Nat) : List UInt8 :=
  (List.range 16).map fun j => flash (10 + 16 * k + j)

/-- A slot reads only flash at and above its own offset. -/
theorem imageSlot_congr {f g : Nat → UInt8} {k : Nat} (h : ∀ a, 10 + 16 * k ≤ a → f a = g a) :
    imageSlot f k = imageSlot g k :=
  List.map_congr_left fun _ _ => h _ (Nat.le_add_right _ _)

theorem replyData_length (d : List UInt8) : (replyData d).length = 16 := by
  simp [replyData]

theorem flashWrite_of_lt {addr a : Nat} {bytes : List UInt8} {f : Nat → UInt8} (h : a < addr) :
    flashWrite addr bytes f a = f a := if_neg fun h' => absurd h'.1 (by omega)

theorem flashWrite_of_ge {addr a : Nat} {bytes : List UInt8} {f : Nat → UInt8}
    (h : addr + bytes.length ≤ a) : flashWrite addr bytes f a = f a :=
  if_neg fun h' => absurd h'.2 (by omega)

theorem writeBlock_block {c : Core} {d : List UInt8} (h : 1 ≤ c.block.toNat) :
    (c.writeBlock d).block.toNat = c.block.toNat - 1 :=
  UInt16.toNat_sub_one h

/-- A block write fills slot `_fwBlock - 1` with the reply's data. -/
theorem imageSlot_writeBlock {c : Core} (d : List UInt8) (h1 : 1 ≤ c.block.toNat)
    (h2 : c.block.toNat ≤ 4096) : imageSlot (c.writeBlock d).flash (c.block.toNat - 1) = replyData d := by
  simp only [imageSlot, Core.writeBlock, flashWrite, blockOffset_toNat h1 h2, replyData_length]
  refine (List.map_congr_left fun j hj => ?_).trans rfl
  rw [List.mem_range] at hj
  rw [if_pos (by omega), show 10 + 16 * (c.block.toNat - 1) + j - ((c.block.toNat - 1) * 16 + 10) = j by omega]
  simp [replyData, List.getD_eq_getElem?_getD, hj]

/-- Later block writes go below the slots already written. -/
theorem foldl_writeBlock_flash_high :
    ∀ (ds : List (List UInt8)) (c : Core), ds.length ≤ c.block.toNat → c.block.toNat ≤ 4096 →
      ∀ a, 10 + 16 * c.block.toNat ≤ a → (ds.foldl (fun c d => c.writeBlock d) c).flash a = c.flash a
  | [], _, _, _, _, _ => rfl
  | d :: ds, c, hlen, hb, a, ha => by
    rw [List.length_cons] at hlen
    have hb' : (c.writeBlock d).block.toNat = c.block.toNat - 1 := writeBlock_block (by omega)
    rw [List.foldl_cons, foldl_writeBlock_flash_high ds _ (by omega) (by omega) a (by omega),
      Core.writeBlock_flash]
    exact flashWrite_of_ge (by rw [blockOffset_toNat (by omega) hb, replyData_length]; omega)

/-- In a session waiting for block `b`, the block writes of data `d₀, d₁, …`, in their order
and whatever block their headers name, leave slot `b - 1 - i` holding the data of `dᵢ`. -/
theorem accepted_responses_fill_slots (c : Core) (ds : List (List UInt8)) (hb : c.block.toNat ≤ 4096)
    (hlen : ds.length ≤ c.block.toNat) (i : Nat) (hi : i < ds.length) :
    imageSlot (ds.foldl (fun c d => c.writeBlock d) c).flash (c.block.toNat - 1 - i) = replyData ds[i] := by
  induction ds generalizing c i with
  | nil => exact absurd hi (Nat.not_lt_zero _)
  | cons d ds ih =>
    rw [List.length_cons] at hlen hi
    have h1 : 1 ≤ c.block.toNat := by omega
    have hb' : (c.writeBlock d).block.toNat = c.block.toNat - 1 := writeBlock_block h1
    cases i with
    | zero =>
      -- the first response's slot lies above every later write
      rw [List.getElem_cons_zero, List.foldl_cons, ← imageSlot_writeBlock d h1 hb, Nat.sub_zero]
      exact imageSlot_congr fun a ha => foldl_writeBlock_flash_high ds _ (by omega) (by omega) a (by omega)
    | succ i =>
      rw [show c.block.toNat - 1 - (i + 1) = (c.writeBlock d).block.toNat - 1 - i by omega]
      exact ih (c.writeBlock d) (by omega) (by omega) i (by omega)

theorem otaHeader_length (fc : NodeFirmwareConfig) : (otaHeader fc).length = 10 := rfl

/-- The handler of `ST_FIRMWARE_RESPONSE` in a session: the block counter steps down and
the reply's data goes to the awaited slot; the bootloader header it may add lies below
the image. -/
theorem firmwareResponse_image (s : Node) (h : s.fwUpdateOngoing = true) :
    (firmwareResponse cfg s).node.fwBlock = s.fwBlock - 1 ∧
      ∀ a, 10 ≤ a → (firmwareResponse cfg s).node.flash a =
        flashWrite (blockOffset s.fwBlock).toNat (replyData s.msg.data) s.flash a := by
  dsimp only [firmwareResponse, bind_apply, get_apply, Outcome.ret_bind]
  rw [if_pos h]
  dsimp only [bind_apply, modify_apply, Outcome.ret_bind, get_apply]
  -- the written image, kept opaque so that the branches need not evaluate it
  generalize flashWrite (blockOffset s.fwBlock).toNat (replyData s.msg.data) s.flash = F
  split
  · split
    · -- the image checks out: the header goes in front of it and the node reboots
      exact ⟨rfl, fun a ha => flashWrite_of_ge (by rw [otaHeader_length]; omega)⟩
    · exact ⟨rfl, fun _ _ => rfl⟩
  · exact ⟨rfl, fun _ _ => rfl⟩

/-- A firmware block addressed to a node in a session: `transportProcess` hands it to
the block write. -/
theorem transportProcess_firmwareResponse {k : Calls} {s : Node} {toAddr : UInt8} {f : MyMessage}
    {rest : List (Option (UInt8 × MyMessage))} (hradio : s.env.radio = some (toAddr, f) :: rest)
    (hota : cfg.ota = true) (hsig : ¬(cfg.signing ∧ cfg.requestSignatures))
    (hf : f.command = C_STREAM ∧ f.type = ST_FIRMWARE_RESPONSE ∧ f.destination = s.nc.nodeId ∧
      f.version = PROTOCOL_VERSION ∧ f.requestAck = false) (hon : s.fwUpdateOngoing = true) :
    (transportProcess cfg k s).node.fwBlock = s.fwBlock - 1 ∧
      ∀ a, 10 ≤ a → (transportProcess cfg k s).node.flash a =
        flashWrite (blockOffset s.fwBlock).toNat (replyData f.data) s.flash a := by
  obtain ⟨hc, ht, hd, hv, ha⟩ := hf
  rw [transportProcess_unchecked hradio (fun h => hsig ⟨h.1, h.2.1⟩),
    dispatch_toSelf (s := s.receive f rest) hv hd, toSelf_of_not_requestAck _ ha,
    handle_firmwareResponse ⟨hota, hc, ht⟩]
  dsimp only
  split <;> exact firmwareResponse_image _ hon

/-- Node `10` offered an image of one block, then sent a response whose header names
another image and block `7`. -/
def mislabelledReply : Node :=
  { zeroBlockOffer with
    env := { (default : Env) with
      radio := [streamFrame ST_FIRMWARE_CONFIG_RESPONSE (NodeFirmwareConfig.toBytes ⟨1, 2, 1, 0⟩),
        streamFrame ST_FIRMWARE_RESPONSE (requestFWBlock 9 9 7 ++ List.replicate 16 0xAB)]
      flash := [true] } }

/-- The last block of a session: slot `0` gets the reply's data and the session is done. -/
theorem transportProcess_lastBlock {k : Calls} {s : Node} {toAddr : UInt8} {f : MyMessage}
    {rest : List (Option (UInt8 × MyMessage))} (hradio : s.env.radio = some (toAddr, f) :: rest)
    (hota : cfg.ota = true) (hsig : ¬(cfg.signing ∧ cfg.requestSignatures))
    (hf : f.command = C_STREAM ∧ f.type = ST_FIRMWARE_RESPONSE ∧ f.destination = s.nc.nodeId ∧
      f.version = PROTOCOL_VERSION ∧ f.requestAck = false) (hon : s.fwUpdateOngoing = true)
    (hb : s.fwBlock = 1) :
    (transportProcess cfg k s).node.fwBlock = 0 ∧
      imageSlot (transportProcess cfg k s).node.flash 0 = replyData f.data := by
  obtain ⟨hblock, hflash⟩ := transportProcess_firmwareResponse hradio hota hsig hf hon
  have h1 : s.core.block.toNat = 1 := by show s.fwBlock.toNat = 1; rw [hb]; rfl
  refine ⟨hblock.trans (by rw [hb]; rfl), ?_⟩
  rw [← imageSlot_writeBlock f.data (c := s.core) (by omega) (by omega), h1, Nat.sub_self,
    Core.writeBlock_flash]
  exact imageSlot_congr fun a _ => hflash a (by omega)

theorem firmwareSize_toNat {fc : NodeFirmwareConfig} (h : fc.blocks.toNat ≤ 4095) :
    (FIRMWARE_BLOCK_SIZE * fc.blocks).toNat = fc.blocks.toNat * 16 ∧
      (fc.blocks * FIRMWARE_BLOCK_SIZE).toNat = fc.blocks.toNat * 16 := by
  rw [UInt16.toNat_mul', UInt16.toNat_mul']
  show 16 * fc.blocks.toNat % 65536 = _ ∧ fc.blocks.toNat * 16 % 65536 = _
  omega

/-- Below 4096 blocks the checksum's addresses do not wrap: they are the bytes
after the header, in order. -/
theorem firmwareAddresses_eq {fc : NodeFirmwareConfig} (h : fc.blocks.toNat ≤ 4095) :
    firmwareAddresses fc = List.range' 10 (fc.blocks.toNat * 16) := by
  rw [firmwareAddresses, (firmwareSize_toNat h).2, List.range'_eq_map_range]
  refine List.map_congr_left fun i hi => ?_
  rw [List.mem_range] at hi
  rw [UInt16.toNat_add', UInt16.toNat_ofNat_of_lt (by simp only [UInt16.size]; omega)]
  show (i + 10) % 65536 = 10 + i
  omega

/-- The controller's offer of firmware `⟨1, 2, 3, 0⟩` to node `10`. -/
def configOffer : MyMessage :=
  { (default : MyMessage) with
    sender := GATEWAY_ADDRESS, destination := 10, command := C_STREAM, type := ST_FIRMWARE_CONFIG_RESPONSE
    version := PROTOCOL_VERSION, data := NodeFirmwareConfig.toBytes ⟨1, 2, 3, 0⟩ }

/-- A config offer equal to `_fc`, for this node, that passes the checks and asks for no ack,
is handed to the controller on a gateway and to the sketch, with its signed flag cleared, over
any entry points below: the core state stays as it was and nothing else is called. -/
theorem equal_offer_reaches_callback (cfg : Build) (k : Calls) (s : Node) (toAddr : UInt8) (F : MyMessage)
    (rest : List (Option (UInt8 × MyMessage))) (hradio : s.env.radio = some (toAddr, F) :: rest)
    (hota : cfg.ota = true) (hF : F.command = C_STREAM ∧ F.type = ST_FIRMWARE_CONFIG_RESPONSE ∧
      F.destination = s.nc.nodeId ∧ F.version = PROTOCOL_VERSION ∧ F.requestAck = false)
    (hpass : cfg.signing ∧ cfg.requestSignatures ∧ verificationRequired cfg s F →
      F.signed = true ∧ s.env.signer.headD false = true)
    (heq : NodeFirmwareConfig.ofPayload F.data = s.fc) :
    ∃ t, transportProcess cfg k s = .ret () t ∧ t.core = s.core ∧
      t.trace = s.trace ++ (if cfg.gateway then [.gateway { F with signed := false }] else []) ++
        (if cfg.receive then [.callback { F with signed := false }] else []) := by
  obtain ⟨hc, ht, hd, hv, ha⟩ := hF
  -- past the signature check the frame is in `_msg` and nothing the dispatch reads has moved
  obtain ⟨t, htr, hcore, hmsg, hnc, heq'⟩ : ∃ t : Node, t.trace = s.trace ∧ t.core = s.core ∧ t.msg = F ∧
      t.nc = s.nc ∧ transportProcess cfg k s = dispatch cfg k toAddr F t := by
    by_cases hchk : cfg.signing ∧ cfg.requestSignatures ∧ verificationRequired cfg s F
    · refine ⟨_, ?_, ?_, ?_, ?_, transportProcess_verified hradio hchk (hpass hchk).1 (hpass hchk).2⟩ <;> rfl
    · refine ⟨_, ?_, ?_, ?_, ?_, transportProcess_unchecked hradio hchk⟩ <;> rfl
  -- the comparison finds the offer equal, and the frame is delivered
  have deliver_offer : ∀ u : Node, u.core = s.core → u.trace = s.trace → u.msg = { F with signed := false } →
      ∃ t, firmwareConfigResponse cfg u = .ret () t ∧ t.core = s.core ∧
        t.trace = s.trace ++ (if cfg.gateway then [.gateway { F with signed := false }] else []) ++
          (if cfg.receive then [.callback { F with signed := false }] else []) := by
    intro u hu hut hum
    simp only [firmwareConfigResponse, bind_apply, get_apply, Outcome.ret_bind, hum]
    have hfc : u.fc = NodeFirmwareConfig.ofPayload F.data := (congrArg Core.fc hu).trans heq.symm
    rw [if_neg (not_not.2 hfc)]
    unfold deliver
    cases cfg.gateway <;> cases cfg.receive <;>
      simp only [if_true, if_false, Bool.false_eq_true, bind_apply, modify_apply, pure_apply, Outcome.ret_bind,
        Node.emit, List.append_nil] <;>
      exact ⟨_, rfl, hu, by simp [hut, hum]⟩
  rw [heq', dispatch_toSelf hv (hd.trans (congrArg NodeConfig.nodeId hnc).symm), toSelf_of_not_requestAck _ ha,
    handle_firmwareConfigResponse ⟨hota, hc, ht⟩]
  dsimp only
  -- the route a repeater learns is no part of the core
  split <;> exact deliver_offer _ hcore htr (by simp [Node.writeRoute, hmsg])

/-- Node `10` running `⟨1, 2, 3, 0⟩` and offered it again. -/
def sameOffer : Node :=
  { (default : Node) with
    nc := ⟨10, GATEWAY_ADDRESS, 1⟩
    fc := ⟨1, 2, 3, 0⟩
    env := { (default : Env) with radio := [some (10, configOffer)] } }

theorem equal_offer_reaches_callback_same :
    otaBuild.ota = true ∧
      (configOffer.command = C_STREAM ∧ configOffer.type = ST_FIRMWARE_CONFIG_RESPONSE ∧
        configOffer.destination = sameOffer.nc.nodeId ∧ configOffer.version = PROTOCOL_VERSION ∧
        configOffer.requestAck = false) ∧
      NodeFirmwareConfig.ofPayload configOffer.data = sameOffer.fc ∧
      ∃ t, transportProcess otaBuild (calls otaBuild 1) sameOffer = .ret () t ∧ t.core = sameOffer.core ∧
        t.trace = sameOffer.trace ++ (if otaBuild.gateway then [.gateway { configOffer with signed := false }] else []) ++
          (if otaBuild.receive then [.callback { configOffer with signed := false }] else []) :=
  ⟨rfl, by decide, by decide,
    equal_offer_reaches_callback otaBuild (calls otaBuild 1) sameOffer 10 configOffer [] rfl rfl (by decide)
      (by decide) (by decide)⟩

/-- Node `10` running firmware `⟨1, 1, 5, 0⟩`, as `_fc` and the persisted config agree,
offered `⟨1, 2, 3, 0⟩` twice; the flash fails to initialise the first time. -/
def repeatedOffer : Node :=
  { (default : Node) with
    nc := ⟨10, GATEWAY_ADDRESS, 1⟩
    fc := ⟨1, 1, 5, 0⟩
    eeprom := { (default : Eeprom) with firmwareConfig := ⟨1, 1, 5, 0⟩ }
    env := { (default : Env) with radio := [some (10, configOffer), some (10, configOffer)], flash := [false, true] } }

theorem failed_offer_not_retried :
    (processTimes (calls otaBuild 1) 1 repeatedOffer).node.fwUpdateOngoing = false ∧
      (processTimes (calls otaBuild 1) 1 repeatedOffer).node.fc ≠
        (processTimes (calls otaBuild 1) 1 repeatedOffer).node.eeprom.firmwareConfig ∧
      (processTimes (calls otaBuild 1) 2 repeatedOffer).node.fwUpdateOngoing = false ∧
      (processTimes (calls otaBuild 1) 2 repeatedOffer).node.env.flash = [true] ∧
      (processTimes (calls otaBuild 1) 2 repeatedOffer).node.trace = [.callback configOffer] := by
  decide

end MySensors
