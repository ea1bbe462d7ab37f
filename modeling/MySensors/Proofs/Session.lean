import MySensors.Proofs.Ota

/-! The OTA session over whole runs. While a session of a non-empty image is open it
waits for one of its blocks (`session_awaits_block`), and the ten bytes at flash
offset 0 the bootloader reads are only ever erased, or written as the header of the
persisted config over an image whose checksum has matched (`bootloader_header_trusted`);
and the slots a session has not yet received stay erased, so that no byte of an earlier
image reaches the checksum or the bootloader (`staging_erased_below_block`).
All three are inductions over `CoreStep`, so they hold at every depth of nesting and on the
runs that end in a reboot. -/

namespace MySensors

open NodeM

variable {cfg : Build}

/-! ### The countdown -/

/-- A session of a non-empty image waits for one of its blocks. -/
def Core.Countdown (c : Core) : Prop := c.fc.blocks ≠ 0 → c.AwaitsBlock

instance (c : Core) : Decidable c.AwaitsBlock := inferInstanceAs (Decidable (_ → _ ∧ _))

instance (c : Core) : Decidable c.Countdown := inferInstanceAs (Decidable (_ → _))

theorem CoreStep.countdown {c c' : Core} (h : CoreStep cfg c c') (hi : c.Countdown) : c'.Countdown := by
  have hstep := h.awaitsBlock
  intro h0
  cases h with
  | openSession config _ =>
    have : config.blocks.toNat ≠ 0 := fun e => h0 (UInt16.toNat.inj e)
    exact fun _ => ⟨by show 1 ≤ config.blocks.toNat; omega, le_rfl⟩
  | refuse => exact fun h => absurd h Bool.false_ne_true
  | _ => exact ((hstep (hi h0)).resolve_right fun h => h0 h.2.2)

theorem countdown_of_reflTransGen {c c' : Core} (h : Relation.ReflTransGen (CoreStep cfg) c c') (hi : c.Countdown) :
    c'.Countdown := by
  induction h with
  | refl => exact hi
  | tail _ hs ih => exact hs.countdown ih

/-- From a state where it holds (no session open, say), every run keeps a session of a
non-empty image waiting for one of its blocks, `1 ≤ _fwBlock ≤ _fc.blocks`, however deep
the processing nests and whether the run returns or reboots. -/
theorem session_awaits_block (cfg : Build) (n m : Nat) (s : Node) (h : s.core.Countdown) :
    (processTimes (calls cfg n) m s).node.core.Countdown :=
  countdown_of_reflTransGen (keeps_processTimes (core_run cfg n).process m s) h

/-- Node `10` halfway through an image of two blocks. -/
def halfwaySession : Node :=
  { (default : Node) with
    nc := ⟨10, GATEWAY_ADDRESS, 1⟩, fc := ⟨1, 2, 2, 0⟩, fwUpdateOngoing := true, fwBlock := 1
    flash := blockErase32K fun _ => 0 }

theorem session_awaits_block_halfway :
    halfwaySession.core.Countdown ∧ (processTimes (calls otaBuild 2) 1 halfwaySession).node.core.Countdown :=
  ⟨by decide, session_awaits_block otaBuild 2 1 _ (by decide)⟩

/-! ### The bootloader header -/

theorem blockOffset_ge (b : UInt16) : 10 ≤ (blockOffset b).toNat := by
  rw [blockOffset, UInt16.toNat_add', UInt16.toNat_mul']
  show 10 ≤ ((b - 1).toNat * 16 % 65536 + 10) % 65536
  omega

theorem firmwareAddresses_ge {fc : NodeFirmwareConfig} {a : Nat} (h : a ∈ firmwareAddresses fc) : 10 ≤ a := by
  obtain ⟨i, hi, rfl⟩ := List.mem_map.1 h
  rw [List.mem_range, UInt16.toNat_mul'] at hi
  change i < fc.blocks.toNat * 16 % 65536 at hi
  rw [UInt16.toNat_add', UInt16.toNat_ofNat_of_lt (by simp only [UInt16.size]; omega)]
  show 10 ≤ (i + 10) % 65536
  omega

/-- The checksum reads the image only, never the header below it. -/
theorem transportIsValidFirmware_congr {fc : NodeFirmwareConfig} {f g : Nat → UInt8} (h : ∀ a, 10 ≤ a → f a = g a) :
    transportIsValidFirmware fc f = transportIsValidFirmware fc g := by
  unfold transportIsValidFirmware
  rw [List.foldl_ext _ _ _ fun crc a ha => by rw [h a (firmwareAddresses_ge ha)]]

/-- The ten bytes at flash offset 0 the bootloader reads are trustworthy: erased, or the
header of the persisted config over an image whose checksum matches it, with no session
writing under it. -/
def Core.HeaderTrusted (c : Core) : Prop :=
  (∀ a < 10, c.flash a = 0xFF) ∨
    c.ongoing = false ∧ (∀ a < 10, c.flash a = (otaHeader c.fcRom).getD a 0xFF) ∧
      transportIsValidFirmware c.fcRom c.flash = true

theorem blockErase32K_header (f : Nat → UInt8) {a : Nat} (h : a < 10) : blockErase32K f a = 0xFF :=
  if_pos (by omega)

@[simp] theorem Core.rearm_flash (c : Core) : (c.rearm cfg).flash = c.flash := rfl

theorem writeBlock_header (c : Core) (data : List UInt8) {a : Nat} (h : a < 10) :
    (c.writeBlock data).flash a = c.flash a := by
  rw [Core.writeBlock_flash, flashWrite_of_lt (by have := blockOffset_ge c.block; omega)]

/-- Every step leaves the header trusted, or leaves it as it was and trusted if it was. -/
theorem CoreStep.header {c c' : Core} (h : CoreStep cfg c c') :
    c'.HeaderTrusted ∨ (∀ a < 10, c'.flash a = c.flash a) ∧ (c.HeaderTrusted → c'.HeaderTrusted) := by
  cases h with
  | openSession => exact .inl (.inl fun _ => blockErase32K_header _)
  | acceptMore data hon _ | acceptLast data hon _ =>
    -- a session is open, so the header is erased; the block lands above it
    refine .inr ⟨fun a ha => ?_, fun hi => .inl fun a ha => ?_⟩ <;> dsimp only [Core.rearm_flash]
    · exact writeBlock_header c data ha
    · rcases hi with hi | hi
      · exact (writeBlock_header c data ha).trans (hi a ha)
      · exact absurd (hi.1.symm.trans hon) Bool.false_ne_true
  | install data hi =>
    -- the header goes in front of an image whose checksum has just matched
    refine .inl (.inr ⟨rfl, fun a ha => if_pos ⟨Nat.zero_le _, ha⟩, ?_⟩)
    refine (transportIsValidFirmware_congr fun a ha => ?_).trans hi.2.2
    exact flashWrite_of_ge (by rw [otaHeader_length]; omega)
  | refuse | abort =>
    exact .inr ⟨fun _ _ => rfl, fun hi => hi.imp id fun hi => ⟨rfl, hi.2⟩⟩
  | resetDistance | adopt | assignId | persistId | request => exact .inr ⟨fun _ _ => rfl, id⟩

/-- Over any sequence of steps, the header is as it was, or trusted. -/
theorem header_of_reflTransGen {c c' : Core} (h : Relation.ReflTransGen (CoreStep cfg) c c') :
    c'.HeaderTrusted ∨ ∀ a < 10, c'.flash a = c.flash a := by
  induction h with
  | refl => exact .inr fun _ _ => rfl
  | tail _ hs ih =>
    rcases hs.header with ht | ⟨hkeep, htrust⟩
    · exact .inl ht
    · rcases ih with ih | ih
      · exact .inl (htrust ih)
      · exact .inr fun a ha => (hkeep a ha).trans (ih a ha)

/-- Whatever frames arrive and however deep the processing nests, the node leaves the ten
bytes the bootloader reads as they were, or erased, or holding the header of the persisted
config over a staged image whose checksum matches it, with no session open. -/
theorem bootloader_header_trusted (cfg : Build) (n m : Nat) (s : Node) :
    (processTimes (calls cfg n) m s).node.core.HeaderTrusted ∨
      ∀ a < 10, (processTimes (calls cfg n) m s).node.flash a = s.flash a :=
  header_of_reflTransGen (keeps_processTimes (core_run cfg n).process m s)

/-! ### The slots still to come -/

/-- While a session of 1 to 2047 blocks waits for block `b`, the flash below slot `b`, the
bootloader header included, is still as the erase left it. -/
def Core.Staged (c : Core) : Prop :=
  c.ongoing = true → 1 ≤ c.fc.blocks.toNat ∧ c.fc.blocks.toNat ≤ 2047 →
    ∀ a, a < 10 + 16 * c.block.toNat → c.flash a = 0xFF

instance (c : Core) : Decidable c.Staged := inferInstanceAs (Decidable (_ → _ → ∀ a, a < _ → _))

theorem CoreStep.staged {c c' : Core} (h : CoreStep cfg c c') (hc : c.Countdown) (hi : c.Staged) : c'.Staged := by
  cases h with
  | openSession config _ =>
    -- the erase covers the whole image of at most 2047 blocks
    intro _ hb a ha
    have h2 : config.blocks.toNat ≤ 2047 := hb.2
    have ha' : a < 10 + 16 * config.blocks.toNat := ha
    show blockErase32K c.flash a = 0xFF
    exact if_pos (by omega)
  | acceptMore data hon _ =>
    -- the block lands at slot `_fwBlock - 1`, above what stays erased
    intro _ hb a ha
    have hb' : 1 ≤ c.fc.blocks.toNat ∧ c.fc.blocks.toNat ≤ 2047 := hb
    obtain ⟨h1, h2⟩ := hc (fun e => absurd hb'.1 (by rw [e]; decide)) hon
    have ha' : a < 10 + 16 * (c.block - 1).toNat := ha
    rw [UInt16.toNat_sub_one h1] at ha'
    have hlt : a < (blockOffset c.block).toNat := by
      rw [blockOffset_toNat h1 (by omega)]
      omega
    rw [Core.rearm_flash, Core.writeBlock_flash, flashWrite_of_lt hlt]
    exact hi hon hb' a (by omega)
  | acceptLast | install | refuse | abort => exact fun h => absurd h Bool.false_ne_true
  | request | resetDistance | adopt | assignId | persistId => exact hi

theorem staged_of_reflTransGen {c c' : Core} (h : Relation.ReflTransGen (CoreStep cfg) c c') (hc : c.Countdown)
    (hi : c.Staged) : c'.Countdown ∧ c'.Staged := by
  induction h with
  | refl => exact ⟨hc, hi⟩
  | tail _ hs ih => exact ⟨hs.countdown ih.1, hs.staged ih.1 ih.2⟩

/-- From a state where both hold (no session open, say), every run keeps every slot a session
of 1 to 2047 blocks has not yet received erased, the header included: the image checked and
installed at the end holds no byte of an earlier image. -/
theorem staging_erased_below_block (cfg : Build) (n m : Nat) (s : Node) (hc : s.core.Countdown) (hs : s.core.Staged) :
    (processTimes (calls cfg n) m s).node.core.Staged :=
  (staged_of_reflTransGen (keeps_processTimes (core_run cfg n).process m s) hc hs).2

theorem staging_erased_below_block_halfway :
    halfwaySession.core.Countdown ∧ halfwaySession.core.Staged ∧
      (processTimes (calls otaBuild 2) 1 halfwaySession).node.core.Staged :=
  ⟨by decide, by decide, staging_erased_below_block otaBuild 2 1 _ (by decide) (by decide)⟩

end MySensors
