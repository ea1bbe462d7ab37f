import MySensors.Sanity.Receive

/-! The node context `_nc`: its id, its parent and its distance to the gateway.
The id is only ever assigned away from `AUTO`, at any depth of nesting; the
distance reset of a parent search is the one change of the distance that is not
persisted, so that every run keeps the persisted copy in step with the context
otherwise; and a run of parent search answers leaves the node with the best
distance on offer and the first neighbour that offered it. -/

namespace MySensors

open NodeM

variable {cfg : Build}

/-! ### The node id -/

theorem CoreStep.nodeId_eq {c c' : Core} (h : CoreStep cfg c c') :
    c'.nc.nodeId = c.nc.nodeId ∨ c.nc.nodeId = AUTO := by
  cases h with
  | assignId _ h => exact .inr h
  | _ => exact .inl rfl

theorem nodeId_of_reflTransGen {c c' : Core} (h : Relation.ReflTransGen (CoreStep cfg) c c') :
    c'.nc.nodeId = c.nc.nodeId ∨ c.nc.nodeId = AUTO := by
  induction h with
  | refl => exact .inl rfl
  | tail _ hs ih =>
    rcases ih with ih | ih
    · rcases hs.nodeId_eq with h | h
      · exact .inl (h.trans ih)
      · exact .inr (ih ▸ h)
    · exact .inr ih

/-- Whatever frames the radio delivers, the node id changes only while it is `AUTO`. -/
theorem nodeId_changes_only_from_auto (cfg : Build) (n m : Nat) (s : Node) :
    (processTimes (calls cfg n) m s).node.nc.nodeId = s.nc.nodeId ∨ s.nc.nodeId = AUTO :=
  nodeId_of_reflTransGen (keeps_processTimes (core_run cfg n).process m s)

/-- The build of a plain sensor node: no signing, no repeater, no OTA. -/
def plainBuild : Build :=
  { signing := false, requestSignatures := false, repeater := false, gateway := false, ota := false
    receive := true, searchFailures := 3, otaRetry := 5, otaRetryDelay := 500
    verificationTimeout := 5000, bootloaderVersion := 1 }

/-- A node waiting for its id, with the gateway as parent. -/
def idWaiting : Node :=
  { (default : Node) with
    nc := ⟨AUTO, GATEWAY_ADDRESS, 1⟩
    env := { (default : Env) with
      radio := [some (AUTO, { (default : MyMessage) with
        sender := GATEWAY_ADDRESS, destination := AUTO, command := C_INTERNAL, type := I_ID_RESPONSE
        version := PROTOCOL_VERSION, data := [0] })] } }

/-- Node `10`, five hops from the gateway, hearing a parent search answer that
carries its own id as sender. -/
def selfAnswer : Node :=
  { (default : Node) with
    nc := ⟨10, GATEWAY_ADDRESS, 5⟩
    autoFindParent := true
    env := { (default : Env) with
      radio := [some (10, { (default : MyMessage) with
        sender := 10, destination := 10, command := C_INTERNAL, type := I_FIND_PARENT_RESPONSE
        version := PROTOCOL_VERSION, data := [0] })] } }

theorem id_zero_and_own_parent_accepted :
    ((calls plainBuild 2).process idWaiting).node.nc.nodeId = GATEWAY_ADDRESS ∧
      ((calls plainBuild 1).process selfAnswer).node.nc.parentNodeId = selfAnswer.nc.nodeId := by
  decide

/-! ### The persisted copy -/

/-- Every step that changes the distance writes it to nonvolatile storage too,
except the reset to `DISTANCE_INVALID` at the start of a parent search. -/
theorem CoreStep.distance_persisted {c c' : Core} (h : CoreStep cfg c c')
    (hd : c'.nc.distance ≠ c.nc.distance) :
    c'.distanceRom = c'.nc.distance ∨ c'.nc.distance = DISTANCE_INVALID := by
  cases h with
  | resetDistance => exact .inr rfl
  | adopt => exact .inl rfl
  | _ => exact absurd rfl hd

/-- Node `10` one hop from the gateway, its context persisted, hearing nothing. -/
def quietLeaf : Node :=
  { (default : Node) with
    nc := ⟨10, GATEWAY_ADDRESS, 1⟩
    eeprom := { (default : Eeprom) with nodeId := 10, parentNodeId := GATEWAY_ADDRESS, distance := 1 }
    autoFindParent := true
    env := { (default : Env) with clock := [0, 2000] } }

theorem parent_search_distance_not_persisted :
    ((calls plainBuild 2).findParentNode quietLeaf).node.nc.distance = DISTANCE_INVALID ∧
      ((calls plainBuild 2).findParentNode quietLeaf).node.eeprom.distance = quietLeaf.nc.distance := by
  decide

/-- The persisted copy of the node context agrees with it: the parent always, the distance
unless a parent search has reset it, the id unless none was ever written. -/
structure Core.Persisted (c : Core) : Prop where
  parent : c.parentRom = c.nc.parentNodeId
  distance : c.distanceRom = c.nc.distance ∨ c.nc.distance = DISTANCE_INVALID
  nodeId : c.nodeIdRom = c.nc.nodeId ∨ c.nodeIdRom = AUTO

theorem CoreStep.persisted {c c' : Core} (h : CoreStep cfg c c') (hi : c.Persisted) : c'.Persisted := by
  cases h with
  | resetDistance => exact ⟨hi.parent, .inr rfl, hi.nodeId⟩
  | adopt => exact ⟨rfl, .inl rfl, hi.nodeId⟩
  | assignId v h => exact ⟨hi.parent, hi.distance, .inr (hi.nodeId.elim (·.trans h) id)⟩
  | persistId => exact ⟨hi.parent, hi.distance, .inl rfl⟩
  | openSession | refuse | request | abort | acceptMore | acceptLast | install =>
    exact ⟨hi.parent, hi.distance, hi.nodeId⟩

theorem persisted_of_reflTransGen {c c' : Core} (h : Relation.ReflTransGen (CoreStep cfg) c c') (hi : c.Persisted) :
    c'.Persisted := by
  induction h with
  | refl => exact hi
  | tail _ hs ih => exact hs.persisted ih

/-- Node `10`, its context persisted five hops out, hearing node `20` offer a parent one hop
from the gateway. -/
def persistedLeaf : Node :=
  { (default : Node) with
    nc := ⟨10, GATEWAY_ADDRESS, 5⟩
    eeprom := { (default : Eeprom) with nodeId := 10, parentNodeId := GATEWAY_ADDRESS, distance := 5 }
    autoFindParent := true
    env := { (default : Env) with
      radio := [some (10, { (default : MyMessage) with
        sender := 20, destination := 10, command := C_INTERNAL, type := I_FIND_PARENT_RESPONSE
        version := PROTOCOL_VERSION, data := [1] })] } }

def bestDistance (D : Nat) (offers : List (UInt8 × Nat)) : Nat :=
  (offers.filter fun o => o.2 + 1 < 255).foldl (fun d o => min d (o.2 + 1)) D

def bestParent (D : Nat) (parent : UInt8) (offers : List (UInt8 × Nat)) : UInt8 :=
  if bestDistance D offers < D then
    ((offers.find? fun o => o.2 + 1 = bestDistance D offers).map Prod.fst).getD parent
  else parent

example : bestDistance 255 [(20, 3), (30, 1), (40, 1)] = 2 ∧
    bestParent 255 GATEWAY_ADDRESS [(20, 3), (30, 1), (40, 1)] = 30 := by decide

/-- What each answer offers: its sender and its payload byte. -/
def parentOffers (frames : List (UInt8 × MyMessage)) : List (UInt8 × Nat) :=
  frames.map fun f => (f.2.sender, f.2.getByte.toNat)

@[simp] theorem parentOffers_nil : parentOffers [] = [] := rfl

@[simp] theorem parentOffers_cons (f : UInt8 × MyMessage) (fs : List (UInt8 × MyMessage)) :
    parentOffers (f :: fs) = (f.2.sender, f.2.getByte.toNat) :: parentOffers fs := rfl

/-- A parent search answer addressed to node `nodeId` that asks for no ack. -/
def FindParentResponseFor (nodeId : UInt8) (f : MyMessage) : Prop :=
  f.command = C_INTERNAL ∧ f.type = I_FIND_PARENT_RESPONSE ∧ f.destination = nodeId ∧
    f.version = PROTOCOL_VERSION ∧ f.requestAck = false

instance (nodeId : UInt8) (f : MyMessage) : Decidable (FindParentResponseFor nodeId f) :=
  inferInstanceAs (Decidable (_ ∧ _))

section Law

variable (D : Nat) (o : UInt8 × Nat) (os : List (UInt8 × Nat))

/-- One answer, the law's way: keep the better of the running distance and the offer. -/
theorem bestDistance_cons :
    bestDistance D (o :: os) =
      bestDistance (if o.2 + 1 < 255 ∧ o.2 + 1 < D then o.2 + 1 else D) os := by
  unfold bestDistance
  by_cases hv : o.2 + 1 < 255
  · rw [List.filter_cons_of_pos (by simpa using hv), List.foldl_cons]
    congr 1
    split <;> omega
  · rw [List.filter_cons_of_neg (by simpa using hv)]
    simp [hv]

theorem bestDistance_le : ∀ D os, bestDistance D os ≤ D
  | _, [] => le_rfl
  | D, o :: os => by
    rw [bestDistance_cons]
    exact (bestDistance_le _ os).trans (by split <;> omega)

/-- A distance below `D` is the offer of some valid answer. -/
theorem bestDistance_attained :
    ∀ D os, bestDistance D os < D → ∃ o ∈ os, o.2 + 1 < 255 ∧ o.2 + 1 = bestDistance D os
  | _, [], h => absurd h (lt_irrefl _)
  | D, o :: os, h => by
    rw [bestDistance_cons] at h ⊢
    by_cases hv : o.2 + 1 < 255 ∧ o.2 + 1 < D
    · rw [if_pos hv] at h ⊢
      rcases (bestDistance_le (o.2 + 1) os).lt_or_eq with hlt | heq
      · obtain ⟨o', ho', hv', he⟩ := bestDistance_attained _ os hlt
        exact ⟨o', .tail _ ho', hv', he⟩
      · exact ⟨o, .head _, hv.1, heq.symm⟩
    · rw [if_neg hv] at h ⊢
      obtain ⟨o', ho', hv', he⟩ := bestDistance_attained _ os h
      exact ⟨o', .tail _ ho', hv', he⟩

/-- No answer sets the distance to `0` or `255`. -/
theorem bestDistance_range :
    bestDistance D os = D ∨ 1 ≤ bestDistance D os ∧ bestDistance D os ≤ 254 := by
  rcases (bestDistance_le D os).lt_or_eq with h | h
  · obtain ⟨o, -, hv, he⟩ := bestDistance_attained D os h
    omega
  · exact .inl h

theorem bestParent_cons (P : UInt8) :
    bestParent D P (o :: os) =
      if o.2 + 1 < 255 ∧ o.2 + 1 < D then bestParent (o.2 + 1) o.1 os else bestParent D P os := by
  simp only [bestParent, bestDistance_cons]
  split
  · next hv =>
    have hlt : bestDistance (o.2 + 1) os < D := (bestDistance_le _ os).trans_lt hv.2
    rw [if_pos hlt]
    split
    · next hb =>
      -- a later answer is better: it is found past `o`, whatever the default
      obtain ⟨o', ho', -, he⟩ := bestDistance_attained _ os hb
      rw [List.find?_cons_of_neg _ (by simpa using hb.ne')]
      have hs : (os.find? fun x => x.2 + 1 = bestDistance (o.2 + 1) os).isSome :=
        List.find?_isSome.mpr ⟨o', ho', by simpa using he⟩
      obtain ⟨x, hx⟩ := Option.isSome_iff_exists.mp hs
      rw [hx]; rfl
    · next hb =>
      have he : o.2 + 1 = bestDistance (o.2 + 1) os :=
        (le_antisymm (bestDistance_le _ os) (not_lt.mp hb)).symm
      rw [List.find?_cons_of_pos _ (by simpa using he)]; rfl
  · next hv =>
    split
    · next hb =>
      -- `o` does not attain a distance below `D`: it is either invalid or no better than `D`
      obtain ⟨o', -, hv', he⟩ := bestDistance_attained _ os hb
      rw [List.find?_cons_of_neg _ (by simp only [decide_eq_true_eq]; omega)]
    · rfl

end Law

/-! The code's step on the node context, in the law's terms. -/

theorem UInt8.toNat_add_one (p : UInt8) : (p + 1).toNat = (p.toNat + 1) % 256 := by
  simp only [UInt8.toNat, UInt8.add_def, BitVec.toNat_add, UInt8.toBitVec_ofNat, BitVec.toNat_ofNat]

theorem UInt8.ne_iff_toNat_ne {p q : UInt8} : p ≠ q ↔ p.toNat ≠ q.toNat :=
  ⟨fun h e => h (UInt8.toNat.inj e), fun h e => h (e ▸ rfl)⟩

/-- The source's validity test on the payload `p` and on `p + 1`, and the comparison
with the current distance `D`, say that `p + 1` is a valid distance below `D`. -/
theorem offer_accepted_iff (p D : UInt8) :
    (p ≠ DISTANCE_INVALID ∧ p + 1 ≠ DISTANCE_INVALID ∧ p + 1 < D) ↔
      (p.toNat + 1 < 255 ∧ p.toNat + 1 < D.toNat) := by
  have hp : p.toNat < 256 := p.toNat_lt_size
  have hi : DISTANCE_INVALID.toNat = 255 := rfl
  rw [UInt8.ne_iff_toNat_ne, UInt8.ne_iff_toNat_ne, hi,
    show (p + 1 < D) ↔ (p + 1).toNat < D.toNat from .rfl, UInt8.toNat_add_one]
  omega

theorem offer_accepted_distance {p : UInt8} (h : p.toNat + 1 < 255) : (p + 1).toNat = p.toNat + 1 := by
  rw [UInt8.toNat_add_one]; omega

/-- One answer, the code's way: `transportProcess` hands it to the parent adoption. -/
theorem transportProcess_findParentResponse {k : Calls} {s : Node} {toAddr : UInt8} {f : MyMessage}
    {rest : List (Option (UInt8 × MyMessage))} (hradio : s.env.radio = some (toAddr, f) :: rest)
    (hf : FindParentResponseFor s.nc.nodeId f) :
    ∃ s', transportProcess cfg k s = .ret () s' ∧
      s'.nc = (acceptFindParentResponse f.sender (s.receive f rest)).nc ∧
      s'.autoFindParent = s.autoFindParent ∧ s'.env.radio = rest := by
  obtain ⟨hc, ht, hd, hv, ha⟩ := hf
  rw [transportProcess_unchecked hradio (by simp [verificationRequired_handshake (m := f), MyMessage.handshake, hc, ht]),
    dispatch_toSelf (s := s.receive f rest) hv hd, toSelf_of_not_requestAck _ ha,
    handle_findParentResponse ⟨hc, ht⟩]
  refine ⟨_, rfl, ?_, ?_, ?_⟩ <;> dsimp only [modify_apply] <;>
    simp only [acceptFindParentResponse_nc, autoFindParent_acceptFindParentResponse,
      env_acceptFindParentResponse] <;>
    split <;> rfl

/-- Answers to a parent search, handed to the node one per call of `transportProcess`. -/
theorem processTimes_findParentResponses (k : Calls) (frames : List (UInt8 × MyMessage)) :
    ∀ (s : Node) (rest : List (Option (UInt8 × MyMessage))), s.autoFindParent = true →
      s.env.radio = frames.map some ++ rest →
      (∀ f ∈ frames, FindParentResponseFor s.nc.nodeId f.2) →
      ∃ s', processTimes (k.next cfg) frames.length s = .ret () s' ∧
        s'.nc.distance.toNat = bestDistance s.nc.distance.toNat (parentOffers frames) ∧
        s'.nc.parentNodeId = bestParent s.nc.distance.toNat s.nc.parentNodeId (parentOffers frames) := by
  induction frames with
  | nil =>
    intro s _ _ _ _
    exact ⟨s, rfl, rfl, by simp [bestParent, bestDistance]⟩
  | cons f fs ih =>
    obtain ⟨toAddr, f⟩ := f
    intro s rest hauto hradio hframes
    obtain ⟨s1, hs1, hnc, hauto1, hradio1⟩ :=
      @transportProcess_findParentResponse cfg k s toAddr f _ hradio (hframes _ (.head _))
    rw [acceptFindParentResponse_nc] at hnc
    -- the answer, taken or not, in the law's terms
    have hstep : s1.nc.nodeId = s.nc.nodeId ∧
        s1.nc.distance.toNat = (if f.getByte.toNat + 1 < 255 ∧ f.getByte.toNat + 1 < s.nc.distance.toNat
          then f.getByte.toNat + 1 else s.nc.distance.toNat) ∧
        s1.nc.parentNodeId = (if f.getByte.toNat + 1 < 255 ∧ f.getByte.toNat + 1 < s.nc.distance.toNat
          then f.sender else s.nc.parentNodeId) := by
      by_cases hacc : f.getByte.toNat + 1 < 255 ∧ f.getByte.toNat + 1 < s.nc.distance.toNat
      · rw [hnc, if_pos ⟨hauto, (offer_accepted_iff _ _).mpr hacc⟩, if_pos hacc, if_pos hacc]
        exact ⟨rfl, offer_accepted_distance hacc.1, rfl⟩
      · rw [hnc, if_neg fun h => hacc ((offer_accepted_iff _ _).mp h.2), if_neg hacc, if_neg hacc]
        exact ⟨rfl, rfl, rfl⟩
    obtain ⟨s', hs', hd, hp⟩ :=
      ih s1 rest (hauto1.trans hauto) hradio1 (fun g hg => hstep.1 ▸ hframes g (.tail _ hg))
    refine ⟨s', ?_, ?_, ?_⟩
    · show (transportProcess cfg k s).bind _ = _
      rw [hs1]; exact hs'
    · rw [hd, hstep.2.1, parentOffers_cons, bestDistance_cons]
    · rw [hp, hstep.2.1, hstep.2.2, parentOffers_cons, bestParent_cons]
      split <;> rfl

/-- Parent search answers addressed to a node that looks for its parent, with the
right protocol version and no ack request, handed to it one per call of
`transportProcess`: the node ends at the best distance on offer, which is never
`0` nor `255` unless it was so before, with the earliest neighbour offering it
as parent. -/
theorem parent_selection (cfg : Build) (n : Nat) (s : Node) (frames : List (UInt8 × MyMessage))
    (rest : List (Option (UInt8 × MyMessage))) (hauto : s.autoFindParent = true)
    (hradio : s.env.radio = frames.map some ++ rest)
    (hframes : ∀ f ∈ frames, FindParentResponseFor s.nc.nodeId f.2) :
    ∃ s', processTimes (calls cfg (n + 1)) frames.length s = .ret () s' ∧
      s'.nc.distance.toNat = bestDistance s.nc.distance.toNat (parentOffers frames) ∧
      (s'.nc.distance = s.nc.distance ∨ 1 ≤ s'.nc.distance.toNat ∧ s'.nc.distance.toNat ≤ 254) ∧
      s'.nc.parentNodeId = bestParent s.nc.distance.toNat s.nc.parentNodeId (parentOffers frames) := by
  obtain ⟨s', hs', hd, hp⟩ := processTimes_findParentResponses (calls cfg n) frames s rest hauto hradio hframes
  refine ⟨s', hs', hd, ?_, hp⟩
  rcases bestDistance_range s.nc.distance.toNat (parentOffers frames) with h | h
  · exact .inl (UInt8.toNat.inj (hd.trans h))
  · exact .inr (hd ▸ h)

/-- An answer from `sender` offering distance `p` to node `10`. -/
def parentAnswer (sender p : UInt8) : UInt8 × MyMessage :=
  (10, { (default : MyMessage) with
    sender := sender, destination := 10, command := C_INTERNAL, type := I_FIND_PARENT_RESPONSE
    version := PROTOCOL_VERSION, data := [p] })

/-- Node `10` searching for a parent, hearing offers 3, 1 and 1. -/
def searching : Node :=
  { (default : Node) with
    nc := ⟨10, GATEWAY_ADDRESS, DISTANCE_INVALID⟩
    autoFindParent := true
    env := { (default : Env) with
      radio := [parentAnswer 20 3, parentAnswer 30 1, parentAnswer 40 1].map some } }

theorem parent_selection_three_answers :
    searching.autoFindParent = true ∧
      (∀ f ∈ [parentAnswer 20 3, parentAnswer 30 1, parentAnswer 40 1],
        FindParentResponseFor searching.nc.nodeId f.2) ∧
      ∃ s', processTimes (calls plainBuild 1) 3 searching = .ret () s' ∧
        s'.nc.distance.toNat = bestDistance 255 (parentOffers [parentAnswer 20 3, parentAnswer 30 1,
          parentAnswer 40 1]) ∧
        (s'.nc.distance = DISTANCE_INVALID ∨ 1 ≤ s'.nc.distance.toNat ∧ s'.nc.distance.toNat ≤ 254) ∧
        s'.nc.parentNodeId = bestParent 255 GATEWAY_ADDRESS (parentOffers [parentAnswer 20 3,
          parentAnswer 30 1, parentAnswer 40 1]) :=
  ⟨rfl, by decide, parent_selection plainBuild 0 searching
    [parentAnswer 20 3, parentAnswer 30 1, parentAnswer 40 1] [] rfl rfl (by decide)⟩

end MySensors
