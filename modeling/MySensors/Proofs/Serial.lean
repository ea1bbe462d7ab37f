import MySensors.Spec.GatewaySerial
import Mathlib.Data.List.Range

/-! The serial framer against the line splitter it is meant to refine. Within a
line that fits the buffer the framer stores character after character; past the
buffer it restarts at position `0` and keeps what follows, and once a line is
complete it throws away the rest of the batch. Whatever arrives, it stays inside
its buffer: the position never passes `N - 1`, no write reaches index `N - 1`,
and a completed line's NUL is inside the buffer, so that every line it hands on is
short, without NUL and without newline. Where neither happens, on lines
that fit and batches that end where a line does, it hands on exactly the
splitter's lines. -/

namespace MySensors

variable {N : Nat}

/-! ### One character -/

section Step

variable {buf : Nat → UInt8} {p : Nat} {c : UInt8}

theorem serialStep_store (h : p < N - 1) (hc : c ≠ NEWLINE) :
    serialStep N (⟨buf, p⟩, false) c = (⟨Function.update buf p c, p + 1⟩, false) := by
  simp [serialStep, h, hc]

theorem serialStep_newline (h : p < N - 1) :
    serialStep N (⟨buf, p⟩, false) NEWLINE = (⟨Function.update buf p 0, p⟩, true) := by
  simp [serialStep, h]

theorem serialStep_full {a : Bool} (h : N - 1 ≤ p) :
    serialStep N (⟨buf, p⟩, a) c = (⟨buf, 0⟩, a) := by
  simp [serialStep, Nat.not_lt.mpr h]

theorem serialStep_available (inp : SerialInput) :
    serialStep N (inp, true) c = ({ inp with serialInputPos := 0 }, true) := by
  simp [serialStep]

end Step

/-- Characters other than a newline that fit the buffer are stored one after the other. -/
theorem foldl_serialStep_fill {c : UInt8} (hc : c ≠ NEWLINE) :
    ∀ (m p : Nat) (buf : Nat → UInt8), p + m ≤ N - 1 →
      ∃ buf', (List.replicate m c).foldl (serialStep N) (⟨buf, p⟩, false) = (⟨buf', p + m⟩, false)
  | 0, p, buf, _ => ⟨buf, rfl⟩
  | m + 1, p, buf, h => by
    rw [List.replicate_succ, List.foldl_cons, serialStep_store (by omega) hc]
    obtain ⟨buf', h'⟩ := foldl_serialStep_fill hc m (p + 1) _ (by omega)
    exact ⟨buf', by rw [h', Nat.add_right_comm, Nat.add_assoc]⟩

/-- The C string of a buffer with its first NUL at `p`. -/
theorem cString_eq {buf : Nat → UInt8} {p : Nat} (hp : p < N) (hz : buf p = 0)
    (hnz : ∀ i < p, buf i ≠ 0) : cString N buf = (List.range p).map buf := by
  obtain ⟨m, rfl⟩ : ∃ m, N = p + m := ⟨N - p, by omega⟩
  rw [cString, List.range_add, List.map_append, List.takeWhile_append_of_pos]
  · obtain ⟨m, rfl⟩ : ∃ m', m = m' + 1 := ⟨m - 1, by omega⟩
    simp [List.range_succ_eq_map, hz]
  · intro x hx
    obtain ⟨i, hi, rfl⟩ := List.mem_map.mp hx
    simpa using hnz i (List.mem_range.mp hi)

/-- A line of one character `c`: the buffer holds `c` and then the NUL its newline wrote. -/
theorem cString_single {buf : Nat → UInt8} {c : UInt8} (hN : 2 ≤ N) (hc : c ≠ 0) :
    cString N (Function.update (Function.update buf 0 c) 1 0) = [c] := by
  rw [cString_eq (p := 1) (by omega) (by simp) fun i hi => by
    obtain rfl : i = 0 := by omega
    simpa using hc]
  rfl

/-! ### The line splitter -/

/-- The newline-terminated lines of a stream, in order, `cur` being the line begun. -/
def streamLines (cur : List UInt8) : List UInt8 → List (List UInt8)
  | [] => []
  | c :: s => if c = NEWLINE then cur :: streamLines [] s else streamLines (cur ++ [c]) s

/-- The lines a framer with an `N`-byte buffer should hand on: the newline-terminated
lines of the stream that fit the buffer with their terminator, `N - 2` characters at most. -/
def framedLines (N : Nat) (s : List UInt8) : List (List UInt8) :=
  (streamLines [] s).filter (·.length ≤ N - 2)

theorem streamLines_line (cur l rest : List UInt8) (hl : NEWLINE ∉ l) :
    streamLines cur (l ++ NEWLINE :: rest) = (cur ++ l) :: streamLines [] rest := by
  induction l generalizing cur with
  | nil => simp [streamLines]
  | cons c l ih =>
    have hc : c ≠ NEWLINE := fun h => hl (h ▸ List.mem_cons_self _ _)
    rw [List.cons_append, streamLines, if_neg hc, ih _ (fun h => hl (List.mem_cons_of_mem _ h))]
    simp

/-! ### Where the framer departs from the splitter -/

theorem nl_ne_a : (97 : UInt8) ≠ NEWLINE := by decide

theorem nl_ne_b : (98 : UInt8) ≠ NEWLINE := by decide

/-- For every buffer length: the tail of an overlong line is parsed, and a second line
arriving in the same batch is lost. -/
theorem framer_keeps_tail_and_loses_line (N : Nat) (hN : 3 ≤ N) :
    serialRun N .init [List.replicate N 97 ++ [98, NEWLINE]] = [[98]] ∧
      framedLines N (List.replicate N 97 ++ [98, NEWLINE]) = [] ∧
    serialRun N .init [[97, NEWLINE, 98, NEWLINE]] = [[97]] ∧
      framedLines N [97, NEWLINE, 98, NEWLINE] = [[97], [98]] := by
  refine ⟨?_, ?_, ?_, ?_⟩
  · -- `N - 1` characters fill the buffer, the next one resets the position, `b` starts over
    obtain ⟨n, rfl⟩ : ∃ n, N = n + 1 := ⟨N - 1, by omega⟩
    obtain ⟨buf, hfill⟩ := foldl_serialStep_fill (N := n + 1) nl_ne_a n 0 (fun _ => 0) (by omega)
    simp only [serialRun, gatewayTransportAvailable, SerialInput.init, List.replicate_succ',
      List.append_assoc, List.singleton_append, List.foldl_append]
    rw [hfill, Nat.zero_add, List.foldl_cons, serialStep_full (by omega), List.foldl_cons,
      serialStep_store (by omega) nl_ne_b, List.foldl_cons, serialStep_newline (by omega), List.foldl_nil,
      if_pos rfl, cString_single (by omega) (by decide)]
    rfl
  · rw [framedLines, show List.replicate N (97 : UInt8) ++ [98, NEWLINE] =
      (List.replicate N 97 ++ [98]) ++ NEWLINE :: [] by simp,
      streamLines_line _ _ _ (by simp [List.mem_replicate, nl_ne_a.symm, nl_ne_b.symm])]
    simp [streamLines]
    omega
  · -- the first newline completes the line; the rest of the batch meets `available`
    simp only [serialRun, gatewayTransportAvailable, SerialInput.init, List.foldl_cons, List.foldl_nil]
    rw [serialStep_store (by omega) nl_ne_a, serialStep_newline (by omega), serialStep_available,
      serialStep_available, if_pos rfl, cString_single (by omega) (by decide)]
    rfl
  · simp [framedLines, streamLines, NEWLINE]
    omega

theorem framer_keeps_tail_and_loses_line_100 :
    3 ≤ 100 ∧
    serialRun 100 .init [List.replicate 100 97 ++ [98, NEWLINE]] = [[98]] ∧
      framedLines 100 (List.replicate 100 97 ++ [98, NEWLINE]) = [] ∧
    serialRun 100 .init [[97, NEWLINE, 98, NEWLINE]] = [[97]] ∧
      framedLines 100 [97, NEWLINE, 98, NEWLINE] = [[97], [98]] :=
  ⟨by decide, framer_keeps_tail_and_loses_line 100 (by decide)⟩

/-! ### Bounds -/

/-- What every state of the framer keeps: the position inside the buffer and,
once a line is complete, its NUL terminator at an index a write may reach. -/
structure Framed (N : Nat) (st : SerialInput × Bool) : Prop where
  pos_le : st.1.serialInputPos ≤ N - 1
  nul : st.2 = true → ∃ i, i + 2 ≤ N ∧ st.1.serialInputString i = 0

theorem serialStep_framed {st : SerialInput × Bool} (c : UInt8) (h : Framed N st) :
    Framed N (serialStep N st c) := by
  obtain ⟨⟨buf, p⟩, a⟩ := st
  dsimp only [serialStep]
  split
  · next hg =>
    obtain ⟨hp, rfl⟩ := hg
    split
    · exact ⟨by dsimp only; omega, fun _ => ⟨p, by omega, Function.update_same _ _ _⟩⟩
    · exact ⟨by dsimp only; omega, fun h => absurd h Bool.false_ne_true⟩
  · exact ⟨Nat.zero_le _, h.nul⟩

/-- Every write of a step is at the position, and only while it is at most `N - 2`. -/
theorem serialStep_writes (st : SerialInput × Bool) (c : UInt8) :
    (serialStep N st c).1.serialInputString = st.1.serialInputString ∨
      ∃ v, (serialStep N st c).1.serialInputString =
        Function.update st.1.serialInputString st.1.serialInputPos v ∧ st.1.serialInputPos ≤ N - 2 := by
  unfold serialStep
  split
  · split <;> exact .inr ⟨_, rfl, by omega⟩
  · exact .inl rfl

theorem scanl_serialStep_framed :
    ∀ (b : List UInt8) (st : SerialInput × Bool), Framed N st → ∀ x ∈ b.scanl (serialStep N) st, Framed N x
  | [], _, h, x, hx => by rw [List.scanl_nil, List.mem_singleton] at hx; exact hx ▸ h
  | c :: b, st, h, x, hx => by
    rw [List.scanl_cons, List.singleton_append, List.mem_cons] at hx
    rcases hx with rfl | hx
    · exact h
    · exact scanl_serialStep_framed b _ (serialStep_framed c h) x hx

theorem foldl_serialStep_framed :
    ∀ (b : List UInt8) (st : SerialInput × Bool), Framed N st → Framed N (b.foldl (serialStep N) st)
  | [], _, h => h
  | c :: b, _, h => foldl_serialStep_framed b _ (serialStep_framed c h)

theorem gatewayTransportAvailable_pos_le {inp : SerialInput} (b : List UInt8)
    (h : inp.serialInputPos ≤ N - 1) : (gatewayTransportAvailable N inp b).1.serialInputPos ≤ N - 1 := by
  have := foldl_serialStep_framed b (inp, false) ⟨h, fun h => absurd h Bool.false_ne_true⟩
  dsimp only [gatewayTransportAvailable]
  split
  · exact Nat.zero_le _
  · exact this.pos_le

/-- The framer's globals after the calls that drained `batches`, from start-up. -/
def serialState (N : Nat) (batches : List (List UInt8)) : SerialInput :=
  batches.foldl (fun inp b => (gatewayTransportAvailable N inp b).1) SerialInput.init

theorem foldl_gatewayTransportAvailable_pos_le :
    ∀ (batches : List (List UInt8)) (inp : SerialInput), inp.serialInputPos ≤ N - 1 →
      (batches.foldl (fun inp b => (gatewayTransportAvailable N inp b).1) inp).serialInputPos ≤ N - 1
  | [], _, h => h
  | b :: bs, _, h => foldl_gatewayTransportAvailable_pos_le bs _ (gatewayTransportAvailable_pos_le b h)

/-- For every buffer length and every sequence of calls: before, during and after the
next call the position is at most `N - 1`, every write is at an index of at most
`N - 2`, and a line handed to `protocolParse` is the C string of a buffer with a NUL
inside it. -/
theorem serial_framer_in_bounds (N : Nat) (batches : List (List UInt8)) (b : List UInt8) :
    (∀ st ∈ b.scanl (serialStep N) (serialState N batches, false),
      st.1.serialInputPos ≤ N - 1 ∧ ∀ c : UInt8,
        (serialStep N st c).1.serialInputString = st.1.serialInputString ∨
        ∃ v, (serialStep N st c).1.serialInputString =
          Function.update st.1.serialInputString st.1.serialInputPos v ∧ st.1.serialInputPos ≤ N - 2) ∧
    (gatewayTransportAvailable N (serialState N batches) b).1.serialInputPos ≤ N - 1 ∧
    ∀ str, (gatewayTransportAvailable N (serialState N batches) b).2 = some str →
      str = cString N (gatewayTransportAvailable N (serialState N batches) b).1.serialInputString ∧
      ∃ i, i + 2 ≤ N ∧ (gatewayTransportAvailable N (serialState N batches) b).1.serialInputString i = 0 := by
  have h0 : Framed N (serialState N batches, false) :=
    ⟨foldl_gatewayTransportAvailable_pos_le batches _ (Nat.zero_le _), fun h => absurd h Bool.false_ne_true⟩
  refine ⟨fun st hst => ⟨(scanl_serialStep_framed b _ h0 st hst).pos_le, serialStep_writes st⟩,
    gatewayTransportAvailable_pos_le b h0.pos_le, fun str hstr => ?_⟩
  -- a line was handed on: the call ended with `available`, the NUL written before
  have hf := foldl_serialStep_framed b _ h0
  dsimp only [gatewayTransportAvailable] at hstr ⊢
  by_cases ha : (b.foldl (serialStep N) (serialState N batches, false)).2 = true
  · rw [if_pos ha] at hstr ⊢
    exact ⟨(Option.some.inj hstr).symm, hf.nul ha⟩
  · rw [if_neg ha] at hstr
    cases hstr

/-! ### What reaches `protocolParse` -/

/-- A C string ends at the buffer's first NUL: it is a prefix of the bytes before any NUL. -/
theorem takeWhile_prefix_of_false {p : UInt8 → Bool} {x : UInt8} (hx : p x = false) :
    ∀ (A C : List UInt8), (A ++ x :: C).takeWhile p <+: A
  | [], C => by simp [List.takeWhile_cons, hx]
  | a :: A, C => by
    rw [List.cons_append, List.takeWhile_cons]
    split
    · exact (List.prefix_cons_inj a).2 (takeWhile_prefix_of_false hx A C)
    · exact List.nil_prefix

theorem cString_prefix {buf : Nat → UInt8} {i : Nat} (hi : i < N) (hz : buf i = 0) :
    cString N buf <+: (List.range i).map buf := by
  obtain ⟨m, rfl⟩ : ∃ m, N = i + (m + 1) := ⟨N - i - 1, by omega⟩
  rw [cString, List.range_add, List.map_append, List.range_succ_eq_map, List.map_cons, List.map_cons, Nat.add_zero, hz]
  exact takeWhile_prefix_of_false rfl _ _

/-- What every state of the framer keeps about the bytes it stored: no newline before the
position, and once a line is complete none before its NUL. -/
structure LineClean (N : Nat) (st : SerialInput × Bool) : Prop where
  pos_le : st.1.serialInputPos ≤ N - 1
  stored : st.2 = false → ∀ j < st.1.serialInputPos, st.1.serialInputString j ≠ NEWLINE
  line : st.2 = true → ∃ i, i + 2 ≤ N ∧ st.1.serialInputString i = 0 ∧ ∀ j < i, st.1.serialInputString j ≠ NEWLINE

theorem serialStep_lineClean {st : SerialInput × Bool} (c : UInt8) (h : LineClean N st) :
    LineClean N (serialStep N st c) := by
  obtain ⟨⟨buf, p⟩, a⟩ := st
  dsimp only [serialStep]
  split
  · next hg =>
    obtain ⟨hp, rfl⟩ := hg
    have hs := h.stored rfl
    split
    · -- the newline: the NUL at the position, stored bytes before it
      refine ⟨by dsimp only; omega, nofun, fun _ => ⟨p, by omega, Function.update_same _ _ _, fun j hj => ?_⟩⟩
      show Function.update buf p 0 j ≠ NEWLINE
      rw [Function.update_noteq (Nat.ne_of_lt hj)]
      exact hs j hj
    · next hc =>
      refine ⟨by dsimp only; omega, fun _ j hj => ?_, nofun⟩
      dsimp only at hj ⊢
      rcases Nat.lt_succ_iff_lt_or_eq.1 hj with hj | rfl
      · rw [Function.update_noteq (Nat.ne_of_lt hj)]
        exact hs j hj
      · rw [Function.update_same]
        exact hc
  · exact ⟨Nat.zero_le _, fun _ _ hj => absurd hj (Nat.not_lt_zero _), h.line⟩

theorem foldl_serialStep_lineClean :
    ∀ (b : List UInt8) (st : SerialInput × Bool), LineClean N st → LineClean N (b.foldl (serialStep N) st)
  | [], _, h => h
  | c :: b, _, h => foldl_serialStep_lineClean b _ (serialStep_lineClean c h)

/-- A line a call hands on has at most `N - 2` bytes, no NUL and no newline, and the call
leaves the framer clean. -/
theorem gatewayTransportAvailable_lineClean {inp : SerialInput} (b : List UInt8) (h : LineClean N (inp, false)) :
    LineClean N ((gatewayTransportAvailable N inp b).1, false) ∧
      ∀ l ∈ (gatewayTransportAvailable N inp b).2, l.length ≤ N - 2 ∧ 0 ∉ l ∧ NEWLINE ∉ l := by
  have hf := foldl_serialStep_lineClean b _ h
  dsimp only [gatewayTransportAvailable]
  split
  · next ha =>
    refine ⟨⟨Nat.zero_le _, fun _ _ hj => absurd hj (Nat.not_lt_zero _), nofun⟩, fun l hl => ?_⟩
    obtain ⟨i, hi, hz, hnl⟩ := hf.line ha
    obtain rfl := Option.mem_some_iff.1 hl
    have hpre := cString_prefix (N := N) (by omega) hz
    have hlen := hpre.length_le
    rw [List.length_map, List.length_range] at hlen
    refine ⟨by omega, fun h0 => ?_, fun hn => ?_⟩
    · exact absurd (List.mem_takeWhile_imp h0) (by simp)
    · obtain ⟨j, hj, hj'⟩ := List.mem_map.1 (hpre.subset hn)
      exact hnl j (List.mem_range.1 hj) hj'
  · next ha =>
    have hr : ((b.foldl (serialStep N) (inp, false)).1, false) = b.foldl (serialStep N) (inp, false) :=
      Prod.ext rfl (Bool.eq_false_iff.2 ha).symm
    exact ⟨hr ▸ hf, nofun⟩

/-- Whatever bytes arrive, in whatever batches: every line the framer hands to
`protocolParse` has at most `N - 2` bytes, and holds no NUL and no newline. -/
theorem serial_lines_well_formed (N : Nat) (batches : List (List UInt8)) :
    ∀ l ∈ serialRun N .init batches, l.length ≤ N - 2 ∧ 0 ∉ l ∧ NEWLINE ∉ l := by
  suffices ∀ (batches : List (List UInt8)) (inp : SerialInput), LineClean N (inp, false) →
      ∀ l ∈ serialRun N inp batches, l.length ≤ N - 2 ∧ 0 ∉ l ∧ NEWLINE ∉ l from
    this batches _ ⟨Nat.zero_le _, fun _ _ hj => absurd hj (Nat.not_lt_zero _), nofun⟩
  intro batches
  induction batches with
  | nil => exact fun _ _ _ h => absurd h (List.not_mem_nil _)
  | cons b bs ih =>
    intro inp h l hl
    obtain ⟨hc, hline⟩ := gatewayTransportAvailable_lineClean b h
    rw [serialRun, List.mem_append] at hl
    exact hl.elim (fun hl => hline l (Option.mem_toList.1 hl)) (ih _ hc l)

/-- Two bytes and a newline, into a buffer of `6`. -/
theorem serial_lines_well_formed_ab :
    [65, 66] ∈ serialRun 6 .init [[65, 66, NEWLINE]] ∧
      ([65, 66] : List UInt8).length ≤ 6 - 2 ∧ (0 : UInt8) ∉ [65, 66] ∧ NEWLINE ∉ ([65, 66] : List UInt8) :=
  have h : [65, 66] ∈ serialRun 6 .init [[65, 66, NEWLINE]] := by decide
  ⟨h, serial_lines_well_formed 6 _ _ h⟩

/-! ### Where the framer refines the splitter -/

/-- The framer's globals hold the line begun, `cur`: its characters at the start of the
buffer and the position just past them. -/
structure Holds (cur : List UInt8) (inp : SerialInput) : Prop where
  pos : inp.serialInputPos = cur.length
  chars : ∀ i (hi : i < cur.length), inp.serialInputString i = cur[i]

theorem Holds.nil {inp : SerialInput} (h : inp.serialInputPos = 0) : Holds [] inp :=
  ⟨h, fun _ h => absurd h (Nat.not_lt_zero _)⟩

/-- A character other than a newline, with room for it, extends the line begun. -/
theorem Holds.store {cur : List UInt8} {inp : SerialInput} {c : UInt8} (h : Holds cur inp)
    (hroom : cur.length < N - 1) (hc : c ≠ NEWLINE) :
    ∃ inp', serialStep N (inp, false) c = (inp', false) ∧ Holds (cur ++ [c]) inp' := by
  obtain ⟨buf, p⟩ := inp
  obtain rfl : p = cur.length := h.pos
  refine ⟨_, serialStep_store hroom hc, by simp, fun i hi => ?_⟩
  dsimp only
  rcases Nat.lt_or_eq_of_le (Nat.le_of_lt_succ (by simpa using hi)) with hi' | rfl
  · rw [Function.update_noteq hi'.ne]
    exact (h.chars i hi').trans (List.getElem_append_left hi').symm
  · simp

/-- A chunk without a newline that fits extends the line begun. -/
theorem Holds.chunk {cur l : List UInt8} {inp : SerialInput} (h : Holds cur inp) (hl : NEWLINE ∉ l)
    (hroom : (cur ++ l).length ≤ N - 1) :
    ∃ inp', l.foldl (serialStep N) (inp, false) = (inp', false) ∧ Holds (cur ++ l) inp' := by
  induction l generalizing cur inp with
  | nil => exact ⟨inp, rfl, by simpa using h⟩
  | cons c l ih =>
    simp only [List.mem_cons, not_or] at hl
    obtain ⟨inp1, h1, hc1⟩ := h.store (N := N) (by simp only [List.length_append, List.length_cons] at hroom; omega) (Ne.symm hl.1)
    obtain ⟨inp', h', hc'⟩ := ih hc1 hl.2 (by simpa using hroom)
    exact ⟨inp', by rw [List.foldl_cons, h1, h'], by simpa using hc'⟩

/-- The C string of a buffer holding a line without NUL, followed by the NUL. -/
theorem cString_line {l : List UInt8} {buf : Nat → UInt8} (hN : l.length < N) (hz : 0 ∉ l)
    (hb : ∀ i (hi : i < l.length), buf i = l[i]) : cString N (Function.update buf l.length 0) = l := by
  rw [cString_eq hN (by simp) fun i hi => by
    rw [Function.update_noteq hi.ne, hb i hi]
    exact fun h0 => hz (h0 ▸ List.getElem_mem hi)]
  refine List.ext_getElem (by simp) fun i h1 _ => ?_
  rw [List.length_map, List.length_range] at h1
  rw [List.getElem_map, List.getElem_range, Function.update_noteq (Nat.ne_of_lt h1), hb i h1]

/-- The call that drains a chunk without a newline: nothing is handed on. -/
theorem gatewayTransportAvailable_chunk {cur l : List UInt8} {inp : SerialInput} (h : Holds cur inp)
    (hl : NEWLINE ∉ l) (hroom : (cur ++ l).length ≤ N - 1) :
    ∃ inp', gatewayTransportAvailable N inp l = (inp', none) ∧ Holds (cur ++ l) inp' := by
  obtain ⟨inp', h', hc'⟩ := h.chunk hl hroom
  exact ⟨inp', by simp [gatewayTransportAvailable, h'], hc'⟩

/-- The call that drains the rest of a line and its newline: the whole line is handed on,
and the position starts over. -/
theorem gatewayTransportAvailable_line (hN : 2 ≤ N) {cur l : List UInt8} {inp : SerialInput}
    (h : Holds cur inp) (hl : NEWLINE ∉ l) (hfit : (cur ++ l).length ≤ N - 2) (hz : 0 ∉ cur ++ l) :
    ∃ inp', gatewayTransportAvailable N inp (l ++ [NEWLINE]) = (inp', some (cur ++ l)) ∧
      inp'.serialInputPos = 0 := by
  obtain ⟨⟨buf, p⟩, h', hc'⟩ := h.chunk (N := N) hl (by omega)
  obtain rfl : p = (cur ++ l).length := hc'.pos
  refine ⟨{ serialInputString := Function.update buf (cur ++ l).length 0, serialInputPos := 0 }, ?_, rfl⟩
  rw [gatewayTransportAvailable, List.foldl_append, h', List.foldl_cons, serialStep_newline (by omega),
    List.foldl_nil, if_pos rfl, cString_line (by omega) hz hc'.chars]

/-- A stretch without a newline at the start of a stream ends within its first line. -/
theorem length_le_of_append_eq {x y l z : List UInt8} (hx : NEWLINE ∉ x) (h : x ++ y = l ++ NEWLINE :: z) :
    x.length ≤ l.length := by
  rcases List.append_eq_append_iff.1 h with ⟨a, rfl, -⟩ | ⟨c, rfl, hc⟩
  · simp
  · cases c with
    | nil => simp
    | cons d c =>
      obtain ⟨rfl, -⟩ := List.cons_eq_cons.1 hc
      simp at hx

/-- The stream of `lines`, each ended by its newline, then the unfinished `tail`. -/
def lineStream (lines : List (List UInt8)) (tail : List UInt8) : List UInt8 :=
  (lines.map (· ++ [NEWLINE])).flatten ++ tail

@[simp] theorem lineStream_nil (tail : List UInt8) : lineStream [] tail = tail := rfl

@[simp] theorem lineStream_cons (l : List UInt8) (ls : List (List UInt8)) (tail : List UInt8) :
    lineStream (l :: ls) tail = l ++ NEWLINE :: lineStream ls tail := by
  simp [lineStream]

theorem streamLines_of_not_mem {s : List UInt8} (hs : NEWLINE ∉ s) : ∀ cur, streamLines cur s = [] := by
  induction s with
  | nil => exact fun _ => rfl
  | cons c s ih =>
    simp only [List.mem_cons, not_or] at hs
    exact fun cur => by rw [streamLines, if_neg (Ne.symm hs.1), ih hs.2]

theorem streamLines_lineStream {lines : List (List UInt8)} {tail : List UInt8} (hl : ∀ l ∈ lines, NEWLINE ∉ l)
    (ht : NEWLINE ∉ tail) : streamLines [] (lineStream lines tail) = lines := by
  induction lines with
  | nil => exact streamLines_of_not_mem ht []
  | cons l ls ih =>
    rw [lineStream_cons, streamLines_line _ _ _ (hl l (List.mem_cons_self _ _)),
      ih fun l' h => hl l' (List.mem_cons_of_mem _ h), List.nil_append]

section Refines

variable {lines : List (List UInt8)} {tail : List UInt8}
  (hlines : ∀ l ∈ lines, l.length ≤ N - 2 ∧ 0 ∉ l ∧ NEWLINE ∉ l) (htail : tail.length ≤ N - 2 ∧ NEWLINE ∉ tail)

include hlines htail in
/-- What the framer has collected of a stream of lines that fit fits too. -/
theorem length_le_of_lineStream {x y : List UInt8} (hx : NEWLINE ∉ x) (h : x ++ y = lineStream lines tail) :
    x.length ≤ N - 2 := by
  cases lines with
  | nil =>
    calc x.length ≤ (x ++ y).length := by simp
      _ = tail.length := congrArg List.length h
      _ ≤ N - 2 := htail.1
  | cons l ls =>
    rw [lineStream_cons] at h
    exact (length_le_of_append_eq hx h).trans (hlines l (List.mem_cons_self _ _)).1

end Refines

/-- A batch whose only newline is its last byte, and which has one, is a line's rest and its newline. -/
theorem eq_append_newline {b : List UInt8} (hb : NEWLINE ∈ b) (hd : NEWLINE ∉ b.dropLast) :
    b = b.dropLast ++ [NEWLINE] := by
  have hne : b ≠ [] := List.ne_nil_of_mem hb
  have hsplit := List.dropLast_append_getLast hne
  have hlast : b.getLast hne = NEWLINE := by
    rw [← hsplit, List.mem_append, List.mem_singleton] at hb
    exact (hb.resolve_left hd).symm
  rw [← hlast, hsplit]

/-- From a state holding the line begun, batches whose newlines end them hand on exactly the
lines the stream completes. -/
theorem serialRun_of_holds (hN : 2 ≤ N) {tail : List UInt8} (htail : tail.length ≤ N - 2 ∧ NEWLINE ∉ tail) :
    ∀ (batches lines : List (List UInt8)) (cur : List UInt8) (inp : SerialInput),
      (∀ l ∈ lines, l.length ≤ N - 2 ∧ 0 ∉ l ∧ NEWLINE ∉ l) → (∀ b ∈ batches, NEWLINE ∉ b.dropLast) →
      Holds cur inp → NEWLINE ∉ cur → cur ++ batches.flatten = lineStream lines tail →
      serialRun N inp batches = lines
  | [], lines, cur, _, _, _, _, hcur, h => by
    cases lines with
    | nil => rfl
    | cons l ls => exact absurd (by rw [List.flatten_nil, List.append_nil] at h; simp [h]) hcur
  | b :: bs, lines, cur, inp, hlines, hbatches, hh, hcur, h => by
    have hbs : ∀ b ∈ bs, NEWLINE ∉ b.dropLast := fun b' hb' => hbatches b' (List.mem_cons_of_mem _ hb')
    rw [List.flatten_cons, ← List.append_assoc] at h
    by_cases hb : NEWLINE ∈ b
    · -- the batch completes the line: it goes to protocolParse, the next starts at 0
      have hl := hbatches b (List.mem_cons_self _ _)
      rw [eq_append_newline hb hl] at h ⊢
      cases lines with
      | nil => exact absurd (by rw [lineStream_nil] at h; simp [← h]) htail.2
      | cons l1 ls =>
        have h' : (cur ++ b.dropLast) ++ NEWLINE :: bs.flatten = l1 ++ NEWLINE :: lineStream ls tail := by
          simpa using h
        have hx : NEWLINE ∉ cur ++ b.dropLast := by simp [hcur, hl]
        have hl1 := hlines l1 (List.mem_cons_self _ _)
        obtain ⟨rfl, hrest⟩ := List.append_inj h'
          (le_antisymm (length_le_of_append_eq hx h') (length_le_of_append_eq hl1.2.2 h'.symm))
        obtain ⟨inp', hr, hpos⟩ := gatewayTransportAvailable_line hN hh hl hl1.1 hl1.2.1
        rw [serialRun, hr, Option.toList_some, List.singleton_append]
        exact congrArg _ (serialRun_of_holds hN htail bs ls [] inp'
          (fun l' h' => hlines l' (List.mem_cons_of_mem _ h')) hbs (.nil hpos) (List.not_mem_nil _)
          (List.cons.inj hrest).2)
    · -- the line goes on in the next batch
      have hx : NEWLINE ∉ cur ++ b := by simp [hcur, hb]
      obtain ⟨inp', hr, hh'⟩ := gatewayTransportAvailable_chunk hh hb
        ((length_le_of_lineStream hlines htail hx h).trans (Nat.sub_le_sub_left (by decide) N))
      rw [serialRun, hr, Option.toList_none, List.nil_append]
      exact serialRun_of_holds hN htail bs lines (cur ++ b) inp' hlines hbs hh' hx h

/-- Where the framer refines the line splitter: lines that fit the buffer with their NUL and
hold no NUL, cut into batches whose only newline is their last byte, reach `protocolParse`
exactly as the splitter cuts them, from start-up or from any call that begins at position 0. -/
theorem serialRun_eq_framedLines (N : Nat) (hN : 2 ≤ N) (inp : SerialInput) (hpos : inp.serialInputPos = 0)
    (lines : List (List UInt8)) (tail : List UInt8) (batches : List (List UInt8))
    (hlines : ∀ l ∈ lines, l.length ≤ N - 2 ∧ 0 ∉ l ∧ NEWLINE ∉ l) (htail : tail.length ≤ N - 2 ∧ NEWLINE ∉ tail)
    (hbatches : ∀ b ∈ batches, NEWLINE ∉ b.dropLast) (hs : batches.flatten = lineStream lines tail) :
    serialRun N inp batches = lines ∧ framedLines N batches.flatten = lines := by
  refine ⟨serialRun_of_holds hN htail batches lines [] inp hlines hbatches (.nil hpos) (List.not_mem_nil _) hs, ?_⟩
  rw [framedLines, hs, streamLines_lineStream (fun l h => (hlines l h).2.2) htail.2, List.filter_eq_self]
  exact fun l h => decide_eq_true (hlines l h).1

theorem serialRun_eq_framedLines_two_lines :
    2 ≤ 10 ∧ SerialInput.init.serialInputPos = 0 ∧
      serialRun 10 .init [[97, NEWLINE], [98], [NEWLINE]] = [[97], [98]] ∧
      framedLines 10 [[97, NEWLINE], [98], [NEWLINE]].flatten = [[97], [98]] :=
  ⟨by decide, rfl, serialRun_eq_framedLines 10 (by decide) .init rfl [[97], [98]] [] _ (by decide) (by decide)
    (by decide) rfl⟩

end MySensors
