import Mathlib.Data.List.Infix
import NautilusMt5.WebSocket.Connection

/-!
# A stream of frames is read in pieces

`readFrame` reads whatever the socket has, and a frame need not end there. Its rounds are those of an incremental reader
(`readOne`), which resumes (`resumes`): where the pieces end makes no difference as long as none ends in a header
(`reads_iff`). What the observer hears is then a matter of frames alone (`processFrames`).
-/

namespace NautilusMt5.WebSocket

open Incremental

namespace Connection

variable {p : Platform} {c c' : Connection} {s s' : Connection × Bool} {f : Frame} {data : Data} {calls : List Call}

/-! ## One round -/

/-- A round of `readFrame` that goes on; after `closed`, the loop drops the rest. -/
def readOne (p : Platform) : Round (Connection × Bool) UInt8 Call
  | (c, true), _ => some ((c, true), [], [])
  | (c, false), data =>
    match Frame.decode data c.lastFrame with
    | .frame f rest =>
      if f.isReady then
        let r := c.processFrame p f
        some (({ r.1.1 with lastFrame := none }, r.1.2), r.2, rest)
      else some (({ c with lastFrame := some f }, false), [], rest)
    | _ => none

/-- **The reader resumes.** -/
theorem resumes : Resumes (readOne p) := by
  rintro ⟨c, closed⟩ s₁ a rest o b - hround
  cases closed with
  | true =>
    cases hround
    exact .inr ⟨rfl, rfl, rfl⟩
  | false =>
    simp only [readOne] at hround ⊢
    cases hdecode : Frame.decode a c.lastFrame with
    | insufficient =>
      rw [hdecode] at hround
      cases hround
    | outOfRange =>
      rw [hdecode] at hround
      cases hround
    | frame f rest' =>
      obtain ⟨hready, hwaits⟩ := Frame.decode_append hdecode b
      rw [hdecode] at hround
      by_cases hf : f.isReady
      · simp only [hf, if_true, Option.some.injEq, Prod.mk.injEq] at hround
        obtain ⟨rfl, rfl, rfl⟩ := hround
        rw [hready hf]
        simp [hf]
      · simp only [hf] at hround
        cases hround
        obtain ⟨rfl, hnext⟩ := hwaits hf
        refine .inr ⟨rfl, rfl, ?_⟩
        -- what waits is absorbed before it is processed, whichever call of `readFrame` gets it
        have hhead : Frame.decode b (some f) = .frame (f.absorb b).1 (f.absorb b).2 := rfl
        rw [hnext]
        simp only [hhead, processFrame_lastFrame]

/-! ## The loop -/

/-- Data that is eaten is what the loop of `readFrame` gets through. -/
theorem returns_of_eats (h : Eats (readOne p) s data s' calls) (before : List Call) :
    Loop.Returns (readFrameStep p) (s, before, data) (some (s'.1, before ++ calls)) := by
  induction h generalizing before with
  | nil s =>
    rw [List.append_nil]
    exact Loop.returns_of_done (by simp [readFrameStep])
  | @cons s s₁ s₂ a rest o o' hne hround hrest ih =>
    obtain ⟨c, closed⟩ := s
    cases closed with
    | true =>
      cases hround
      obtain ⟨rfl, rfl⟩ := eats_nil_iff.mp hrest
      rw [List.append_nil, List.append_nil]
      exact Loop.returns_of_done (by simp [readFrameStep])
    | false =>
      have hstep : readFrameStep p ((c, false), before, a) = .next (s₁, before ++ o, rest) := by
        simp only [readOne] at hround
        simp only [readFrameStep, hne, Bool.false_eq_true, or_self, if_false]
        split at hround
        · next f rest' hdecode =>
          rw [hdecode]
          split_ifs at hround with hf <;> cases hround <;> simp [hf]
        · cases hround
      rw [Loop.returns_of_next hstep, ← List.append_assoc]
      exact ih _

/-- The calls of `readFrame`, one for each piece; the socket stays connected meanwhile. -/
def Reads (p : Platform) : List Data → Connection → Connection → List Call → Prop
  | [], c, c', calls => c' = c ∧ calls = []
  | piece :: pieces, c, c', calls =>
    ∃ c₁ o₁ o₂, c.ReadFrame p piece true (some (c₁, o₁)) ∧ Reads p pieces c₁ c' o₂ ∧ calls = o₁ ++ o₂

theorem Reads.unique {pieces : List Data} {c₁ c₂ : Connection} {o₁ o₂ : List Call} (h₁ : Reads p pieces c c₁ o₁)
    (h₂ : Reads p pieces c c₂ o₂) : c₂ = c₁ ∧ o₂ = o₁ := by
  induction pieces generalizing c o₁ o₂ with
  | nil => exact ⟨h₂.1.trans h₁.1.symm, h₂.2.trans h₁.2.symm⟩
  | cons piece pieces ih =>
    obtain ⟨_, _, _, hread, hrest, rfl⟩ := h₁
    obtain ⟨_, _, _, hread', hrest', rfl⟩ := h₂
    cases Loop.Returns.unique hread hread'
    obtain ⟨rfl, rfl⟩ := ih hrest hrest'
    exact ⟨rfl, rfl⟩

/-- One call of `readFrame` on data that is eaten. -/
theorem readFrame_of_eats (hs : Steady s) (h : Eats (readOne p) s data s' calls) :
    s.1.ReadFrame p data true (some (s'.1, calls)) := by
  obtain ⟨c, closed⟩ := s
  obtain ⟨htail, hconnected, hdisconnecting⟩ := hs
  simp only at htail hconnected hdisconnecting
  unfold ReadFrame readPacketFromNet
  rw [hconnected]
  cases closed with
  | false => simpa [htail] using returns_of_eats h []
  | true =>
    -- a socket that has been closed gives nothing more
    have hnothing : s' = (c, true) ∧ calls = [] := by
      by_cases hdata : data = []
      · subst hdata
        exact eats_nil_iff.mp h
      · obtain ⟨_, _, _, _, hround, hrest, rfl⟩ := (eats_iff hdata).mp h
        cases hround
        obtain ⟨rfl, rfl⟩ := eats_nil_iff.mp hrest
        exact ⟨rfl, rfl⟩
    obtain ⟨rfl, rfl⟩ := hnothing
    have hnil : Eats (readOne p) (c, false) [] (c, false) [] := .nil _
    simpa [htail, close, hdisconnecting] using returns_of_eats hnil []

theorem steady_readOne {rest : Data} (hs : Steady s) (h : readOne p s data = some (s', calls, rest)) : Steady s' := by
  obtain ⟨c, closed⟩ := s
  cases closed with
  | true =>
    cases h
    exact hs
  | false =>
    simp only [readOne] at h
    split at h
    · split_ifs at h <;> cases h
      · obtain ⟨htail, hconnected, hdisconnecting⟩ := steady_processFrame hs (p := p) (f := ‹Frame›)
        exact ⟨htail, hconnected, hdisconnecting⟩
      · exact ⟨hs.tail, hs.connected, hs.disconnecting⟩
    · cases h

theorem steady_eats (hs : Steady s) (h : Eats (readOne p) s data s' calls) : Steady s' := by
  induction h with
  | nil => exact hs
  | cons _ hround _ ih => exact ih (steady_readOne hs hround)

theorem reads_of_eatsAll {pieces : List Data} (hs : Steady s) (h : EatsAll (readOne p) pieces s s' calls) :
    Reads p pieces s.1 s'.1 calls := by
  induction pieces generalizing s calls with
  | nil =>
    obtain ⟨rfl, rfl⟩ := h
    exact ⟨rfl, rfl⟩
  | cons piece pieces ih =>
    obtain ⟨s₁, o₁, o₂, hpiece, hrest, rfl⟩ := h
    exact ⟨s₁.1, o₁, o₂, readFrame_of_eats hs hpiece, ih (steady_eats hs hpiece) hrest, rfl⟩

/-! ## Frames -/

/-- What becomes of the frames, up to the close frame. -/
def processFrames (p : Platform) : Connection × Bool → List Frame → (Connection × Bool) × List Call
  | s, [] => (s, [])
  | (c, true), _ => ((c, true), [])
  | (c, false), f :: frames =>
    let r := c.processFrame p f
    let q := processFrames p r.1 frames
    (q.1, r.2 ++ q.2)

theorem processFrames_closed (frames : List Frame) : processFrames p (c, true) frames = ((c, true), []) := by
  cases frames <;> rfl

theorem steady_processFrames (hs : Steady s) (frames : List Frame) : Steady (processFrames p s frames).1 := by
  induction frames generalizing s with
  | nil => exact hs
  | cons f frames ih =>
    obtain ⟨c, closed⟩ := s
    cases closed with
    | true => exact hs
    | false => exact ih (steady_processFrame hs)

/-- After `closed`, whatever comes is dropped. -/
theorem eats_closed (data : Data) : Eats (readOne p) (c, true) data (c, true) [] := by
  by_cases hdata : data = []
  · subst hdata
    exact .nil _
  · exact (eats_iff hdata).mpr ⟨_, [], [], [], rfl, .nil _, rfl⟩

theorem lastFrame_processFrame (h : c.lastFrame = none) : (c.processFrame p f).1.1.lastFrame = none := by
  have hc : { c with lastFrame := none } = c := by rw [← h]
  rw [← hc, processFrame_lastFrame]

/-- A whole frame. -/
theorem eats_frame (w : WireFrame) (hc : c.lastFrame = none)
    (h : Eats (readOne p) (c.processFrame p w.frame).1 data s' calls) :
    Eats (readOne p) (c, false) (w.bytes ++ data) s' ((c.processFrame p w.frame).2 ++ calls) := by
  have hnone : { (c.processFrame p w.frame).1.1 with lastFrame := none } = (c.processFrame p w.frame).1.1 := by
    rw [← lastFrame_processFrame hc]
  refine .cons (List.append_ne_nil_of_left_ne_nil (List.cons_ne_nil _ _) data) ?_ h
  simp only [readOne, hc, w.decode_bytes, w.isReady_frame, if_true, hnone]

/-- **A stream of frames.** -/
theorem eats_frames (ws : List WireFrame) (s : Connection × Bool) (hs : s.1.lastFrame = none) :
    Eats (readOne p) s (ws.flatMap (·.bytes)) (processFrames p s (ws.map (·.frame))).1
      (processFrames p s (ws.map (·.frame))).2 := by
  induction ws generalizing s with
  | nil => exact .nil s
  | cons w ws ih =>
    obtain ⟨c, closed⟩ := s
    cases closed with
    | true =>
      rw [processFrames_closed]
      exact eats_closed _
    | false => exact eats_frame w hs (ih _ (lastFrame_processFrame hs))

/-! ## Cuts -/

/-- The first `n` bytes of the frames end in a header. -/
def InHeader (ws : List WireFrame) (n : ℕ) : Prop :=
  ∃ before w after, ws = before ++ w :: after ∧ (before.flatMap (·.bytes)).length < n ∧
    n < (before.flatMap (·.bytes)).length + w.header.length

theorem not_inHeader_nil (n : ℕ) : ¬ InHeader [] n := by
  rintro ⟨before, w, after, h, -⟩
  cases before <;> cases h

theorem inHeader_cons_iff {w : WireFrame} {ws : List WireFrame} {n : ℕ} : InHeader (w :: ws) n ↔
    (0 < n ∧ n < w.header.length) ∨ (w.bytes.length ≤ n ∧ InHeader ws (n - w.bytes.length)) := by
  constructor
  · rintro ⟨before, v, after, h, hlow, hhigh⟩
    cases before with
    | nil =>
      cases h
      exact .inl ⟨by simpa using hlow, by simpa using hhigh⟩
    | cons u before =>
      cases h
      rw [List.flatMap_cons, List.length_append] at hlow hhigh
      exact .inr ⟨by omega, before, v, after, rfl, by omega, by omega⟩
  · rintro (⟨hlow, hhigh⟩ | ⟨hle, before, v, after, rfl, hlow, hhigh⟩)
    · exact ⟨[], w, ws, rfl, by simpa using hlow, by simpa using hhigh⟩
    · refine ⟨w :: before, v, after, rfl, ?_, ?_⟩ <;> rw [List.flatMap_cons, List.length_append] <;> omega

instance decidableInHeader : ∀ (ws : List WireFrame) (n : ℕ), Decidable (InHeader ws n)
  | [], n => isFalse (not_inHeader_nil n)
  | w :: ws, n =>
    have := decidableInHeader ws (n - w.bytes.length)
    decidable_of_iff' _ inHeader_cons_iff

/-- Where the pieces end, one after the other. -/
theorem cuts_of_inits {ws : List WireFrame} {pieces : List Data}
    (h : ∀ read ∈ pieces.inits, ¬ InHeader ws read.flatten.length) :
    ∀ read, read <+: pieces → ¬ InHeader ws read.flatten.length :=
  fun read hread => h read ((List.mem_inits read pieces).mpr hread)

/-- A frame whose payload has only begun. -/
theorem eats_part (w : WireFrame) {n : ℕ} (hhead : w.header.length ≤ n) (hlt : n < w.bytes.length)
    (hc : c.lastFrame = none) : ∃ c', Eats (readOne p) (c, false) (w.bytes.take n) (c', false) [] := by
  have htake : w.bytes.take n = w.header ++ w.body.take (n - w.header.length) := by
    rw [WireFrame.bytes, List.take_append, List.take_of_length_le hhead]
  have hshort : w.start.actualLength + (w.body.take (n - w.header.length)).length < w.start.payloadLength := by
    rw [WireFrame.bytes, List.length_append, w.length_body] at hlt
    rw [List.length_take, w.length_body]
    simp only [WireFrame.start]
    omega
  obtain ⟨hrest, hwaits, -⟩ := Frame.absorb_of_lt hshort []
  have hround : readOne p (c, false) (w.bytes.take n) =
      some (({ c with lastFrame := some (w.start.absorb (w.body.take (n - w.header.length))).1 }, false), [], []) := by
    simp only [readOne, hc, htake, w.decode_header, hrest, hwaits, if_false, Bool.false_eq_true]
  have hne : w.bytes.take n ≠ [] := by
    rw [htake]
    exact List.append_ne_nil_of_left_ne_nil (List.cons_ne_nil _ _) _
  exact ⟨_, (eats_iff hne).mpr ⟨_, [], [], [], hround, .nil _, rfl⟩⟩

/-- What does not end in a header can be read. -/
theorem eats_take (ws : List WireFrame) {s : Connection × Bool} (hs : s.1.lastFrame = none) {n : ℕ}
    (hcut : ¬ InHeader ws n) : ∃ s' o, Eats (readOne p) s ((ws.flatMap (·.bytes)).take n) s' o := by
  induction ws generalizing s n with
  | nil => exact ⟨s, [], by simpa using Eats.nil s⟩
  | cons w ws ih =>
    obtain ⟨c, closed⟩ := s
    rw [List.flatMap_cons]
    cases closed with
    | true => exact ⟨_, _, eats_closed _⟩
    | false =>
      rcases Nat.eq_zero_or_pos n with rfl | hpos
      · exact ⟨_, _, by simpa using Eats.nil (c, false)⟩
      · rcases Nat.lt_or_ge n w.bytes.length with hlt | hge
        · have hhead : w.header.length ≤ n := by
            by_contra hinside
            exact hcut (inHeader_cons_iff.mpr (.inl ⟨hpos, Nat.lt_of_not_le hinside⟩))
          obtain ⟨c', h⟩ := eats_part w hhead hlt hs
          exact ⟨_, _, by rwa [List.take_append_of_le_length (Nat.le_of_lt hlt)]⟩
        · obtain ⟨m, rfl⟩ := Nat.exists_eq_add_of_le hge
          have hrest : ¬ InHeader ws m := by
            intro hin
            exact hcut (inHeader_cons_iff.mpr (.inr ⟨hge, by rwa [Nat.add_sub_cancel_left]⟩))
          obtain ⟨s', o, h⟩ := ih (lastFrame_processFrame hs) hrest
          exact ⟨s', _, by simpa only [List.take_length_add_append] using eats_frame w hs h⟩

/-- **Where the pieces end makes no difference**, as long as none of them ends in a header: the connection and the
calls are those that the frames make. -/
theorem reads_iff (ws : List WireFrame) {pieces : List Data} (hflat : pieces.flatten = ws.flatMap (·.bytes))
    (hcuts : ∀ read, read <+: pieces → ¬ InHeader ws read.flatten.length) (hs : Steady (c, false))
    (hc : c.lastFrame = none) : Reads p pieces c c' calls ↔
      c' = (processFrames p (c, false) (ws.map (·.frame))).1.1 ∧
        calls = (processFrames p (c, false) (ws.map (·.frame))).2 := by
  have hpre : ∀ read, read <+: pieces → ∃ s' o, Eats (readOne p) (c, false) read.flatten s' o := by
    rintro read ⟨more, rfl⟩
    have htake : read.flatten = (ws.flatMap (·.bytes)).take read.flatten.length := by
      rw [← hflat, List.flatten_append, List.take_left]
    rw [htake]
    exact eats_take ws hc (hcuts read (List.prefix_append read more))
  have hall := reads_of_eatsAll hs ((eatsAll_iff resumes hpre).mpr (hflat ▸ eats_frames ws (c, false) hc))
  constructor
  · exact fun h => hall.unique h
  · rintro ⟨rfl, rfl⟩
    exact hall

/-! ## A piece that ends in a header -/

theorem readFrameStep_frame (w : WireFrame) (hc : c.lastFrame = none) (before : List Call) (data : Data) :
    readFrameStep p ((c, false), before, w.bytes ++ data) =
      .next ((c.processFrame p w.frame).1, before ++ (c.processFrame p w.frame).2, data) := by
  have hne : w.bytes ++ data ≠ [] := List.append_ne_nil_of_left_ne_nil (List.cons_ne_nil _ _) data
  have hnone : { (c.processFrame p w.frame).1.1 with lastFrame := none } = (c.processFrame p w.frame).1.1 := by
    rw [← lastFrame_processFrame hc]
  simp only [readFrameStep, hne, hc, w.decode_bytes, w.isReady_frame, Bool.false_eq_true, or_self, if_false, if_true,
    hnone]

/-- The loop gets to what stands behind the frames. -/
theorem returns_frames (ws : List WireFrame) (hclose : ∀ w ∈ ws, w.opcode ≠ Opcode.closeFrame)
    (hc : c.lastFrame = none) (before : List Call) (data : Data) {r : Option (Connection × List Call)} :
    Loop.Returns (readFrameStep p) ((c, false), before, ws.flatMap (·.bytes) ++ data) r ↔
      Loop.Returns (readFrameStep p) (((processFrames p (c, false) (ws.map (·.frame))).1.1, false),
        before ++ (processFrames p (c, false) (ws.map (·.frame))).2, data) r := by
  induction ws generalizing c before with
  | nil => simp [processFrames]
  | cons w ws ih =>
    obtain ⟨hw, hclose⟩ := List.forall_mem_cons.mp hclose
    have hclosed : (c.processFrame p w.frame).1.2 = false := by
      unfold processFrame
      split
      · exact beq_false_of_ne hw
      · rfl
    have hstate : (c.processFrame p w.frame).1 = ((c.processFrame p w.frame).1.1, false) := by rw [← hclosed]
    rw [List.flatMap_cons, List.append_assoc, Loop.returns_of_next (readFrameStep_frame w hc before _), hstate,
      ih hclose (lastFrame_processFrame hc), List.map_cons, processFrames, ← hstate]
    simp only [List.append_assoc]

theorem unpack_of_short {k offset : ℕ} (h : data.length < offset + k) : unpack k data offset = none :=
  if_neg (Nat.not_le_of_lt h)

/-- What `decode` makes of a header that is cut, when there is no key in it. -/
theorem decode_cut (w : WireFrame) (hkey : w.key = none) {m : ℕ} (hpos : 0 < m) (hcut : m < w.header.length) :
    Frame.decode (w.header.take m) none = if m = 1 then .insufficient else .outOfRange := by
  have hheader : w.header = w.firstByte :: w.secondByte :: w.form.more w.payload.length := by
    simp [WireFrame.header, hkey]
  obtain ⟨-, -, -, -, -, -, hbits⟩ := w.bits_header
  have hlen : (w.header.take m).length = m := List.length_take_of_le (Nat.le_of_lt hcut)
  obtain ⟨m, rfl⟩ : ∃ k, m = k + 1 := ⟨m - 1, by omega⟩
  cases m with
  | zero => simp [hheader, Frame.decode]
  | succ m =>
    -- the length stands behind the two bytes, and is cut
    have hnone : Frame.decodeLength (w.header.take (m + 1 + 1)) (w.form.bits w.payload.length) = none := by
      rw [hheader] at hcut
      cases hform : w.form with
      | short =>
        simp only [hform, LengthForm.more, List.length_cons, List.length_nil] at hcut
        omega
      | two =>
        simp only [hform, LengthForm.more, List.length_cons, length_pack] at hcut
        have hunpack : unpack 2 (w.header.take (m + 1 + 1)) 2 = none := unpack_of_short (by omega)
        simp [Frame.decodeLength, LengthForm.bits, hunpack]
      | eight =>
        simp only [hform, LengthForm.more, List.length_cons, List.length_append, length_pack] at hcut
        have hunpack : unpack 4 (w.header.take (m + 1 + 1)) 6 = none := unpack_of_short (by omega)
        simp [Frame.decodeLength, LengthForm.bits, hunpack]
    have hdata : w.header.take (m + 1 + 1) =
        w.firstByte :: w.secondByte :: (w.form.more w.payload.length).take m := by
      rw [hheader, List.take_succ_cons, List.take_succ_cons]
    rw [hdata] at hnone ⊢
    simp [Frame.decode, Frame.decodeHeader, hbits, hnone]

theorem lastFrame_processFrames (hs : s.1.lastFrame = none) (frames : List Frame) :
    (processFrames p s frames).1.1.lastFrame = none := by
  induction frames generalizing s with
  | nil => exact hs
  | cons f frames ih =>
    obtain ⟨c, closed⟩ := s
    cases closed with
    | true => exact hs
    | false => exact ih (lastFrame_processFrame hs)

/-- **A piece that ends in a header**: one byte of it is thrown away, and with two or more the program stops. -/
theorem header_cut (ws : List WireFrame) (hclose : ∀ w ∈ ws, w.opcode ≠ Opcode.closeFrame) (hs : Steady (c, false))
    (hc : c.lastFrame = none) (w : WireFrame) (hkey : w.key = none) {m : ℕ} (hpos : 0 < m) (hcut : m < w.header.length)
    (r : Option (Connection × List Call)) :
    c.ReadFrame p (ws.flatMap (·.bytes) ++ w.header.take m) true r ↔
      r = if m = 1 then
        some ((processFrames p (c, false) (ws.map (·.frame))).1.1, (processFrames p (c, false) (ws.map (·.frame))).2)
      else none := by
  have htail : c.tail = [] := hs.tail
  have hconnected : c.socket.connected = true := hs.connected
  have hread : c.readPacketFromNet (ws.flatMap (·.bytes) ++ w.header.take m) true =
      ((c, []), ws.flatMap (·.bytes) ++ w.header.take m) := by simp [readPacketFromNet, hconnected]
  have hne : w.header.take m ≠ [] := by
    simp only [ne_eq, List.take_eq_nil_iff, not_or]
    exact ⟨Nat.ne_of_gt hpos, List.cons_ne_nil _ _⟩
  unfold ReadFrame
  simp only [htail, if_true, hread, returns_frames ws hclose hc, List.nil_append]
  have hlast : (processFrames p (c, false) (ws.map (·.frame))).1.1.lastFrame = none := lastFrame_processFrames hc _
  generalize processFrames p (c, false) (ws.map (·.frame)) = q at hlast ⊢
  have hdone : readFrameStep p ((q.1.1, false), q.2, w.header.take m) =
      .done (if m = 1 then some (q.1.1, q.2) else none) := by
    simp only [readFrameStep, hne, hlast, decode_cut w hkey hpos hcut, Bool.false_eq_true, or_self, if_false]
    split_ifs <;> rfl
  constructor
  · exact fun h => Loop.Returns.unique h (Loop.returns_of_done hdone)
  · rintro rfl
    exact Loop.returns_of_done hdone

/-- A text whose length stands in two bytes, of which only one has come. -/
theorem header_cut_length :
    ({} : Connection).ReadFrame ⟨fun _ => [], fun _ => none, fun _ => 0⟩
      ((⟨true, false, false, false, Opcode.textFrame, none, .two, [0x68], by decide, by decide,
        by decide⟩ : WireFrame).header.take 3) true none :=
  (header_cut [] (by decide) ⟨rfl, rfl, rfl⟩ rfl
    ⟨true, false, false, false, Opcode.textFrame, none, .two, [0x68], by decide, by decide, by decide⟩ rfl (m := 3)
    (by decide) (by decide) none).mpr rfl

end Connection

end NautilusMt5.WebSocket
