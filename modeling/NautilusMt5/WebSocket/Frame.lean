import NautilusMt5.Lib.Bytes

/-!
# Frames of a WebSocket (`WebSocket/frame.mqh`, `WebSocket/tools.mqh`)

`WebSocketFrame::encode` and `WebSocketFrame::decode`. A `uint` is a number below `2 ^ 32`; `MathSwap` turns the order
of its bytes, since in memory the lowest comes first and on the wire the highest.

A `WireFrame` is a frame as it stands on the wire. Decoding its header (`decode_header`) gives a frame without payload
(`start`), and from then on bytes are absorbed until it has its length (`absorb_append`, `absorb_body`).
`decode_encode`: what is encoded is decoded.
-/

namespace NautilusMt5.WebSocket

open Bytes

/-- `uchar data[]`. -/
abbrev Data := List UInt8

/-! ## Numbers on the wire -/

/-- `MathSwap` of a number of `k` bytes. -/
def mathSwap (k n : ℕ) : ℕ := ofLE (le k n).reverse

/-- `pack2` and `pack4`. -/
def pack (k n : ℕ) : Data := le k (mathSwap k n)

/-- `unpack2` and `unpack4`; `none` when `data` has no such elements, which stops the program. -/
def unpack (k : ℕ) (data : Data) (offset : ℕ) : Option ℕ :=
  if offset + k ≤ data.length then some (mathSwap k (ofLE ((data.drop offset).take k))) else none

/-! ## Frames -/

/-- `WS_FRAME_OPCODE`; a frame that is received may have any opcode below 16. -/
abbrev Opcode := UInt8

namespace Opcode

def continuationFrame : Opcode := 0x00
def textFrame : Opcode := 0x01
def binaryFrame : Opcode := 0x02
def closeFrame : Opcode := 0x08
def pingFrame : Opcode := 0x09
def pongFrame : Opcode := 0x0A

end Opcode

/-- `WebSocketFrame`. -/
structure Frame where
  fin : Bool := true
  rsv1 : Bool := false
  rsv2 : Bool := false
  rsv3 : Bool := false
  opcode : Opcode
  /-- `WS_APP_TYPE` is that of a client. -/
  mask : Bool := true
  payloadLength : ℕ := 0
  maskingKey : ℕ := 0
  payloadData : Data := []
  actualLength : ℕ := 0
  deriving DecidableEq, Repr

/-- `IsBitSet`. -/
def isBitSet (byte : UInt8) (pos : ℕ) : Bool := 0 < byte.toNat &&& 1 <<< pos

/-- `rotMask`. -/
def rotMask (data : Data) (key offset : ℕ) : Data := Bytes.mask (fun j => (le 4 key).getD (j % 4) 0) offset data

namespace Frame

/-- `create` of a frame with these bytes. -/
def create (type : Opcode) (data : Data) : Frame :=
  { opcode := type, payloadData := data, payloadLength := data.length }

/-- `isReady`. -/
def isReady (f : Frame) : Bool := f.payloadLength ≤ f.actualLength

/-- `isControlFrame`. -/
def isControlFrame (f : Frame) : Bool := Opcode.closeFrame ≤ f.opcode

/-- `encode`, with the key that `rand` gave: the bytes, and the frame, whose payload is masked where it stands. -/
def encode (f : Frame) (key : ℕ) : Data × Frame :=
  let payloadLength := f.payloadData.length
  let firstByte := f.opcode +
    UInt8.ofNat (f.fin.toNat * 128 + f.rsv1.toNat * 64 + f.rsv2.toNat * 32 + f.rsv3.toNat * 16)
  let maskBit := UInt8.ofNat (f.mask.toNat * 128)
  let lengthBytes :=
    if payloadLength ≤ 125 then [UInt8.ofNat payloadLength + maskBit]
    else if payloadLength ≤ 255 * 255 - 1 then (126 + maskBit) :: pack 2 payloadLength
    else (127 + maskBit) :: (pack 4 0 ++ pack 4 payloadLength)
  let payloadData := if f.mask then rotMask f.payloadData (mathSwap 4 key) 0 else f.payloadData
  (firstByte :: (lengthBytes ++ ((if f.mask then pack 4 key else []) ++ payloadData)),
    { f with payloadLength, payloadData })

/-- The second half of `decode`: what the frame takes of `data`, and what is left. -/
def absorb (f : Frame) (data : Data) : Frame × Data :=
  let fullLength := min (f.payloadLength - f.actualLength) data.length
  let frameData := data.take fullLength
  ({ f with
      actualLength := f.actualLength + fullLength
      payloadData := f.payloadData ++ if f.mask then rotMask frameData f.maskingKey f.actualLength else frameData },
    data.drop fullLength)

/-- The length of the payload, and where the header goes on. -/
def decodeLength (data : Data) (len : ℕ) : Option (ℕ × ℕ) :=
  if len ≤ 125 then some (len, 2)
  else if len = 126 then (unpack 2 data 2).map fun n => (n, 4)
  else do
    let h ← unpack 4 data 2
    let l ← unpack 4 data 6
    some ((l + h * 0x0100000000) % 2 ^ 32, 10)

/-- The frame that the header gives, and how many bytes it has; `none` when it ends behind `data`. -/
def decodeHeader (data : Data) (firstByte secondByte : UInt8) : Option (Frame × ℕ) :=
  match decodeLength data (secondByte &&& ~~~128).toNat with
  | none => none
  | some (payloadLength, consumed) =>
    let mask := isBitSet secondByte 7
    let frame : Frame :=
      { fin := isBitSet firstByte 7
        rsv1 := isBitSet firstByte 6
        rsv2 := isBitSet firstByte 5
        rsv3 := isBitSet firstByte 4
        opcode := firstByte &&& 0x0F
        mask
        payloadLength
        maskingKey := if mask then ofLE ((data.drop consumed).take 4) else 0 }
    let consumed := if mask then consumed + 4 else consumed
    if data.length < consumed then none else some (frame, consumed)

/-- What `decode` makes of `data`. -/
inductive Decoded
  /-- It returns `NULL`. -/
  | insufficient
  /-- It reads behind the end of `data`, which stops the program. Where only the key ends behind it, the lengths go
  below zero instead; what happens then is left open. -/
  | outOfRange
  | frame (f : Frame) (rest : Data)
  deriving DecidableEq, Repr

/-- `decode`: `head` is the frame that waits for more. -/
def decode (data : Data) (head : Option Frame) : Decoded :=
  match head, data with
  | some f, data => .frame (f.absorb data).1 (f.absorb data).2
  | none, firstByte :: secondByte :: more =>
    let data := firstByte :: secondByte :: more
    match decodeHeader data firstByte secondByte with
    | none => .outOfRange
    | some (f, consumed) => .frame (f.absorb (data.drop consumed)).1 (f.absorb (data.drop consumed)).2
  | none, _ => .insufficient

/-- `isReady`, as a bound. -/
theorem isReady_iff {f : Frame} : f.isReady ↔ f.payloadLength ≤ f.actualLength := decide_eq_true_iff

end Frame

/-! ## Numbers -/

theorem pack_eq (k n : ℕ) : pack k n = (le k n).reverse := by
  have hlen : (le k n).reverse.length = k := by rw [List.length_reverse, length_le]
  rw [pack, mathSwap, le_ofLE_of_length hlen]

@[simp] theorem length_pack (k n : ℕ) : (pack k n).length = k := by rw [pack, length_le]

theorem ofLE_pack (k n : ℕ) : ofLE (pack k n) = mathSwap k n := by
  have hlt := ofLE_lt (le k n).reverse
  rw [List.length_reverse, length_le] at hlt
  rw [pack, mathSwap, ofLE_le_of_lt hlt]

theorem mathSwap_ofLE_pack (k n : ℕ) : mathSwap k (ofLE (pack k n)) = n % 256 ^ k := by
  rw [mathSwap, le_ofLE_of_length (length_pack k n), pack_eq, List.reverse_reverse, ofLE_le]

/-- What is packed is unpacked. -/
theorem unpack_append {k n offset : ℕ} (hn : n < 256 ^ k) {before : Data} (hbefore : before.length = offset)
    (after : Data) : unpack k (before ++ (pack k n ++ after)) offset = some n := by
  subst hbefore
  have hroom : before.length + k ≤ (before ++ (pack k n ++ after)).length := by
    simp only [List.length_append, length_pack]
    omega
  rw [unpack, if_pos hroom, List.drop_left, List.take_left' (length_pack k n), mathSwap_ofLE_pack,
    Nat.mod_eq_of_lt hn]

/-! ## Masks -/

theorem rotMask_rotMask (data : Data) (key offset : ℕ) : rotMask (rotMask data key offset) key offset = data :=
  mask_mask _ offset data

theorem rotMask_append (a b : Data) (key offset : ℕ) :
    rotMask (a ++ b) key offset = rotMask a key offset ++ rotMask b key (offset + a.length) :=
  mask_append _ offset a b

@[simp] theorem length_rotMask (data : Data) (key offset : ℕ) : (rotMask data key offset).length = data.length :=
  length_mask _ offset data

/-! ## Frames on the wire -/

/-- How the length of a payload is written. -/
inductive LengthForm
  | short
  | two
  | eight
  deriving DecidableEq, Repr

namespace LengthForm

/-- The form holds lengths below this. -/
def bound : LengthForm → ℕ
  | .short => 126
  | .two => 2 ^ 16
  | .eight => 2 ^ 32

/-- The seven bits of the second byte. -/
def bits : LengthForm → ℕ → ℕ
  | .short, n => n
  | .two, _ => 126
  | .eight, _ => 127

/-- The bytes after the second. -/
def more : LengthForm → ℕ → Data
  | .short, _ => []
  | .two, n => pack 2 n
  | .eight, n => pack 4 0 ++ pack 4 n

theorem bits_lt {form : LengthForm} {n : ℕ} (h : n < form.bound) : form.bits n < 128 := by
  cases form with
  | short => exact Nat.lt_trans h (by decide)
  | two => exact (by decide : 126 < 128)
  | eight => exact (by decide : 127 < 128)

end LengthForm

/-- A frame on the wire. -/
structure WireFrame where
  fin : Bool
  rsv1 : Bool := false
  rsv2 : Bool := false
  rsv3 : Bool := false
  opcode : Opcode
  key : Option Data := none
  form : LengthForm
  payload : Data
  opcode_lt : opcode < 16
  length_key : ∀ k ∈ key, k.length = 4
  fits : payload.length < form.bound

namespace WireFrame

/-- The first byte. -/
def firstByte (w : WireFrame) : UInt8 :=
  w.opcode + UInt8.ofNat (w.fin.toNat * 128 + w.rsv1.toNat * 64 + w.rsv2.toNat * 32 + w.rsv3.toNat * 16)

/-- The second byte. -/
def secondByte (w : WireFrame) : UInt8 :=
  UInt8.ofNat (w.form.bits w.payload.length) + UInt8.ofNat (w.key.isSome.toNat * 128)

/-- All that stands before the payload. -/
def header (w : WireFrame) : Data :=
  w.firstByte :: w.secondByte :: (w.form.more w.payload.length ++ w.key.getD [])

/-- The key as the code keeps it. -/
def maskingKey (w : WireFrame) : ℕ := ofLE (w.key.getD [])

/-- The payload as it stands on the wire. -/
def body (w : WireFrame) : Data := if w.key.isSome then rotMask w.payload w.maskingKey 0 else w.payload

def bytes (w : WireFrame) : Data := w.header ++ w.body

/-- The frame when its header has been read. -/
def start (w : WireFrame) : Frame where
  fin := w.fin
  rsv1 := w.rsv1
  rsv2 := w.rsv2
  rsv3 := w.rsv3
  opcode := w.opcode
  mask := w.key.isSome
  payloadLength := w.payload.length
  maskingKey := w.maskingKey

/-- The frame when all of it has been read. -/
def frame (w : WireFrame) : Frame := { w.start with payloadData := w.payload, actualLength := w.payload.length }

end WireFrame

/-! ## The header -/

/-- The first byte keeps what it was made of. -/
theorem bits_firstByte : ∀ (fin rsv1 rsv2 rsv3 : Bool) (opcode : Fin 16),
    let b := UInt8.ofNat opcode + UInt8.ofNat (fin.toNat * 128 + rsv1.toNat * 64 + rsv2.toNat * 32 + rsv3.toNat * 16)
    isBitSet b 7 = fin ∧ isBitSet b 6 = rsv1 ∧ isBitSet b 5 = rsv2 ∧ isBitSet b 4 = rsv3 ∧
      b &&& 0x0F = UInt8.ofNat opcode := by
  decide

/-- The second byte keeps the seven bits and the bit of the mask. -/
theorem bits_secondByte : ∀ (bits : Fin 128) (mask : Bool),
    let b := UInt8.ofNat bits + UInt8.ofNat (mask.toNat * 128)
    isBitSet b 7 = mask ∧ (b &&& ~~~128).toNat = bits := by
  decide

namespace WireFrame

variable (w : WireFrame)

/-- No payload has more than 32 bits of length. -/
theorem payload_lt : w.payload.length < 2 ^ 32 := by
  have hbound : w.form.bound ≤ 2 ^ 32 := by cases w.form <;> decide
  exact Nat.lt_of_lt_of_le w.fits hbound

theorem bits_header :
    isBitSet w.firstByte 7 = w.fin ∧ isBitSet w.firstByte 6 = w.rsv1 ∧ isBitSet w.firstByte 5 = w.rsv2 ∧
      isBitSet w.firstByte 4 = w.rsv3 ∧ w.firstByte &&& 0x0F = w.opcode ∧ isBitSet w.secondByte 7 = w.key.isSome ∧
      (w.secondByte &&& ~~~128).toNat = w.form.bits w.payload.length := by
  have hop : UInt8.ofNat w.opcode.toNat = w.opcode := UInt8.ofNat_toNat
  obtain ⟨hfin, hrsv1, hrsv2, hrsv3, hopcode⟩ :=
    bits_firstByte w.fin w.rsv1 w.rsv2 w.rsv3 ⟨w.opcode.toNat, w.opcode_lt⟩
  obtain ⟨hmask, hbits⟩ := bits_secondByte ⟨_, LengthForm.bits_lt w.fits⟩ w.key.isSome
  simp only [hop] at hfin hrsv1 hrsv2 hrsv3 hopcode
  exact ⟨hfin, hrsv1, hrsv2, hrsv3, hopcode, hmask, hbits⟩

theorem decodeLength_header (data : Data) :
    Frame.decodeLength (w.header ++ data) (w.form.bits w.payload.length) =
      some (w.payload.length, 2 + (w.form.more w.payload.length).length) := by
  have hfits := w.fits
  have hhead : w.header ++ data =
      [w.firstByte, w.secondByte] ++ (w.form.more w.payload.length ++ (w.key.getD [] ++ data)) := by simp [header]
  rw [hhead, Frame.decodeLength]
  have hbefore : [w.firstByte, w.secondByte].length = 2 := rfl
  generalize [w.firstByte, w.secondByte] = before at hbefore ⊢
  generalize w.key.getD [] ++ data = after
  cases hform : w.form with
  | short =>
    rw [hform] at hfits
    exact if_pos (Nat.le_of_lt_succ hfits)
  | two =>
    rw [hform] at hfits
    have hunpack : unpack 2 (before ++ (pack 2 w.payload.length ++ after)) 2 = some w.payload.length :=
      unpack_append hfits hbefore after
    simp [LengthForm.more, LengthForm.bits, hunpack]
  | eight =>
    rw [hform] at hfits
    have hhigh : unpack 4 (before ++ (pack 4 0 ++ (pack 4 w.payload.length ++ after))) 2 = some 0 :=
      unpack_append (by decide) hbefore _
    have hlow : unpack 4 ((before ++ pack 4 0) ++ (pack 4 w.payload.length ++ after)) 6 = some w.payload.length :=
      unpack_append hfits (by simp [hbefore]) after
    rw [List.append_assoc] at hlow
    have hlt : w.payload.length < 2 ^ 32 := hfits
    have hmod : w.payload.length % 2 ^ 32 = w.payload.length := Nat.mod_eq_of_lt hlt
    simpa [LengthForm.more, LengthForm.bits, hhigh, hlow] using hmod

/-- A header that has been read leaves the frame without payload, which takes what it can of the rest. -/
theorem decode_header (data : Data) :
    Frame.decode (w.header ++ data) none = .frame (w.start.absorb data).1 (w.start.absorb data).2 := by
  obtain ⟨hfin, hrsv1, hrsv2, hrsv3, hopcode, hmask, hbits⟩ := w.bits_header
  have hlength := w.decodeLength_header data
  have hdata : w.header ++ data =
      w.firstByte :: w.secondByte :: (w.form.more w.payload.length ++ w.key.getD [] ++ data) := rfl
  have hskip : (w.header ++ data).drop (2 + (w.form.more w.payload.length).length) = w.key.getD [] ++ data := by
    rw [hdata, Nat.add_comm, List.drop_succ_cons, List.drop_succ_cons, List.append_assoc, List.drop_left]
  have hroom : (w.header ++ data).length =
      2 + (w.form.more w.payload.length).length + ((w.key.getD []).length + data.length) := by
    simp only [hdata, List.length_cons, List.length_append]
    omega
  rw [hdata] at hlength hskip hroom ⊢
  rw [Frame.decode, Frame.decodeHeader]
  simp only [hbits, hlength, hfin, hrsv1, hrsv2, hrsv3, hopcode, hmask]
  generalize w.firstByte :: w.secondByte :: (w.form.more w.payload.length ++ w.key.getD [] ++ data) = stream
    at hskip hroom ⊢
  generalize 2 + (w.form.more w.payload.length).length = consumed at hskip hroom ⊢
  cases hk : w.key with
  | none =>
    have hstart : w.start = ⟨w.fin, w.rsv1, w.rsv2, w.rsv3, w.opcode, false, w.payload.length, 0, [], 0⟩ := by
      simp [start, maskingKey, hk, ofLE]
    have hle : ¬ stream.length < consumed := by omega
    simp only [hk, Option.getD_none, List.nil_append] at hskip
    simp [hstart, hskip, hle]
  | some k =>
    have hk4 : k.length = 4 := w.length_key k hk
    have hstart : w.start = ⟨w.fin, w.rsv1, w.rsv2, w.rsv3, w.opcode, true, w.payload.length, ofLE k, [], 0⟩ := by
      simp [start, maskingKey, hk]
    simp only [hk, Option.getD_some, hk4] at hskip hroom
    have hle : ¬ stream.length < consumed + 4 := by omega
    have hrest : stream.drop (consumed + 4) = data := by
      rw [← List.drop_drop, hskip, List.drop_left' hk4]
    simp [hstart, hskip, hle, hrest, List.take_left' hk4]

end WireFrame

/-! ## The payload -/

namespace Frame

variable {f : Frame} {a : Data}

/-- A frame that has no end in `a` takes all of it. -/
theorem absorb_of_lt (h : f.actualLength + a.length < f.payloadLength) (b : Data) :
    (f.absorb a).2 = [] ∧ ¬ (f.absorb a).1.isReady ∧ f.absorb (a ++ b) = (f.absorb a).1.absorb b := by
  have hall : min (f.payloadLength - f.actualLength) a.length = a.length := by omega
  have hrest : min (f.payloadLength - f.actualLength) (a.length + b.length) =
      a.length + min (f.payloadLength - (f.actualLength + a.length)) b.length := by omega
  refine ⟨?_, ?_, ?_⟩
  · simp [absorb]
    omega
  · simp only [absorb, isReady, hall, decide_eq_true_eq, not_le]
    exact h
  · have htake : (a ++ b).take (a.length + min (f.payloadLength - (f.actualLength + a.length)) b.length) =
        a ++ b.take (min (f.payloadLength - (f.actualLength + a.length)) b.length) := List.take_length_add_append _
    have hdrop : (a ++ b).drop (a.length + min (f.payloadLength - (f.actualLength + a.length)) b.length) =
        b.drop (min (f.payloadLength - (f.actualLength + a.length)) b.length) := List.drop_length_add_append _
    simp only [absorb, hall, List.length_append, hrest, List.take_length, htake, hdrop]
    cases f.mask with
    | false => simp [Nat.add_assoc]
    | true => simp [rotMask_append, Nat.add_assoc]

/-- A frame that has its end in `a` leaves the rest. -/
theorem absorb_of_le (h : f.payloadLength ≤ f.actualLength + a.length) (b : Data) :
    f.absorb (a ++ b) = ((f.absorb a).1, (f.absorb a).2 ++ b) := by
  have hle : f.payloadLength - f.actualLength ≤ a.length := by omega
  have hboth : min (f.payloadLength - f.actualLength) (a.length + b.length) =
      min (f.payloadLength - f.actualLength) a.length := by omega
  have hmin : min (f.payloadLength - f.actualLength) a.length ≤ a.length := Nat.min_le_right _ _
  simp only [absorb, List.length_append, hboth, List.take_append_of_le_length hmin,
    List.drop_append_of_le_length hmin]

theorem isReady_absorb (f : Frame) (a : Data) :
    (f.absorb a).1.isReady ↔ f.payloadLength ≤ f.actualLength + a.length := by
  rw [isReady_iff]
  simp only [absorb]
  omega

/-! ## More data -/

variable {b : Data} {rest : Data} {head : Option Frame}

theorem take_drop_append {n k : ℕ} (h : n + k ≤ a.length) (b : Data) :
    ((a ++ b).drop n).take k = (a.drop n).take k := by
  have hk : k ≤ (a.drop n).length := by
    rw [List.length_drop]
    omega
  rw [List.drop_append_of_le_length (by omega), List.take_append_of_le_length hk]

theorem unpack_append_right {k n offset : ℕ} (h : unpack k a offset = some n) (b : Data) :
    unpack k (a ++ b) offset = some n := by
  unfold unpack at h ⊢
  split_ifs at h with hroom
  have hroom' : offset + k ≤ (a ++ b).length := by
    rw [List.length_append]
    omega
  rw [if_pos hroom', take_drop_append hroom, h]

theorem decodeLength_append {len : ℕ} {r : ℕ × ℕ} (h : decodeLength a len = some r) (b : Data) :
    decodeLength (a ++ b) len = some r := by
  unfold decodeLength at h ⊢
  split_ifs at h ⊢
  · exact h
  · obtain ⟨n, hn, rfl⟩ := Option.map_eq_some_iff.mp h
    rw [unpack_append_right hn]
    rfl
  · obtain ⟨high, hhigh, hrest⟩ := Option.bind_eq_some_iff.mp h
    obtain ⟨low, hlow, hr⟩ := Option.bind_eq_some_iff.mp hrest
    simp only [unpack_append_right hhigh, unpack_append_right hlow, Option.bind_eq_bind, Option.bind_some]
    exact hr

/-- The payload that is read with more behind it. -/
theorem absorb_append (f : Frame) (a b : Data) :
    ((f.absorb a).1.isReady → f.absorb (a ++ b) = ((f.absorb a).1, (f.absorb a).2 ++ b)) ∧
      (¬ (f.absorb a).1.isReady → (f.absorb a).2 = [] ∧ f.absorb (a ++ b) = (f.absorb a).1.absorb b) := by
  rw [isReady_absorb]
  refine ⟨fun h => absorb_of_le h b, fun h => ?_⟩
  obtain ⟨hrest, -, happend⟩ := absorb_of_lt (Nat.lt_of_not_le h) b
  exact ⟨hrest, happend⟩

theorem decodeHeader_append {firstByte secondByte : UInt8} {consumed : ℕ}
    (h : decodeHeader a firstByte secondByte = some (f, consumed)) (b : Data) :
    decodeHeader (a ++ b) firstByte secondByte = some (f, consumed) ∧ consumed ≤ a.length := by
  unfold decodeHeader at h ⊢
  cases hlength : decodeLength a (secondByte &&& ~~~128).toNat with
  | none =>
    rw [hlength] at h
    cases h
  | some r =>
    rw [hlength] at h
    rw [decodeLength_append hlength b]
    cases hmask : isBitSet secondByte 7 with
    | false =>
      simp only [hmask, Bool.false_eq_true, if_false] at h ⊢
      split_ifs at h with hroom
      cases h
      have hle : ¬ (a ++ b).length < r.2 := by
        rw [List.length_append]
        omega
      exact ⟨if_neg hle, Nat.le_of_not_lt hroom⟩
    | true =>
      simp only [hmask, if_true] at h ⊢
      split_ifs at h with hroom
      cases h
      have hkey : r.2 + 4 ≤ a.length := Nat.le_of_not_lt hroom
      have hle : ¬ (a ++ b).length < r.2 + 4 := by
        rw [List.length_append]
        omega
      rw [if_neg hle, take_drop_append hkey]
      exact ⟨rfl, hkey⟩

/-- **More data behind what has been decoded** is left behind a frame that is ready, and absorbed by one that is not. -/
theorem decode_append (h : decode a head = .frame f rest) (b : Data) :
    (f.isReady → decode (a ++ b) head = .frame f (rest ++ b)) ∧
      (¬ f.isReady → rest = [] ∧ decode (a ++ b) head = .frame (f.absorb b).1 (f.absorb b).2) := by
  -- both halves of `decode` end by absorbing: `g` takes `c` here, and `c ++ b` with more data
  have hrule : ∀ (g : Frame) (c : Data), decode a head = .frame (g.absorb c).1 (g.absorb c).2 →
      decode (a ++ b) head = .frame (g.absorb (c ++ b)).1 (g.absorb (c ++ b)).2 →
      (f.isReady → decode (a ++ b) head = .frame f (rest ++ b)) ∧
        (¬ f.isReady → rest = [] ∧ decode (a ++ b) head = .frame (f.absorb b).1 (f.absorb b).2) := by
    intro g c hshort hlong
    rw [hshort, Decoded.frame.injEq] at h
    obtain ⟨rfl, rfl⟩ := h
    obtain ⟨hready, hwaits⟩ := absorb_append g c b
    rw [hlong]
    refine ⟨fun hf => by rw [hready hf], fun hf => ?_⟩
    rw [(hwaits hf).2]
    exact ⟨(hwaits hf).1, rfl⟩
  cases head with
  | some g => exact hrule g a rfl rfl
  | none =>
    rcases a with _ | ⟨firstByte, _ | ⟨secondByte, more⟩⟩
    · cases h
    · cases h
    · have hread : ∀ more : Data, decode (firstByte :: secondByte :: more) none =
          match decodeHeader (firstByte :: secondByte :: more) firstByte secondByte with
          | none => .outOfRange
          | some (g, consumed) =>
            .frame (g.absorb ((firstByte :: secondByte :: more).drop consumed)).1
              (g.absorb ((firstByte :: secondByte :: more).drop consumed)).2 := fun _ => rfl
      cases hheader : decodeHeader (firstByte :: secondByte :: more) firstByte secondByte with
      | none =>
        rw [hread, hheader] at h
        cases h
      | some r =>
        obtain ⟨hheader', hconsumed⟩ := decodeHeader_append hheader b
        refine hrule r.1 ((firstByte :: secondByte :: more).drop r.2) ?_ ?_
        · rw [hread, hheader]
        · rw [← List.drop_append_of_le_length hconsumed]
          rw [List.cons_append, List.cons_append] at hheader' ⊢
          rw [hread, hheader']

end Frame

namespace WireFrame

variable (w : WireFrame)

@[simp] theorem length_body : w.body.length = w.payload.length := by
  unfold body
  split
  · exact length_rotMask _ _ _
  · rfl

/-- The whole payload makes the frame. -/
theorem absorb_body : w.start.absorb w.body = (w.frame, []) := by
  have hmin : min (w.payload.length - 0) w.body.length = w.payload.length := by
    rw [length_body]
    omega
  have hdrop : w.body.drop w.payload.length = [] := by rw [List.drop_eq_nil_iff, length_body]
  have htake : w.body.take w.payload.length = w.body := List.take_of_length_le (Nat.le_of_eq w.length_body)
  have hback : (if w.key.isSome then rotMask w.body w.maskingKey 0 else w.body) = w.payload := by
    unfold body
    split
    · exact rotMask_rotMask _ _ _
    · rfl
  simp only [Frame.absorb, start, hmin, hdrop, htake, List.nil_append, hback, Nat.zero_add]
  rfl

/-- **A frame on the wire is decoded.** -/
theorem decode_bytes (rest : Data) : Frame.decode (w.bytes ++ rest) none = .frame w.frame rest := by
  have hle : w.start.payloadLength ≤ w.start.actualLength + w.body.length := by
    rw [length_body]
    exact Nat.le_add_left _ _
  rw [bytes, List.append_assoc, decode_header, Frame.absorb_of_le hle, absorb_body]
  rfl

theorem isReady_frame : w.frame.isReady := by
  simp [Frame.isReady, frame, start]

end WireFrame

/-! ## What is encoded -/

namespace Frame

/-- The shortest form that `encode` uses; it writes lengths from `255 * 255` on in eight bytes. -/
def form (n : ℕ) : LengthForm := if n ≤ 125 then .short else if n ≤ 255 * 255 - 1 then .two else .eight

theorem lt_bound_form {n : ℕ} (h : n < 2 ^ 32) : n < (form n).bound := by
  unfold form
  split_ifs with hshort htwo
  · exact Nat.lt_succ_of_le hshort
  · exact Nat.lt_of_le_of_lt htwo (by decide)
  · exact h

/-- The frame on the wire, with the key that `rand` gave. -/
def wire (f : Frame) (key : ℕ) (hop : f.opcode < 16) (hlen : f.payloadData.length < 2 ^ 32) : WireFrame where
  fin := f.fin
  rsv1 := f.rsv1
  rsv2 := f.rsv2
  rsv3 := f.rsv3
  opcode := f.opcode
  key := if f.mask then some (pack 4 key) else none
  form := form f.payloadData.length
  payload := f.payloadData
  opcode_lt := hop
  length_key k hk := by
    split at hk
    · cases hk
      exact length_pack 4 key
    · cases hk
  fits := lt_bound_form hlen

theorem encode_eq (f : Frame) (key : ℕ) (hop : f.opcode < 16) (hlen : f.payloadData.length < 2 ^ 32) :
    (f.encode key).1 = (f.wire key hop hlen).bytes := by
  have hsome : (f.wire key hop hlen).key.isSome = f.mask := by
    simp only [wire]
    cases f.mask <;> rfl
  have hkey : (f.wire key hop hlen).key.getD [] = if f.mask then pack 4 key else [] := by
    simp only [wire]
    cases f.mask <;> rfl
  have hbody : (f.wire key hop hlen).body =
      if f.mask then rotMask f.payloadData (mathSwap 4 key) 0 else f.payloadData := by
    rw [WireFrame.body, WireFrame.maskingKey, hsome, hkey]
    cases f.mask with
    | false => rfl
    | true => simp only [if_true, ofLE_pack, wire]
  have hlength : (f.wire key hop hlen).secondByte ::
        (f.wire key hop hlen).form.more (f.wire key hop hlen).payload.length =
      if f.payloadData.length ≤ 125 then [UInt8.ofNat f.payloadData.length + UInt8.ofNat (f.mask.toNat * 128)]
      else if f.payloadData.length ≤ 255 * 255 - 1 then
        (126 + UInt8.ofNat (f.mask.toNat * 128)) :: pack 2 f.payloadData.length
      else (127 + UInt8.ofNat (f.mask.toNat * 128)) :: (pack 4 0 ++ pack 4 f.payloadData.length) := by
    rw [WireFrame.secondByte, hsome]
    simp only [wire, form]
    split_ifs <;> rfl
  rw [WireFrame.bytes, WireFrame.header, hkey, hbody, ← List.cons_append, hlength, encode]
  simp only [List.cons_append, List.append_assoc]
  rfl

/-- **What is encoded is decoded**, under every key, whatever follows it. -/
theorem decode_encode (f : Frame) (key : ℕ) (hop : f.opcode < 16) (hlen : f.payloadData.length < 2 ^ 32)
    (rest : Data) : decode ((f.encode key).1 ++ rest) none = .frame (f.wire key hop hlen).frame rest := by
  rw [encode_eq f key hop hlen, WireFrame.decode_bytes]

/-- A text frame of a client. -/
theorem decode_encode_text :
    decode ((({ opcode := Opcode.textFrame, payloadData := [0x68, 0x69] } : Frame).encode 7).1 ++ [0x89]) none =
      .frame (({ opcode := Opcode.textFrame, payloadData := [0x68, 0x69] } : Frame).wire 7
        (by decide) (by decide)).frame [0x89] :=
  decode_encode _ 7 _ _ [0x89]

end Frame

end NautilusMt5.WebSocket
