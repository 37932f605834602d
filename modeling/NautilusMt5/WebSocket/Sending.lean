import NautilusMt5.WebSocket.Delivery

/-!
# What goes out

`SocketSend` may take any part of what it is given. Of what `sendMessage` sends a prefix goes out, and it returns
`true` when that was all (`sendFrames_out`). So texts that were sent are heard at the other end (`sent_heard`). A pong
is made of a string: it has the payload of its ping when that is ASCII, and in no other case (`pong_echoes_iff`).
-/

namespace NautilusMt5.WebSocket

/-! ## The socket -/

/-- What goes out is a prefix, and all of it when the loop says so. -/
theorem writeLoop_spec (sends : List (Option ℕ)) (data : Data) : (writeLoop sends data).1 <+: data ∧
    ((writeLoop sends data).2.1 = true ↔ (writeLoop sends data).1 = data) := by
  induction sends generalizing data with
  | nil =>
    cases data with
    | nil => simp [writeLoop]
    | cons b data => simp [writeLoop]
  | cons send sends ih =>
    cases data with
    | nil => simp [writeLoop]
    | cons b data =>
      cases send with
      | none => simp [writeLoop]
      | some fwrite =>
        obtain ⟨hpre, hall⟩ := ih ((b :: data).drop fwrite)
        have hsplit := List.take_append_drop fwrite (b :: data)
        simp only [writeLoop]
        constructor
        · conv => rhs; rw [← hsplit]
          exact (List.prefix_append_right_inj _).mpr hpre
        · rw [hall]
          conv => rhs; rhs; rw [← hsplit]
          exact List.append_right_inj _ |>.symm

namespace Connection

variable {p : Platform} {c : Connection}

theorem encode_ne_nil (f : Frame) (key : ℕ) : (f.encode key).1 ≠ [] := List.cons_ne_nil _ _

/-- One frame. -/
theorem sendFrame_out (f : Frame) : ∃ q, (c.sendFrame p f).2.socket.out = c.socket.out ++ q ∧
    q <+: (f.encode (p.keys c.encoded)).1 ∧
      ((c.sendFrame p f).1 = true ↔ q = (f.encode (p.keys c.encoded)).1) := by
  have hne := encode_ne_nil f (p.keys c.encoded)
  simp only [sendFrame, Socket.writePacketToNet]
  generalize (f.encode (p.keys c.encoded)).1 = data at hne ⊢
  obtain ⟨hpre, hall⟩ := writeLoop_spec c.socket.sends data
  by_cases hconnected : c.socket.connected
  · simp only [hconnected, if_true]
    refine ⟨_, rfl, hpre, ?_⟩
    rw [← hall]
    cases (writeLoop c.socket.sends data).2.1 <;> simp [hne]
  · simp only [hconnected]
    exact ⟨[], by simp, List.nil_prefix, by simp [Ne.symm hne]⟩

/-- The bytes of the frames, when the first is the `n`th that the connection encodes. -/
def encodeAll (p : Platform) : ℕ → List Frame → Data
  | _, [] => []
  | n, f :: frames => (f.encode (p.keys n)).1 ++ encodeAll p (n + 1) frames

/-- **Of what is sent a prefix goes out**, and `sendMessage` knows whether that was all. -/
theorem sendFrames_out (c : Connection) (frames : List Frame) :
    ∃ q, (c.sendFrames p frames).2.socket.out = c.socket.out ++ q ∧ q <+: encodeAll p c.encoded frames ∧
      ((c.sendFrames p frames).1 = true ↔ q = encodeAll p c.encoded frames) := by
  induction frames generalizing c with
  | nil => exact ⟨[], by simp [sendFrames], by simp [encodeAll], by simp [sendFrames, encodeAll]⟩
  | cons f frames ih =>
    obtain ⟨q, hout, hpre, hall⟩ := sendFrame_out (p := p) (c := c) f
    simp only [sendFrames, encodeAll]
    by_cases hsent : (c.sendFrame p f).1
    · obtain ⟨q', hout', hpre', hall'⟩ := ih (c.sendFrame p f).2
      have hencoded : (c.sendFrame p f).2.encoded = c.encoded + 1 := rfl
      rw [hencoded] at hpre' hall'
      obtain rfl := hall.mp hsent
      simp only [hsent, if_true]
      exact ⟨_, by rw [hout', hout, List.append_assoc], (List.prefix_append_right_inj _).mpr hpre',
        by rw [hall', List.append_right_inj]⟩
    · simp only [hsent]
      refine ⟨q, hout, hpre.trans (List.prefix_append _ _), ?_⟩
      -- a frame that was cut is no prefix with something behind it
      have hshort : q ≠ (f.encode (p.keys c.encoded)).1 ++ encodeAll p (c.encoded + 1) frames := by
        intro heq
        have hle := hpre.length_le
        rw [heq, List.length_append] at hle
        have hnil : encodeAll p (c.encoded + 1) frames = [] := List.eq_nil_of_length_eq_zero (by omega)
        rw [hnil, List.append_nil] at heq
        exact hsent (hall.mpr heq)
      simpa [hshort] using hsent

/-! ## The other end -/

/-- A frame whose header can be written. -/
abbrev Encodable := { f : Frame // f.opcode < 16 ∧ f.payloadData.length < 2 ^ 32 }

/-- The frames on the wire, when the first is the `n`th that the connection encodes. -/
def wires (p : Platform) : ℕ → List Encodable → List WireFrame
  | _, [] => []
  | n, f :: frames => f.1.wire (p.keys n) f.2.1 f.2.2 :: wires p (n + 1) frames

theorem encodeAll_eq (n : ℕ) (frames : List Encodable) :
    encodeAll p n (frames.map Subtype.val) = (wires p n frames).flatMap (·.bytes) := by
  induction frames generalizing n with
  | nil => rfl
  | cons f frames ih => rw [List.map_cons, encodeAll, wires, List.flatMap_cons, ih, Frame.encode_eq _ _ f.2.1 f.2.2]

/-- A text that `sendString` can send. -/
abbrev SendableText := { text : List Char // Char.ofNat 0 ∉ text ∧ (Mql.utf8 text).length < 2 ^ 32 }

/-- The frame of a text. -/
def textFrame (text : SendableText) : Encodable :=
  ⟨Frame.create Opcode.textFrame (Mql.utf8 text.1), (by decide : Opcode.textFrame < 16), text.2.2⟩

theorem wires_textFrames (n : ℕ) (texts : List SendableText) :
    (∀ w ∈ wires p n (texts.map textFrame), w.opcode ≠ Opcode.closeFrame ∧ w.rsv1 = false) ∧
      messages none ((wires p n (texts.map textFrame)).map (·.frame)) = texts.map fun text => Mql.utf8 text.1 := by
  induction texts generalizing n with
  | nil => simp [wires, messages]
  | cons text texts ih =>
    obtain ⟨hplain, hcarried⟩ := ih (n + 1)
    rw [List.map_cons, wires, List.forall_mem_cons, List.map_cons, messages, hcarried]
    have hdata : ((textFrame text).1.wire (p.keys n) (textFrame text).2.1 (textFrame text).2.2).frame.isControlFrame =
        false := rfl
    refine ⟨⟨⟨(by decide : Opcode.textFrame ≠ Opcode.closeFrame), rfl⟩, hplain⟩, ?_⟩
    simp only [hdata, Bool.false_eq_true, if_false]
    rfl

/-- **Texts that were sent are heard**, each once and in their order, whatever parts `SocketSend` took and whatever
pieces arrive, as long as no piece ends in a header. -/
theorem sent_heard {a b : Connection} (hb : Idle b) (texts : List SendableText)
    (hsent : (a.sendFrames p (texts.flatMap fun text => (Message.setString text.1).frames)).1 = true)
    {pieces : List Data}
    (harrives : (a.sendFrames p (texts.flatMap fun text => (Message.setString text.1).frames)).2.socket.out =
      a.socket.out ++ pieces.flatten)
    (hcuts : ∀ read, read <+: pieces → ¬ InHeader (wires p a.encoded (texts.map textFrame)) read.flatten.length) :
    ∃ (b' : Connection) (ms : List Message), ms.map (·.getString p) = texts.map (fun text => some text.1) ∧
      ∀ b'' calls, Reads p pieces b b'' calls ↔ b'' = b' ∧ calls = ms.map Call.onMessage := by
  have hframes : (texts.flatMap fun text => (Message.setString text.1).frames) =
      (texts.map textFrame).map Subtype.val := by
    rw [List.map_map]
    exact (List.map_eq_flatMap ..).symm
  rw [hframes] at hsent harrives
  obtain ⟨q, hout, -, hall⟩ := a.sendFrames_out (p := p) ((texts.map textFrame).map Subtype.val)
  have hflat : pieces.flatten = (wires p a.encoded (texts.map textFrame)).flatMap (·.bytes) := by
    rw [← encodeAll_eq, ← hall.mp hsent]
    exact List.append_cancel_left (harrives.symm.trans hout)
  obtain ⟨hplain, hcarried⟩ := wires_textFrames (p := p) a.encoded texts
  have hnul : ∀ text ∈ texts.map Subtype.val, Char.ofNat 0 ∉ text := List.forall_mem_map.mpr fun text _ => text.2.1
  obtain ⟨b', ms, hstrings, hprocess⟩ := processFrames_texts (p := p) hb (fun w hw => (hplain w hw).1)
    (fun w hw => (hplain w hw).2) hnul (by rw [hcarried, List.map_map]; rfl)
  exact ⟨b', ms, by rw [hstrings, List.map_map]; rfl,
    fun b'' calls => by rw [reads_iff _ hflat hcuts hb.steady hb.lastFrame, hprocess]⟩

/-- Two texts; `SocketSend` takes three bytes first, and the other end has read a part of the payload when the rest
comes. -/
theorem sent_heard_two :
    ∃ (b' : Connection) (ms : List Message),
      ms.map (·.getString ⟨fun _ => [], fun _ => none, fun _ => 0⟩) = [some "hi".toList, some "ho".toList] ∧
        ∀ b'' calls, Reads ⟨fun _ => [], fun _ => none, fun _ => 0⟩
          [[0x81, 0x82, 0, 0, 0, 0, 0x68], [0x69, 0x81, 0x82, 0, 0, 0, 0, 0x68, 0x6F]] {} b'' calls ↔
            b'' = b' ∧ calls = ms.map Call.onMessage :=
  sent_heard (a := { socket := { sends := [some 3, some 9, some 9] } }) ⟨⟨rfl, rfl, rfl⟩, rfl, rfl⟩
    [⟨"hi".toList, by decide, by decide⟩, ⟨"ho".toList, by decide, by decide⟩] (by decide) (by decide)
    (cuts_of_inits (by decide))

/-! ## Pongs -/

theorem payload_pong {f : Frame} {text : List Char} (hnul : Char.ofNat 0 ∉ text)
    (hpayload : f.payloadData = Mql.utf8 text) : (pong p f).payloadData = Mql.lowBytes text := by
  simp [pong, Frame.create, hpayload, Mql.charArrayToString_utf8 p.garbled hnul]

/-- **A pong echoes its ping** when the payload is ASCII, and for no other text: the other end gets a pong, and it has
the payload of the ping in this case only. -/
theorem pong_echoes_iff (c : Connection) (w : WireFrame) (hping : w.opcode = Opcode.pingFrame) {text : List Char}
    (hnul : Char.ofNat 0 ∉ text) (hpayload : w.payload = Mql.utf8 text)
    (hsent : (c.sendFrame p (pong p w.frame)).1 = true) (rest : Data) :
    ∃ answer g, (c.processFrame p w.frame).1.1.socket.out = c.socket.out ++ answer ∧
      Frame.decode (answer ++ rest) none = .frame g rest ∧ g.isReady ∧ g.opcode = Opcode.pongFrame ∧
        (g.payloadData = w.payload ↔ ∀ c ∈ text, c.toNat < 128) := by
  have hopcode : w.frame.opcode = Opcode.pingFrame := hping
  have hcontrol : w.frame.isControlFrame = true := by simp only [Frame.isControlFrame, hopcode]; decide
  have hprocess : (c.processFrame p w.frame).1.1 = (c.sendFrame p (pong p w.frame)).2 := by
    simp only [processFrame, hcontrol, if_true, processControlFrame, hopcode]
    rfl
  have hdata : (pong p w.frame).payloadData = Mql.lowBytes text := payload_pong hnul hpayload
  have hlen : (pong p w.frame).payloadData.length < 2 ^ 32 := by
    have hle := Mql.length_lowBytes_le text
    have hlt := w.payload_lt
    rw [hpayload] at hlt
    rw [hdata]
    exact Nat.lt_of_le_of_lt hle hlt
  have hop : (pong p w.frame).opcode < 16 := (by decide : Opcode.pongFrame < 16)
  obtain ⟨answer, hout, -, hall⟩ := sendFrame_out (p := p) (c := c) (pong p w.frame)
  obtain rfl := hall.mp hsent
  have hdecode := (Frame.wire _ (p.keys c.encoded) hop hlen).decode_bytes rest
  rw [← Frame.encode_eq] at hdecode
  refine ⟨_, _, by rw [hprocess, hout], hdecode, WireFrame.isReady_frame _, rfl, ?_⟩
  rw [hpayload, ← Mql.lowBytes_utf8_iff, ← hdata]
  rfl

/-- A ping with `é`: the pong has another payload. -/
theorem pong_echoes_accent :
    ∃ answer g, (({ socket := { sends := [some 99] } } : Connection).processFrame
      ⟨fun _ => [], fun _ => none, fun _ => 0⟩
        (⟨true, false, false, false, Opcode.pingFrame, none, .short, [0xC3, 0xA9], by decide, by decide,
          by decide⟩ : WireFrame).frame).1.1.socket.out = [] ++ answer ∧
      Frame.decode (answer ++ []) none = .frame g [] ∧ g.isReady ∧ g.opcode = Opcode.pongFrame ∧
        (g.payloadData = [0xC3, 0xA9] ↔ ∀ c ∈ "é".toList, c.toNat < 128) :=
  pong_echoes_iff { socket := { sends := [some 99] } } _ rfl (by decide) (by decide) (by decide) []

end Connection

end NautilusMt5.WebSocket
